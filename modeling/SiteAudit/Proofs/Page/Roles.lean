/-
  The roles that a text declares, said without readers.

  * `IsBlockAt s found`, `IsAssignmentAt s found`: a bracketed `Authorize`, and an
    assignment to `Role` or `Roles`, at the place of the find.
  * `HasNames value names`: what stands in a value between commas and semicolons,
    trimmed, where something is left.
  * `Declares s names`: the names in the values of the leftmost assignments in the
    arguments of the leftmost blocks, in text order; `declares_iff`: this is what
    is collected.
  * `distinctRoles_exact`: the roles of a text are the first spellings of these
    names, in strict report order, and clean.
-/
import SiteAudit.Proofs.Page.Marks
import SiteAudit.Proofs.Text.CaseOrder
import SiteAudit.Proofs.Text.Names
import SiteAudit.Proofs.Text.Phrase

namespace SiteAudit.Page.Access

open Text

variable {before : Option Char} {s value rest block : Text} {found : Find Text} {names : List Text}

/-! ## Assignments -/

/-- The words that name roles. -/
def roleWords : List Text :=
  [['R', 'o', 'l', 'e'], ['R', 'o', 'l', 'e', 's']]

/-- The text is an assignment of a value that is not empty to one of the words. -/
def IsAssignment (value assignment : Text) : Prop :=
  value ≠ [] ∧ ∃ word ∈ roleWords, IsPhrase word '=' value assignment

/-- An assignment begins at the place of the find, where a word may begin, and is as
    wide as the find. -/
def IsAssignmentAt (s : Text) (found : Find Text) : Prop :=
  ∃ front assignment rest, s = front ++ (assignment ++ rest) ∧ front.length = found.start ∧
    assignment.length = found.width ∧ isBoundary front.getLast? assignment.head? = true ∧
    IsAssignment found.value assignment

theorem assignedValue?_eq_some_iff : assignedValue? s = some (value, rest) ↔
    value ≠ [] ∧ signedValue? '=' s = some (value, rest) := by
  rw [assignedValue?, Option.filter_eq_some_iff, and_comm]
  simp

theorem assignedValue?_of_dropWord? {after : Text} (h : dropWord? ['s'] s = some after) : assignedValue? s = none := by
  obtain ⟨c, t, rfl, hc, -⟩ := dropWord?_cons_eq_some_iff.1 h
  have hblank : isBlank c = false := isBlank_of_sameLetter hc (by decide)
  have htrim : trimLeft (c :: t) = c :: t := by rw [trimLeft, List.dropWhile_cons_of_neg (by simp [hblank])]
  have hne : c ≠ '=' := by
    rintro rfl
    exact absurd hc (by decide)
  simp [assignedValue?, signedValue?, htrim, hne]

/-- The shorter word is tried first, and where an `s` follows it the longer one. -/
theorem roleAssignment_iff_phrase? : roleAssignment before s = some (value, rest) ↔
    value ≠ [] ∧ ∃ word ∈ roleWords, phrase? word '=' before s = some (value, rest) := by
  have hlonger : dropWord? ['R', 'o', 'l', 'e', 's'] s = (dropWord? ['R', 'o', 'l', 'e'] s).bind (dropWord? ['s']) :=
    dropWord?_append ['R', 'o', 'l', 'e'] ['s'] s
  simp only [phrase?_eq_some_iff_signedValue?]
  constructor
  · intro h
    obtain ⟨hboundary, hread⟩ := Option.ite_none_right_eq_some.1 h
    obtain ⟨afterWord, hword, hassigned⟩ := Option.bind_eq_some_iff.1 hread
    rw [Option.orElse_eq_orElse, Option.orElse_eq_or] at hassigned
    rcases Option.or_eq_some_iff.1 hassigned with hvalue | ⟨-, hlater⟩
    · obtain ⟨hne, hsigned⟩ := assignedValue?_eq_some_iff.1 hvalue
      exact ⟨hne, _, by simp [roleWords], hboundary, afterWord, hword, hsigned⟩
    · obtain ⟨after, hs, hvalue⟩ := Option.bind_eq_some_iff.1 hlater
      obtain ⟨hne, hsigned⟩ := assignedValue?_eq_some_iff.1 hvalue
      exact ⟨hne, ['R', 'o', 'l', 'e', 's'], by simp [roleWords], hboundary, after, by simp [hlonger, hword, hs], hsigned⟩
  · rintro ⟨hne, word, hmem, hboundary, afterWord, hword, hsigned⟩
    have hvalue : assignedValue? afterWord = some (value, rest) := assignedValue?_eq_some_iff.2 ⟨hne, hsigned⟩
    rw [roleAssignment, if_pos hboundary, Option.bind_eq_bind, Option.bind_eq_some_iff]
    rcases List.mem_pair.1 hmem with rfl | rfl
    · exact ⟨afterWord, hword, by rw [hvalue]; rfl⟩
    · rw [hlonger] at hword
      obtain ⟨afterShort, hshort, hs⟩ := Option.bind_eq_some_iff.1 hword
      exact ⟨afterShort, hshort, by rw [assignedValue?_of_dropWord? hs, hs]; exact hvalue⟩

/-- **What is read is an assignment**, and any assignment is read. -/
theorem roleAssignment_eq_some_iff : roleAssignment before s = some (value, rest) ↔
    ∃ assignment, s = assignment ++ rest ∧ isBoundary before assignment.head? = true ∧ IsAssignment value assignment := by
  simp only [roleAssignment_iff_phrase?, phrase?_eq_some_iff (show isBlank '=' = false from rfl), IsAssignment]
  constructor
  · rintro ⟨hne, word, hmem, phrase, hsplit, hboundary, hphrase⟩
    exact ⟨phrase, hsplit, hboundary, hne, word, hmem, hphrase⟩
  · rintro ⟨phrase, hsplit, hboundary, hne, word, hmem, hphrase⟩
    exact ⟨hne, word, hmem, phrase, hsplit, hboundary, hphrase⟩

theorem IsAssignment.ne_nil {assignment : Text} (h : IsAssignment value assignment) : assignment ≠ [] := by
  obtain ⟨-, word, -, hphrase⟩ := h
  exact hphrase.ne_nil

theorem roleAssignment_advances : roleAssignment.Advances := by
  intro before s value rest h
  obtain ⟨assignment, rfl, -, hassignment⟩ := roleAssignment_eq_some_iff.1 h
  exact ⟨assignment, hassignment.ne_nil, rfl⟩

theorem roleAssignment_reads_iff : roleAssignment.Reads s found ↔ IsAssignmentAt s found :=
  Form.reads_iff (fun before value read => isBoundary before read.head? = true ∧ IsAssignment value read)
    fun _ _ _ _ => roleAssignment_eq_some_iff

theorem leftmost_isAssignmentAt_iff {found : List (Find Text)} :
    Leftmost (IsAssignmentAt s) 0 found ↔ found = finds roleAssignment s :=
  leftmost_iff_of_reads_iff roleAssignment_advances roleAssignment_reads_iff

/-! ## Blocks -/

/-- The text is a bracketed `Authorize`, perhaps behind a directive and blanks. -/
def IsBlock (value block : Text) : Prop :=
  ∃ front mark, block = front ++ mark ∧ IsAuthorize value mark ∧
    (front = [] ∨ ∃ directive blanks, front = directive ++ blanks ∧ SameLetters attributeWord directive ∧
      ∀ c ∈ blanks, isBlank c = true)

/-- A block begins at the place of the find and is as wide as the find; what the find
    says are its arguments. -/
def IsBlockAt (s : Text) (found : Find Text) : Prop :=
  ∃ front block rest, s = front ++ (block ++ rest) ∧ front.length = found.start ∧ block.length = found.width ∧
    IsBlock found.value block

theorem IsMark.exists_cons {word arguments mark : Text} (h : IsMark word arguments mark) :
    ∃ inside, mark = '[' :: inside := by
  obtain ⟨blanks, spelled, gap, rfl, -⟩ := h
  exact ⟨_, rfl⟩

theorem IsBlock.ne_nil (h : IsBlock value block) : block ≠ [] := by
  obtain ⟨front, mark, rfl, ⟨arguments, -, hmark⟩, -⟩ := h
  simp [hmark.ne_nil]

theorem afterAttribute?_bracket (s : Text) : afterAttribute? ('[' :: s) = none := by
  have hat : sameLetter '@' '[' = false := by decide
  simp [afterAttribute?, attributeWord, dropWord?, hat]

/-- **What is read is a block**, and any block is read. -/
theorem authorizeBlock_eq_some_iff : authorizeBlock before s = some (value, rest) ↔
    ∃ block, s = block ++ rest ∧ IsBlock value block := by
  rw [authorizeBlock, Option.orElse_eq_orElse, Option.orElse_eq_or, Option.or_eq_some_iff]
  constructor
  · rintro (h | ⟨-, h⟩)
    · obtain ⟨behind, hattribute, hread⟩ := Option.bind_eq_some_iff.1 h
      obtain ⟨afterWord, hword, rfl⟩ := Option.map_eq_some_iff.1 hattribute
      obtain ⟨directive, rfl, hdirective⟩ := dropWord?_iff_sameLetters.1 hword
      obtain ⟨blanks, hblanks, hblank⟩ := exists_blanks_trimLeft afterWord
      obtain ⟨mark, hmark, hauthorize⟩ := authorizeBracket?_eq_some_iff.1 hread
      rw [hmark] at hblanks
      exact ⟨directive ++ blanks ++ mark, by simp [hblanks], directive ++ blanks, mark, rfl, hauthorize,
        .inr ⟨directive, blanks, rfl, hdirective, hblank⟩⟩
    · obtain ⟨mark, rfl, hauthorize⟩ := authorizeBracket?_eq_some_iff.1 h
      exact ⟨mark, rfl, [], mark, rfl, hauthorize, .inl rfl⟩
  · rintro ⟨block, rfl, front, mark, rfl, hauthorize, hfront⟩
    have hread : authorizeBracket? (mark ++ rest) = some (value, rest) :=
      authorizeBracket?_eq_some_iff.2 ⟨mark, rfl, hauthorize⟩
    obtain ⟨arguments, -, hmark⟩ := hauthorize
    obtain ⟨inside, rfl⟩ := hmark.exists_cons
    rcases hfront with rfl | ⟨directive, blanks, rfl, hdirective, hblanks⟩
    · right
      refine ⟨?_, hread⟩
      rw [List.nil_append, List.cons_append, afterAttribute?_bracket]
      rfl
    · left
      have hword : dropWord? attributeWord (directive ++ blanks ++ '[' :: inside ++ rest) =
          some (blanks ++ '[' :: (inside ++ rest)) := dropWord?_iff_sameLetters.2 ⟨directive, by simp, hdirective⟩
      have htrim : trimLeft (blanks ++ '[' :: (inside ++ rest)) = '[' :: (inside ++ rest) :=
        (trimLeft_eq_cons_iff rfl).2 ⟨blanks, rfl, hblanks⟩
      rw [afterAttribute?, hword, Option.map_some, htrim]
      exact hread

theorem authorizeBlock_advances : authorizeBlock.Advances := by
  intro before s value rest h
  obtain ⟨block, rfl, hblock⟩ := authorizeBlock_eq_some_iff.1 h
  exact ⟨block, hblock.ne_nil, rfl⟩

theorem authorizeBlock_reads_iff : authorizeBlock.Reads s found ↔ IsBlockAt s found :=
  Form.reads_iff (fun _ => IsBlock) fun _ _ _ _ => authorizeBlock_eq_some_iff

theorem leftmost_isBlockAt_iff {found : List (Find Text)} :
    Leftmost (IsBlockAt s) 0 found ↔ found = finds authorizeBlock s :=
  leftmost_iff_of_reads_iff authorizeBlock_advances authorizeBlock_reads_iff

/-! ## Declared names -/

/-- The names in a value are what stands between commas and semicolons, trimmed, where
    something is left. -/
def HasNames (value : Text) (names : List Text) : Prop :=
  ∃ pieces trimmed, CutAt (fun c => c == ',' || c == ';') value pieces ∧
    List.Forall₂ IsTrimmed pieces trimmed ∧ names = trimmed.filter (· ≠ [])

/-- The names are those in the values of the leftmost assignments in the arguments of
    the leftmost blocks, one after the other. -/
def Declares (s : Text) (names : List Text) : Prop :=
  ∃ blocks assignments named, Leftmost (IsBlockAt s) 0 blocks ∧
    List.Forall₂ (fun (block : Find Text) found => Leftmost (IsAssignmentAt block.value) 0 found) blocks assignments ∧
    List.Forall₂ (fun (assignment : Find Text) names => HasNames assignment.value names) assignments.flatten named ∧
    names = named.flatten

/-- Entry by entry what a function gives is the image under it. -/
theorem forall₂_iff_eq_map {α β : Type} {r : α → β → Prop} {f : α → β} (hr : ∀ a b, r a b ↔ b = f a) {l : List α}
    {m : List β} : List.Forall₂ r l m ↔ m = l.map f := by
  constructor
  · intro h
    induction h with
    | nil => rfl
    | cons hab _ ih => rw [(hr _ _).1 hab, ih, List.map_cons]
  · rintro rfl
    rw [List.forall₂_map_right_iff, List.forall₂_same]
    exact fun a _ => (hr _ _).2 rfl

theorem hasNames_iff : HasNames value names ↔ names = rolesOfValue value := by
  have htrimmed {pieces trimmed : List Text} : List.Forall₂ IsTrimmed pieces trimmed ↔ trimmed = pieces.map trim :=
    forall₂_iff_eq_map fun piece inner => @isTrimmed_iff piece inner
  simp only [HasNames, cutAt_iff, htrimmed]
  constructor
  · rintro ⟨pieces, trimmed, rfl, rfl, rfl⟩
    rfl
  · rintro rfl
    exact ⟨_, _, rfl, rfl, rfl⟩

/-- **The names that are collected are those that the text declares.** -/
theorem declares_iff : Declares s names ↔ names = namedRoles s := by
  have hassignments (blocks : List (Find Text)) (assignments : List (List (Find Text))) :
      List.Forall₂ (fun (block : Find Text) found => Leftmost (IsAssignmentAt block.value) 0 found) blocks assignments ↔
        assignments = blocks.map fun block => finds roleAssignment block.value :=
    forall₂_iff_eq_map fun block found => @leftmost_isAssignmentAt_iff block.value found
  have hnames (assignments : List (Find Text)) (named : List (List Text)) :
      List.Forall₂ (fun (assignment : Find Text) names => HasNames assignment.value names) assignments named ↔
        named = assignments.map fun assignment => rolesOfValue assignment.value :=
    forall₂_iff_eq_map fun assignment names => @hasNames_iff assignment.value names
  have hnamed : namedRoles s = ((((finds authorizeBlock s).map fun block => finds roleAssignment block.value).flatten).map
      fun assignment => rolesOfValue assignment.value).flatten := by
    simp only [namedRoles, readings, List.flatMap_map, ← List.flatMap_def, List.flatMap_assoc]
  simp only [Declares, leftmost_isBlockAt_iff, hassignments, hnames, hnamed]
  constructor
  · rintro ⟨blocks, assignments, named, rfl, rfl, rfl, rfl⟩
    rfl
  · rintro rfl
    exact ⟨_, _, _, rfl, rfl, rfl, rfl⟩

/-! ## The roles of a text -/

/-- A name that can be a role: it is not empty, no blank is at its ends, and it has
    neither a separator nor a closing bracket of arguments. -/
structure IsRole (role : Text) : Prop where
  ne_nil : role ≠ []
  head : ∀ c, role.head? = some c → isBlank c = false
  last : ∀ c, role.getLast? = some c → isBlank c = false
  comma_notMem : ',' ∉ role
  semicolon_notMem : ';' ∉ role
  parenthesis_notMem : ')' ∉ role

/-- The arguments of a block end at the first closing parenthesis. -/
theorem IsBlock.notMem (h : IsBlock value block) : ')' ∉ value := by
  obtain ⟨front, mark, -, ⟨arguments, ⟨rfl, -⟩ | ⟨gap, -, -, hvalue⟩, -⟩, -⟩ := h
  · simp
  · exact hvalue

theorem isRole_of_mem_rolesOfValue {role : Text} (hvalue : ')' ∉ value) (h : role ∈ rolesOfValue value) : IsRole role := by
  obtain ⟨htrimmed, hne⟩ := List.mem_filter.1 h
  obtain ⟨piece, hpiece, rfl⟩ := List.mem_map.1 htrimmed
  have hrole : IsTrimmed piece (trim piece) := isTrimmed_iff.2 rfl
  have hseparator {c : Char} (hc : c ∈ trim piece) : (c == ',' || c == ';') = false :=
    not_of_mem_splitWhere hpiece c (hrole.subset hc)
  refine ⟨by simpa using hne, hrole.head, hrole.last, fun hc => ?_, fun hc => ?_, fun hc => hvalue ?_⟩
  · simpa using hseparator hc
  · simpa using hseparator hc
  · exact (cutAt_splitWhere _ value).subset hpiece (hrole.subset hc)

theorem isRole_of_mem_namedRoles {role : Text} (h : role ∈ namedRoles s) : IsRole role := by
  obtain ⟨arguments, harguments, h⟩ := List.mem_flatMap.1 h
  obtain ⟨value, hvalue, hrole⟩ := List.mem_flatMap.1 h
  obtain ⟨blockFind, hblock, rfl⟩ := List.mem_map.1 harguments
  obtain ⟨assignmentFind, hassignment, rfl⟩ := List.mem_map.1 hvalue
  obtain ⟨-, block, -, -, -, -, hblock⟩ := authorizeBlock_reads_iff.1 (reads_of_mem_finds authorizeBlock_advances hblock)
  obtain ⟨front, assignment, rest, hsplit, -, -, -, -, word, -, hphrase⟩ :=
    roleAssignment_reads_iff.1 (reads_of_mem_finds roleAssignment_advances hassignment)
  refine isRole_of_mem_rolesOfValue (fun hc => hblock.notMem ?_) hrole
  rw [hsplit]
  simp [hphrase.subset hc]

theorem distinctRoles_distinct (s : Text) : DistinctNames (distinctRoles s) :=
  (firstSpellings_distinct _).perm (sortByCase_perm _)

theorem mem_distinctRoles_iff {role : Text} : role ∈ distinctRoles s ↔
    ∃ before after, namedRoles s = before ++ role :: after ∧ ∀ other ∈ before, fold other ≠ fold role := by
  rw [distinctRoles, (sortByCase_perm _).mem_iff, mem_firstSpellings_iff]
  simp [sameName]

theorem isRole_of_mem_distinctRoles {role : Text} (h : role ∈ distinctRoles s) : IsRole role := by
  obtain ⟨before, after, hsplit, -⟩ := mem_distinctRoles_iff.1 h
  exact isRole_of_mem_namedRoles (s := s) (by simp [hsplit])

theorem distinctRoles_ascending (s : Text) : (distinctRoles s).Pairwise fun a b => caseOrder a b = .lt :=
  sortByCase_ascending (firstSpellings_distinct _).nodup

/-- **The roles of a text are those that it declares.**  Of the declared names a role
    is one that no spelling of the same name precedes, so every name is a role in one
    spelling, its first one.  The roles ascend by capital form and then by
    themselves, and each of them can be a role. -/
theorem distinctRoles_exact (s : Text) : ∃ declared, (∀ names, Declares s names ↔ names = declared) ∧
    (∀ role, role ∈ distinctRoles s ↔
      ∃ before after, declared = before ++ role :: after ∧ ∀ other ∈ before, fold other ≠ fold role) ∧
    (∀ name ∈ declared, ∃! role, role ∈ distinctRoles s ∧ fold role = fold name) ∧
    ((distinctRoles s).Pairwise fun a b => compare (upper a) (upper b) = .lt ∨ upper a = upper b ∧ compare a b = .lt) ∧
    ∀ role ∈ distinctRoles s, IsRole role := by
  refine ⟨namedRoles s, fun names => declares_iff, fun role => mem_distinctRoles_iff, fun name hname => ?_,
    (distinctRoles_ascending s).imp caseOrder_eq_lt_iff.1, fun role => isRole_of_mem_distinctRoles⟩
  obtain ⟨role, hrole, hsame⟩ := exists_mem_firstSpellings hname
  refine ⟨role, ⟨(sortByCase_perm _).mem_iff.2 hrole, sameName_iff.1 hsame⟩, ?_⟩
  rintro other ⟨hother, hname⟩
  exact (distinctRoles_distinct s).inj hother ((sortByCase_perm _).mem_iff.2 hrole) (hname.trans (sameName_iff.1 hsame).symm)

end SiteAudit.Page.Access
