/-
  The authorization marks of a text, said without readers.

  * `IsMark word arguments mark`: a word in any case between square brackets, with
    what stands for its arguments behind it.
  * `IsAuthorize`, `IsBareAuthorize`, `IsAnonymous`: the marks of a page; `Has kind s`:
    the text has one of a kind.
  * `authorizeBracket?_eq_some_iff`, `anonymousBracket?_eq_some_iff`,
    `bareAuthorize?_isSome_iff`: the readers read these, whole, and nothing else.
  * `marks_agree`: the three forms hold in a text by the marks that it has, so roles
    are named only where a mark is seen, and none of them is lost.
-/
import SiteAudit.Page.Access
import SiteAudit.Proofs.Text.Blank
import SiteAudit.Proofs.Text.Scan
import SiteAudit.Proofs.Text.Spelling

namespace SiteAudit.Page.Access

open Text

variable {c : Char} {s word value arguments mark rest : Text}

/-! ## Marks -/

/-- Between brackets stand the word in any case and the arguments, with blanks around
    them. -/
def IsMark (word arguments mark : Text) : Prop :=
  ∃ blanks spelled gap, mark = '[' :: (blanks ++ spelled ++ arguments ++ gap ++ [']']) ∧
    (∀ c ∈ blanks, isBlank c = true) ∧ SameLetters word spelled ∧ ∀ c ∈ gap, isBlank c = true

/-- Arguments are left out, or stand between parentheses behind blanks. -/
def IsArguments (value arguments : Text) : Prop :=
  (value = [] ∧ arguments = []) ∨
    ∃ gap, arguments = gap ++ '(' :: value ++ [')'] ∧ (∀ c ∈ gap, isBlank c = true) ∧ ')' ∉ value

/-- `[Authorize]` with or without arguments. -/
def IsAuthorize (value mark : Text) : Prop :=
  ∃ arguments, IsArguments value arguments ∧ IsMark authorizeWord arguments mark

/-- `[AllowAnonymous]`. -/
def IsAnonymous (mark : Text) : Prop :=
  IsMark anonymousWord [] mark

/-- `@attribute Authorize`. -/
def IsBareAuthorize (mark : Text) : Prop :=
  ∃ directive blanks spelled, mark = directive ++ blanks ++ spelled ∧ SameLetters attributeWord directive ∧
    (blanks ≠ [] ∧ ∀ c ∈ blanks, isBlank c = true) ∧ SameLetters authorizeWord spelled

/-- Some mark of the kind stands in the text. -/
def Has (kind : Text → Prop) (s : Text) : Prop :=
  ∃ front mark rest, s = front ++ (mark ++ rest) ∧ kind mark

/-! ## Reading marks -/

/-- The letter that both words of a mark begin with, in any case, is no blank. -/
theorem isBlank_letterClass : isBlank (letterClass 'A') = false := by decide

theorem exists_letter {spelled : Text} {a : Char} (ha : isBlank (letterClass a) = false)
    (hspelled : SameLetters (a :: word) spelled) : ∃ c letters, spelled = c :: letters ∧ isBlank c = false := by
  obtain ⟨c, letters, hc, -, rfl⟩ := List.forall₂_cons_left_iff.1 hspelled
  exact ⟨c, letters, rfl, isBlank_of_sameLetter hc ha⟩

theorem trimLeft_append_word {blanks spelled : Text} {a : Char} (ha : isBlank (letterClass a) = false)
    (hblanks : ∀ c ∈ blanks, isBlank c = true) (hspelled : SameLetters (a :: word) spelled) (rest : Text) :
    trimLeft (blanks ++ spelled ++ rest) = spelled ++ rest := by
  obtain ⟨c, letters, rfl, hc⟩ := exists_letter ha hspelled
  exact (trimLeft_eq_cons_iff hc).2 ⟨blanks, by simp, hblanks⟩

theorem opening_iff {a : Char} (ha : isBlank (letterClass a) = false) :
    (∃ inside, openBracket? s = some inside ∧ dropWord? (a :: word) inside = some rest) ↔
      ∃ blanks spelled, s = '[' :: (blanks ++ spelled ++ rest) ∧ (∀ c ∈ blanks, isBlank c = true) ∧
        SameLetters (a :: word) spelled := by
  constructor
  · rintro ⟨inside, hopen, hword⟩
    obtain ⟨spelled, rfl, hspelled⟩ := dropWord?_iff_sameLetters.1 hword
    unfold openBracket? at hopen
    split at hopen
    · next behind =>
      obtain ⟨blanks, hbehind, hblanks⟩ := exists_blanks_trimLeft behind
      rw [Option.some.inj hopen, ← List.append_assoc] at hbehind
      exact ⟨blanks, spelled, by rw [← hbehind], hblanks, hspelled⟩
    · simp at hopen
  · rintro ⟨blanks, spelled, rfl, hblanks, hspelled⟩
    refine ⟨spelled ++ rest, ?_, dropWord?_iff_sameLetters.2 ⟨spelled, rfl, hspelled⟩⟩
    rw [openBracket?, trimLeft_append_word ha hblanks hspelled]

theorem closeBracket?_eq_some_iff : closeBracket? s = some rest ↔
    ∃ gap, s = gap ++ ']' :: rest ∧ ∀ c ∈ gap, isBlank c = true := by
  rw [← trimLeft_eq_cons_iff (by decide), closeBracket?]
  split
  · next h => simp [h]
  · next h => simpa using h rest

theorem closing_iff : (∃ after, arguments? s = some (value, after) ∧ closeBracket? after = some rest) ↔
    ∃ arguments gap, s = arguments ++ gap ++ ']' :: rest ∧ IsArguments value arguments ∧ ∀ c ∈ gap, isBlank c = true := by
  constructor
  · rintro ⟨after, harguments, hclose⟩
    obtain ⟨gap, rfl, hgap⟩ := closeBracket?_eq_some_iff.1 hclose
    unfold arguments? at harguments
    split at harguments
    · next inside htrim =>
      obtain ⟨blanks, rfl, hblanks⟩ := (trimLeft_eq_cons_iff (by decide)).1 htrim
      obtain ⟨rfl, hvalue⟩ := upTo?_eq_some_iff.1 harguments
      exact ⟨blanks ++ '(' :: value ++ [')'], gap, by simp, .inr ⟨blanks, rfl, hblanks, hvalue⟩, hgap⟩
    · obtain ⟨rfl, rfl⟩ := Prod.mk.inj (Option.some.inj harguments)
      exact ⟨[], gap, rfl, .inl ⟨rfl, rfl⟩, hgap⟩
  · rintro ⟨arguments, gap, rfl, ⟨rfl, rfl⟩ | ⟨blanks, rfl, hblanks, hvalue⟩, hgap⟩
    · have htrim : trimLeft (gap ++ ']' :: rest) = ']' :: rest :=
        (trimLeft_eq_cons_iff (by decide)).2 ⟨gap, rfl, hgap⟩
      exact ⟨gap ++ ']' :: rest, by simp [arguments?, htrim], closeBracket?_eq_some_iff.2 ⟨gap, rfl, hgap⟩⟩
    · have htrim : trimLeft (blanks ++ '(' :: value ++ [')'] ++ gap ++ ']' :: rest) =
          '(' :: (value ++ ')' :: (gap ++ ']' :: rest)) :=
        (trimLeft_eq_cons_iff (by decide)).2 ⟨blanks, by simp, hblanks⟩
      refine ⟨gap ++ ']' :: rest, ?_, closeBracket?_eq_some_iff.2 ⟨gap, rfl, hgap⟩⟩
      simp only [arguments?, htrim]
      exact upTo?_eq_some_iff.2 ⟨rfl, hvalue⟩

/-- **A bracketed mark is read whole**, and what is read are its arguments. -/
theorem authorizeBracket?_eq_some_iff : authorizeBracket? s = some (value, rest) ↔
    ∃ mark, s = mark ++ rest ∧ IsAuthorize value mark := by
  constructor
  · intro h
    obtain ⟨inside, hopen, h⟩ := Option.bind_eq_some_iff.1 h
    obtain ⟨afterWord, hword, h⟩ := Option.bind_eq_some_iff.1 h
    obtain ⟨⟨read, after⟩, harguments, h⟩ := Option.bind_eq_some_iff.1 h
    obtain ⟨behind, hclose, h⟩ := Option.bind_eq_some_iff.1 h
    obtain ⟨rfl, rfl⟩ := Prod.mk.inj (Option.some.inj h)
    obtain ⟨blanks, spelled, rfl, hblanks, hspelled⟩ := (opening_iff isBlank_letterClass).1 ⟨inside, hopen, hword⟩
    obtain ⟨arguments, gap, rfl, hvalue, hgap⟩ := closing_iff.1 ⟨after, harguments, hclose⟩
    exact ⟨_, by simp, arguments, hvalue, blanks, spelled, gap, rfl, hblanks, hspelled, hgap⟩
  · rintro ⟨mark, rfl, arguments, hvalue, blanks, spelled, gap, rfl, hblanks, hspelled, hgap⟩
    have hopening : ∃ inside,
        openBracket? ('[' :: (blanks ++ spelled ++ arguments ++ gap ++ [']']) ++ rest) = some inside ∧
          dropWord? authorizeWord inside = some (arguments ++ gap ++ ']' :: rest) :=
      (opening_iff isBlank_letterClass).2 ⟨blanks, spelled, by simp, hblanks, hspelled⟩
    have hclosing : ∃ after, arguments? (arguments ++ gap ++ ']' :: rest) = some (value, after) ∧
        closeBracket? after = some rest := closing_iff.2 ⟨arguments, gap, rfl, hvalue, hgap⟩
    obtain ⟨inside, hopen, hword⟩ := hopening
    obtain ⟨after, harguments, hclose⟩ := hclosing
    simp only [authorizeBracket?, hopen, hword, harguments, hclose, Option.bind_eq_bind, Option.bind_some]

theorem anonymousBracket?_eq_some_iff : anonymousBracket? s = some ((), rest) ↔
    ∃ mark, s = mark ++ rest ∧ IsAnonymous mark := by
  constructor
  · intro h
    obtain ⟨inside, hopen, h⟩ := Option.bind_eq_some_iff.1 h
    obtain ⟨afterWord, hword, h⟩ := Option.bind_eq_some_iff.1 h
    obtain ⟨behind, hclose, h⟩ := Option.bind_eq_some_iff.1 h
    obtain ⟨-, rfl⟩ := Prod.mk.inj (Option.some.inj h)
    obtain ⟨blanks, spelled, rfl, hblanks, hspelled⟩ := (opening_iff isBlank_letterClass).1 ⟨inside, hopen, hword⟩
    obtain ⟨gap, rfl, hgap⟩ := closeBracket?_eq_some_iff.1 hclose
    exact ⟨_, by simp, blanks, spelled, gap, rfl, hblanks, hspelled, hgap⟩
  · rintro ⟨mark, rfl, blanks, spelled, gap, rfl, hblanks, hspelled, hgap⟩
    have hopening : ∃ inside, openBracket? ('[' :: (blanks ++ spelled ++ [] ++ gap ++ [']']) ++ rest) = some inside ∧
        dropWord? anonymousWord inside = some (gap ++ ']' :: rest) :=
      (opening_iff isBlank_letterClass).2 ⟨blanks, spelled, by simp, hblanks, hspelled⟩
    obtain ⟨inside, hopen, hword⟩ := hopening
    have hclose : closeBracket? (gap ++ ']' :: rest) = some rest := closeBracket?_eq_some_iff.2 ⟨gap, rfl, hgap⟩
    simp only [anonymousBracket?, hopen, hword, hclose, Option.bind_eq_bind, Option.bind_some]

theorem bareAuthorize?_isSome_iff : (bareAuthorize? s).isSome = true ↔ ∃ mark rest, s = mark ++ rest ∧ IsBareAuthorize mark := by
  constructor
  · intro h
    obtain ⟨read, h⟩ := Option.isSome_iff_exists.1 h
    obtain ⟨afterWord, hword, h⟩ := Option.bind_eq_some_iff.1 h
    obtain ⟨hblank, h⟩ := Option.ite_none_right_eq_some.1 h
    obtain ⟨rest, hauthorize, -⟩ := Option.bind_eq_some_iff.1 h
    obtain ⟨directive, rfl, hdirective⟩ := dropWord?_iff_sameLetters.1 hword
    obtain ⟨spelled, htrim, hspelled⟩ := dropWord?_iff_sameLetters.1 hauthorize
    obtain ⟨blanks, hafter, hblanks⟩ := exists_blanks_trimLeft afterWord
    refine ⟨directive ++ blanks ++ spelled, rest, by rw [hafter, htrim]; simp, directive, blanks, spelled, rfl, hdirective,
      ⟨?_, hblanks⟩, hspelled⟩
    rintro rfl
    obtain ⟨c, letters, rfl, hc⟩ := exists_letter isBlank_letterClass hspelled
    rw [hafter, htrim] at hblank
    exact absurd hblank (by simp [hc])
  · rintro ⟨mark, rest, rfl, directive, blanks, spelled, rfl, hdirective, ⟨hne, hblanks⟩, hspelled⟩
    have hword : dropWord? attributeWord (directive ++ blanks ++ spelled ++ rest) = some (blanks ++ spelled ++ rest) :=
      dropWord?_iff_sameLetters.2 ⟨directive, by simp, hdirective⟩
    have htrim : trimLeft (blanks ++ spelled ++ rest) = spelled ++ rest :=
      trimLeft_append_word isBlank_letterClass hblanks hspelled rest
    have hauthorize : dropWord? authorizeWord (spelled ++ rest) = some rest :=
      dropWord?_iff_sameLetters.2 ⟨spelled, rfl, hspelled⟩
    have hblank : (blanks ++ spelled ++ rest).head?.any isBlank = true := by
      obtain ⟨b, blanks, rfl⟩ := List.exists_cons_of_ne_nil hne
      simpa using hblanks b (by simp)
    simp only [bareAuthorize?, hword, Option.bind_eq_bind, Option.bind_some, if_pos hblank, htrim, hauthorize,
      Option.isSome_some]

/-! ## Marks somewhere in a text -/

theorem Has.append_left {kind : Text → Prop} (front : Text) (h : Has kind s) : Has kind (front ++ s) := by
  obtain ⟨more, mark, rest, rfl, hkind⟩ := h
  exact ⟨front ++ more, mark, rest, by simp, hkind⟩

theorem has_or_iff {p q : Text → Prop} : Has (fun mark => p mark ∨ q mark) s ↔ Has p s ∨ Has q s := by
  simp only [Has, and_or_left, exists_or]

/-- A form that holds where a mark stands, and only if one follows, holds in the texts
    that have one. -/
theorem holds_iff_has {α : Type} {form : Form α} {kind : Text → Prop} (hne : ∀ mark, kind mark → mark ≠ [])
    (hmark : ∀ before mark rest, kind mark → (form before (mark ++ rest)).isSome = true)
    (hhas : ∀ before s, (form before s).isSome = true → Has kind s) : holds form s = true ↔ Has kind s := by
  rw [holds_iff]
  constructor
  · rintro ⟨front, behind, rfl, -, h⟩
    exact (hhas _ _ h).append_left front
  · rintro ⟨front, mark, rest, rfl, hkind⟩
    exact ⟨front, mark ++ rest, rfl, by simp [hne mark hkind], hmark _ _ _ hkind⟩

theorem isSome_orElse {α : Type} (a b : Option α) : (a <|> b).isSome = true ↔ a.isSome = true ∨ b.isSome = true := by
  rw [Option.orElse_eq_orElse, Option.orElse_eq_or, Option.isSome_or, Bool.or_eq_true]

theorem has_of_afterAttribute? {α : Type} {read : Text → Option (α × Text)} {kind : Text → Prop}
    (hread : ∀ s, (read s).isSome = true → Has kind s)
    (h : ((afterAttribute? s).bind read <|> read s).isSome = true) : Has kind s := by
  rcases (isSome_orElse _ _).1 h with h | h
  · obtain ⟨found, hfound⟩ := Option.isSome_iff_exists.1 h
    obtain ⟨behind, hattribute, hbehind⟩ := Option.bind_eq_some_iff.1 hfound
    obtain ⟨afterWord, hword, rfl⟩ := Option.map_eq_some_iff.1 hattribute
    obtain ⟨directive, rfl, -⟩ := dropWord?_iff_sameLetters.1 hword
    obtain ⟨blanks, hblanks, -⟩ := exists_blanks_trimLeft afterWord
    rw [hblanks]
    exact ((hread _ (by rw [hbehind]; rfl)).append_left blanks).append_left directive
  · exact hread s h

theorem has_of_authorizeBracket? (h : (authorizeBracket? s).isSome = true) :
    Has (fun mark => ∃ value, IsAuthorize value mark) s := by
  obtain ⟨⟨value, rest⟩, hread⟩ := Option.isSome_iff_exists.1 h
  obtain ⟨mark, rfl, hmark⟩ := authorizeBracket?_eq_some_iff.1 hread
  exact ⟨[], mark, rest, rfl, value, hmark⟩

theorem authorizeBlock_isSome {before : Option Char} (h : IsAuthorize value mark) (rest : Text) :
    (authorizeBlock before (mark ++ rest)).isSome = true :=
  (isSome_orElse _ _).2 (.inr (by rw [authorizeBracket?_eq_some_iff.2 ⟨mark, rfl, h⟩]; rfl))

theorem has_of_authorizeBlock {before : Option Char} (h : (authorizeBlock before s).isSome = true) :
    Has (fun mark => ∃ value, IsAuthorize value mark) s :=
  has_of_afterAttribute? (fun _ => has_of_authorizeBracket?) h

theorem IsMark.ne_nil (h : IsMark word arguments mark) : mark ≠ [] := by
  obtain ⟨blanks, spelled, gap, rfl, -⟩ := h
  simp

theorem IsBareAuthorize.ne_nil (h : IsBareAuthorize mark) : mark ≠ [] := by
  obtain ⟨directive, blanks, spelled, rfl, -, ⟨hne, -⟩, -⟩ := h
  simp [hne]

/-- A directive before a bracketed mark adds nothing. -/
theorem holds_authorizeBlock_iff :
    holds authorizeBlock s = true ↔ Has (fun mark => ∃ value, IsAuthorize value mark) s := by
  refine holds_iff_has ?_ ?_ fun before s => has_of_authorizeBlock
  · rintro mark ⟨value, arguments, -, hmark⟩
    exact hmark.ne_nil
  · rintro before mark rest ⟨value, hmark⟩
    exact authorizeBlock_isSome hmark rest

theorem holds_anonymousMark_iff : holds anonymousMark s = true ↔ Has IsAnonymous s := by
  refine holds_iff_has (fun mark hmark => IsMark.ne_nil hmark) (fun before mark rest hmark => ?_) fun before s h => ?_
  · exact (isSome_orElse _ _).2 (.inr (by rw [anonymousBracket?_eq_some_iff.2 ⟨mark, rfl, hmark⟩]; rfl))
  · refine has_of_afterAttribute? (fun s h => ?_) h
    obtain ⟨⟨_, rest⟩, hread⟩ := Option.isSome_iff_exists.1 h
    obtain ⟨mark, rfl, hmark⟩ := anonymousBracket?_eq_some_iff.1 hread
    exact ⟨[], mark, rest, rfl, hmark⟩

theorem holds_authorizeMark_iff : holds authorizeMark s = true ↔
    Has (fun mark => ∃ value, IsAuthorize value mark) s ∨ Has IsBareAuthorize s := by
  rw [← has_or_iff]
  refine holds_iff_has ?_ ?_ fun before s h => ?_
  · rintro mark (⟨value, arguments, -, hmark⟩ | hmark)
    · exact hmark.ne_nil
    · exact hmark.ne_nil
  · rintro before mark rest (⟨value, hmark⟩ | hmark)
    · exact (isSome_orElse _ _).2 (.inl (authorizeBlock_isSome hmark rest))
    · exact (isSome_orElse _ _).2 (.inr (bareAuthorize?_isSome_iff.2 ⟨mark, rest, rfl, hmark⟩))
  · rw [has_or_iff]
    rcases (isSome_orElse _ _).1 h with h | h
    · exact .inl (has_of_authorizeBlock h)
    · obtain ⟨mark, rest, rfl, hmark⟩ := bareAuthorize?_isSome_iff.1 h
      exact .inr ⟨[], mark, rest, rfl, hmark⟩

/-! ## The outcome of a page -/

/-- Roles are named only in bracketed marks. -/
theorem distinctRoles_eq_nil (h : readings authorizeBlock s = []) : distinctRoles s = [] := by
  rw [distinctRoles, namedRoles, h]
  exact List.mergeSort_nil

/-- **The forms of marks agree on every text.**  A page asks for authorization if it
    has a bracketed `Authorize` or a bare one behind a directive, and admits everyone
    if it has a bracketed `AllowAnonymous`; a directive before brackets adds nothing.
    Arguments are read in a text exactly if it has a bracketed `Authorize`, so only
    such a text names roles.  All its roles are those of the page, unless it admits
    everyone: then there are none, and no authorization is asked for. -/
theorem marks_agree (s : Text) :
    (holds authorizeMark s = true ↔ Has (fun mark => ∃ value, IsAuthorize value mark) s ∨ Has IsBareAuthorize s) ∧
    (holds anonymousMark s = true ↔ Has IsAnonymous s) ∧
    (readings authorizeBlock s ≠ [] ↔ Has (fun mark => ∃ value, IsAuthorize value mark) s) ∧
    (distinctRoles s ≠ [] → Has (fun mark => ∃ value, IsAuthorize value mark) s) ∧
    (¬ Has IsAnonymous s → (ofText s).roles = distinctRoles s ∧ ((ofText s).authorized = true ↔
      Has (fun mark => ∃ value, IsAuthorize value mark) s ∨ Has IsBareAuthorize s)) ∧
    (Has IsAnonymous s → ofText s = ⟨false, []⟩) := by
  have hblock : readings authorizeBlock s ≠ [] ↔ Has (fun mark => ∃ value, IsAuthorize value mark) s := by
    rw [← holds_authorizeBlock_iff, ← finds_ne_nil_iff, readings, Ne, List.map_eq_nil_iff]
  have hroles : distinctRoles s ≠ [] → Has (fun mark => ∃ value, IsAuthorize value mark) s :=
    fun h => hblock.1 (mt distinctRoles_eq_nil h)
  refine ⟨holds_authorizeMark_iff, holds_anonymousMark_iff, hblock, hroles, fun h => ?_, fun h => ?_⟩
  · rw [← holds_anonymousMark_iff, Bool.not_eq_true] at h
    rw [← holds_authorizeMark_iff, ofText, h]
    by_cases hmark : holds authorizeMark s = true
    · simp [hmark]
    · have hnone : distinctRoles s = [] := by
        by_contra hne
        exact hmark (holds_authorizeMark_iff.2 (.inl (hroles hne)))
      simp [hmark, hnone]
  · rw [ofText, holds_anonymousMark_iff.2 h]
    simp

end SiteAudit.Page.Access
