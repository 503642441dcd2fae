/-
  Patterns below a directory.

  A pattern whose first names are those of a directory, without any sign of a
  glob, says of a path below the directory what the rest of the pattern says of
  the rest of the path.

  * `Shape.reading`, `reading`: what a pattern says of a path.
  * `reading_directory`: the names of the directory are taken off the path.
  * `exists_of_shapeOf_directory`: no other paths are meant.
-/
import SiteAudit.Exclude.Rules
import SiteAudit.Proofs.Success
import SiteAudit.Proofs.Text.Names

namespace SiteAudit.Exclude

open Text (joinWith)

variable {directory names path : List Text} {name p : Text} {weight : Weight} {ending : Ending}
  {pieces : List Piece} {slash forDirectory : Bool}

/-! ## Names of paths -/

/-- A name in a relative path. -/
structure IsPathName (name : Text) : Prop where
  ne_nil : name ≠ []
  ne_dot : name ≠ ['.']
  no_slash : '/' ∉ name

/-- A name that a pattern takes literally. -/
structure IsPlainName (name : Text) : Prop extends IsPathName name where
  no_sign : ∀ c ∈ name, c ∉ ['*', '?', '[', '\\']

instance : DecidablePred IsPathName := fun name =>
  decidable_of_iff (name ≠ [] ∧ name ≠ ['.'] ∧ '/' ∉ name)
    ⟨fun ⟨hne, hdot, hslash⟩ => ⟨hne, hdot, hslash⟩, fun ⟨hne, hdot, hslash⟩ => ⟨hne, hdot, hslash⟩⟩

-- The characters of the name are checked, not all characters.
instance : DecidablePred IsPlainName := fun name =>
  decidable_of_iff (IsPathName name ∧ name.all (fun c => decide (c ∉ ['*', '?', '[', '\\'])) = true)
    ⟨fun ⟨hname, hall⟩ => ⟨hname, by simpa using hall⟩, fun ⟨hname, hsign⟩ => ⟨hname, by simpa using hsign⟩⟩

/-- The names of a relative path, other than the directory itself. -/
structure IsPath (path : List Text) : Prop where
  ne_nil : path ≠ []
  names : ∀ name ∈ path, IsPathName name

/-- The names of a directory that patterns take literally. -/
structure IsPlainDirectory (directory : List Text) : Prop where
  ne_nil : directory ≠ []
  names : ∀ name ∈ directory, IsPlainName name

theorem IsPlainName.ne_run (h : IsPlainName name) : name ≠ anyDirectories := by
  rintro rfl
  exact h.no_sign '*' (by simp [anyDirectories]) (by simp)

theorem IsPlainDirectory.isPath (h : IsPlainDirectory directory) : IsPath directory :=
  ⟨h.ne_nil, fun name hmem => (h.names name hmem).toIsPathName⟩

theorem IsPath.append (hpath : IsPath path) (hmore : IsPath names) : IsPath (path ++ names) where
  ne_nil := by simp [hpath.ne_nil]
  names name hmem := (List.mem_append.1 hmem).elim (hpath.names name) (hmore.names name)

theorem IsPath.splitOn (h : IsPath path) : Text.splitOn '/' (joinWith ['/'] path) = path :=
  Text.splitOn_joinWith h.ne_nil fun name hmem => (h.names name hmem).no_slash

theorem IsPath.exists_cons (h : IsPath path) : ∃ c s, joinWith ['/'] path = c :: s ∧ c ≠ '/' := by
  obtain ⟨name, names, rfl⟩ := List.exists_cons_of_ne_nil h.ne_nil
  have hname := h.names name (by simp)
  obtain ⟨c, s, rfl⟩ := List.exists_cons_of_ne_nil hname.ne_nil
  have hc : c ≠ '/' := fun hc => hname.no_slash (by simp [hc])
  cases names with
  | nil => exact ⟨c, s, rfl, hc⟩
  | cons next names => exact ⟨c, _, rfl, hc⟩

theorem IsPath.text_ne_nil (h : IsPath path) : joinWith ['/'] path ≠ [] := by
  obtain ⟨c, s, hs, -⟩ := h.exists_cons
  simp [hs]

theorem IsPath.exists_last (h : IsPath path) : ∃ front last, joinWith ['/'] path = front ++ last ∧
    last ≠ [] ∧ '/' ∉ last ∧ (front = [] ∨ ∃ before, before ≠ [] ∧ front = before ++ ['/']) := by
  obtain ⟨init, last, rfl⟩ : ∃ init last, path = init ++ [last] :=
    ⟨_, _, (List.dropLast_concat_getLast h.ne_nil).symm⟩
  have hlast := h.names last (by simp)
  by_cases hinit : init = []
  · subst hinit
    exact ⟨[], last, rfl, hlast.ne_nil, hlast.no_slash, Or.inl rfl⟩
  · have hpath : IsPath init := ⟨hinit, fun name hmem => h.names name (by simp [hmem])⟩
    refine ⟨joinWith ['/'] init ++ ['/'], last, ?_, hlast.ne_nil, hlast.no_slash,
      Or.inr ⟨joinWith ['/'] init, hpath.text_ne_nil, rfl⟩⟩
    rw [Text.joinWith_append hinit (by simp)]
    simp [joinWith]

/-! ## What patterns say -/

/-- What a pattern says of a path: whether its sets are in order, and the weight
    with which it applies. -/
def reading (path : Text) (pattern : List Piece × Ending) : Bool × Option Weight :=
  (pattern.1.all (·.isOrdered), weightOfPieces pattern.2 pattern.1 path)

def Shape.reading (path : Text) (shape : Shape) : Bool × Option Weight :=
  (shape.isOrdered, shape.weight? path)

/-- The pattern with pieces in front. -/
def after (front : List Piece) (pattern : List Piece × Ending) : List Piece × Ending :=
  (front ++ pattern.1, pattern.2)

theorem afterSlash?_eq_some_iff {s r : Text} : afterSlash? s = some r ↔ s = '/' :: r := by
  rw [afterSlash?.eq_def]
  split <;> simp_all

theorem suffix_of_mem_rests {r s : Text} {piece : Piece} (h : r ∈ piece.rests s) : r <:+ s := by
  have hsome {q : Char → Bool} {r s : Text} (h : r ∈ Text.restsOfSome q s) : r <:+ s := by
    obtain ⟨taken, -, rfl, -⟩ := Text.mem_restsOfSome_iff.1 h
    exact List.suffix_append _ _
  have hslash {r s : Text} (h : afterSlash? s = some r) : r <:+ s := by
    rw [afterSlash?_eq_some_iff.1 h]
    exact List.suffix_cons _ _
  cases piece with
  | literal c => cases s <;> simp [Piece.rests] at h; exact h.2 ▸ List.suffix_cons _ _
  | anyOne => cases s <;> simp [Piece.rests] at h; exact h.2 ▸ List.suffix_cons _ _
  | oneOf negated ranges => cases s <;> simp [Piece.rests] at h; exact h.2 ▸ List.suffix_cons _ _
  | anyRun =>
    rcases List.mem_append.1 h with h | h
    · exact hsome h
    · exact List.mem_singleton.1 h ▸ List.suffix_refl _
  | wholeName => exact hsome h
  | directories =>
    rcases List.mem_append.1 h with h | h
    · obtain ⟨before, hbefore, hr⟩ := List.mem_filterMap.1 h
      exact (hslash hr).trans (hsome hbefore)
    · exact List.mem_singleton.1 h ▸ List.suffix_refl _
  | furtherDirectories =>
    rw [Piece.rests] at h
    split at h
    · next rest hrest =>
      rcases List.mem_append.1 h with h | h
      · exact (hsome h).trans (hslash hrest)
      · exact List.mem_singleton.1 h ▸ List.suffix_refl _
    · exact List.mem_singleton.1 h ▸ List.suffix_refl _

/-- The last pieces of a pattern apply to an end of the path. -/
theorem exists_suffix_of_weightOfPieces {e : Weight} : ∀ {front : List Piece} {s : Text},
    weightOfPieces ending (front ++ pieces) s = some e → ∃ r, r <:+ s ∧ weightOfPieces ending pieces r = some e
  | [], s, h => ⟨s, List.suffix_refl _, h⟩
  | piece :: front, s, h => by
    rw [List.cons_append, weightOfPieces, List.findSome?_eq_some_iff] at h
    obtain ⟨before, r, more, hrests, hr, -⟩ := h
    have hmem : r ∈ piece.rests s := by simp [hrests]
    obtain ⟨t, ht, hweight⟩ := exists_suffix_of_weightOfPieces hr
    exact ⟨t, ht.trans (suffix_of_mem_rests hmem), hweight⟩

theorem reading_literals (s p : Text) (pattern : List Piece × Ending) :
    reading (s ++ p) (after (s.map .literal) pattern) = reading p pattern := by
  induction s with
  | nil => rfl
  | cons c s ih =>
    simp only [reading, after, Prod.mk.injEq] at ih ⊢
    simpa [weightOfPieces, Piece.rests, Piece.isOrdered] using ih

theorem exists_of_literals {e : Weight} {s p : Text}
    (h : weightOfPieces ending (s.map .literal ++ pieces) p = some e) :
    ∃ r, p = s ++ r ∧ weightOfPieces ending pieces r = some e := by
  induction s generalizing p with
  | nil => exact ⟨p, rfl, h⟩
  | cons c s ih =>
    cases p with
    | nil => simp [weightOfPieces, Piece.rests] at h
    | cons d p =>
      by_cases hc : c = d
      · subst hc
        obtain ⟨r, rfl, hr⟩ := ih (by simpa [weightOfPieces, Piece.rests] using h)
        exact ⟨r, rfl, hr⟩
      · simp [weightOfPieces, Piece.rests, hc] at h

theorem findSome?_filterMap {α β γ : Type} (f : α → Option β) (g : β → Option γ) (l : List α) :
    (l.filterMap f).findSome? g = l.findSome? fun a => (f a).bind g := by
  induction l with
  | nil => rfl
  | cons a l ih => cases h : f a <;> simp [h, ih, List.findSome?_cons]

/-- Further directories and a slash are directories that begin after a slash. -/
theorem reading_furtherDirectories (p : Text) (pattern : List Piece × Ending) :
    reading ('/' :: p) (after [.furtherDirectories, .literal '/'] pattern) =
      reading p (after [.directories] pattern) := by
  have hslash : weightOfPieces pattern.2 (.literal '/' :: pattern.1) =
      fun r => (afterSlash? r).bind (weightOfPieces pattern.2 pattern.1) := by
    funext r
    cases r with
    | nil => rfl
    | cons c r =>
      by_cases hc : c = '/'
      · subst hc
        simp [weightOfPieces, Piece.rests, afterSlash?]
      · simp [weightOfPieces, Piece.rests, afterSlash?, hc, Ne.symm hc]
  have hfront : afterSlash? ('/' :: p) = some p := rfl
  simp only [reading, after, List.cons_append, List.nil_append, Prod.mk.injEq]
  refine ⟨by simp [Piece.isOrdered], ?_⟩
  rw [weightOfPieces, weightOfPieces, hslash]
  simp only [Piece.rests, hfront, List.findSome?_append, findSome?_filterMap]
  simp [hfront]

/-! ## Patterns of names -/

theorem map_after (result : Except GlobFault (List Piece × Ending)) (first second : List Piece) :
    (result.map (after second)).map (after first) = result.map (after (first ++ second)) := by
  cases result <;> simp [Except.map, after]

theorem globPiecesFrom_plain {s : Text} (h : ∀ c ∈ s, c ∉ ['*', '?', '[', '\\']) :
    globPiecesFrom 0 s = .ok (s.map .literal) := by
  induction s with
  | nil => rfl
  | cons c s ih =>
    obtain ⟨hstar, hmark, hbracket, hbackslash⟩ : c ≠ '*' ∧ c ≠ '?' ∧ c ≠ '[' ∧ c ≠ '\\' := by
      simpa using h c (by simp)
    have hrest := ih fun d hd => h d (by simp [hd])
    simp [globPiecesFrom, hstar, hmark, hbracket, hbackslash, hrest, Except.map]

theorem namePieces_plain (h : IsPlainName name) : namePieces name = .ok (name.map .literal) := by
  have hstar : name ≠ ['*'] := by
    rintro rfl
    exact h.no_sign '*' (by simp) (by simp)
  rw [namePieces, if_neg hstar, globPieces, globPiecesFrom_plain h.no_sign]

theorem patternOf_cons (hname : name ≠ anyDirectories) (hnames : names ≠ []) :
    patternOf weight slash (name :: names) = (namePieces name).bind fun here =>
      (patternOf weight true names).map (after ((if slash then [.literal '/'] else []) ++ here)) := by
  rw [patternOf, if_neg hname]
  simp only [if_neg hnames]
  cases namePieces name with
  | error fault => rfl
  | ok here => cases patternOf weight true names <;> rfl

theorem patternOf_single (hname : name ≠ anyDirectories) : patternOf weight slash [name] =
    (namePieces name).map fun here => after ((if slash then [.literal '/'] else []) ++ here) ([], .name) := by
  rw [patternOf, if_neg hname]
  cases namePieces name <;> rfl

theorem patternOf_run (hnames : names ≠ []) : patternOf weight slash (anyDirectories :: names) =
    (patternOf weight true names).map (after [.furtherDirectories]) := by
  rw [patternOf, if_pos rfl, if_neg hnames]
  cases patternOf weight true names <;> rfl

theorem patternOf_true (hname : name ≠ anyDirectories) : patternOf weight true (name :: names) =
    (patternOf weight false (name :: names)).map (after [.literal '/']) := by
  by_cases hnames : names = []
  · subst hnames
    rw [patternOf_single hname, patternOf_single hname]
    cases namePieces name <;> rfl
  · rw [patternOf_cons hname hnames, patternOf_cons hname hnames]
    cases namePieces name with
    | error fault => rfl
    | ok here => cases patternOf weight true names <;> rfl

theorem patternOf_directory (hdir : IsPlainDirectory directory) (hnames : names ≠ []) :
    patternOf weight false (directory ++ names) =
      (patternOf weight true names).map (after ((joinWith ['/'] directory).map .literal)) := by
  obtain ⟨hne, hplain⟩ := hdir
  induction directory with
  | nil => exact absurd rfl hne
  | cons name directory ih =>
    have hname := hplain name (by simp)
    rw [List.cons_append, patternOf_cons hname.ne_run (by simp [hnames]), namePieces_plain hname]
    cases directory with
    | nil => simp [Except.bind, joinWith]
    | cons next directory =>
      have hrest := ih (by simp) fun name hmem => hplain name (by simp [hmem])
      have hnext := hplain next (by simp)
      rw [List.cons_append, patternOf_true hnext.ne_run, ← List.cons_append, hrest]
      simp [Except.bind, map_after, joinWith]

theorem exists_of_patternOf_true {e : Weight} : ∀ {names : List Text} {pattern : List Piece × Ending} {s : Text},
    names ≠ [] → patternOf weight true names = .ok pattern → weightOfPieces pattern.2 pattern.1 s = some e →
    ∃ r, s = '/' :: r
  | [], _, _, hne, _, _ => absurd rfl hne
  | name :: names, pattern, s, _, hpattern, h => by
    by_cases hname : name = anyDirectories
    · subst hname
      by_cases hnames : names = []
      · subst hnames
        rw [patternOf, if_pos rfl, if_pos rfl] at hpattern
        obtain rfl := Except.ok.inj hpattern
        cases s with
        | nil => simp [weightOfPieces, Ending.weight?] at h
        | cons c s =>
          by_cases hc : c = '/'
          · exact ⟨s, by rw [hc]⟩
          · simp [weightOfPieces, Ending.weight?, hc] at h
      · rw [patternOf_run hnames] at hpattern
        obtain ⟨rest, hrest, rfl⟩ := map_eq_ok_iff.1 hpattern
        cases hslash : afterSlash? s with
        | some r => exact ⟨r, afterSlash?_eq_some_iff.1 hslash⟩
        | none =>
          refine exists_of_patternOf_true hnames hrest (e := e) ?_
          simpa [after, weightOfPieces, Piece.rests, hslash] using h
    · rw [patternOf_true hname] at hpattern
      obtain ⟨rest, -, rfl⟩ := map_eq_ok_iff.1 hpattern
      cases s with
      | nil => simp [after, weightOfPieces, Piece.rests] at h
      | cons c s =>
        by_cases hc : '/' = c
        · exact ⟨s, by rw [hc]⟩
        · simp [after, weightOfPieces, Piece.rests, hc] at h

/-! ## Shapes -/

theorem shapeOf_of_head_ne (h : names.head? ≠ some anyDirectories) : shapeOf weight forDirectory names =
    (patternOf weight false names).map fun pattern => .starting pattern.1 pattern.2 := by
  have hne (more : List Text) : names ≠ anyDirectories :: more := by
    rintro rfl
    simp at h
  rw [shapeOf, if_neg (hne _), if_neg (hne _), if_neg (hne _), if_neg h]
  cases patternOf weight false names <;> rfl

theorem head?_directory_ne (hdir : IsPlainDirectory directory) :
    (directory ++ names).head? ≠ some anyDirectories := by
  obtain ⟨name, rest, rfl⟩ := List.exists_cons_of_ne_nil hdir.ne_nil
  simpa using (hdir.names name (by simp)).ne_run

/-- **The names of a directory are taken off the path.** -/
theorem reading_directory (hdir : IsPlainDirectory directory) (hnames : names ≠ []) (s : Text) :
    (shapeOf weight forDirectory (directory ++ names)).map (Shape.reading (joinWith ['/'] directory ++ s)) =
      (patternOf weight true names).map (reading s) := by
  rw [shapeOf_of_head_ne (head?_directory_ne hdir), patternOf_directory hdir hnames]
  cases patternOf weight true names with
  | error fault => rfl
  | ok pattern => exact congrArg Except.ok (reading_literals _ s pattern)

/-- **Only paths below the directory are meant.** -/
theorem exists_of_shapeOf_directory {shape : Shape} {e : Weight} (hdir : IsPlainDirectory directory)
    (hnames : names ≠ []) (hshape : shapeOf weight forDirectory (directory ++ names) = .ok shape)
    (h : shape.weight? p = some e) : ∃ r, p = joinWith ['/'] directory ++ '/' :: r := by
  rw [shapeOf_of_head_ne (head?_directory_ne hdir), patternOf_directory hdir hnames] at hshape
  obtain ⟨_, hmapped, rfl⟩ := map_eq_ok_iff.1 hshape
  obtain ⟨pattern, hpattern, rfl⟩ := map_eq_ok_iff.1 hmapped
  obtain ⟨s, rfl, hs⟩ := exists_of_literals h
  obtain ⟨r, rfl⟩ := exists_of_patternOf_true hnames hpattern hs
  exact ⟨r, rfl⟩

end SiteAudit.Exclude
