/-
  The parts of a template, read by a scan.

  * `Part`: a run of literal characters, or a segment; a template is an
    alternating sequence of the two, with literal runs at both ends.
  * `segmentForm`: a brace, perhaps two stars, a name that holds no closing
    brace, and the closing brace.  The stars belong to the name if nothing else
    is left for it.
  * `parts`: the finds of `segmentForm` in the rooted template, with the
    literal runs between them.
  * `tokens_parts`: the parts, spelled out, are the tokens of the template.
-/
import SiteAudit.Proofs.Text.Scan
import SiteAudit.Route.Template

namespace SiteAudit.Route.Template

open Text

/-- A run of literal characters, possibly empty, or a segment with its name. -/
inductive Part where
  | literal (run : Text)
  | segment (catchAll : Bool) (name : Text)
  deriving DecidableEq

/-- The stars that mark a catch-all. -/
def stars : Text := ['*', '*']

/-- What stands between the braces of a segment. -/
def insideOf (catchAll : Bool) (name : Text) : Text :=
  if catchAll then stars ++ name else name

/-- A part as tokens. -/
def Part.tokens : Part → List Token
  | literal run => run.map .literal
  | segment catchAll name => [.segment (insideOf catchAll name)]

/-! ## Segments -/

/-- A name and the closing brace after it. -/
def name? (s : Text) : Option (Text × Text) :=
  (restsOfSome (· != '}') s).findSome? fun rest =>
    match rest with
    | '}' :: after => some (s.take (s.length - rest.length), after)
    | _ => none

/-- A name after two stars. -/
def starredName? (s : Text) : Option (Text × Text) :=
  (dropExact? stars s).bind name?

/-- A segment: with the stars apart if a name follows them. -/
def segmentForm : Form (Bool × Text)
  | _, '{' :: s =>
    ((starredName? s).map fun (name, after) => ((true, name), after)).or <|
      (name? s).map fun (name, after) => ((false, name), after)
  | _, _ => none

/-- The parts from a position on, given the segments found there. -/
def partsFrom (s : Text) (position : Nat) : List (Find (Bool × Text)) → List Part
  | [] => [.literal (s.drop position)]
  | found :: more =>
    .literal ((s.drop position).take (found.start - position)) ::
      .segment found.value.1 found.value.2 :: partsFrom s found.stop more

/-- The parts of a template, rooted. -/
def parts (template : Text) : List Part :=
  partsFrom (rooted template) 0 (finds segmentForm (rooted template))

/-! ## Segments as the tokens see them -/

theorem name?_sound {s name after : Text} (h : name? s = some (name, after)) :
    name ≠ [] ∧ upTo? '}' s = some (name, after) := by
  obtain ⟨rest, hrest, h⟩ := List.exists_of_findSome?_eq_some h
  obtain ⟨taken, hne, rfl, hp⟩ := mem_restsOfSome_iff.1 hrest
  split at h
  · simp only [List.length_append, List.length_cons, Nat.add_sub_cancel, List.take_left',
      Option.some.injEq, Prod.mk.injEq] at h
    obtain ⟨rfl, rfl⟩ := h
    refine ⟨hne, upTo?_eq_some_iff.2 ⟨rfl, fun hmem => ?_⟩⟩
    simpa using hp _ hmem
  · simp at h

theorem name?_complete {s name after : Text} (hne : name ≠ [])
    (h : upTo? '}' s = some (name, after)) : name? s = some (name, after) := by
  obtain ⟨rfl, hmem⟩ := upTo?_eq_some_iff.1 h
  have hrest : '}' :: after ∈ restsOfSome (· != '}') (name ++ '}' :: after) := by
    refine mem_restsOfSome_iff.2 ⟨name, hne, rfl, fun c hc => ?_⟩
    simpa using fun hc' : c = '}' => hmem (hc' ▸ hc)
  obtain ⟨⟨name', after'⟩, h'⟩ : ∃ found, name? (name ++ '}' :: after) = some found := by
    refine Option.isSome_iff_exists.1 (List.findSome?_isSome_iff.2 ⟨_, hrest, ?_⟩)
    simp
  -- the reader stops at the first closing brace, so there is only one name to find
  have hu := (name?_sound h').2
  rw [h] at hu
  rw [h', ← hu]

theorem name?_eq_some_iff {s name after : Text} :
    name? s = some (name, after) ↔ name ≠ [] ∧ upTo? '}' s = some (name, after) :=
  ⟨name?_sound, fun h => name?_complete h.1 h.2⟩

theorem isCatchAll_iff {inside : Text} :
    Token.isCatchAll inside = true ↔ ∃ name, name ≠ [] ∧ inside = stars ++ name := by
  constructor
  · intro h
    unfold Token.isCatchAll at h
    split at h
    · next x xs => exact ⟨x :: xs, by simp, rfl⟩
    · simp at h
  · rintro ⟨name, hne, rfl⟩
    obtain ⟨x, xs, rfl⟩ := List.exists_cons_of_ne_nil hne
    rfl

theorem upTo?_stars (s : Text) :
    upTo? '}' (stars ++ s) = (upTo? '}' s).map fun (inside, rest) => (stars ++ inside, rest) := by
  cases h : upTo? '}' s <;> simp [stars, upTo?, h]

theorem starredName?_eq_some_iff {s name after : Text} :
    starredName? s = some (name, after) ↔
      name ≠ [] ∧ upTo? '}' s = some (stars ++ name, after) := by
  simp only [starredName?, Option.bind_eq_some_iff, dropExact?_eq_some_iff]
  constructor
  · rintro ⟨t, rfl, h⟩
    obtain ⟨hne, hu⟩ := name?_eq_some_iff.1 h
    exact ⟨hne, by rw [upTo?_stars, hu]; rfl⟩
  · rintro ⟨hne, h⟩
    obtain ⟨rfl, hmem⟩ := upTo?_eq_some_iff.1 h
    refine ⟨name ++ '}' :: after, by simp, name?_eq_some_iff.2 ⟨hne, ?_⟩⟩
    exact upTo?_eq_some_iff.2 ⟨rfl, fun hm => hmem (List.mem_append_right _ hm)⟩

theorem segmentForm_eq_some_iff {before : Option Char} {s after name : Text} {catchAll : Bool} :
    segmentForm before ('{' :: s) = some ((catchAll, name), after) ↔
      name ≠ [] ∧ upTo? '}' s = some (insideOf catchAll name, after) ∧
        Token.isCatchAll (insideOf catchAll name) = catchAll := by
  rcases hstar : starredName? s with _ | ⟨name', after'⟩
  · -- no name follows the stars, so what stands before the brace is no catch-all
    have hno (inside after : Text) (hu : upTo? '}' s = some (inside, after)) :
        Token.isCatchAll inside = false := by
      refine Bool.eq_false_iff.2 fun hc => ?_
      obtain ⟨n, hne, rfl⟩ := isCatchAll_iff.1 hc
      rw [starredName?_eq_some_iff.2 ⟨hne, hu⟩] at hstar
      simp at hstar
    have hform : segmentForm before ('{' :: s) =
        (name? s).map fun (name, after) => ((false, name), after) := by
      simp [segmentForm, hstar]
    rw [hform, Option.map_eq_some_iff]
    constructor
    · rintro ⟨⟨n, a⟩, h, heq⟩
      obtain ⟨rfl, rfl, rfl⟩ : false = catchAll ∧ n = name ∧ a = after := by simpa [and_assoc] using heq
      obtain ⟨hne, hu⟩ := name?_eq_some_iff.1 h
      exact ⟨hne, hu, hno _ _ hu⟩
    · rintro ⟨hne, hu, hc⟩
      have hf := hno _ _ hu
      rw [hc] at hf
      subst hf
      exact ⟨(name, after), name?_eq_some_iff.2 ⟨hne, hu⟩, rfl⟩
  · obtain ⟨hne', hu'⟩ := starredName?_eq_some_iff.1 hstar
    have hform : segmentForm before ('{' :: s) = some ((true, name'), after') := by
      simp [segmentForm, hstar]
    rw [hform]
    constructor
    · intro h
      obtain ⟨rfl, rfl, rfl⟩ : true = catchAll ∧ name' = name ∧ after' = after := by
        simpa [and_assoc] using h
      exact ⟨hne', hu', isCatchAll_iff.2 ⟨name', hne', rfl⟩⟩
    · rintro ⟨hne, hu, hc⟩
      rw [hu'] at hu
      obtain ⟨hin, rfl⟩ : stars ++ name' = insideOf catchAll name ∧ after' = after := by
        simpa using hu
      rw [← hin, isCatchAll_iff.2 ⟨name', hne', rfl⟩] at hc
      subst hc
      simpa [insideOf] using hin

theorem segmentForm_of_ne {before : Option Char} {c : Char} {s : Text} (h : c ≠ '{') :
    segmentForm before (c :: s) = none := by
  unfold segmentForm
  split
  · next heq => exact absurd (List.cons.inj heq).1 h
  · rfl

theorem segmentForm_segment? (before : Option Char) (c : Char) (s : Text) :
    (segmentForm before (c :: s) = none ∧ segment? (c :: s) = none) ∨
      ∃ catchAll name after, segmentForm before (c :: s) = some ((catchAll, name), after) ∧
        segment? (c :: s) = some (insideOf catchAll name) ∧
        s = insideOf catchAll name ++ '}' :: after := by
  by_cases hc : c = '{'
  · subst hc
    rcases hu : upTo? '}' s with _ | ⟨inside, after⟩
    · refine Or.inl ⟨Option.eq_none_iff_forall_ne_some.2 fun found hf => ?_, by simp [segment?, hu]⟩
      obtain ⟨-, hu', -⟩ := segmentForm_eq_some_iff.1 hf
      simp [hu] at hu'
    · by_cases hin : inside = []
      · refine Or.inl ⟨Option.eq_none_iff_forall_ne_some.2 fun found hf => ?_, by simp [segment?, hu, hin]⟩
        obtain ⟨hne, hu', -⟩ := segmentForm_eq_some_iff.1 hf
        rw [hu, hin] at hu'
        cases h : found.1.1 <;> simp_all [insideOf, stars]
      · obtain ⟨catchAll, name, hne, rfl, hca⟩ : ∃ catchAll name, name ≠ [] ∧
            inside = insideOf catchAll name ∧ Token.isCatchAll inside = catchAll := by
          cases h : Token.isCatchAll inside with
          | false => exact ⟨false, inside, hin, rfl, rfl⟩
          | true =>
            obtain ⟨name, hne, rfl⟩ := isCatchAll_iff.1 h
            exact ⟨true, name, hne, rfl, rfl⟩
        refine Or.inr ⟨catchAll, name, after, segmentForm_eq_some_iff.2 ⟨hne, hu, hca⟩, ?_,
          (upTo?_eq_some_iff.1 hu).1⟩
        simp [segment?, hu, hin]
  · exact Or.inl ⟨segmentForm_of_ne hc, by simp [segment?, hc]⟩

/-! ## The parts spelled out -/

theorem tokens_partsFrom_succ {whole s : Text} {c : Char} {position : Nat}
    {segments : List (Find (Bool × Text))} (hs : whole.drop position = c :: s)
    (hpos : ∀ found ∈ segments, position + 1 ≤ found.start) :
    (partsFrom whole position segments).flatMap Part.tokens =
      .literal c :: (partsFrom whole (position + 1) segments).flatMap Part.tokens := by
  have hs' : whole.drop (position + 1) = s := by
    rw [← List.drop_drop, hs, List.drop_succ_cons, List.drop_zero]
  cases segments with
  | nil => simp [partsFrom, Part.tokens, hs, hs']
  | cons found more =>
    obtain ⟨n, hn⟩ := Nat.exists_eq_add_of_le (hpos found (by simp))
    have h1 : found.start - position = n + 1 := by omega
    have h2 : found.start - (position + 1) = n := by omega
    simp [partsFrom, Part.tokens, hs, hs', h1, h2]

/-- From every place on, the finds and what lies between them are the tokens. -/
theorem tokens_partsFrom_findsFrom (whole : Text) : ∀ (s : Text) (offset skip : Nat)
    (before : Option Char), whole.drop offset = s → skip ≤ s.length →
    (partsFrom whole (offset + skip) (findsFrom segmentForm offset before skip s)).flatMap
      Part.tokens = tokensFrom skip s
  | [], offset, skip, before, hs, hskip => by
    have hwhole : whole.length ≤ offset := List.drop_eq_nil_iff.1 hs
    have : whole.drop (offset + skip) = [] := List.drop_eq_nil_iff.2 (by omega)
    simp [findsFrom, partsFrom, this, Part.tokens, tokensFrom]
  | c :: s, offset, skip, before, hs, hskip => by
    have hs' : whole.drop (offset + 1) = s := by
      rw [← List.drop_drop, hs, List.drop_succ_cons, List.drop_zero]
    cases skip with
    | succ skip =>
      have ih := tokens_partsFrom_findsFrom whole s (offset + 1) skip (some c) hs' (by simpa using hskip)
      rw [findsFrom, tokensFrom, ← ih]
      congr 2
      omega
    | zero =>
      rcases segmentForm_segment? before c s with ⟨hf, hseg⟩ | ⟨catchAll, name, after, hf, hseg, hsplit⟩
      · have ih := tokens_partsFrom_findsFrom whole s (offset + 1) 0 (some c) hs' (by simp)
        simp only [findsFrom, hf, tokensFrom, hseg, ← ih, Nat.add_zero]
        exact tokens_partsFrom_succ hs fun found h => by simpa using le_start_of_mem_findsFrom h
      · have hwidth : (c :: s).length - after.length = (insideOf catchAll name).length + 2 := by
          rw [hsplit]; simp; omega
        have ih := tokens_partsFrom_findsFrom whole s (offset + 1) ((insideOf catchAll name).length + 1)
          (some c) hs' (by rw [hsplit]; simp)
        have hstop : offset + 1 + ((insideOf catchAll name).length + 1) =
            offset + ((insideOf catchAll name).length + 2) := by omega
        simp only [findsFrom, hf, tokensFrom, hseg, hwidth, ← ih, hstop]
        simp [partsFrom, Part.tokens, Find.stop]

/-- **The parts of a template, spelled out, are its tokens.** -/
theorem tokens_parts (template : Text) : (parts template).flatMap Part.tokens = tokens template := by
  have h := tokens_partsFrom_findsFrom (rooted template) (rooted template) 0 0 none rfl (by simp)
  exact h

end SiteAudit.Route.Template
