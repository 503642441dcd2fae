/-
  Matching a path is cutting it.

  * `Cuts takes items s`: the text is cut into consecutive pieces, one for each
    item, each of which its item takes.
  * `Part.Takes`: a literal run takes the texts that spell it in any case, a
    segment a part of a path without slashes, a catch-all a part without line
    ends; segments take nothing empty.
  * `accepts_iff_cuts`: the search through all rests finds a cut if there is one.
  * `matchesPath_of_no_brace`: without braces every character is literal.
  * `matchesPath_iff_pieces`: a template matches a path exactly if the path, or
    the path without a slash at its end, is cut among the parts of the template.
-/
import Mathlib.Data.List.Forall2
import SiteAudit.Proofs.Route.Parts
import SiteAudit.Proofs.Text.Scan

namespace SiteAudit.Route.Template

open Text

section Cuts

variable {α β : Type} {takes : α → Text → Prop} {takes' : β → Text → Prop}

/-- The text is cut into consecutive pieces, one taken by each item. -/
def Cuts (takes : α → Text → Prop) (items : List α) (s : Text) : Prop :=
  ∃ pieces, List.Forall₂ takes items pieces ∧ s = pieces.flatten

theorem cuts_nil {s : Text} : Cuts takes [] s ↔ s = [] := by
  simp [Cuts]

theorem cuts_cons {a : α} {items : List α} {s : Text} :
    Cuts takes (a :: items) s ↔ ∃ piece r, s = piece ++ r ∧ takes a piece ∧ Cuts takes items r := by
  constructor
  · rintro ⟨pieces, h, rfl⟩
    obtain ⟨piece, pieces, hp, hps, rfl⟩ := List.forall₂_cons_left_iff.1 h
    exact ⟨piece, pieces.flatten, rfl, hp, pieces, hps, rfl⟩
  · rintro ⟨piece, r, rfl, hp, pieces, hps, rfl⟩
    exact ⟨piece :: pieces, .cons hp hps, rfl⟩

theorem cuts_singleton {a : α} {s : Text} : Cuts takes [a] s ↔ takes a s := by
  simp [cuts_cons, cuts_nil]

theorem cuts_append {items more : List α} {s : Text} :
    Cuts takes (items ++ more) s ↔
      ∃ p r, s = p ++ r ∧ Cuts takes items p ∧ Cuts takes more r := by
  induction items generalizing s with
  | nil => simp [cuts_nil]
  | cons a items ih =>
    simp only [List.cons_append, cuts_cons, ih]
    constructor
    · rintro ⟨piece, -, rfl, hp, p, r, rfl, h1, h2⟩
      exact ⟨piece ++ p, r, by simp, ⟨piece, p, rfl, hp, h1⟩, h2⟩
    · rintro ⟨-, r, rfl, ⟨piece, p, rfl, hp, h1⟩, h2⟩
      exact ⟨piece, p ++ r, by simp, hp, p, r, rfl, h1, h2⟩

theorem cuts_flatMap {f : α → List β} {items : List α} {s : Text}
    (h : ∀ a ∈ items, ∀ p, takes a p ↔ Cuts takes' (f a) p) :
    Cuts takes items s ↔ Cuts takes' (items.flatMap f) s := by
  induction items generalizing s with
  | nil => simp [cuts_nil]
  | cons a items ih =>
    have ih' (r : Text) := ih (s := r) fun b hb => h b (by simp [hb])
    simp only [cuts_cons, List.flatMap_cons, cuts_append, h a (by simp), ih']

end Cuts

/-! ## Tokens -/

/-- The pieces of a path that a token can stand for. -/
def Token.Takes : Token → Text → Prop
  | literal a, piece => ∃ c, piece = [c] ∧ sameLetter a c = true
  | segment inside, piece =>
    piece ≠ [] ∧ if isCatchAll inside then '\n' ∉ piece else '/' ∉ piece

theorem mem_restsOfSome_ne_iff {d : Char} {s r : Text} :
    r ∈ restsOfSome (· != d) s ↔ ∃ piece, s = piece ++ r ∧ piece ≠ [] ∧ d ∉ piece := by
  have hp (piece : Text) : (∀ c ∈ piece, (c != d) = true) ↔ d ∉ piece := by
    simp only [bne_iff_ne, ne_eq]
    exact ⟨fun h hd => h d hd rfl, fun h c hc hcd => h (hcd ▸ hc)⟩
  simp only [mem_restsOfSome_iff, hp]
  exact exists_congr fun piece => and_left_comm

theorem mem_rests_iff {token : Token} {s r : Text} :
    r ∈ token.rests s ↔ ∃ piece, s = piece ++ r ∧ token.Takes piece := by
  cases token with
  | literal a =>
    cases s with
    | nil => simp [Token.rests, Token.Takes]
    | cons c cs =>
      simp only [Token.rests, Token.Takes]
      constructor
      · intro h
        split at h
        · next hc =>
          obtain rfl := List.mem_singleton.1 h
          exact ⟨[c], rfl, c, rfl, hc⟩
        · simp at h
      · rintro ⟨-, hs, d, rfl, hd⟩
        obtain ⟨rfl, rfl⟩ := List.cons.inj hs
        simp [hd]
  | segment inside =>
    simp only [Token.rests, Token.Takes]
    split <;> exact mem_restsOfSome_ne_iff

/-- **The search finds a cut if there is one.** -/
theorem accepts_iff_cuts {tokens : List Token} {s : Text} :
    accepts tokens s = true ↔
      Cuts Token.Takes tokens s ∨ ∃ t, s = t ++ ['/'] ∧ Cuts Token.Takes tokens t := by
  induction tokens generalizing s with
  | nil => simp [accepts, cuts_nil]
  | cons token tokens ih =>
    simp only [accepts, List.any_eq_true, mem_rests_iff, ih, cuts_cons]
    constructor
    · rintro ⟨r, ⟨piece, rfl, hp⟩, h | ⟨t, rfl, h⟩⟩
      · exact Or.inl ⟨piece, r, rfl, hp, h⟩
      · exact Or.inr ⟨piece ++ t, by simp, piece, t, rfl, hp, h⟩
    · rintro (⟨piece, r, rfl, hp, h⟩ | ⟨-, rfl, piece, t, rfl, hp, h⟩)
      · exact ⟨r, ⟨piece, rfl, hp⟩, Or.inl h⟩
      · exact ⟨t ++ ['/'], ⟨piece, by simp, hp⟩, Or.inr ⟨t, rfl, h⟩⟩

/-! ## Parts -/

/-- The pieces of a path that a part can stand for. -/
def Part.Takes : Part → Text → Prop
  | literal run, piece => List.Forall₂ (fun a c => sameLetter a c = true) run piece
  | segment true _, piece => piece ≠ [] ∧ '\n' ∉ piece
  | segment false _, piece => piece ≠ [] ∧ '/' ∉ piece

/-- The stars are apart in a catch-all and in no other segment. -/
def Part.StarsApart : Part → Prop
  | literal _ => True
  | segment catchAll name => Token.isCatchAll (insideOf catchAll name) = catchAll

theorem isCatchAll_of_mem_findsFrom {s : Text} {offset skip : Nat} {before : Option Char}
    {found : Find (Bool × Text)} (h : found ∈ findsFrom segmentForm offset before skip s) :
    Token.isCatchAll (insideOf found.value.1 found.value.2) = found.value.1 := by
  obtain ⟨place, t, rest, -, hform⟩ := exists_of_mem_findsFrom h
  cases t with
  | nil => simp [segmentForm] at hform
  | cons c t =>
    by_cases hc : c = '{'
    · subst hc
      exact (segmentForm_eq_some_iff.1 hform).2.2
    · simp [segmentForm_of_ne hc] at hform

theorem starsApart_of_mem_partsFrom {whole : Text} : ∀ {segments : List (Find (Bool × Text))}
    {position : Nat}, (∀ found ∈ segments,
      Token.isCatchAll (insideOf found.value.1 found.value.2) = found.value.1) →
    ∀ part ∈ partsFrom whole position segments, part.StarsApart
  | [], _, _, part, h => by
    obtain rfl := List.mem_singleton.1 h
    trivial
  | found :: more, _, hall, part, h => by
    rcases List.mem_cons.1 h with rfl | h
    · trivial
    · rcases List.mem_cons.1 h with rfl | h
      · exact hall found (by simp)
      · exact starsApart_of_mem_partsFrom (fun f hf => hall f (by simp [hf])) part h

theorem starsApart_of_mem_parts {template : Text} : ∀ part ∈ parts template, part.StarsApart :=
  starsApart_of_mem_partsFrom fun _ h => isCatchAll_of_mem_findsFrom h

theorem cuts_literals_iff {run piece : Text} :
    Cuts Token.Takes (run.map .literal) piece ↔
      List.Forall₂ (fun a c => sameLetter a c = true) run piece := by
  induction run generalizing piece with
  | nil => simp [cuts_nil]
  | cons a run ih =>
    simp only [List.map_cons, cuts_cons, ih, Token.Takes]
    constructor
    · rintro ⟨-, r, rfl, ⟨c, rfl, hc⟩, h⟩
      exact .cons hc h
    · intro h
      obtain ⟨c, r, hc, hr, rfl⟩ := List.forall₂_cons_left_iff.1 h
      exact ⟨[c], r, rfl, ⟨c, rfl, hc⟩, hr⟩

/-! ## Templates without braces -/

theorem tokensFrom_of_no_brace {s : Text} (h : '{' ∉ s) : tokensFrom 0 s = s.map .literal := by
  induction s with
  | nil => rfl
  | cons c s ih =>
    have hc : segment? (c :: s) = none := by
      refine Option.eq_none_iff_forall_ne_some.2 fun inside hinside => ?_
      obtain ⟨rfl, -⟩ := segment?_cons_eq_some_iff.1 hinside
      simp at h
    rw [tokensFrom, hc, List.map_cons, ih fun hs => h (List.mem_cons_of_mem c hs)]

/-- A rooted template without braces matches what spells it in any case. -/
theorem matchesPath_of_no_brace {s path : Text} (h : '{' ∉ s) :
    matchesPath ('/' :: s) path = true ↔
      ∃ run, List.Forall₂ (fun a c => sameLetter a c = true) ('/' :: s) run ∧
        (path = run ∨ path = run ++ ['/']) := by
  have htokens : tokens ('/' :: s) = ('/' :: s).map .literal :=
    tokensFrom_of_no_brace (s := '/' :: s) (by simpa using h)
  rw [matchesPath, accepts_iff_cuts, htokens]
  simp only [cuts_literals_iff]
  constructor
  · rintro (h | ⟨run, rfl, h⟩)
    · exact ⟨path, h, Or.inl rfl⟩
    · exact ⟨run, h, Or.inr rfl⟩
  · rintro ⟨run, h, rfl | rfl⟩
    · exact Or.inl h
    · exact Or.inr ⟨run, rfl, h⟩

/-! ## Templates with segments -/

theorem takes_iff_cuts_tokens {part : Part} (h : part.StarsApart) {piece : Text} :
    part.Takes piece ↔ Cuts Token.Takes part.tokens piece := by
  cases part with
  | literal run => exact cuts_literals_iff.symm
  | segment catchAll name =>
    rw [Part.tokens, cuts_singleton, Token.Takes, show Token.isCatchAll (insideOf catchAll name) = catchAll from h]
    cases catchAll <;> simp [Part.Takes]

/-- **A template matches the paths that are cut among its parts**, with or
    without a slash at the end. -/
theorem matchesPath_iff_pieces (template path : Text) :
    matchesPath template path = true ↔
      ∃ pieces, List.Forall₂ Part.Takes (parts template) pieces ∧
        (path = pieces.flatten ∨ path = pieces.flatten ++ ['/']) := by
  have hparts (s : Text) : Cuts Part.Takes (parts template) s ↔ Cuts Token.Takes (tokens template) s := by
    rw [← tokens_parts]
    exact cuts_flatMap fun part hp piece => takes_iff_cuts_tokens (starsApart_of_mem_parts part hp)
  rw [matchesPath, accepts_iff_cuts]
  simp only [← hparts]
  constructor
  · rintro (⟨pieces, h, rfl⟩ | ⟨-, rfl, pieces, h, rfl⟩)
    · exact ⟨pieces, h, Or.inl rfl⟩
    · exact ⟨pieces, h, Or.inr rfl⟩
  · rintro ⟨pieces, h, rfl | rfl⟩
    · exact Or.inl ⟨pieces, h, rfl⟩
    · exact Or.inr ⟨_, rfl, pieces, h, rfl⟩

end SiteAudit.Route.Template
