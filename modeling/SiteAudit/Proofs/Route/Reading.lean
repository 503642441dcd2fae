/-
  How a template is read.

  * `IsRead`: the grammar of tokens.  A segment goes on from a brace to the first
    closing brace and holds something; a brace that cannot begin one is literal, as
    is every other character.
  * `isRead_iff`: a text is read in one way, which is that of its tokens.
  * `AreParts`: what the literal runs and the segments of a text are, told by the text
    alone.
  * `parts_exact`: the scan for segments, with the runs in between, finds these parts
    and no others, and they are the tokens of the template.
-/
import SiteAudit.Proofs.Route.FinalSlash

namespace SiteAudit.Route.Template

open Text

variable {s inside rest run name : Text} {items before after : List Token} {given others : List Part}
  {catchAll : Bool} {skip : Nat}

/-! ## Readings -/

/-- A brace with such a text behind it opens no segment: the closing brace stands
    right behind it, or nowhere. -/
def OpensNothing (behind : Text) : Prop :=
  behind.head? = some '}' ∨ '}' ∉ behind

/-- How a text is read. -/
inductive IsRead : Text → List Token → Prop
  | nil : IsRead [] []
  | segment {inside rest : Text} {items : List Token} : inside ≠ [] → '}' ∉ inside → IsRead rest items →
      IsRead ('{' :: inside ++ '}' :: rest) (.segment inside :: items)
  | literal {c : Char} {s : Text} {items : List Token} : (c = '{' → OpensNothing s) → IsRead s items →
      IsRead (c :: s) (.literal c :: items)

theorem segment?_brace_iff :
    segment? ('{' :: (inside ++ '}' :: rest)) = some inside ↔ inside ≠ [] ∧ '}' ∉ inside := by
  rw [segment?_cons_eq_some_iff]
  simp only [true_and, upTo?_eq_some_iff]
  constructor
  · rintro ⟨hne, _, -, hnot⟩
    exact ⟨hne, hnot⟩
  · rintro ⟨hne, hnot⟩
    exact ⟨hne, rest, rfl, hnot⟩

theorem segment?_eq_none_iff {c : Char} : segment? (c :: s) = none ↔ (c = '{' → OpensNothing s) := by
  rw [Option.eq_none_iff_forall_ne_some]
  simp only [ne_eq, segment?_cons_eq_some_iff, upTo?_eq_some_iff, OpensNothing]
  constructor
  · intro h hc
    by_cases hclose : '}' ∈ s
    · obtain ⟨inside, rest, rfl, hnot⟩ := List.eq_append_cons_of_mem hclose
      by_cases hne : inside = []
      · subst hne
        exact Or.inl rfl
      · exact absurd ⟨hc, hne, rest, rfl, hnot⟩ (h inside)
    · exact Or.inr hclose
  · rintro h inside ⟨hc, hne, rest, rfl, hnot⟩
    rcases h hc with hhead | hclose
    · obtain ⟨d, inside, rfl⟩ := List.exists_cons_of_ne_nil hne
      simp at hhead
      simp [hhead] at hnot
    · simp at hclose

theorem tokensFrom_eq (skip : Nat) (s : Text) : tokensFrom skip s = tokensFrom 0 (s.drop skip) := by
  induction s generalizing skip with
  | nil => simp [tokensFrom]
  | cons c s ih =>
    cases skip with
    | zero => rfl
    | succ skip => exact ih skip

theorem isRead_tokensFrom (skip : Nat) (s : Text) : IsRead (s.drop skip) (tokensFrom skip s) := by
  induction s generalizing skip with
  | nil => simpa [tokensFrom] using IsRead.nil
  | cons c s ih =>
    cases skip with
    | succ skip => exact ih skip
    | zero =>
      rw [tokensFrom, List.drop_zero]
      split
      · next inside h =>
        obtain ⟨rfl, hne, rest, hcut⟩ := segment?_cons_eq_some_iff.1 h
        obtain ⟨rfl, hnot⟩ := upTo?_eq_some_iff.1 hcut
        have hrest := ih (inside.length + 1)
        simp only [List.drop_length_add_append, List.drop_succ_cons, List.drop_zero] at hrest
        exact .segment hne hnot hrest
      · next h => exact .literal (segment?_eq_none_iff.1 h) (ih 0)

/-- **A text is read in one way**, which is that of its tokens. -/
theorem isRead_iff : IsRead s items ↔ items = tokensFrom 0 s := by
  constructor
  · intro h
    induction h with
    | nil => rfl
    | @segment inside rest items hne hnot _ ih =>
      have hsegment : segment? ('{' :: (inside ++ '}' :: rest)) = some inside := segment?_brace_iff.2 ⟨hne, hnot⟩
      rw [List.cons_append, tokensFrom, hsegment]
      simp only
      rw [tokensFrom_eq, ih]
      simp
    | literal hc _ ih => rw [tokensFrom, segment?_eq_none_iff.2 hc, ih]
  · rintro rfl
    exact isRead_tokensFrom 0 s

theorem IsRead.text_eq (h : IsRead s items) : items.flatMap Token.text = s := by
  rw [isRead_iff.1 h, flatMap_text_tokensFrom, List.drop_zero]

theorem IsRead.holds (h : IsRead s items) (hmem : .segment inside ∈ items) : inside ≠ [] ∧ '}' ∉ inside := by
  induction h with
  | nil => simp at hmem
  | segment hne hnot _ ih =>
    rcases List.mem_cons.1 hmem with heq | hmem
    · obtain rfl := Token.segment.inj heq
      exact ⟨hne, hnot⟩
    · exact ih hmem
  | literal _ _ ih => exact ih (by simpa using hmem)

theorem IsRead.opensNothing (h : IsRead s (before ++ .literal '{' :: after)) :
    OpensNothing (after.flatMap Token.text) := by
  induction before generalizing s with
  | nil =>
    cases h with
    | literal hc hrest =>
      rw [hrest.text_eq]
      exact hc rfl
  | cons token before ih =>
    cases h with
    | segment _ _ hrest => exact ih hrest
    | literal _ hrest => exact ih hrest

theorem IsRead.literals (hrest : IsRead rest items) (hbrace : ∀ front behind, run = front ++ '{' :: behind →
    OpensNothing (behind ++ rest)) : IsRead (run ++ rest) (run.map .literal ++ items) := by
  induction run with
  | nil => exact hrest
  | cons c run ih =>
    refine .literal ?_ (ih ?_)
    · rintro rfl
      exact hbrace [] run rfl
    · intro front behind heq
      exact hbrace (c :: front) behind (by rw [heq, List.cons_append])

/-! ## Parts -/

/-- A part as written. -/
def Part.text : Part → Text
  | literal run => run
  | segment catchAll name => '{' :: insideOf catchAll name ++ ['}']

/-- Literal runs and segments take turns, with a run at both ends. -/
inductive Alternate : List Part → Prop
  | last {run : Text} : Alternate [.literal run]
  | more {run name : Text} {catchAll : Bool} {more : List Part} : Alternate more →
      Alternate (.literal run :: .segment catchAll name :: more)

/-- What the parts of a text are. -/
structure AreParts (s : Text) (given : List Part) : Prop where
  /-- Written one after the other they are the text. -/
  text_eq : given.flatMap Part.text = s
  alternate : Alternate given
  /-- A segment goes on to the first closing brace and holds something. -/
  holds : ∀ {catchAll name}, .segment catchAll name ∈ given →
    insideOf catchAll name ≠ [] ∧ '}' ∉ insideOf catchAll name
  /-- It is a catch-all if it holds two stars and something behind them. -/
  catchAll_iff : ∀ {catchAll name}, .segment catchAll name ∈ given →
    (catchAll = true ↔ ∃ rest, rest ≠ [] ∧ insideOf catchAll name = '*' :: '*' :: rest)
  /-- A brace in a literal run opens no segment. -/
  opensNothing : ∀ {before run after front behind}, given = before ++ .literal run :: after →
    run = front ++ '{' :: behind → OpensNothing (behind ++ after.flatMap Part.text)

theorem text_literals (run : Text) : (run.map Token.literal).flatMap Token.text = run := by
  induction run with
  | nil => rfl
  | cons c run ih =>
    rw [List.map_cons, List.flatMap_cons, ih]
    rfl

theorem text_tokens (given : List Part) :
    (given.flatMap Part.tokens).flatMap Token.text = given.flatMap Part.text := by
  have hpart (part : Part) : part.tokens.flatMap Token.text = part.text := by
    cases part with
    | literal run => exact text_literals run
    | segment catchAll name => simp [Part.text, Part.tokens, Token.text]
  rw [List.flatMap_assoc, funext hpart]

theorem alternate_partsFrom (whole : Text) : ∀ (position : Nat) (segments : List (Find (Bool × Text))),
    Alternate (partsFrom whole position segments)
  | _, [] => .last
  | _, found :: more => .more (alternate_partsFrom whole found.stop more)

theorem starsApart_iff : (Part.segment catchAll name).StarsApart ↔
    (catchAll = true ↔ ∃ rest, rest ≠ [] ∧ insideOf catchAll name = '*' :: '*' :: rest) := by
  rw [Part.StarsApart, Bool.eq_iff_iff, isCatchAll_iff]
  exact iff_comm

theorem IsRead.areParts (hread : IsRead s (given.flatMap Part.tokens)) (halternate : Alternate given)
    (hstars : ∀ part ∈ given, part.StarsApart) : AreParts s given where
  text_eq := by rw [← text_tokens, hread.text_eq]
  alternate := halternate
  holds hmem := hread.holds (List.mem_flatMap.2 ⟨_, hmem, List.mem_singleton.2 rfl⟩)
  catchAll_iff hmem := starsApart_iff.1 (hstars _ hmem)
  opensNothing := by
    rintro before run after front behind rfl rfl
    have hsplit : (before ++ .literal (front ++ '{' :: behind) :: after).flatMap Part.tokens =
        (before.flatMap Part.tokens ++ front.map .literal) ++ .literal '{' ::
          (behind.map .literal ++ after.flatMap Part.tokens) := by
      simp [Part.tokens]
    rw [hsplit] at hread
    simpa only [List.flatMap_append, text_literals, text_tokens] using hread.opensNothing

/-- **The tokens of the parts of a text are its reading.** -/
theorem AreParts.isRead (h : AreParts s given) : IsRead s (given.flatMap Part.tokens) := by
  obtain ⟨rfl, halternate, hholds, -, hopens⟩ := h
  induction halternate with
  | @last run =>
    have hrun : IsRead (run ++ []) (run.map .literal ++ []) := by
      refine IsRead.nil.literals ?_
      intro front behind heq
      simpa using @hopens [] run [] front behind rfl heq
    simpa [Part.tokens, Part.text] using hrun
  | @more run name catchAll more _ ih =>
    -- What holds of all parts holds of those behind the segment.
    have hmore : IsRead (more.flatMap Part.text) (more.flatMap Part.tokens) := by
      refine ih (fun hmem => hholds (by simp [hmem])) ?_
      intro before run' after front behind hparts hrun
      exact @hopens (.literal run :: .segment catchAll name :: before) run' after front behind (by rw [hparts]; rfl) hrun
    obtain ⟨hne, hnot⟩ := @hholds catchAll name (by simp)
    have hrun : IsRead (run ++ ('{' :: insideOf catchAll name ++ '}' :: more.flatMap Part.text))
        (run.map .literal ++ .segment (insideOf catchAll name) :: more.flatMap Part.tokens) := by
      refine (IsRead.segment hne hnot hmore).literals ?_
      intro front behind heq
      simpa [Part.text] using @hopens [] run _ front behind rfl heq
    simpa [Part.tokens, Part.text] using hrun

/-! ## Parts told from tokens -/

/-- A run of literals can be told from what follows it, unless that is a literal. -/
theorem literals_inj {run' : Text} {items' : List Token} (hend : ∀ c, items.head? ≠ some (.literal c))
    (hend' : ∀ c, items'.head? ≠ some (.literal c))
    (h : run.map Token.literal ++ items = run'.map Token.literal ++ items') : run = run' ∧ items = items' := by
  induction run generalizing run' with
  | nil =>
    cases run' with
    | nil => exact ⟨rfl, h⟩
    | cons d run' => exact absurd (congrArg List.head? h) (hend d)
  | cons c run ih =>
    cases run' with
    | nil => exact absurd (congrArg List.head? h).symm (hend' c)
    | cons d run' =>
      simp only [List.map_cons, List.cons_append, List.cons.injEq, Token.literal.injEq] at h
      obtain ⟨rfl, h⟩ := h
      obtain ⟨rfl, hrest⟩ := ih h
      exact ⟨rfl, hrest⟩

theorem insideOf_inj {catchAll' : Bool} {name' : Text} (h : (Part.segment catchAll name).StarsApart)
    (h' : (Part.segment catchAll' name').StarsApart) (hinside : insideOf catchAll name = insideOf catchAll' name') :
    catchAll = catchAll' ∧ name = name' := by
  obtain rfl : catchAll = catchAll' := by
    rw [Part.StarsApart] at h h'
    rw [← h, ← h', hinside]
  refine ⟨rfl, ?_⟩
  cases catchAll with
  | false => exact hinside
  | true => exact List.append_cancel_left hinside

/-- **Parts can be told from their tokens.** -/
theorem Alternate.eq_of_tokens (h : Alternate given) (h' : Alternate others)
    (hstars : ∀ part ∈ given, part.StarsApart) (hstars' : ∀ part ∈ others, part.StarsApart)
    (heq : given.flatMap Part.tokens = others.flatMap Part.tokens) : given = others := by
  have hnil (c : Char) : ([] : List Token).head? ≠ some (.literal c) := by simp
  have hsegment (inside : Text) (items : List Token) (c : Char) :
      (Token.segment inside :: items).head? ≠ some (.literal c) := by simp
  induction h generalizing others with
  | last =>
    cases h' with
    | last =>
      obtain ⟨rfl, -⟩ := literals_inj hnil hnil heq
      rfl
    | more => exact absurd (literals_inj hnil (hsegment _ _) heq).2 (by simp)
  | more _ ih =>
    cases h' with
    | last => exact absurd (literals_inj (hsegment _ _) hnil heq).2 (by simp)
    | more h' =>
      obtain ⟨rfl, hrest⟩ := literals_inj (hsegment _ _) (hsegment _ _) heq
      obtain ⟨hinside, hmore⟩ := List.cons.inj hrest
      obtain ⟨rfl, rfl⟩ := insideOf_inj (hstars _ (by simp)) (hstars' _ (by simp)) (Token.segment.inj hinside)
      rw [ih h' (fun part hpart => hstars part (by simp [hpart]))
        (fun part hpart => hstars' part (by simp [hpart])) hmore]

/-- **The parts of a template are its runs and segments**, and no other list of parts
    is.  Spelled out they are the tokens that are matched, and a token is a catch-all
    if its part is. -/
theorem parts_exact (template : Text) :
    (∀ others, AreParts (rooted template) others ↔ others = parts template) ∧
    (parts template).flatMap Part.tokens = tokens template ∧
    ∀ catchAll name, .segment catchAll name ∈ parts template →
      Token.isCatchAll (insideOf catchAll name) = catchAll := by
  have hread : IsRead (rooted template) ((parts template).flatMap Part.tokens) := by
    rw [tokens_parts]
    exact isRead_iff.2 rfl
  have halternate : Alternate (parts template) := alternate_partsFrom _ _ _
  refine ⟨fun others => ⟨?_, ?_⟩, tokens_parts template, fun _ _ => starsApart_of_mem_parts _⟩
  · intro h
    refine h.alternate.eq_of_tokens halternate ?_ starsApart_of_mem_parts ?_
    · intro part hpart
      cases part with
      | literal run => trivial
      | segment catchAll name => exact starsApart_iff.2 (h.catchAll_iff hpart)
    · rw [isRead_iff.1 h.isRead, isRead_iff.1 hread]
  · rintro rfl
    exact hread.areParts halternate starsApart_of_mem_parts

/-- Braces without an inside are literal, and two stars alone are a name. -/
theorem parts_exact_lone_stars :
    AreParts "/{}/{**}-{**x}".toList
      [.literal "/{}/".toList, .segment false "**".toList, .literal ['-'], .segment true ['x'], .literal []] ∧
    Token.isCatchAll (insideOf true ['x']) = true ∧ Token.isCatchAll (insideOf false "**".toList) = false := by
  obtain ⟨hparts, -, hcatchAll⟩ := parts_exact "/{}/{**}-{**x}".toList
  have hread : [Part.literal "/{}/".toList, .segment false "**".toList, .literal ['-'], .segment true ['x'],
      .literal []] = parts "/{}/{**}-{**x}".toList := by decide
  refine ⟨(hparts _).2 hread, hcatchAll true ['x'] ?_, hcatchAll false "**".toList ?_⟩
  · rw [← hread]
    simp
  · rw [← hread]
    simp

end SiteAudit.Route.Template
