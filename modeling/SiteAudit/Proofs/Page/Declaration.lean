/-
  The declarations of a page, said without a scan.

  * `IsDeclaration s found`: at the find's place stand `@page` in any case, blanks,
    and between double quotes a template that is not empty and holds no quote.
  * `reads_iff`: these are the readings of a text, so at most one begins at a place.
  * `ofText_exact`: what a page lists are the leftmost declarations of its text, in
    order and apart from one another, each with its template; one that is not
    listed begins within a listed one, and live are those outside all comments.
  * `live_listed_iff`: a live declaration is listed unless one that begins in a
    comment goes on past the comment's end and takes its start.
-/
import SiteAudit.Page.Declaration
import SiteAudit.Proofs.Page.Comment
import SiteAudit.Proofs.Text.Blank
import SiteAudit.Proofs.Text.Recased

namespace SiteAudit.Page.Declaration

open Text Comment

variable {s rest template : Text} {found d e : Find Text} {declaration : Declaration}

/-- A declaration stands at the place of the find, as wide as the find, and its
    template is what the find says. -/
def IsDeclaration (s : Text) (found : Find Text) : Prop :=
  ∃ front opening blanks rest, s = front ++ (opening ++ blanks ++ '"' :: found.value ++ '"' :: rest) ∧
    front.length = found.start ∧ opening.map Char.toLower = ['@', 'p', 'a', 'g', 'e'] ∧
    (∀ c ∈ blanks, isBlank c = true) ∧ found.value ≠ [] ∧ '"' ∉ found.value ∧
    found.width = (opening ++ blanks ++ '"' :: found.value ++ ['"']).length

/-! ## Reading one declaration -/

theorem form_eq_some_iff {before : Option Char} : form before s = some (template, rest) ↔
    ∃ opening blanks, s = opening ++ blanks ++ '"' :: template ++ '"' :: rest ∧
      opening.map Char.toLower = ['@', 'p', 'a', 'g', 'e'] ∧ (∀ c ∈ blanks, isBlank c = true) ∧
      template ≠ [] ∧ '"' ∉ template := by
  have hword : ∀ a ∈ word, isPlainAscii a = true := List.all_eq_true.1 (by decide)
  constructor
  · intro h
    obtain ⟨afterWord, hafter, hrest⟩ := Option.bind_eq_some_iff.1 h
    obtain ⟨opening, rfl, hopening⟩ := (dropWord?_eq_some_iff hword).1 hafter
    split at hrest
    · next quoted htrim =>
      obtain ⟨blanks, rfl, hblanks⟩ := (trimLeft_eq_cons_iff (by decide)).1 htrim
      obtain ⟨⟨value, after⟩, hvalue, hfound⟩ := Option.bind_eq_some_iff.1 hrest
      obtain ⟨rfl, hquote⟩ := upTo?_eq_some_iff.1 hvalue
      obtain ⟨hne, rfl, rfl⟩ : value ≠ [] ∧ value = template ∧ after = rest := by simpa using hfound
      exact ⟨opening, blanks, by simp, hopening, hblanks, hne, hquote⟩
    · simp at hrest
  · rintro ⟨opening, blanks, rfl, hopening, hblanks, hne, hquote⟩
    have hafter : dropWord? word (opening ++ blanks ++ '"' :: template ++ '"' :: rest) =
        some (blanks ++ '"' :: (template ++ '"' :: rest)) :=
      (dropWord?_eq_some_iff hword).2 ⟨opening, by simp, hopening⟩
    have htrim : trimLeft (blanks ++ '"' :: (template ++ '"' :: rest)) = '"' :: (template ++ '"' :: rest) :=
      (trimLeft_eq_cons_iff (by decide)).2 ⟨blanks, rfl, hblanks⟩
    have hvalue : upTo? '"' (template ++ '"' :: rest) = some (template, rest) :=
      upTo?_eq_some_iff.2 ⟨rfl, hquote⟩
    simp only [form, hafter, htrim, hvalue, Option.bind_eq_bind, Option.bind_some, if_neg hne]

theorem form_advances : form.Advances := by
  intro before s template rest h
  obtain ⟨opening, blanks, rfl, -⟩ := form_eq_some_iff.1 h
  exact ⟨opening ++ blanks ++ '"' :: template ++ ['"'], by simp, by simp⟩

/-- **The readings of a text are its declarations.** -/
theorem reads_iff : form.Reads s found ↔ IsDeclaration s found := by
  constructor
  · rintro ⟨front, read, rest, rfl, hstart, hwidth, hread⟩
    obtain ⟨opening, blanks, hsplit, hopening, hblanks, hne, hquote⟩ := form_eq_some_iff.1 hread
    have hread : read = opening ++ blanks ++ '"' :: found.value ++ ['"'] :=
      List.append_cancel_right (by simpa using hsplit)
    exact ⟨front, opening, blanks, rest, by rw [hsplit], hstart, hopening, hblanks, hne, hquote, by rw [← hwidth, hread]⟩
  · rintro ⟨front, opening, blanks, rest, rfl, hstart, hopening, hblanks, hne, hquote, hwidth⟩
    exact ⟨front, opening ++ blanks ++ '"' :: found.value ++ ['"'], rest, by simp, hstart, hwidth.symm,
      form_eq_some_iff.2 ⟨opening, blanks, by simp, hopening, hblanks, hne, hquote⟩⟩

/-! ## The declarations of a text -/

theorem isDeclaration_unique (hd : IsDeclaration s d) (he : IsDeclaration s e) (h : d.start = e.start) : d = e :=
  (reads_iff.2 hd).unique (reads_iff.2 he) h

theorem leftmost_iff_eq_finds {listed : List (Find Text)} :
    Leftmost (IsDeclaration s) 0 listed ↔ listed = finds form s :=
  leftmost_iff_of_reads_iff form_advances reads_iff

theorem live_iff : (!covers (spans s) found.start) = true ↔ ¬ Commented s found.start := by
  rw [commented_iff, Bool.not_eq_true', Bool.not_eq_true]

/-- **A page lists the leftmost declarations of its text.**  At most one declaration
    begins at a place.  Listed are, in order and apart from one another, the first
    one, the first one behind it, and so on, each with its template and live
    exactly if it begins outside all comments; any other begins within a listed one. -/
theorem ofText_exact (s : Text) :
    (∀ d e, IsDeclaration s d → IsDeclaration s e → d.start = e.start → d = e) ∧
    ∃ listed : List (Find Text), (∀ others, Leftmost (IsDeclaration s) 0 others ↔ others = listed) ∧
      listed.Pairwise (fun d e => d.start < e.start ∧ d.stop ≤ e.start) ∧
      (∀ d, IsDeclaration s d → ∃ e ∈ listed, d = e ∨ e.RunsOver d.start) ∧
      List.Forall₂ (fun (declaration : Declaration) d => declaration.template = d.value ∧ declaration.offset = d.start ∧
        (declaration.live = true ↔ ¬ Commented s d.start)) (ofText s) listed := by
  refine ⟨fun d e => isDeclaration_unique, finds form s, fun others => leftmost_iff_eq_finds, ?_, fun d hd => ?_, ?_⟩
  · refine (finds_leftToRight form s).imp_of_mem fun {d e} hd _ hle => ⟨?_, hle⟩
    exact Nat.lt_of_lt_of_le ((reads_of_mem_finds form_advances hd).start_lt_stop form_advances) hle
  · obtain ⟨e, he, hstart, hstop⟩ := exists_find_of_reads form_advances (reads_iff.2 hd)
    refine ⟨e, he, ?_⟩
    rcases Nat.eq_or_lt_of_le hstart with h | h
    · exact Or.inl (isDeclaration_unique hd (reads_iff.1 (reads_of_mem_finds form_advances he)) h.symm)
    · exact Or.inr ⟨h, hstop⟩
  · rw [ofText, List.forall₂_map_left_iff, List.forall₂_same]
    exact fun d _ => ⟨rfl, rfl, live_iff⟩

/-! ## Live declarations -/

theorem mem_ofText_iff {live : Bool} (hd : IsDeclaration s d) : ⟨d.value, live, d.start⟩ ∈ ofText s ↔
    d ∈ finds form s ∧ (live = true ↔ ¬ Commented s d.start) := by
  rw [ofText, List.mem_map]
  constructor
  · rintro ⟨f, hf, heq⟩
    obtain ⟨hvalue, rfl, hstart⟩ := Declaration.mk.inj heq
    obtain rfl := isDeclaration_unique (reads_iff.1 (reads_of_mem_finds form_advances hf)) hd hstart
    exact ⟨hf, live_iff⟩
  · rintro ⟨hf, hlive⟩
    exact ⟨d, hf, by rw [Declaration.mk.injEq, Bool.eq_iff_iff, live_iff, hlive]; simp⟩

/-- **When a live declaration is listed.**  Let a declaration begin outside all
    comments and within no other declaration that does.  It is listed, as live and
    with its template, exactly if no listed declaration that begins in a comment
    runs over its start; so it is if every declaration that begins in a comment lies
    in comments as a whole. -/
theorem live_listed_iff (hd : IsDeclaration s d) (hlive : ¬ Commented s d.start)
    (hfree : ∀ e, IsDeclaration s e → ¬ Commented s e.start → ¬ e.RunsOver d.start) :
    (⟨d.value, true, d.start⟩ ∈ ofText s ↔
      ∀ e, IsDeclaration s e → ⟨e.value, false, e.start⟩ ∈ ofText s → ¬ e.RunsOver d.start) ∧
    ((∀ e, IsDeclaration s e → Commented s e.start → ∀ place, e.start ≤ place → place < e.stop → Commented s place) →
      ⟨d.value, true, d.start⟩ ∈ ofText s) := by
  have hlisted : ⟨d.value, true, d.start⟩ ∈ ofText s ↔
      ∀ e, IsDeclaration s e → ⟨e.value, false, e.start⟩ ∈ ofText s → ¬ e.RunsOver d.start := by
    rw [mem_ofText_iff hd, and_iff_left (by simp [hlive])]
    constructor
    · intro hmem e he hhidden
      exact not_runsOver_of_mem_finds ((mem_ofText_iff he).1 hhidden).1 hmem
    · intro hhidden
      obtain ⟨e, hmem, hstart, hstop⟩ := exists_find_of_reads form_advances (reads_iff.2 hd)
      have he := reads_iff.1 (reads_of_mem_finds form_advances hmem)
      rcases Nat.eq_or_lt_of_le hstart with h | h
      · exact isDeclaration_unique he hd h ▸ hmem
      · by_cases hcomment : Commented s e.start
        · exact absurd ⟨h, hstop⟩ (hhidden e he ((mem_ofText_iff he).2 ⟨hmem, by simp [hcomment]⟩))
        · exact absurd ⟨h, hstop⟩ (hfree e he hcomment)
  refine ⟨hlisted, fun hwhole => hlisted.2 fun e he hhidden hover => hlive ?_⟩
  have hcomment : Commented s e.start := by simpa using ((mem_ofText_iff he).1 hhidden).2
  exact hwhole e he hcomment d.start (Nat.le_of_lt hover.1) hover.2

/-- Where the declarations of a text begin. -/
def places (s : Text) : List Nat :=
  (List.range s.length).filter fun place => (form none (s.drop place)).isSome

theorem start_mem_places (hd : IsDeclaration s d) : d.start ∈ places s := by
  refine List.mem_filter.2 ⟨List.mem_range.2 ((reads_iff.2 hd).start_lt form_advances), ?_⟩
  obtain ⟨front, opening, blanks, rest, rfl, hstart, hopening, hblanks, hne, hquote, -⟩ := hd
  rw [← hstart, List.drop_left, Option.isSome_iff_exists]
  exact ⟨_, form_eq_some_iff.2 ⟨opening, blanks, rfl, hopening, hblanks, hne, hquote⟩⟩

theorem eq_or_eq_of_places (hd : IsDeclaration s d) (he : IsDeclaration s e) (h : places s = [d.start, e.start])
    (hfound : IsDeclaration s found) : found = d ∨ found = e := by
  have hstart := start_mem_places hfound
  rw [h, List.mem_pair] at hstart
  exact hstart.imp (isDeclaration_unique hfound hd) (isDeclaration_unique hfound he)

/-- A declaration as usually written. -/
def written (template : Text) : Text :=
  word ++ [' '] ++ '"' :: template ++ ['"']

theorem isDeclaration_written (front template rest : Text) (hne : template ≠ []) (hquote : '"' ∉ template) :
    IsDeclaration (front ++ (written template ++ rest)) ⟨front.length, (written template).length, template⟩ := by
  refine ⟨front, word, [' '], rest, by simp [written], rfl, by decide, by simp [isBlank], hne, hquote, rfl⟩

/-- A page with a declaration that is commented out and a live one. -/
def replaced : Text :=
  ['@', '*'] ++ written ['/', 'o', 'l', 'd'] ++ ['*', '@'] ++ written ['/', 'x']

theorem live_listed_replaced : IsDeclaration replaced ⟨16, 10, ['/', 'x']⟩ ∧ ¬ Commented replaced 16 ∧
    (∀ e, IsDeclaration replaced e → ¬ Commented replaced e.start → ¬ e.RunsOver 16) ∧
    (∀ e, IsDeclaration replaced e → Commented replaced e.start →
      ∀ place, e.start ≤ place → place < e.stop → Commented replaced place) ∧
    ⟨['/', 'x'], true, 16⟩ ∈ ofText replaced := by
  have hold : IsDeclaration replaced ⟨2, 12, ['/', 'o', 'l', 'd']⟩ :=
    isDeclaration_written ['@', '*'] ['/', 'o', 'l', 'd'] (['*', '@'] ++ written ['/', 'x']) (by decide) (by decide)
  have hd : IsDeclaration replaced ⟨16, 10, ['/', 'x']⟩ :=
    isDeclaration_written (['@', '*'] ++ written ['/', 'o', 'l', 'd'] ++ ['*', '@']) ['/', 'x'] [] (by decide) (by decide)
  have hplaces : places replaced = [2, 16] := by decide +kernel
  have hspans : spans replaced = [⟨0, 15⟩] := by decide +kernel
  have hcommented {place : Nat} : Commented replaced place ↔ place ≤ 15 := by
    simp only [commented_iff, covers_iff, hspans, Int.ofNat_inj, exists_eq_left', List.mem_singleton, exists_eq_left]
    omega
  have hlive : ¬ Commented replaced 16 := by simp [hcommented]
  have hfree (e : Find Text) (he : IsDeclaration replaced e) (hlive : ¬ Commented replaced e.start) : ¬ e.RunsOver 16 := by
    rcases eq_or_eq_of_places hold hd hplaces he with rfl | rfl <;> simp [Find.RunsOver, Find.stop]
  have hwhole (e : Find Text) (he : IsDeclaration replaced e) (hcomment : Commented replaced e.start) (place : Nat)
      (hstart : e.start ≤ place) (hstop : place < e.stop) : Commented replaced place := by
    rcases eq_or_eq_of_places hold hd hplaces he with rfl | rfl
    · rw [hcommented]
      simp only [Find.stop] at hstop
      omega
    · exact absurd hcomment hlive
  exact ⟨hd, hlive, hfree, hwhole, (live_listed_iff hd hlive hfree).2 hwhole⟩

/-- A page with half a declaration in a comment, and a live declaration behind it. -/
def halfWritten : Text :=
  ['@', '*', ' '] ++ word ++ [' ', '"', ' ', '*', '@', '\n'] ++ written ['/', 'x']

/-- The half declaration goes on to the first quote of the live one, which is lost. -/
theorem half_declaration_hides : IsDeclaration halfWritten ⟨14, 10, ['/', 'x']⟩ ∧ ¬ Commented halfWritten 14 ∧
    (∀ e, IsDeclaration halfWritten e → ¬ Commented halfWritten e.start → ¬ e.RunsOver 14) ∧
    ⟨['/', 'x'], true, 14⟩ ∉ ofText halfWritten := by
  have hd : IsDeclaration halfWritten ⟨14, 10, ['/', 'x']⟩ :=
    isDeclaration_written (['@', '*', ' '] ++ word ++ [' ', '"', ' ', '*', '@', '\n']) ['/', 'x'] [] (by decide) (by decide)
  have hhalf : IsDeclaration halfWritten ⟨3, 18, [' ', '*', '@', '\n', '@', 'p', 'a', 'g', 'e', ' ']⟩ :=
    isDeclaration_written ['@', '*', ' '] [' ', '*', '@', '\n', '@', 'p', 'a', 'g', 'e', ' '] ['/', 'x', '"']
      (by decide) (by decide)
  have hplaces : places halfWritten = [3, 14] := by decide +kernel
  have hspans : spans halfWritten = [⟨0, 12⟩] := by decide +kernel
  have hcommented {place : Nat} : Commented halfWritten place ↔ place ≤ 12 := by
    simp only [commented_iff, covers_iff, hspans, Int.ofNat_inj, exists_eq_left', List.mem_singleton, exists_eq_left]
    omega
  refine ⟨hd, by simp [hcommented], fun e he hlive => ?_, by decide +kernel⟩
  rcases eq_or_eq_of_places hhalf hd hplaces he with rfl | rfl
  · simp [hcommented] at hlive
  · simp [Find.RunsOver]

end SiteAudit.Page.Declaration
