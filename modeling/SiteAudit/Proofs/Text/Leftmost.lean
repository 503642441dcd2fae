/-
  Leftmost finds, said without a scan.

  * `Form.Reads form s found`: at the place of the find the form reads what the
    find says.
  * `Form.Advances`: what a form reads is a front of the text, and not empty.  Then
    no two finds begin at one place (`Reads.unique`).
  * `Leftmost possible place found`: of the possible finds the first that begins
    at or after the place, then the first at or after its end, and so on.
  * `leftmost_iff`: these are possible finds that follow one another, such that
    every possible find begins within one of them.
  * `leftmost_iff_eq_finds`: they are what the scan of a text finds.
  * `finds_of_whole`: of a text that is read as a whole the scan finds that alone.
-/
import Mathlib.Data.List.Pairwise
import SiteAudit.Proofs.Text.Scan

namespace SiteAudit.Text

variable {α : Type} {form : Form α} {s : Text} {f g : Find α}

attribute [ext] Find

/-! ## Readings -/

/-- At the place of the find the form reads what the find says. -/
def Form.Reads (form : Form α) (s : Text) (found : Find α) : Prop :=
  ∃ front read rest, s = front ++ (read ++ rest) ∧ front.length = found.start ∧
    read.length = found.width ∧ form front.getLast? (read ++ rest) = some (found.value, rest)

/-- What the form reads is a front of the text that is not empty. -/
def Form.Advances (form : Form α) : Prop :=
  ∀ ⦃before : Option Char⦄ ⦃s : Text⦄ ⦃value : α⦄ ⦃rest : Text⦄, form before s = some (value, rest) →
    ∃ read, read ≠ [] ∧ s = read ++ rest

theorem Form.Reads.unique (hf : form.Reads s f) (hg : form.Reads s g) (h : f.start = g.start) : f = g := by
  obtain ⟨front, read, rest, rfl, hstart, hwidth, hread⟩ := hf
  obtain ⟨front', read', rest', hsplit, hstart', hwidth', hread'⟩ := hg
  obtain ⟨rfl, hback⟩ := List.append_inj hsplit (by omega)
  rw [← hback, hread, Option.some.injEq, Prod.mk.injEq] at hread'
  obtain ⟨hvalue, rfl⟩ := hread'
  have hsame : read = read' := List.append_cancel_right hback
  exact Find.ext h (by rw [← hwidth, ← hwidth', hsame]) hvalue

theorem Form.reads_iff (kind : Option Char → α → Text → Prop) (hkind : ∀ before s value rest,
      form before s = some (value, rest) ↔ ∃ read, s = read ++ rest ∧ kind before value read) :
    form.Reads s f ↔ ∃ front read rest, s = front ++ (read ++ rest) ∧ front.length = f.start ∧
      read.length = f.width ∧ kind front.getLast? f.value read := by
  constructor
  · rintro ⟨front, read, rest, rfl, hstart, hwidth, hread⟩
    obtain ⟨taken, hsplit, htaken⟩ := (hkind _ _ _ _).1 hread
    obtain rfl : read = taken := List.append_cancel_right hsplit
    exact ⟨front, read, rest, rfl, hstart, hwidth, htaken⟩
  · rintro ⟨front, read, rest, rfl, hstart, hwidth, hread⟩
    exact ⟨front, read, rest, rfl, hstart, hwidth, (hkind _ _ _ _).2 ⟨read, rfl, hread⟩⟩

theorem Form.Reads.start_lt (hform : form.Advances) (hf : form.Reads s f) : f.start < s.length := by
  obtain ⟨front, read, rest, rfl, hstart, -, hread⟩ := hf
  obtain ⟨taken, hne, hback⟩ := hform hread
  have := List.length_pos_iff.2 hne
  rw [hback]
  simp only [List.length_append]
  omega

theorem Form.Reads.start_lt_stop (hform : form.Advances) (hf : form.Reads s f) : f.start < f.stop := by
  obtain ⟨front, read, rest, -, -, hwidth, hread⟩ := hf
  obtain ⟨taken, hne, hback⟩ := hform hread
  rw [List.append_cancel_right hback] at hwidth
  have := List.length_pos_iff.2 hne
  rw [Find.stop]
  omega

/-- The find begins before the place and ends behind it. -/
def Find.RunsOver (f : Find α) (place : Nat) : Prop :=
  f.start < place ∧ place < f.stop

/-! ## The first find, and so on -/

/-- Of the possible finds the first that begins at or after the place, then the
    first that begins at or after its end, and so on until there is none. -/
inductive Leftmost (possible : Find α → Prop) : (place : Nat) → List (Find α) → Prop
  | none {place : Nat} : (∀ f, possible f → f.start < place) → Leftmost possible place []
  | first {place : Nat} {f : Find α} {more : List (Find α)} : possible f → place ≤ f.start →
      (∀ g, possible g → place ≤ g.start → f.start ≤ g.start) → Leftmost possible f.stop more →
      Leftmost possible place (f :: more)

variable {possible : Find α → Prop} {place : Nat} {found others : List (Find α)}

/-- A place at which nothing begins can be passed over. -/
theorem Leftmost.of_succ (h : Leftmost possible (place + 1) found)
    (hnone : ∀ f, possible f → f.start ≠ place) : Leftmost possible place found := by
  cases h with
  | none hbefore =>
    refine .none fun f hf => ?_
    have := hbefore f hf
    have := hnone f hf
    omega
  | first hf hplace hfirst hmore =>
    refine .first hf (by omega) (fun g hg hle => ?_) hmore
    have := hnone g hg
    exact hfirst g hg (by omega)

/-- **There is one way to go on to the first find each time.** -/
theorem Leftmost.unique (hone : ∀ f g, possible f → possible g → f.start = g.start → f = g)
    (h : Leftmost possible place found) (hothers : Leftmost possible place others) : found = others := by
  induction h generalizing others with
  | none hbefore =>
    cases hothers with
    | none => rfl
    | first hg hplace => exact absurd (hbefore _ hg) (by omega)
  | first hf hplace hfirst _ ih =>
    cases hothers with
    | none hbefore => exact absurd (hbefore _ hf) (by omega)
    | first hg hplace' hfirst' hmore =>
      obtain rfl := hone _ _ hf hg (Nat.le_antisymm (hfirst _ hg hplace') (hfirst' _ hf hplace))
      rw [ih hmore]

/-- **Leftmost finds by their order and what they leave out**: they follow one
    another, and every possible find begins within one of them. -/
theorem leftmost_iff : Leftmost possible place found ↔
    found.Pairwise (fun f g => f.stop ≤ g.start) ∧ (∀ f ∈ found, possible f ∧ place ≤ f.start) ∧
      ∀ g, possible g → place ≤ g.start → ∃ f ∈ found, f.start ≤ g.start ∧ g.start < f.stop := by
  constructor
  · intro h
    induction h with
    | none hbefore =>
      refine ⟨.nil, by simp, fun g hg hle => ?_⟩
      exact absurd (hbefore g hg) (by omega)
    | @first place f more hf hplace hfirst _ ih =>
      obtain ⟨horder, hpossible, hcomplete⟩ := ih
      have hstop : f.start ≤ f.stop := Nat.le_add_right _ _
      refine ⟨List.pairwise_cons.2 ⟨fun g hg => (hpossible g hg).2, horder⟩, ?_, fun g hg hle => ?_⟩
      · intro g hg
        rcases List.mem_cons.1 hg with rfl | hg
        · exact ⟨hf, hplace⟩
        · exact ⟨(hpossible g hg).1, Nat.le_trans hplace (Nat.le_trans hstop (hpossible g hg).2)⟩
      · by_cases hin : g.start < f.stop
        · exact ⟨f, by simp, hfirst g hg hle, hin⟩
        · obtain ⟨e, he, hwithin⟩ := hcomplete g hg (by omega)
          exact ⟨e, by simp [he], hwithin⟩
  · rintro ⟨horder, hpossible, hcomplete⟩
    induction found generalizing place with
    | nil =>
      refine .none fun g hg => Nat.lt_of_not_le fun hle => ?_
      obtain ⟨f, hf, -⟩ := hcomplete g hg hle
      simp at hf
    | cons f more ih =>
      obtain ⟨hbehind, horder⟩ := List.pairwise_cons.1 horder
      have hstop : f.start ≤ f.stop := Nat.le_add_right _ _
      obtain ⟨hf, hplace⟩ := hpossible f (by simp)
      refine .first hf hplace (fun g hg hle => ?_) (ih horder ?_ fun g hg hle => ?_)
      · obtain ⟨e, he, hwithin, -⟩ := hcomplete g hg hle
        rcases List.mem_cons.1 he with rfl | he
        · exact hwithin
        · exact Nat.le_trans hstop (Nat.le_trans (hbehind e he) hwithin)
      · exact fun g hg => ⟨(hpossible g (by simp [hg])).1, hbehind g hg⟩
      · obtain ⟨e, he, hwithin, hbefore⟩ := hcomplete g hg (by omega)
        rcases List.mem_cons.1 he with rfl | he
        · omega
        · exact ⟨e, he, hwithin, hbefore⟩

/-! ## The scan -/

/-- From every place on, the scan goes on to the first find. -/
theorem findsFrom_leftmost (hform : form.Advances) : ∀ (s front : Text) (skip : Nat), skip ≤ s.length →
    Leftmost (form.Reads (front ++ s)) (front.length + skip)
      (findsFrom form front.length front.getLast? skip s)
  | [], front, skip, _ => by
    refine .none fun f hf => ?_
    have := hf.start_lt hform
    simp only [List.append_nil] at this
    omega
  | c :: s, front, skip, hskip => by
    have hlater (skip : Nat) (hskip : skip ≤ s.length) :
        Leftmost (form.Reads (front ++ c :: s)) (front.length + 1 + skip)
          (findsFrom form (front.length + 1) (some c) skip s) := by
      simpa using findsFrom_leftmost hform s (front ++ [c]) skip hskip
    cases skip with
    | succ skip =>
      have := hlater skip (by simpa using hskip)
      rwa [Nat.add_assoc, Nat.add_comm 1] at this
    | zero =>
      rw [findsFrom]
      split
      · next hnone =>
        refine (hlater 0 (Nat.zero_le _)).of_succ fun f hf hstart => ?_
        obtain ⟨front', read, rest, hsplit, hstart', -, hread⟩ := hf
        obtain ⟨rfl, hback⟩ := List.append_inj hsplit (by omega)
        rw [← hback, hnone] at hread
        simp at hread
      · next value rest hread =>
        obtain ⟨read, hne, hback⟩ := hform hread
        have hwidth : (c :: s).length - rest.length = read.length := by simp [hback]
        have hpos := List.length_pos_iff.2 hne
        have hlength := congrArg List.length hback
        simp only [List.length_cons, List.length_append] at hlength
        rw [hwidth]
        have hreads : form.Reads (front ++ c :: s) ⟨front.length, read.length, value⟩ :=
          ⟨front, read, rest, by rw [hback], rfl, rfl, by rw [← hback]; exact hread⟩
        refine .first hreads (by simp) (fun g _ hle => hle) ?_
        have := hlater (read.length - 1) (by omega)
        rwa [show front.length + 1 + (read.length - 1) = front.length + read.length by omega] at this

theorem finds_leftmost (hform : form.Advances) (s : Text) : Leftmost (form.Reads s) 0 (finds form s) :=
  findsFrom_leftmost hform s [] 0 (Nat.zero_le _)

/-- **The scan finds the leftmost readings, and nothing else does.** -/
theorem leftmost_iff_eq_finds (hform : form.Advances) :
    Leftmost (form.Reads s) 0 found ↔ found = finds form s := by
  constructor
  · exact fun h => h.unique (fun f g => Form.Reads.unique) (finds_leftmost hform s)
  · rintro rfl
    exact finds_leftmost hform s

/-- So it is if the possible finds are the readings under another name. -/
theorem leftmost_iff_of_reads_iff (hform : form.Advances) (hpossible : ∀ {f}, form.Reads s f ↔ possible f) :
    Leftmost possible 0 found ↔ found = finds form s := by
  have hsame : possible = form.Reads s := funext fun f => propext hpossible.symm
  rw [hsame, leftmost_iff_eq_finds hform]

/-- A text that is read as a whole is all that the scan finds. -/
theorem finds_of_whole {value : α} (hform : form.Advances) (h : form none s = some (value, [])) :
    finds form s = [⟨0, s.length, value⟩] := by
  have hreads : form.Reads s ⟨0, s.length, value⟩ := ⟨[], s, [], by simp, rfl, rfl, by simpa using h⟩
  refine ((leftmost_iff_eq_finds hform).1 (.first hreads (Nat.le_refl 0) (fun g _ hle => hle) (.none ?_))).symm
  intro g hg
  simpa [Find.stop] using hg.start_lt hform

theorem reads_of_mem_finds (hform : form.Advances) (h : f ∈ finds form s) : form.Reads s f :=
  ((leftmost_iff.1 (finds_leftmost hform s)).2.1 f h).1

theorem exists_find_of_reads (hform : form.Advances) (h : form.Reads s g) :
    ∃ f ∈ finds form s, f.start ≤ g.start ∧ g.start < f.stop :=
  (leftmost_iff.1 (finds_leftmost hform s)).2.2 g h (Nat.zero_le _)

theorem not_runsOver_of_mem_finds (hf : f ∈ finds form s) (hg : g ∈ finds form s) : ¬ f.RunsOver g.start := by
  have horder := finds_leftToRight form s
  have hforward : (finds form s).Pairwise fun f g => ¬ f.RunsOver g.start :=
    horder.imp fun hle (h : Find.RunsOver _ _) => Nat.not_le.2 h.2 hle
  have hbackward : (finds form s).Pairwise fun f g => ¬ g.RunsOver f.start :=
    horder.imp fun hle (h : Find.RunsOver _ _) =>
      Nat.lt_irrefl _ (Nat.lt_of_lt_of_le h.1 (Nat.le_trans (Nat.le_add_right _ _) hle))
  exact hforward.forall_of_forall_of_flip (fun f _ h => Nat.lt_irrefl _ h.1) hbackward hf hg

end SiteAudit.Text
