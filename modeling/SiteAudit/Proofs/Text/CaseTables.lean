/-
  What the case tables say of single letters.

  * `CaseRun.image`: the letters to which a run leads, as a run back.  Facts
    about whole runs are checked on their ends and carried to the letters.
  * `lowerLetter_lowerLetter`: a small letter stays.
  * `letterClass_of_foldLetter`: a letter that folds to a single letter is the
    same letter as that one.
  * `fold_foldLetter`: a letter that folds to several folds no further.
  * `isSign`: an ASCII character that is no letter.  It is the same letter as
    itself only (`sameLetter_iff_eq`).
-/
import Mathlib.Data.List.Chain
import SiteAudit.Text.Blank
import SiteAudit.Text.Fold
import SiteAudit.Text.SameLetter

namespace SiteAudit.Text

deriving instance DecidableEq for CaseRun

/-! ## Runs -/

namespace CaseRun

/-- The run that leads back. -/
def image (run : CaseRun) : CaseRun :=
  ⟨(run.first + run.shift).toNat, (run.last + run.shift).toNat, run.step, -run.shift⟩

/-- The letters of a run. -/
def codes (run : CaseRun) : List Nat :=
  (List.range (run.last - run.first + 1)).map (run.first + ·)

/-- No letter of the first run is one of the second: they lie apart, or both skip
    every other letter and take turns. -/
def misses (a b : CaseRun) : Bool :=
  Nat.blt a.last b.first || Nat.blt b.last a.first ||
    (b.step == 2 && (a.step == 2 || a.first == a.last) && (a.first + b.first) % 2 == 1)

/-- All letters of the run are characters, none a surrogate. -/
def isScalar (run : CaseRun) : Bool :=
  Nat.blt run.last 0xd800 || (Nat.blt 0xdfff run.first && Nat.blt run.last 0x110000)

variable {run a b : CaseRun} {n : Nat}

theorem has_iff : run.has n = true ↔
    run.first ≤ n ∧ n ≤ run.last ∧ (n - run.first) % run.step = 0 := by
  simp [has, and_assoc]

theorem mem_codes_of_has (h : run.has n = true) : n ∈ run.codes := by
  obtain ⟨h1, h2, -⟩ := has_iff.1 h
  exact List.mem_map.2 ⟨n - run.first, List.mem_range.2 (by omega), by omega⟩

theorem not_has_of_misses (h : a.misses b = true) (ha : a.has n = true) : b.has n = false := by
  obtain ⟨a1, a2, a3⟩ := has_iff.1 ha
  refine Bool.eq_false_iff.2 fun hb => ?_
  obtain ⟨b1, b2, b3⟩ := has_iff.1 hb
  simp only [misses, Bool.or_eq_true, Bool.and_eq_true, Nat.blt_eq, beq_iff_eq] at h
  rcases h with (h | h) | ⟨⟨hb, hstep⟩, hodd⟩
  · omega
  · omega
  · rw [hb] at b3
    have : (n - a.first) % 2 = 0 := by
      rcases hstep with h | h
      · rwa [h] at a3
      · rw [show n - a.first = 0 by omega]
    omega

theorem isValidChar_of_isScalar (h : run.isScalar = true) (hn : run.has n = true) :
    n.isValidChar := by
  obtain ⟨h1, h2, -⟩ := has_iff.1 hn
  simp only [isScalar, Bool.or_eq_true, Bool.and_eq_true, Nat.blt_eq] at h
  unfold Nat.isValidChar
  omega

theorem has_image (h : 0 ≤ run.first + run.shift) (hn : run.has n = true) :
    run.image.has (n + run.shift).toNat = true := by
  obtain ⟨h1, h2, h3⟩ := has_iff.1 hn
  refine has_iff.2 ⟨?_, ?_, ?_⟩
  · simp only [image]; omega
  · simp only [image]; omega
  · simp only [image]
    rw [show ((n : Int) + run.shift).toNat - (run.first + run.shift).toNat = n - run.first by omega]
    exact h3

end CaseRun

theorem toNat_ofNat {n : Nat} (h : n.isValidChar) : (Char.ofNat n).toNat = n := by
  rw [Char.ofNat, dif_pos h]
  rfl

variable {runs : List CaseRun} {run : CaseRun} {c : Char}

theorem shiftBy_of_not_has (h : ∀ run ∈ runs, run.has c.toNat = false) : shiftBy runs c = c := by
  have : runs.find? (·.has c.toNat) = none := List.find?_eq_none.2 fun run hr => by simp [h run hr]
  rw [shiftBy, this]

theorem shiftBy_eq (runs : List CaseRun) (c : Char) : shiftBy runs c = c ∨
    ∃ run ∈ runs, run.has c.toNat = true ∧ shiftBy runs c = Char.ofNat (c.toNat + run.shift).toNat := by
  cases h : runs.find? (·.has c.toNat) with
  | none => exact Or.inl (by rw [shiftBy, h])
  | some run => exact Or.inr ⟨run, List.mem_of_find?_eq_some h, by simpa using List.find?_some h,
    by rw [shiftBy, h]⟩

/-- Where runs follow each other, a letter has no other run than its own. -/
theorem find?_eq_some_of_has {n : Nat} (ho : runs.Pairwise fun a b => a.last < b.first)
    (hr : run ∈ runs) (hn : run.has n = true) : runs.find? (·.has n) = some run := by
  induction ho with
  | nil => simp at hr
  | @cons r rs hlt _ ih =>
    rcases List.mem_cons.1 hr with rfl | hr
    · exact List.find?_cons_of_pos hn
    · have hno : r.has n = false := by
        refine Bool.eq_false_iff.2 fun h => ?_
        have h1 := (CaseRun.has_iff.1 h).2.1
        have h2 := (CaseRun.has_iff.1 hn).1
        have := hlt run hr
        omega
      rw [List.find?_cons_of_neg (by simp [hno])]
      exact ih hr

/-! ## Small letters -/

/-- What the table says: runs follow each other, no run leads into another or
    past the characters, and into ASCII lead only the dotted capital I and the
    Kelvin sign. -/
theorem lowerRuns_spec :
    (lowerRuns.IsChain fun a b => a.last < b.first ∧ b.first ≤ b.last) ∧
    ∀ run ∈ lowerRuns, 0 ≤ run.first + run.shift ∧ run.image.isScalar = true ∧
      (run.image.first < 128 → run.image.first = run.image.last ∧
        (run.image.first = 0x69 ∨ run.image.first = 0x6b)) ∧
      (lowerRuns.all fun b => run.image.misses b) = true := by
  decide +kernel

theorem lowerRuns_pairwise : lowerRuns.Pairwise fun a b => a.last < b.first := by
  have htrans : IsTrans CaseRun fun a b => a.last < b.first ∧ b.first ≤ b.last :=
    ⟨fun a b c hab hbc => ⟨by omega, hbc.2⟩⟩
  exact (List.isChain_iff_pairwise.1 lowerRuns_spec.1).imp fun h => h.1

/-- No run starts among the letters to which a run leads. -/
theorem misses_of_mem_lowerRuns {a b : CaseRun} (ha : a ∈ lowerRuns) (hb : b ∈ lowerRuns) :
    a.image.misses b = true :=
  List.all_eq_true.1 (lowerRuns_spec.2 a ha).2.2.2 b hb

theorem lowerLetter_of_ascii (h : c.toNat < 128) : lowerLetter c = c.toLower := by
  simp [lowerLetter, h]

theorem lowerLetter_of_not_ascii (h : ¬ c.toNat < 128) : lowerLetter c = shiftBy lowerRuns c := by
  simp [lowerLetter, h]

/-- What holds of small letters in ASCII: they stay, and a character that is no
    letter is the small letter of itself only. -/
theorem ascii_spec : ∀ n < 128, lowerLetter (lowerLetter (Char.ofNat n)) = lowerLetter (Char.ofNat n) ∧
    ((Char.ofNat n).toLower.isAlpha = false → (Char.ofNat n).toLower = Char.ofNat n) ∧
    ((Char.ofNat n).isAlpha = false → lowerLetter (Char.ofNat n) = Char.ofNat n) := by
  decide +kernel

/-- A letter beyond ASCII with a small letter, by the run it belongs to. -/
theorem has_image_lowerLetter (hr : run ∈ lowerRuns) (hn : run.has c.toNat = true)
    (h : shiftBy lowerRuns c = Char.ofNat (c.toNat + run.shift).toNat) :
    run.image.has (shiftBy lowerRuns c).toNat = true := by
  obtain ⟨h0, hs, -⟩ := lowerRuns_spec.2 run hr
  have himage := CaseRun.has_image h0 hn
  rwa [h, toNat_ofNat (CaseRun.isValidChar_of_isScalar hs himage)]

theorem lowerLetter_ascii (hc : ¬ c.toNat < 128) (h : (lowerLetter c).toNat < 128) :
    lowerLetter c = 'i' ∨ lowerLetter c = 'k' := by
  rw [lowerLetter_of_not_ascii hc] at h ⊢
  rcases shiftBy_eq lowerRuns c with hs | ⟨run, hr, hn, hs⟩
  · rw [hs] at h
    exact absurd h hc
  · obtain ⟨h1, h2, -⟩ := CaseRun.has_iff.1 (has_image_lowerLetter hr hn hs)
    obtain ⟨hone, hik⟩ := (lowerRuns_spec.2 run hr).2.2.1 (by omega)
    refine Or.imp (fun h => ?_) (fun h => ?_) hik
    · rw [← Char.toNat_inj, show (shiftBy lowerRuns c).toNat = 0x69 by omega]; rfl
    · rw [← Char.toNat_inj, show (shiftBy lowerRuns c).toNat = 0x6b by omega]; rfl

theorem lowerLetter_lowerLetter (c : Char) : lowerLetter (lowerLetter c) = lowerLetter c := by
  by_cases hc : c.toNat < 128
  · simpa using (ascii_spec c.toNat hc).1
  by_cases hsmall : (lowerLetter c).toNat < 128
  · rcases lowerLetter_ascii hc hsmall with h | h <;> rw [h] <;> rfl
  · rw [lowerLetter_of_not_ascii hsmall, lowerLetter_of_not_ascii hc]
    rcases shiftBy_eq lowerRuns c with hs | ⟨run, hr, hn, hs⟩
    · rw [hs, hs]
    · exact shiftBy_of_not_has fun b hb =>
        CaseRun.not_has_of_misses (misses_of_mem_lowerRuns hr hb) (has_image_lowerLetter hr hn hs)

/-! ## Classes of letters -/

theorem letterClass_congr {d : Char} (h : lowerLetter c = lowerLetter d) :
    letterClass c = letterClass d := by
  simp only [letterClass, h]

theorem letterClass_lowerLetter (c : Char) : letterClass (lowerLetter c) = letterClass c :=
  letterClass_congr (lowerLetter_lowerLetter c)

/-- Where the runs of letters start that fold otherwise than to their small letter. -/
def foldedApart : List Nat := [
  0xb5, 0x17f, 0x345, 0x3c2, 0x3d0, 0x3d1, 0x3d5, 0x3d6, 0x3f0, 0x3f1, 0x3f5, 0x13f8, 0x1c80,
  0x1c81, 0x1c82, 0x1c83, 0x1c85, 0x1c86, 0x1c87, 0x1c88, 0x1e9b, 0x1fbe, 0xab70]

/-- What the table of folds says: most of its runs are runs of small letters.  A
    letter of any other run folds to its capital, or to a letter of its class. -/
theorem foldRuns_spec :
    ((foldRuns.filter fun run => !foldedApart.contains run.first).isSublist lowerRuns) = true ∧
    ∀ run ∈ foldRuns, run.first ∈ foldedApart →
      (128 ≤ run.first + run.shift ∧ run.image.isScalar = true ∧ run.image ∈ lowerRuns) ∨
        ∀ n ∈ run.codes, letterClass (Char.ofNat n) = letterClass (Char.ofNat (n + run.shift).toNat) := by
  decide +kernel

theorem mem_lowerRuns_of_mem_foldRuns (hr : run ∈ foldRuns) (h : run.first ∉ foldedApart) :
    run ∈ lowerRuns :=
  (List.isSublist_iff_sublist.1 foldRuns_spec.1).subset (List.mem_filter.2 ⟨hr, by simpa using h⟩)

/-- What the table of long folds says: its letters are neither ASCII nor blank,
    and fold to several letters, none a brace, that fold no further. -/
theorem longFolds_spec : ∀ entry ∈ longFolds, 128 ≤ entry.1 ∧ isBlank (Char.ofNat entry.1) = false ∧
    2 ≤ entry.2.length ∧ ∀ n ∈ entry.2, Char.ofNat n ≠ '{' ∧
      foldLetter (Char.ofNat n) = [Char.ofNat n] := by
  decide +kernel

theorem shiftBy_of_foldLetter {d : Char} (hc : ¬ c.toNat < 128) (h : foldLetter c = [d]) :
    shiftBy foldRuns c = d := by
  simp only [foldLetter, hc, if_false, longShiftBy] at h
  split at h
  · next codes hl =>
    have hlen := congrArg List.length h
    obtain ⟨l₁, l₂, hsplit, -⟩ := List.lookup_eq_some_iff.1 hl
    have : 2 ≤ codes.length := (longFolds_spec (c.toNat, codes) (by rw [hsplit]; simp)).2.2.1
    simp only [List.length_map, List.length_singleton] at hlen
    omega
  · simpa using h

/-- **A letter that folds to a single letter is the same letter as that one.** -/
theorem letterClass_of_foldLetter {d : Char} (h : foldLetter c = [d]) :
    letterClass c = letterClass d := by
  by_cases hc : c.toNat < 128
  · obtain rfl : c.toLower = d := by simpa [foldLetter, hc] using h
    rw [← lowerLetter_of_ascii hc, letterClass_lowerLetter]
  · have hd := shiftBy_of_foldLetter hc h
    rcases shiftBy_eq foldRuns c with hs | ⟨run, hr, hn, hs⟩
    · rw [← hd, hs]
    rw [hd] at hs
    by_cases hapart : run.first ∈ foldedApart
    · rcases foldRuns_spec.2 run hr hapart with ⟨h0, hscalar, hback⟩ | hcodes
      · -- the small letter of the folded one is the letter itself
        have himage := CaseRun.has_image (by omega) hn
        have hdn : d.toNat = (c.toNat + run.shift).toNat := by
          rw [hs]; exact toNat_ofNat (CaseRun.isValidChar_of_isScalar hscalar himage)
        rw [← hdn] at himage
        have hge := (CaseRun.has_iff.1 hn).1
        have hlower : lowerLetter d = c := by
          rw [lowerLetter_of_not_ascii (by omega), shiftBy,
            find?_eq_some_of_has lowerRuns_pairwise hback himage, ← Char.ofNat_toNat c]
          simp only [CaseRun.image]
          congr 1
          omega
        rw [← letterClass_lowerLetter d, hlower]
      · have := hcodes c.toNat (CaseRun.mem_codes_of_has hn)
        rwa [Char.ofNat_toNat, ← hs] at this
    · have hlower := mem_lowerRuns_of_mem_foldRuns hr hapart
      have : lowerLetter c = d := by
        rw [lowerLetter_of_not_ascii hc, shiftBy, find?_eq_some_of_has lowerRuns_pairwise hlower hn, hs]
      rw [← this, letterClass_lowerLetter]

/-! ## Letters that fold to several -/

/-- The letter folds to a single letter. -/
def foldsToOne (c : Char) : Bool :=
  (foldLetter c).length == 1

theorem foldLetter_of_foldsToOne (h : foldsToOne c = true) :
    ∃ d, foldLetter c = [d] ∧ letterClass c = letterClass d := by
  obtain ⟨d, hd⟩ := List.length_eq_one_iff.1 (by simpa [foldsToOne] using h)
  exact ⟨d, hd, letterClass_of_foldLetter hd⟩

theorem exists_longFold (h : foldsToOne c = false) :
    ∃ codes, (c.toNat, codes) ∈ longFolds ∧ foldLetter c = codes.map Char.ofNat := by
  by_cases hc : c.toNat < 128
  · simp [foldsToOne, foldLetter, hc] at h
  · cases hl : longFolds.lookup c.toNat with
    | none => simp [foldsToOne, foldLetter, hc, longShiftBy, hl] at h
    | some codes =>
      obtain ⟨l₁, l₂, hsplit, -⟩ := List.lookup_eq_some_iff.1 hl
      exact ⟨codes, by rw [hsplit]; simp, by simp [foldLetter, hc, longShiftBy, hl]⟩

/-- A letter that does not fold to one folds to two at least, none of them a brace. -/
theorem two_le_length_foldLetter (h : foldsToOne c = false) :
    2 ≤ (foldLetter c).length ∧ '{' ∉ foldLetter c := by
  obtain ⟨codes, hmem, hcodes⟩ := exists_longFold h
  obtain ⟨-, -, hlength, hparts⟩ := longFolds_spec _ hmem
  rw [hcodes]
  refine ⟨by simpa using hlength, fun hb => ?_⟩
  obtain ⟨n, hn, heq⟩ := List.mem_map.1 hb
  exact (hparts n hn).1 heq

theorem not_ascii_of_foldsToOne (h : foldsToOne c = false) : 128 ≤ c.toNat ∧ isBlank c = false := by
  obtain ⟨codes, hmem, -⟩ := exists_longFold h
  obtain ⟨hascii, hblank, -⟩ := longFolds_spec _ hmem
  exact ⟨hascii, by simpa using hblank⟩

theorem fold_foldLetter (h : foldsToOne c = false) : fold (foldLetter c) = foldLetter c := by
  obtain ⟨codes, hmem, hcodes⟩ := exists_longFold h
  obtain ⟨-, -, -, hparts⟩ := longFolds_spec _ hmem
  rw [hcodes, fold, List.flatMap_map]
  calc codes.flatMap (fun n => foldLetter (Char.ofNat n))
      = codes.flatMap (fun n => [Char.ofNat n]) := List.flatMap_congr fun n hn => (hparts n hn).2
    _ = codes.map Char.ofNat := List.flatMap_pure_eq_map Char.ofNat codes

/-! ## Signs -/

/-- An ASCII character that is no letter. -/
def isSign (c : Char) : Bool :=
  decide (c.toNat < 128) && !c.isAlpha

theorem isSign_iff : isSign c = true ↔ c.toNat < 128 ∧ c.isAlpha = false := by
  simp [isSign]

theorem secondSpellings_ascii : ∀ entry ∈ secondSpellings,
    Char.ofNat entry.2 = 'i' ∨ Char.ofNat entry.2 = 's' ∨ 128 ≤ (Char.ofNat entry.2).toNat := by
  decide +kernel

/-- A class that does not hold its small letter is that of a second spelling. -/
theorem letterClass_second {d : Char} (hc : ¬ (lowerLetter c).toNat < 128) (hd : d.toNat < 128)
    (h : letterClass c = d) : d = 'i' ∨ d = 's' := by
  simp only [letterClass, hc, if_false] at h
  split at h
  · next n hl =>
    obtain ⟨l₁, l₂, hsplit, -⟩ := List.lookup_eq_some_iff.1 hl
    rcases secondSpellings_ascii ((lowerLetter c).toNat, n) (by rw [hsplit]; simp) with hi | hs | hn
    · exact Or.inl (h ▸ hi)
    · exact Or.inr (h ▸ hs)
    · exact absurd (h ▸ hd) (Nat.not_lt.2 hn)
  · exact absurd (h ▸ hd) hc

theorem letterClass_of_small_ascii (h : (lowerLetter c).toNat < 128) : letterClass c = lowerLetter c := by
  simp [letterClass, h]

theorem eq_of_letterClass_eq {d : Char} (hd : isSign d = true) (h : letterClass c = d) : c = d := by
  obtain ⟨hd, halpha⟩ := isSign_iff.1 hd
  by_cases hsmall : (lowerLetter c).toNat < 128
  · rw [letterClass_of_small_ascii hsmall] at h
    by_cases hc : c.toNat < 128
    · have hself := (ascii_spec c.toNat hc).2.1
      rw [Char.ofNat_toNat] at hself
      rw [lowerLetter_of_ascii hc] at h
      rw [← hself (h ▸ halpha), h]
    · rcases lowerLetter_ascii hc hsmall with hi | hk
      · rw [← h, hi] at halpha; simp at halpha
      · rw [← h, hk] at halpha; simp at halpha
  · rcases letterClass_second hsmall hd h with rfl | rfl <;> simp at halpha

theorem lowerLetter_of_isSign {d : Char} (hd : isSign d = true) : lowerLetter d = d := by
  obtain ⟨hd, halpha⟩ := isSign_iff.1 hd
  simpa using (ascii_spec d.toNat hd).2.2 (by simpa using halpha)

theorem letterClass_of_isSign {d : Char} (hd : isSign d = true) : letterClass d = d := by
  have hsmall := lowerLetter_of_isSign hd
  rw [letterClass_of_small_ascii (hsmall.symm ▸ (isSign_iff.1 hd).1), hsmall]

theorem eq_of_lowerLetter_eq {d : Char} (hd : isSign d = true) (h : lowerLetter c = d) : c = d :=
  eq_of_letterClass_eq hd <| by
    rw [← letterClass_lowerLetter, h, letterClass_of_isSign hd]

/-- **A sign is the same letter as itself only.** -/
theorem sameLetter_iff_eq {d : Char} (hd : isSign d = true) : sameLetter c d = true ↔ c = d := by
  rw [sameLetter, beq_iff_eq, letterClass_of_isSign hd]
  refine ⟨eq_of_letterClass_eq hd, ?_⟩
  rintro rfl
  exact letterClass_of_isSign hd

end SiteAudit.Text
