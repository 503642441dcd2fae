/-
  ASCII letters in either case.

  * `recase which s`: the text with the ASCII letters at some places in the other case.
  * `smallAscii s`: the text with all its ASCII letters small, which is what recased
    texts have in common (`smallAscii_recase`).
  * `eq_of_ascii`: what is the same for both cases of every ASCII letter does not change
    when the letters become small.  So the small and the folded form of a text stay
    (`lower_smallAscii`, `fold_smallAscii`), it is trimmed at the same places
    (`trim_smallAscii`), and first spellings stand at the same places
    (`firstSpellings_smallAscii`).
  * `dropWord?_eq_some_iff`: a word of letters that have no spelling beyond ASCII is
    read off in either case of its letters.
-/
import Mathlib.Data.List.Basic
import SiteAudit.Proofs.Text.Spelling
import SiteAudit.Text.Blank
import SiteAudit.Text.Lower
import SiteAudit.Text.Word

namespace SiteAudit.Text

variable {c d : Char} {s : Text}

/-! ## Recased texts -/

/-- The other case of an ASCII letter; another character stays. -/
def otherCase (c : Char) : Char :=
  if c.isUpper then c.toLower else c.toUpper

/-- The text with the ASCII letters at some places in the other case. -/
def recase (which : Nat → Bool) (s : Text) : Text :=
  s.mapIdx fun i c => if which i then otherCase c else c

/-- The text with small ASCII letters. -/
def smallAscii (s : Text) : Text :=
  s.map Char.toLower

theorem smallAscii_cons (c : Char) (s : Text) : smallAscii (c :: s) = c.toLower :: smallAscii s := rfl

theorem isUpper_iff : c.isUpper = true ↔ 65 ≤ c.toNat ∧ c.toNat ≤ 90 :=
  decide_eq_true_iff

theorem isLower_iff : c.isLower = true ↔ 97 ≤ c.toNat ∧ c.toNat ≤ 122 :=
  Bool.and_eq_true_iff.trans (and_congr decide_eq_true_iff decide_eq_true_iff)

theorem exists_of_isUpper (h : c.isUpper = true) : ∃ n < 26, c = Char.ofNat (n + 65) := by
  obtain ⟨hfirst, hlast⟩ := isUpper_iff.1 h
  refine ⟨c.toNat - 65, by omega, ?_⟩
  rw [Nat.sub_add_cancel hfirst, Char.ofNat_toNat]

theorem exists_of_isLower (h : c.isLower = true) : ∃ n < 26, c = Char.ofNat (n + 97) := by
  obtain ⟨hfirst, hlast⟩ := isLower_iff.1 h
  refine ⟨c.toNat - 97, by omega, ?_⟩
  rw [Nat.sub_add_cancel hfirst, Char.ofNat_toNat]

theorem toLower_eq_self (h : ¬ c.isUpper = true) : c.toLower = c :=
  dif_neg fun hrange => h (isUpper_iff.2 hrange)

theorem toUpper_eq_self (h : ¬ c.isLower = true) : c.toUpper = c :=
  dif_neg fun hrange => h (isLower_iff.2 hrange)

theorem toLower_capital : ∀ n < 26, (Char.ofNat (n + 65)).toLower = Char.ofNat (n + 97) := by
  decide

theorem toLower_otherCase (c : Char) : (otherCase c).toLower = c.toLower := by
  unfold otherCase
  split
  · next hupper =>
    obtain ⟨n, hn, rfl⟩ := exists_of_isUpper hupper
    revert n
    decide
  · by_cases hlower : c.isLower = true
    · obtain ⟨n, hn, rfl⟩ := exists_of_isLower hlower
      revert n
      decide
    · rw [toUpper_eq_self hlower]

theorem smallAscii_recase (which : Nat → Bool) (s : Text) : smallAscii (recase which s) = smallAscii s := by
  refine List.ext_getElem? fun i => ?_
  simp only [smallAscii, recase, List.getElem?_map, List.getElem?_mapIdx, Option.map_map]
  congr 1
  funext c
  by_cases hi : which i <;> simp [hi, toLower_otherCase]

/-! ## Letters -/

/-- What is the same for both cases of every ASCII letter. -/
theorem eq_of_ascii {α : Type} (f : Char → α)
    (h : ∀ n < 26, f (Char.ofNat (n + 97)) = f (Char.ofNat (n + 65))) (c : Char) : f c.toLower = f c := by
  by_cases hupper : c.isUpper = true
  · obtain ⟨n, hn, rfl⟩ := exists_of_isUpper hupper
    rw [toLower_capital n hn, h n hn]
  · rw [toLower_eq_self hupper]

theorem facts_toLower (c : Char) : isBlank c.toLower = isBlank c ∧ isWord c.toLower = isWord c ∧
    isCased c.toLower = isCased c ∧ isCaseIgnorable c.toLower = isCaseIgnorable c ∧
    lowerLetter c.toLower = lowerLetter c ∧ foldLetter c.toLower = foldLetter c := by
  have h := eq_of_ascii (fun c => ([isBlank c, isWord c, isCased c, isCaseIgnorable c], lowerLetter c, foldLetter c))
    (by decide +kernel) c
  simpa only [Prod.mk.injEq, List.cons.injEq, and_true, and_assoc] using h

@[simp] theorem isBlank_toLower (c : Char) : isBlank c.toLower = isBlank c :=
  (facts_toLower c).1

@[simp] theorem isWord_toLower (c : Char) : isWord c.toLower = isWord c :=
  (facts_toLower c).2.1

@[simp] theorem isCased_toLower (c : Char) : isCased c.toLower = isCased c :=
  (facts_toLower c).2.2.1

@[simp] theorem isCaseIgnorable_toLower (c : Char) : isCaseIgnorable c.toLower = isCaseIgnorable c :=
  (facts_toLower c).2.2.2.1

@[simp] theorem lowerLetter_toLower (c : Char) : lowerLetter c.toLower = lowerLetter c :=
  (facts_toLower c).2.2.2.2.1

@[simp] theorem foldLetter_toLower (c : Char) : foldLetter c.toLower = foldLetter c :=
  (facts_toLower c).2.2.2.2.2

@[simp] theorem letterClass_toLower (c : Char) : letterClass c.toLower = letterClass c :=
  letterClass_congr (lowerLetter_toLower c)

theorem toLower_eq_iff (hd : isSign d = true) : c.toLower = d ↔ c = d := by
  have hclass {a : Char} : a = d ↔ letterClass a = d :=
    ⟨by rintro rfl; exact letterClass_of_isSign hd, eq_of_letterClass_eq hd⟩
  rw [hclass, letterClass_toLower, ← hclass]

theorem isWord_of_isAlpha (h : c.isAlpha = true) : isWord c = true := by
  have hrange : c.toNat < 128 := by
    rcases Bool.or_eq_true_iff.1 h with hupper | hlower
    · have hletter := isUpper_iff.1 hupper
      omega
    · have hletter := isLower_iff.1 hlower
      omega
  simp [isWord, hrange, Char.isAlphanum, h]

/-- A small ASCII letter with no spelling beyond ASCII, or a sign. -/
def isPlainAscii (c : Char) : Bool :=
  decide (c.toNat < 128) && !c.isUpper && c != 'i' && c != 'k' && c != 's'

/-- **A plain ASCII character is the same letter as those of which it is the small
    ASCII letter.** -/
theorem sameLetter_iff_toLower (hd : isPlainAscii d = true) : sameLetter d c = true ↔ c.toLower = d := by
  simp only [isPlainAscii, Bool.and_eq_true, decide_eq_true_eq, Bool.not_eq_true', bne_iff_ne] at hd
  obtain ⟨⟨⟨⟨hascii, hsmall⟩, hi⟩, hk⟩, hs⟩ := hd
  have hlower : lowerLetter d = d := by
    rw [lowerLetter_of_ascii hascii, toLower_eq_self (ne_true_of_eq_false hsmall)]
  have hclass : letterClass d = d := by
    rw [letterClass_of_small_ascii (hlower.symm ▸ hascii), hlower]
  rw [sameLetter, beq_iff_eq, hclass]
  constructor
  · intro h
    by_cases hc : (lowerLetter c).toNat < 128
    · rw [letterClass_of_small_ascii hc] at h
      by_cases hca : c.toNat < 128
      · rwa [lowerLetter_of_ascii hca, eq_comm] at h
      · rcases lowerLetter_ascii hca hc with hl | hl
        · exact absurd (h.trans hl) hi
        · exact absurd (h.trans hl) hk
    · rcases letterClass_second hc hascii h.symm with h | h
      · exact absurd h hi
      · exact absurd h hs
  · rintro rfl
    rw [← letterClass_toLower, hclass]

/-! ## Texts -/

theorem trim_smallAscii (s : Text) : trim (smallAscii s) = smallAscii (trim s) := by
  have hblank : isBlank ∘ Char.toLower = isBlank := funext isBlank_toLower
  simp [trim, trimRight, trimLeft, smallAscii, List.dropWhile_map, hblank, ← List.map_reverse]

theorem fold_smallAscii (s : Text) : fold (smallAscii s) = fold s := by
  simp [fold, smallAscii, List.flatMap_map]

theorem casedFirst_smallAscii (s : Text) : casedFirst (smallAscii s) = casedFirst s := by
  induction s with
  | nil => rfl
  | cons c s ih => simp [smallAscii_cons, casedFirst, ih]

theorem lowerAt_smallAscii (casedBefore : Bool) (c : Char) (after : Text) :
    lowerAt casedBefore c.toLower (smallAscii after) = lowerAt casedBefore c after := by
  -- only the two letters beyond ASCII have small forms of their own
  have hsigma := eq_of_ascii (fun c => decide (c = 'Σ')) (by decide) c
  have hdotted := eq_of_ascii (fun c => decide (c = 'İ')) (by decide) c
  simp only [decide_eq_decide] at hsigma hdotted
  simp only [lowerAt, hsigma, hdotted, casedFirst_smallAscii, lowerLetter_toLower]

theorem lowerFrom_smallAscii (casedBefore : Bool) (s : Text) :
    lowerFrom casedBefore (smallAscii s) = lowerFrom casedBefore s := by
  induction s generalizing casedBefore with
  | nil => rfl
  | cons c s ih =>
    rw [smallAscii_cons, lowerFrom, lowerFrom, lowerAt_smallAscii, ih, isCaseIgnorable_toLower, isCased_toLower]

theorem lower_smallAscii (s : Text) : lower (smallAscii s) = lower s :=
  lowerFrom_smallAscii false s

/-- **The same letters as plain ASCII characters** are those characters in either case. -/
theorem sameLetters_iff_smallAscii {w : Text} (hw : ∀ a ∈ w, isPlainAscii a = true) :
    SameLetters w s ↔ smallAscii s = w := by
  induction w generalizing s with
  | nil => simp [SameLetters, smallAscii]
  | cons a w ih =>
    cases s with
    | nil => simp [SameLetters, smallAscii]
    | cons c s =>
      rw [SameLetters, List.forall₂_cons, ← SameLetters, sameLetter_iff_toLower (hw a (by simp)),
        ih fun b hb => hw b (by simp [hb]), smallAscii_cons, List.cons.injEq]

/-- A word of plain ASCII characters is read off in either case. -/
theorem dropWord?_eq_some_iff {w s rest : Text} (hw : ∀ a ∈ w, isPlainAscii a = true) :
    dropWord? w s = some rest ↔ ∃ opening, s = opening ++ rest ∧ smallAscii opening = w := by
  simp only [dropWord?_iff_sameLetters, sameLetters_iff_smallAscii hw]

theorem sameLetters_smallAscii (s : Text) : SameLetters (smallAscii s) s := by
  rw [SameLetters, smallAscii, List.forall₂_map_left_iff, List.forall₂_same]
  simp [sameLetter]

theorem firstSpellings_smallAscii (names : List Text) :
    firstSpellings (names.map smallAscii) = (firstSpellings names).map smallAscii := by
  induction names with
  | nil => rfl
  | cons name names ih =>
    simp [firstSpellings, ih, List.filter_map, Function.comp_def, sameName, fold_smallAscii]

end SiteAudit.Text
