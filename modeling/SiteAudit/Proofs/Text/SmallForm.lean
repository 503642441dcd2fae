/-
  Small forms, put together from their pieces.

  Which small sigma a capital one becomes depends on what stands around it, so
  the small form of a text is not made of the small forms of its pieces.

  * `smallForm`: the small form with one small sigma, which is
    (`smallForm_append`).  ASCII words do not tell the two forms apart
    (`startsWith_lower`, `lower_eq_iff`), and signs stay where they are
    (`upTo?_smallForm`, `startsWith_smallForm`).
  * `startsWith_lower_iff`: the small form of a text begins with an ASCII word, a
    sign and further signs exactly if the text up to the sign has the word as
    its small form and the further signs follow.
-/
import SiteAudit.Proofs.Text.CaseTables
import SiteAudit.Text.Enclosed

namespace SiteAudit.Text

variable {c d : Char} {w v s t : Text}

/-! ## Beginnings -/

theorem startsWith_iff : startsWith w s = true ↔ ∃ rest, s = w ++ rest := by
  simp [startsWith, Option.isSome_iff_exists, dropExact?_eq_some_iff]

theorem startsWith_append_cons (hc : c ∉ w) (s t : Text) : startsWith w (s ++ c :: t) = startsWith w s := by
  induction w generalizing s with
  | nil => rfl
  | cons a w ih =>
    obtain ⟨hne, hw⟩ : c ≠ a ∧ c ∉ w := by simpa using hc
    cases s with
    | nil => simp [startsWith, dropExact?, Ne.symm hne]
    | cons d s =>
      by_cases hd : a = d
      · simpa [startsWith, dropExact?, hd] using ih hw s
      · simp [startsWith, dropExact?, hd]

theorem startsWith_cons_iff (hc : c ∉ w) :
    startsWith (w ++ c :: v) s = true ↔ ∃ rest, upTo? c s = some (w, rest) ∧ startsWith v rest = true := by
  simp only [startsWith_iff, upTo?_eq_some_iff]
  constructor
  · rintro ⟨rest, rfl⟩
    exact ⟨v ++ rest, ⟨by simp, hc⟩, rest, rfl⟩
  · rintro ⟨-, ⟨rfl, -⟩, rest, rfl⟩
    exact ⟨rest, by simp⟩

/-! ## Small forms with one sigma -/

/-- The final small sigma written like the other one. -/
def oneSigma (c : Char) : Char :=
  if c = 'ς' then 'σ' else c

/-- The small form of a text, with one small sigma. -/
def smallForm (s : Text) : Text :=
  (lower s).map oneSigma

theorem oneSigma_eq_iff (hd : d.toNat < 128) : oneSigma c = d ↔ c = d := by
  unfold oneSigma
  split
  · next hc =>
    subst hc
    constructor <;> rintro rfl <;> simp at hd
  · rfl

theorem map_oneSigma_lowerAt (casedBefore : Bool) (c : Char) (after : Text) :
    (lowerAt casedBefore c after).map oneSigma = (lowerAt false c []).map oneSigma := by
  unfold lowerAt
  split
  · split <;> rfl
  · rfl

theorem map_oneSigma_lowerFrom (casedBefore : Bool) (s : Text) :
    (lowerFrom casedBefore s).map oneSigma = s.flatMap fun c => (lowerAt false c []).map oneSigma := by
  induction s generalizing casedBefore with
  | nil => rfl
  | cons c s ih => rw [lowerFrom, List.map_append, map_oneSigma_lowerAt, ih, List.flatMap_cons]

/-- **The small form with one sigma is put together from its pieces.** -/
theorem smallForm_append (s t : Text) : smallForm (s ++ t) = smallForm s ++ smallForm t := by
  simp only [smallForm, lower, map_oneSigma_lowerFrom, List.flatMap_append]

/-! ## Words -/

/-- All characters of the text are ASCII. -/
def isAsciiWord (w : Text) : Bool :=
  w.all fun c => decide (c.toNat < 128)

theorem dropExact?_map_oneSigma (hw : isAsciiWord w = true) (s : Text) :
    dropExact? w (s.map oneSigma) = (dropExact? w s).map (List.map oneSigma) := by
  induction w generalizing s with
  | nil => rfl
  | cons a w ih =>
    obtain ⟨ha, hw⟩ : a.toNat < 128 ∧ isAsciiWord w = true := by simpa [isAsciiWord] using hw
    cases s with
    | nil => rfl
    | cons d s =>
      have hsame : a = oneSigma d ↔ a = d := by rw [eq_comm, oneSigma_eq_iff ha, eq_comm]
      by_cases hd : a = d
      · rw [List.map_cons, dropExact?, dropExact?, if_pos (hsame.2 hd), if_pos hd, ih hw]
      · rw [List.map_cons, dropExact?, dropExact?, if_neg (mt hsame.1 hd), if_neg hd, Option.map_none]

theorem startsWith_lower (hw : isAsciiWord w = true) (s : Text) :
    startsWith w (lower s) = startsWith w (smallForm s) := by
  rw [startsWith, startsWith, smallForm, dropExact?_map_oneSigma hw, Option.isSome_map]

theorem lower_eq_iff (hw : isAsciiWord w = true) : lower s = w ↔ smallForm s = w := by
  have hall {t : Text} : t = w ↔ dropExact? w t = some [] := by
    rw [dropExact?_eq_some_iff, List.append_nil]
  rw [hall, hall, smallForm, dropExact?_map_oneSigma hw]
  simp

/-! ## Signs -/

theorem lowerAt_of_isSign (hd : isSign d = true) (casedBefore : Bool) (after : Text) :
    lowerAt casedBefore d after = [d] := by
  have hascii := (isSign_iff.1 hd).1
  have hsigma : d ≠ 'Σ' := by rintro rfl; simp at hascii
  have hdotted : d ≠ 'İ' := by rintro rfl; simp at hascii
  simp [lowerAt, hsigma, hdotted, lowerLetter_of_isSign hd]

/-- The small form of a character holds a sign only if it is the sign. -/
theorem eq_of_mem_lowerAt (hd : isSign d = true) {casedBefore : Bool} {after : Text}
    (h : d ∈ lowerAt casedBefore c after) : c = d := by
  have hascii := (isSign_iff.1 hd).1
  unfold lowerAt at h
  split at h
  · obtain rfl := List.mem_singleton.1 h
    split at hascii <;> simp at hascii
  · split at h
    · rcases List.mem_pair.1 h with rfl | rfl
      · simp [isSign] at hd
      · simp at hascii
    · exact eq_of_lowerLetter_eq hd (List.mem_singleton.1 h).symm

theorem mem_lowerFrom_iff (hd : isSign d = true) {casedBefore : Bool} :
    d ∈ lowerFrom casedBefore s ↔ d ∈ s := by
  induction s generalizing casedBefore with
  | nil => rfl
  | cons c s ih =>
    rw [lowerFrom, List.mem_append, ih, List.mem_cons]
    refine or_congr_left ⟨fun h => (eq_of_mem_lowerAt hd h).symm, ?_⟩
    rintro rfl
    simp [lowerAt_of_isSign hd]

theorem mem_smallForm_iff (hd : isSign d = true) : d ∈ smallForm s ↔ d ∈ s := by
  simp [smallForm, lower, oneSigma_eq_iff (isSign_iff.1 hd).1, mem_lowerFrom_iff hd]

theorem smallForm_cons (hd : isSign d = true) (s : Text) : smallForm (d :: s) = d :: smallForm s := by
  simp [smallForm, lower, map_oneSigma_lowerFrom, lowerAt_of_isSign hd, (oneSigma_eq_iff (isSign_iff.1 hd).1).2 rfl]

theorem isAsciiWord_of_signs (hv : v.all isSign = true) : isAsciiWord v = true :=
  List.all_eq_true.2 fun c hc => decide_eq_true (isSign_iff.1 (List.all_eq_true.1 hv c hc)).1

theorem smallForm_singleton_ne_nil (c : Char) : smallForm [c] ≠ [] := by
  simp only [smallForm, lower, lowerFrom, lowerAt, List.append_nil, ne_eq, List.map_eq_nil_iff]
  split
  · simp
  · split <;> simp

theorem upTo?_smallForm (hd : isSign d = true) (s : Text) :
    upTo? d (smallForm s) = (upTo? d s).map (Prod.map smallForm smallForm) := by
  rcases h : upTo? d s with _ | ⟨front, rest⟩
  · rw [upTo?_eq_none_iff] at h
    rw [Option.map_none, upTo?_eq_none_iff, mem_smallForm_iff hd]
    exact h
  · obtain ⟨rfl, hfront⟩ := upTo?_eq_some_iff.1 h
    rw [Option.map_some, Prod.map_apply, upTo?_eq_some_iff, smallForm_append, smallForm_cons hd,
      mem_smallForm_iff hd]
    exact ⟨rfl, hfront⟩

/-- Signs at the beginning stay there, and no others come. -/
theorem startsWith_smallForm (hv : v.all isSign = true) (s : Text) :
    startsWith v (smallForm s) = startsWith v s := by
  induction v generalizing s with
  | nil => rfl
  | cons d v ih =>
    obtain ⟨hd, hv⟩ : isSign d = true ∧ v.all isSign = true := by simpa using hv
    cases s with
    | nil => rfl
    | cons c s =>
      by_cases hc : d = c
      · subst hc
        simpa [smallForm_cons hd, startsWith, dropExact?] using ih hv s
      · obtain ⟨x, rest, hsmall⟩ := List.exists_cons_of_ne_nil (smallForm_singleton_ne_nil c)
        have hx : d ≠ x := by
          rintro rfl
          have hmem : d ∈ smallForm [c] := by simp [hsmall]
          exact hc (by simpa using (mem_smallForm_iff hd).1 hmem)
        rw [show c :: s = [c] ++ s from rfl, smallForm_append, hsmall]
        simp [startsWith, dropExact?, hx, hc]

/-- **The small form begins with a word and signs after it** exactly if the signs
    follow a text that has the word as its small form. -/
theorem startsWith_lower_iff (hd : isSign d = true) (hw : isAsciiWord w = true) (hdw : d ∉ w)
    (hv : v.all isSign = true) : startsWith (w ++ d :: v) (lower s) = true ↔
      ∃ front rest, upTo? d s = some (front, rest) ∧ lower front = w ∧ startsWith v rest = true := by
  have hsigns : (d :: v).all isSign = true := by simp [hd, hv]
  have hword : isAsciiWord (w ++ d :: v) = true := by
    rw [isAsciiWord, List.all_append, Bool.and_eq_true]
    exact ⟨hw, isAsciiWord_of_signs hsigns⟩
  rw [startsWith_lower hword, startsWith_cons_iff hdw, upTo?_smallForm hd]
  simp only [Option.map_eq_some_iff, Prod.exists, Prod.map_apply, Prod.mk.injEq, lower_eq_iff hw]
  constructor
  · rintro ⟨-, ⟨front, rest, hcut, rfl, rfl⟩, hrest⟩
    exact ⟨front, rest, hcut, rfl, by rwa [startsWith_smallForm hv] at hrest⟩
  · rintro ⟨front, rest, hcut, rfl, hrest⟩
    exact ⟨smallForm rest, ⟨front, rest, hcut, rfl, rfl⟩, by rwa [startsWith_smallForm hv]⟩

end SiteAudit.Text
