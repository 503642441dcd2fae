/-
  Trimming, and blanks beside words and letters.

  * `IsTrimmed whole inner`: the inner text is left of the whole, of which it lacks
    blanks at the ends, and neither begins nor ends with one.
  * `isTrimmed_iff`: trimming gives this text.
-/
import SiteAudit.Text.Blank
import SiteAudit.Text.SameLetter
import SiteAudit.Text.Word

namespace SiteAudit.Text

variable {c : Char} {s front : Text}

theorem trimRight_cons (hc : isBlank c = false) (s : Text) : trimRight (c :: s) = c :: trimRight s := by
  rw [trimRight, List.reverse_cons, List.dropWhile_append]
  split
  · next h =>
    have : s.reverse.dropWhile isBlank = [] := by simpa using h
    simp [trimRight, this, hc]
  · simp [trimRight]

theorem trim_cons (hc : isBlank c = false) (s : Text) : trim (c :: s) = c :: trimRight s := by
  rw [trim, trimLeft, List.dropWhile_cons_of_neg (by simp [hc]), trimRight_cons hc]

theorem trimRight_eq_self (h : ∀ c ∈ s, isBlank c = false) : trimRight s = s := by
  induction s with
  | nil => rfl
  | cons c s ih => rw [trimRight_cons (h c (by simp)), ih fun d hd => h d (by simp [hd])]

theorem trimRight_append (h : trimRight s ≠ []) : trimRight (front ++ s) = front ++ trimRight s := by
  rw [trimRight] at h ⊢
  rw [List.reverse_append, List.dropWhile_append]
  split
  · next hempty => simp [List.isEmpty_iff.1 hempty] at h
  · simp [trimRight]

theorem exists_blanks_trimLeft (s : Text) : ∃ blanks, s = blanks ++ trimLeft s ∧ ∀ c ∈ blanks, isBlank c = true :=
  ⟨s.takeWhile isBlank, List.takeWhile_append_dropWhile.symm, List.all_eq_true.1 List.all_takeWhile⟩

theorem trimLeft_eq_cons_iff {rest : Text} (hc : isBlank c = false) : trimLeft s = c :: rest ↔
    ∃ blanks, s = blanks ++ c :: rest ∧ ∀ b ∈ blanks, isBlank b = true := by
  constructor
  · exact fun h => h ▸ exists_blanks_trimLeft s
  · rintro ⟨blanks, rfl, hblanks⟩
    rw [trimLeft, List.dropWhile_append_of_pos hblanks, List.dropWhile_cons_of_neg (by simp [hc])]

/-! ## Trimmed texts -/

/-- The inner text stands between blanks, and no blank is at its ends. -/
structure IsTrimmed (whole inner : Text) : Prop where
  between : ∃ left right, whole = left ++ inner ++ right ∧ (∀ c ∈ left, isBlank c = true) ∧
    ∀ c ∈ right, isBlank c = true
  head : ∀ c, inner.head? = some c → isBlank c = false
  last : ∀ c, inner.getLast? = some c → isBlank c = false

theorem IsTrimmed.subset {whole inner : Text} (h : IsTrimmed whole inner) : inner ⊆ whole := by
  obtain ⟨left, right, rfl, -⟩ := h.between
  intro c hc
  simp [hc]

theorem exists_trimRight_blanks (s : Text) : ∃ blanks, s = trimRight s ++ blanks ∧ ∀ c ∈ blanks, isBlank c = true := by
  obtain ⟨blanks, hsplit, hblanks⟩ := exists_blanks_trimLeft s.reverse
  refine ⟨blanks.reverse, ?_, by simpa using hblanks⟩
  calc s = s.reverse.reverse := s.reverse_reverse.symm
    _ = (blanks ++ trimLeft s.reverse).reverse := congrArg List.reverse hsplit
    _ = trimRight s ++ blanks.reverse := List.reverse_append

theorem isBlank_head_trimLeft (h : (trimLeft s).head? = some c) : isBlank c = false := by
  have hhead := List.head?_dropWhile_not isBlank s
  rw [trimLeft] at h
  rw [h] at hhead
  exact hhead

theorem isBlank_last_trimRight (h : (trimRight s).getLast? = some c) : isBlank c = false := by
  rw [trimRight, List.getLast?_reverse] at h
  exact isBlank_head_trimLeft h

theorem trimLeft_of_head (h : ∀ c, s.head? = some c → isBlank c = false) : trimLeft s = s := by
  cases s with
  | nil => rfl
  | cons c s => rw [trimLeft, List.dropWhile_cons_of_neg (by simp [h c rfl])]

theorem trimRight_of_last (h : ∀ c, s.getLast? = some c → isBlank c = false) : trimRight s = s := by
  have hreverse : trimLeft s.reverse = s.reverse := by
    refine trimLeft_of_head fun c hc => h c ?_
    rwa [List.head?_reverse] at hc
  rw [trimLeft] at hreverse
  rw [trimRight, hreverse, List.reverse_reverse]

/-- **Trimming drops the blanks at the ends, and only those.** -/
theorem isTrimmed_iff {whole inner : Text} : IsTrimmed whole inner ↔ inner = trim whole := by
  constructor
  · rintro ⟨⟨left, right, rfl, hleft, hright⟩, hhead, hlast⟩
    have hends : trim (left ++ inner ++ right) = trimRight (trimLeft (inner ++ right)) := by
      rw [trim, trimLeft, List.append_assoc, List.dropWhile_append_of_pos hleft, trimLeft]
    rw [hends]
    cases inner with
    | nil =>
      have hnone : trimLeft right = [] := calc
        trimLeft right = (right ++ []).dropWhile isBlank := by rw [List.append_nil, trimLeft]
        _ = [] := List.dropWhile_append_of_pos hright
      rw [List.nil_append, hnone]
      rfl
    | cons d inner =>
      have hstart : trimLeft (d :: inner ++ right) = d :: inner ++ right := trimLeft_of_head fun c hc => hhead c hc
      have hend : trimRight (d :: inner ++ right) = trimRight (d :: inner) := by
        rw [trimRight, List.reverse_append, List.dropWhile_append_of_pos (by simpa using hright), trimRight]
      rw [hstart, hend, trimRight_of_last hlast]
  · rintro rfl
    obtain ⟨left, hleft, hblanks⟩ := exists_blanks_trimLeft whole
    obtain ⟨right, hright, hblanks'⟩ := exists_trimRight_blanks (trimLeft whole)
    refine ⟨⟨left, right, ?_, hblanks, hblanks'⟩, fun c hc => ?_, fun c hc => isBlank_last_trimRight hc⟩
    · rw [trim, List.append_assoc, ← hright, ← hleft]
    · refine @isBlank_head_trimLeft c whole ?_
      rw [hright, List.head?_append, ← trim, hc]
      rfl

theorem trimLeft_eq_self (h : trim s = s) : trimLeft s = s :=
  trimLeft_of_head (isTrimmed_iff.2 h.symm).head

/-- What follows a trimmed text and a character that is not blank is trimmed at
    its end only. -/
theorem trim_append_cons (h : trim s = s) (hc : isBlank c = false) (t : Text) :
    trim (s ++ c :: t) = s ++ c :: trimRight t := by
  have hleft : trimLeft (s ++ c :: t) = s ++ c :: t := by
    have hs := trimLeft_eq_self h
    rw [trimLeft] at hs ⊢
    rw [List.dropWhile_append, hs]
    split
    · next hempty => simp [List.isEmpty_iff.1 hempty, hc]
    · rfl
  rw [trim, hleft, trimRight_append (by simp [trimRight_cons hc]), trimRight_cons hc]

/-! ## The blanks one by one -/

/-- The numbers of the blanks. -/
def blankNumbers : List Nat :=
  [9, 10, 11, 12, 13, 28, 29, 30, 31, 32, 0x85, 0xa0, 0x1680, 0x2000, 0x2001, 0x2002, 0x2003, 0x2004, 0x2005, 0x2006,
    0x2007, 0x2008, 0x2009, 0x200a, 0x2028, 0x2029, 0x202f, 0x205f, 0x3000]

theorem of_isBlank (p : Char → Prop) (hall : ∀ n ∈ blankNumbers, p (Char.ofNat n)) (h : isBlank c = true) : p c := by
  rw [← Char.ofNat_toNat c]
  refine hall c.toNat ?_
  simp only [isBlank, Bool.or_eq_true, Bool.and_eq_true, decide_eq_true_eq, beq_iff_eq] at h
  simp only [blankNumbers, List.mem_cons, List.not_mem_nil, or_false]
  omega

/-- No blank belongs to a word, or is the same letter as another character. -/
theorem facts_of_isBlank (h : isBlank c = true) : isWord c = false ∧ letterClass c = c :=
  of_isBlank (fun c => isWord c = false ∧ letterClass c = c) (by decide +kernel) h

theorem isWord_of_isBlank (h : isBlank c = true) : isWord c = false :=
  (facts_of_isBlank h).1

theorem isBlank_of_sameLetter {a : Char} (h : sameLetter a c = true) (ha : isBlank (letterClass a) = false) :
    isBlank c = false := by
  refine Bool.eq_false_iff.2 fun hc => ?_
  rw [beq_iff_eq.1 h, (facts_of_isBlank hc).2, hc] at ha
  exact Bool.noConfusion ha

end SiteAudit.Text
