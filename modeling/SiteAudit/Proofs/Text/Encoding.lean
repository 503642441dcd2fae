/-
  What is written in UTF-8 is read back.

  * `encode_eq`: a text is written with the bytes that it has as a string.
  * `decodeFrom_encodeChar`: a character is read off its bytes, whatever stands
    around them; so a text is read off its own (`decode_encode`).
  * `unmarked`: a text without the mark that it may begin with.
  * `decodeMarked_encode`: reading that drops a byte-order mark drops the first
    character of a text if it is the mark, and no other.
-/
import SiteAudit.Proofs.Text.Utf8

namespace SiteAudit.Text.Utf8

variable {bytes : Bytes} {read : Text} {offset k : Nat} {byte : UInt8} {pending : Pending}

/-! ## The bytes of a text -/

theorem toNat_toUInt8 (h : k < 256) : k.toUInt8.toNat = k := by
  simp [Nat.mod_eq_of_lt h]

theorem encodeChar_eq (c : Char) : encodeChar c = String.utf8EncodeChar c := by
  have hvalid : c.toNat < 0xd800 ∨ 0xdfff < c.toNat ∧ c.toNat < 0x110000 := c.valid
  have hval : c.val.toNat = c.toNat := rfl
  simp only [encodeChar, String.utf8EncodeChar, hval, Nat.toUInt8]
  by_cases h1 : c.toNat < 0x80
  · rw [if_pos h1, if_pos (by omega)]
  rw [if_neg h1, if_neg (by omega : ¬ c.toNat ≤ 127)]
  by_cases h2 : c.toNat < 0x800
  · have hlead : c.toNat / 64 % 32 = c.toNat / 64 := by omega
    rw [if_pos h2, if_pos (by omega), hlead, Nat.add_comm 0xc0, Nat.add_comm 0x80]
  rw [if_neg h2, if_neg (by omega : ¬ c.toNat ≤ 2047)]
  by_cases h3 : c.toNat < 0x10000
  · have hlead : c.toNat / 4096 % 16 = c.toNat / 4096 := by omega
    simp only [if_pos h3, if_pos (by omega : c.toNat ≤ 65535), hlead, Nat.add_comm]
  · have hlead : c.toNat / 262144 % 8 = c.toNat / 262144 := by omega
    simp only [if_neg h3, if_neg (by omega : ¬ c.toNat ≤ 65535), hlead, Nat.add_comm]

/-- **A text is written as the string that it is.** -/
theorem encode_eq (s : Text) : encode s = (String.ofList s).toUTF8.data.toList := by
  have hbytes : (String.ofList s).toUTF8 = (s.flatMap String.utf8EncodeChar).toByteArray := rfl
  rw [hbytes, List.data_toByteArray, encode, funext encodeChar_eq]

/-! ## Reading them -/

/-- A byte that goes on with a character adds six bits to it. -/
theorem decodeFrom_tail (hbits : pending.bits = k / 64) (hlow : pending.low ≤ 0x80 + k % 64)
    (hhigh : 0x80 + k % 64 ≤ pending.high) :
    decodeFrom offset (some pending) read ((0x80 + k % 64).toUInt8 :: bytes) =
      match pending.more with
      | 0 => decodeFrom (offset + 1) none (Char.ofNat k :: read) bytes
      | more + 1 =>
        decodeFrom (offset + 1) (some { pending with more, low := 0x80, high := 0xbf, bits := k }) read bytes := by
  have hcode : k / 64 * 64 + (0x80 + k % 64 - 0x80) = k := by omega
  rewrite [decodeFrom, toNat_toUInt8 (by omega), if_pos ⟨hlow, hhigh⟩, hbits, hcode]
  rfl

theorem decodeFrom_lead (hlead : Pending.ofLead? offset byte = some pending) :
    decodeFrom offset none read (byte :: bytes) = decodeFrom (offset + 1) (some pending) read bytes := by
  have hbyte : ¬ byte.toNat < 0x80 := by
    intro h
    rw [Pending.ofLead?, if_pos (by omega)] at hlead
    cases hlead
  rw [decodeFrom, if_neg hbyte, hlead]

theorem Pending.ofLead?_two (h : 2 ≤ k) (h' : k < 32) : ofLead? offset (0xc0 + k).toUInt8 =
    some ⟨offset, (0xc0 + k).toUInt8, 0, 0x80, 0xbf, k⟩ := by
  rw [ofLead?, toNat_toUInt8 (by omega), if_neg (by omega), if_pos (by omega), Nat.add_sub_cancel_left]

theorem Pending.ofLead?_three (h : k < 16) : ofLead? offset (0xe0 + k).toUInt8 =
    some ⟨offset, (0xe0 + k).toUInt8, 1, if 0xe0 + k = 0xe0 then 0xa0 else 0x80,
      if 0xe0 + k = 0xed then 0x9f else 0xbf, k⟩ := by
  rw [ofLead?, toNat_toUInt8 (by omega), if_neg (by omega), if_neg (by omega), if_pos (by omega),
    Nat.add_sub_cancel_left]

theorem Pending.ofLead?_four (h : k < 5) : ofLead? offset (0xf0 + k).toUInt8 =
    some ⟨offset, (0xf0 + k).toUInt8, 2, if 0xf0 + k = 0xf0 then 0x90 else 0x80,
      if 0xf0 + k = 0xf4 then 0x8f else 0xbf, k⟩ := by
  rw [ofLead?, toNat_toUInt8 (by omega), if_neg (by omega), if_neg (by omega), if_neg (by omega), if_pos (by omega),
    Nat.add_sub_cancel_left]

/-- **A character is read off its bytes.** -/
theorem decodeFrom_encodeChar (c : Char) (offset : Nat) (read : Text) (bytes : Bytes) :
    decodeFrom offset none read (encodeChar c ++ bytes) =
      decodeFrom (offset + (encodeChar c).length) none (c :: read) bytes := by
  have hvalid : c.toNat < 0xd800 ∨ 0xdfff < c.toNat ∧ c.toNat < 0x110000 := c.valid
  have hchar : Char.ofNat c.toNat = c := Char.ofNat_toNat c
  generalize hn : c.toNat = n at hvalid hchar
  simp only [encodeChar, hn]
  by_cases h1 : n < 0x80
  · rw [if_pos h1, List.singleton_append, decodeFrom, toNat_toUInt8 (by omega), if_pos h1, hchar,
      List.length_singleton]
  rw [if_neg h1]
  by_cases h2 : n < 0x800
  · simp only [if_pos h2, List.cons_append, List.nil_append]
    rw [decodeFrom_lead (Pending.ofLead?_two (by omega) (by omega)),
      decodeFrom_tail rfl (by simp) (by simp; omega), hchar]
    rfl
  rw [if_neg h2]
  -- From here on the second byte has bounds of its own: it is not so low that fewer bytes would
  -- do, and neither a surrogate nor a code beyond the last one.
  by_cases h3 : n < 0x10000
  · simp only [if_pos h3, List.cons_append, List.nil_append]
    rw [decodeFrom_lead (Pending.ofLead?_three (by omega)),
      decodeFrom_tail (by dsimp only; omega) (by dsimp only; split <;> omega) (by dsimp only; split <;> omega)]
    dsimp only
    rw [decodeFrom_tail rfl (by simp) (by simp; omega), hchar]
    rfl
  · simp only [if_neg h3, List.cons_append, List.nil_append]
    rw [decodeFrom_lead (Pending.ofLead?_four (by omega)),
      decodeFrom_tail (by dsimp only; omega) (by dsimp only; split <;> omega) (by dsimp only; split <;> omega)]
    dsimp only
    rw [decodeFrom_tail (by dsimp only; omega) (by simp) (by simp; omega)]
    dsimp only
    rw [decodeFrom_tail rfl (by simp) (by simp; omega), hchar]
    rfl

theorem decodeFrom_encode : ∀ (s : Text) (offset : Nat) (read : Text),
    decodeFrom offset none read (encode s) = .ok (read.reverse ++ s)
  | [], offset, read => by simp [encode, decodeFrom]
  | c :: s, offset, read => by
    have hrest := decodeFrom_encode s (offset + (encodeChar c).length) (c :: read)
    rw [encode, List.flatMap_cons, decodeFrom_encodeChar, ← encode, hrest]
    simp

/-- **A text is read off its bytes.** -/
theorem decode_encode (s : Text) : decode (encode s) = .ok s :=
  decodeFrom_encode s 0 []

/-! ## Marks -/

/-- The text without a byte-order mark that it begins with. -/
def unmarked : Text → Text
  | '\ufeff' :: s => s
  | s => s

theorem unmarked_eq_self {s : Text} (h : s.head? ≠ some '\ufeff') : unmarked s = s := by
  unfold unmarked
  split
  · simp at h
  · rfl

/-- No text is written as the beginning of a mark only. -/
theorem eq_nil_of_partial_mark {s : Text} (hlength : (encode s).length < mark.length) (h : encode s <+: mark) :
    s = [] := by
  have hread := decode_encode s
  rw [List.prefix_iff_eq_take.1 h] at hread
  match hlen : (encode s).length, hlength with
  | 0, _ =>
    rw [hlen] at hread
    exact (Except.ok.inj hread).symm
  | 1, _ =>
    rw [hlen] at hread
    cases hread
  | 2, _ =>
    rw [hlen] at hread
    cases hread

theorem exists_of_mark_prefix {s : Text} (h : mark <+: encode s) : ∃ rest, s = '\ufeff' :: rest := by
  obtain ⟨bytes, hbytes⟩ := h
  have hread := decode_encode s
  have hmark : decode (mark ++ bytes) = decodeFrom 3 none ['\ufeff'] bytes := rfl
  rw [← hbytes, hmark] at hread
  obtain ⟨rest, hrest, -⟩ := decodeFrom_of_ok bytes hread
  exact ⟨rest, hrest⟩

/-- **Reading drops one mark in front of a text**, and nothing else. -/
theorem decodeMarked_encode (s : Text) : decodeMarked (encode s) = .ok (unmarked s) := by
  have hencode (rest : Text) : encode ('\ufeff' :: rest) = mark ++ encode rest := rfl
  rw [decodeMarked]
  split
  · next h =>
    simp only [Bool.and_eq_true, decide_eq_true_eq, List.isPrefixOf_iff_prefix] at h
    rw [eq_nil_of_partial_mark h.1 h.2]
    rfl
  split
  · next h =>
    obtain ⟨rest, rfl⟩ := exists_of_mark_prefix (List.isPrefixOf_iff_prefix.1 h)
    rw [hencode, List.drop_left, decode_encode]
    rfl
  · next h =>
    have hhead : s.head? ≠ some '\ufeff' := by
      intro hhead
      obtain ⟨rest, rfl⟩ := List.head?_eq_some_iff.1 hhead
      rw [hencode] at h
      exact h (List.isPrefixOf_iff_prefix.2 (List.prefix_append _ _))
    rw [decode_encode, unmarked_eq_self hhead]

end SiteAudit.Text.Utf8
