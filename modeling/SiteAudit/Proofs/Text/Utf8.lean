/-
  Reading UTF-8.

  * `decodeFrom_of_ok`: what is read of bytes does not depend on what was read
    before them, nor on where they stand.
  * `decode_mark_append`: a byte-order mark is a character like others, so bytes
    that are a text after a mark are a text with it.
  * `eq_nil_of_decodeMarked`: dropping a mark makes a text only of bytes that were
    one, or makes an empty text.
-/
import SiteAudit.Proofs.Success
import SiteAudit.Text.Utf8

namespace SiteAudit.Text.Utf8

variable {bytes : Bytes} {text : Text}

/-- A lead byte begins the same character wherever it stands. -/
theorem Pending.ofLead?_eq (byte : UInt8) (offset first : Nat) :
    Pending.ofLead? first byte = (Pending.ofLead? offset byte).map ({ · with first }) := by
  simp only [Pending.ofLead?]
  repeat' split
  all_goals rfl

/-- **What is read of bytes depends on them only**, and on the bits of a
    character begun before. -/
theorem decodeFrom_of_ok : ∀ (bytes : Bytes) {offset : Nat} {pending : Option Pending} {read result : Text},
    decodeFrom offset pending read bytes = .ok result →
    ∃ text, result = read.reverse ++ text ∧ ∀ (offset first : Nat) (read : Text),
      decodeFrom offset (pending.map ({ · with first })) read bytes = .ok (read.reverse ++ text)
  | [], offset, none, read, result, h => by
    rw [decodeFrom] at h
    obtain rfl := Except.ok.inj h
    exact ⟨[], by simp, fun _ _ _ => by simp [decodeFrom]⟩
  | [], offset, some pending, read, result, h => by
    rw [decodeFrom] at h
    cases h
  | byte :: bytes, offset, none, read, result, h => by
    rw [decodeFrom] at h
    split at h
    · next hascii =>
      obtain ⟨text, rfl, htext⟩ := decodeFrom_of_ok bytes h
      refine ⟨Char.ofNat byte.toNat :: text, by simp, fun offset first read => ?_⟩
      rw [Option.map_none, decodeFrom, if_pos hascii]
      simpa using htext (offset + 1) first (Char.ofNat byte.toNat :: read)
    · next hascii =>
      split at h
      · next pending hlead =>
        obtain ⟨text, rfl, htext⟩ := decodeFrom_of_ok bytes h
        refine ⟨text, rfl, fun other first read => ?_⟩
        rw [Option.map_none, decodeFrom, if_neg hascii, Pending.ofLead?_eq byte offset other, hlead]
        exact htext (other + 1) other read
      · cases h
  | byte :: bytes, offset, some pending, read, result, h => by
    rw [decodeFrom] at h
    split at h
    · next hrange =>
      cases hmore : pending.more with
      | zero =>
        simp only [hmore] at h
        obtain ⟨text, rfl, htext⟩ := decodeFrom_of_ok bytes h
        refine ⟨Char.ofNat (pending.bits * 64 + (byte.toNat - 0x80)) :: text, by simp,
          fun offset first read => ?_⟩
        simp only [Option.map_some, decodeFrom, if_pos hrange, hmore]
        simpa using htext (offset + 1) first (Char.ofNat (pending.bits * 64 + (byte.toNat - 0x80)) :: read)
      | succ more =>
        simp only [hmore] at h
        obtain ⟨text, rfl, htext⟩ := decodeFrom_of_ok bytes h
        refine ⟨text, rfl, fun offset first read => ?_⟩
        simp only [Option.map_some, decodeFrom, if_pos hrange, hmore]
        exact htext (offset + 1) first read
    · cases h

/-- **A mark is read as a character.** -/
theorem decode_mark_append (h : decode bytes = .ok text) :
    decode (mark ++ bytes) = .ok ('\ufeff' :: text) := by
  obtain ⟨rest, hrest, hall⟩ := decodeFrom_of_ok bytes h
  obtain rfl : text = rest := by simpa using hrest
  have hmark : decode (mark ++ bytes) = decodeFrom 3 none ['\ufeff'] bytes := rfl
  rw [hmark]
  simpa using hall 3 0 ['\ufeff']

/-- Bytes that are no text with their mark are none without it, or only the
    beginning of a mark. -/
theorem eq_nil_of_decodeMarked (h : decodeMarked bytes = .ok text) (hno : ∀ text, decode bytes ≠ .ok text) :
    text = [] := by
  rw [decodeMarked] at h
  split at h
  · exact (Except.ok.inj h).symm
  split at h
  · next hmark =>
    obtain ⟨rest, rfl⟩ := List.isPrefixOf_iff_prefix.1 hmark
    rw [List.drop_left] at h
    exact absurd (decode_mark_append h) (hno _)
  · exact absurd h (hno text)

end SiteAudit.Text.Utf8
