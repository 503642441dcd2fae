/-
  Taking a run of characters off the front in every possible way.

  A pattern with an unbounded part leaves a choice of how much of the text the
  part takes.  `restsOfSome p` lists what remains after taking one or more
  characters that satisfy `p`, `restsOfAny p` after taking any number of them;
  both list the longest taking first.
-/
import SiteAudit.Text.Basic

namespace SiteAudit.Text

/-- What remains after taking one or more characters that satisfy `p`. -/
def restsOfSome (p : Char → Bool) : Text → List Text
  | [] => []
  | c :: cs => if p c then restsOfSome p cs ++ [cs] else []

/-- What remains after taking any number of characters that satisfy `p`. -/
def restsOfAny (p : Char → Bool) (s : Text) : List Text :=
  restsOfSome p s ++ [s]

/-- The remainders are the cuts after a nonempty run of such characters. -/
theorem mem_restsOfSome_iff {p : Char → Bool} {s r : Text} :
    r ∈ restsOfSome p s ↔ ∃ taken, taken ≠ [] ∧ s = taken ++ r ∧ ∀ c ∈ taken, p c = true := by
  induction s with
  | nil =>
    simp only [restsOfSome, List.not_mem_nil, false_iff]
    rintro ⟨taken, hne, h, -⟩
    cases taken with
    | nil => exact hne rfl
    | cons d ds => cases h
  | cons c cs ih =>
    simp only [restsOfSome]
    constructor
    · intro h
      split at h
      · next hc =>
        rcases List.mem_append.1 h with h | h
        · obtain ⟨taken, -, rfl, hp⟩ := ih.1 h
          exact ⟨c :: taken, by simp, by simp, by simpa [hc] using hp⟩
        · obtain rfl := List.mem_singleton.1 h
          exact ⟨[c], by simp, by simp, by simp [hc]⟩
      · simp at h
    · rintro ⟨taken, hne, h, hp⟩
      cases taken with
      | nil => exact absurd rfl hne
      | cons d ds =>
        obtain ⟨rfl, rfl⟩ := List.cons.inj h
        rw [if_pos (hp c (by simp))]
        cases ds with
        | nil => simp
        | cons e es =>
          exact List.mem_append_left _ (ih.2 ⟨e :: es, by simp, rfl, fun x hx => hp x (by simp [hx])⟩)

end SiteAudit.Text
