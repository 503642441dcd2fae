/-
  A slash at the end of a path.

  * `flatMap_text_tokens`: the tokens of a template, as written, are the rooted
    template, so a template ends as its last token does.
  * `Token.eq_slash_of_takes`: a token that takes a piece with a slash at its end
    is a slash itself, unless it is a catch-all.
  * `not_cuts_append_slash`: tokens that cross no slashes and end with none leave the
    last slash of a path over.
  * `matchesPath_append_slash`: a template matches a path with a slash at the end
    if it matches the path, and without catch-alls only if it does.
-/
import SiteAudit.Proofs.Route.Cuts
import SiteAudit.Proofs.Text.CaseTables

namespace SiteAudit.Route.Template

open Text

variable {items : List Token} {token : Token} {template path piece s : Text}

/-! ## Tokens as written -/

theorem flatMap_text_tokensFrom (skip : Nat) (s : Text) :
    (tokensFrom skip s).flatMap Token.text = s.drop skip := by
  induction s generalizing skip with
  | nil => simp [tokensFrom]
  | cons c s ih =>
    cases skip with
    | succ skip => exact ih skip
    | zero =>
      rw [tokensFrom]
      split
      · next inside h =>
        obtain ⟨rfl, -, rest, hcut⟩ := segment?_cons_eq_some_iff.1 h
        obtain ⟨rfl, -⟩ := upTo?_eq_some_iff.1 hcut
        rw [List.flatMap_cons, ih]
        simp [Token.text]
      · rw [List.flatMap_cons, ih]
        rfl

theorem flatMap_text_tokens (template : Text) : (tokens template).flatMap Token.text = rooted template :=
  flatMap_text_tokensFrom 0 (rooted template)

theorem tokens_ne_nil (template : Text) : tokens template ≠ [] := by
  intro h
  have hrooted := flatMap_text_tokens template
  rw [h] at hrooted
  unfold rooted at hrooted
  split at hrooted <;> simp at hrooted

/-! ## Slashes left over -/

theorem Token.Takes.ne_nil (h : token.Takes piece) : piece ≠ [] := by
  cases token with
  | literal a =>
    obtain ⟨c, rfl, -⟩ := h
    simp
  | segment inside => exact h.1

/-- The token is a segment that matches over slashes. -/
def Token.crossesSlashes : Token → Bool
  | literal _ => false
  | segment inside => isCatchAll inside

/-- Only a slash takes a piece with a slash at its end, if slashes are not crossed. -/
theorem Token.eq_slash_of_takes (hcross : token.crossesSlashes = false) (h : token.Takes (piece ++ ['/'])) :
    token = literal '/' := by
  cases token with
  | literal a =>
    obtain ⟨c, hpiece, hsame⟩ := h
    rw [← List.nil_append [c], List.append_singleton_inj] at hpiece
    obtain ⟨rfl, rfl⟩ := hpiece
    rw [(sameLetter_iff_eq rfl).1 hsame]
  | segment inside =>
    have hcatch : ¬ isCatchAll inside = true := Bool.eq_false_iff.1 hcross
    have hslash := h.2
    rw [if_neg hcatch] at hslash
    simp at hslash

/-- Tokens that cross no slashes and end with none leave a final slash over. -/
theorem not_cuts_append_slash (hcross : ∀ token ∈ items, token.crossesSlashes = false) (hne : items ≠ [])
    (hlast : items.getLast? ≠ some (.literal '/')) : ¬ Cuts Token.Takes items (path ++ ['/']) := by
  obtain ⟨front, token, rfl⟩ := (List.eq_nil_or_concat items).resolve_left hne
  rw [List.concat_eq_append] at hcross hlast ⊢
  rw [cuts_append]
  rintro ⟨p, r, hpath, -, hr⟩
  rw [cuts_singleton] at hr
  -- the piece of the last token ends as the path does
  obtain ⟨piece, c, rfl⟩ := (List.eq_nil_or_concat r).resolve_left hr.ne_nil
  rw [List.concat_eq_append, ← List.append_assoc, List.append_singleton_inj] at hpath
  obtain ⟨rfl, rfl⟩ := hpath
  rw [List.concat_eq_append] at hr
  rw [Token.eq_slash_of_takes (hcross token (by simp)) hr] at hlast
  simp at hlast

theorem getLast?_tokens_ne (h : (rooted template).getLast? ≠ some '/') :
    (tokens template).getLast? ≠ some (.literal '/') := by
  intro hlast
  obtain ⟨front, htokens⟩ := List.getLast?_eq_some_iff.1 hlast
  have hrooted := flatMap_text_tokens template
  rw [htokens, List.flatMap_append] at hrooted
  simp [← hrooted, Token.text] at h

/-- **A slash at the end of a path is tolerated**, and without catch-alls a path matches
    with it only if it does without, unless the template ends with one itself. -/
theorem matchesPath_append_slash (template path : Text) :
    (path.getLast? ≠ some '/' → matchesPath template path = true →
      matchesPath template (path ++ ['/']) = true) ∧
    ((∀ token ∈ tokens template, token.crossesSlashes = false) → (rooted template).getLast? ≠ some '/' →
      matchesPath template (path ++ ['/']) = true → matchesPath template path = true) := by
  simp only [matchesPath, accepts_iff_cuts]
  constructor
  · rintro hpath (h | ⟨t, rfl, -⟩)
    · exact Or.inr ⟨path, rfl, h⟩
    · simp at hpath
  · rintro hcross hrooted (h | ⟨t, ht, h⟩)
    · exact absurd h (not_cuts_append_slash hcross (tokens_ne_nil template) (getLast?_tokens_ne hrooted))
    · obtain ⟨rfl, -⟩ := List.append_singleton_inj.1 ht
      exact Or.inl h

/-- A parameter at the end leaves the slash over, which may be there or not. -/
theorem matchesPath_append_slash_parameter :
    (∀ token ∈ tokens "items/{id}".toList, token.crossesSlashes = false) ∧
      (rooted "items/{id}".toList).getLast? ≠ some '/' ∧ "/Items/7".toList.getLast? ≠ some '/' ∧
      matchesPath "items/{id}".toList ("/Items/7".toList ++ ['/']) = true ∧
      matchesPath "items/{id}".toList "/Items/7".toList = true := by
  have hcross : ∀ token ∈ tokens "items/{id}".toList, token.crossesSlashes = false := by decide
  have hrooted : (rooted "items/{id}".toList).getLast? ≠ some '/' := by decide
  have hpath : "/Items/7".toList.getLast? ≠ some '/' := by decide
  obtain ⟨htolerated, honly⟩ := matchesPath_append_slash "items/{id}".toList "/Items/7".toList
  exact ⟨hcross, hrooted, hpath, htolerated hpath (by decide), honly hcross hrooted (by decide)⟩

/-- A catch-all takes the slash, so that there may be nothing to match without it. -/
example : matchesPath "/files{**rest}".toList "/files".toList = false ∧
    matchesPath "/files{**rest}".toList ("/files".toList ++ ['/']) = true := by
  decide

end SiteAudit.Route.Template
