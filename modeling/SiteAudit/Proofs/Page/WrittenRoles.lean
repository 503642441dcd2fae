/-
  Roles written as one mark.

  * `written roles`: the mark `[Authorize(Roles="…")]` with the roles between its
    quotes, a comma and a space between neighbours.
  * `namedRoles_written`: it names these roles, whatever they hold besides separators,
    closing parentheses and double quotes.
  * `distinctRoles_written`: the roles of a text are the roles of their mark.
-/
import SiteAudit.Proofs.Page.Roles

namespace SiteAudit.Page.Access

open Text

variable {s role : Text} {roles : List Text}

/-- The value that names the roles. -/
def writtenValue (roles : List Text) : Text :=
  joinWith [',', ' '] roles

/-- The arguments that assign the value. -/
def writtenArguments (roles : List Text) : Text :=
  ['R', 'o', 'l', 'e', 's', '=', '"'] ++ writtenValue roles ++ ['"']

/-- The mark that asks for the roles. -/
def written (roles : List Text) : Text :=
  '[' :: authorizeWord ++ '(' :: writtenArguments roles ++ [')', ']']

/-! ## The value -/

/-- Roles are cut apart where they were joined; the space goes to the later one. -/
theorem cutAt_writtenValue {p : Char → Bool} (hcomma : p ',' = true) (hspace : p ' ' = false) :
    ∀ (roles : List Text) (role : Text), (∀ piece ∈ role :: roles, ∀ c ∈ piece, p c = false) →
      CutAt p (writtenValue (role :: roles)) (role :: roles.map (' ' :: ·))
  | [], role, hclean => .last (hclean role (by simp))
  | next :: roles, role, hclean => by
    -- The space belongs to the first piece of what follows the comma.
    have hmore : CutAt p (' ' :: writtenValue (next :: roles)) ((' ' :: next) :: roles.map (' ' :: ·)) := by
      have hnext := cutAt_writtenValue hcomma hspace roles next fun piece hpiece => hclean piece (by simp [hpiece])
      rw [cutAt_iff] at hnext ⊢
      rw [splitWhere, if_neg (by simp [hspace]), ← hnext]
    have hjoin : writtenValue (role :: next :: roles) = role ++ ',' :: ' ' :: writtenValue (next :: roles) := by
      simp [writtenValue, joinWith]
    rw [hjoin]
    exact .cut (hclean role (by simp)) hcomma hmore

theorem IsRole.trim_eq (h : IsRole role) : trim role = role :=
  (isTrimmed_iff.1 ⟨⟨[], [], by simp, by simp, by simp⟩, h.head, h.last⟩).symm

theorem IsRole.trim_space (h : IsRole role) : trim (' ' :: role) = role :=
  (isTrimmed_iff.1 ⟨⟨[' '], [], by simp, by simp [isBlank], by simp⟩, h.head, h.last⟩).symm

theorem IsRole.not_separator (h : IsRole role) : ∀ c ∈ role, (c == ',' || c == ';') = false := by
  intro c hc
  have hcomma : c ≠ ',' := by
    rintro rfl
    exact h.comma_notMem hc
  have hsemicolon : c ≠ ';' := by
    rintro rfl
    exact h.semicolon_notMem hc
  simp [hcomma, hsemicolon]

theorem rolesOfValue_writtenValue (hne : roles ≠ []) (hroles : ∀ role ∈ roles, IsRole role) :
    rolesOfValue (writtenValue roles) = roles := by
  obtain ⟨role, others, rfl⟩ := List.exists_cons_of_ne_nil hne
  have hcut : CutAt (fun c => c == ',' || c == ';') (writtenValue (role :: others)) (role :: others.map (' ' :: ·)) :=
    cutAt_writtenValue rfl rfl others role fun piece hpiece => (hroles piece hpiece).not_separator
  have hothers : others.map (trim ∘ (' ' :: ·)) = others.map id :=
    List.map_congr_left fun other hother => (hroles other (by simp [hother])).trim_space
  rw [rolesOfValue, ← cutAt_iff.1 hcut, List.map_cons, (hroles role (by simp)).trim_eq, List.map_map, hothers,
    List.map_id]
  exact List.filter_eq_self.2 fun other hother => by simpa using (hroles other hother).ne_nil

theorem notMem_writtenValue {c : Char} (hcomma : c ≠ ',') (hspace : c ≠ ' ') (h : ∀ role ∈ roles, c ∉ role) :
    c ∉ writtenValue roles := by
  rw [writtenValue, mem_joinWith_iff (by simp [hcomma, hspace])]
  rintro ⟨role, hrole, hc⟩
  exact h role hrole hc

/-! ## The mark -/

theorem readings_writtenArguments_nil : readings roleAssignment (writtenArguments []) = [] := by decide +kernel

theorem readings_writtenArguments (hvalue : writtenValue roles ≠ []) (hquote : '"' ∉ writtenValue roles) :
    readings roleAssignment (writtenArguments roles) = [writtenValue roles] := by
  have hphrase : IsPhrase ['R', 'o', 'l', 'e', 's'] '=' (writtenValue roles) (writtenArguments roles) :=
    ⟨_, [], [], '"', by simp [writtenArguments], .refl _, by simp, by simp, .inl rfl, hquote⟩
  have hread : roleAssignment none (writtenArguments roles) = some (writtenValue roles, []) :=
    roleAssignment_eq_some_iff.2 ⟨_, (List.append_nil _).symm, rfl, hvalue, _, by simp [roleWords], hphrase⟩
  rw [readings, finds_of_whole roleAssignment_advances hread, List.map_singleton]

theorem readings_written (hparenthesis : ')' ∉ writtenArguments roles) :
    readings authorizeBlock (written roles) = [writtenArguments roles] := by
  have harguments : IsArguments (writtenArguments roles) ('(' :: writtenArguments roles ++ [')']) :=
    .inr ⟨[], by simp, by simp, hparenthesis⟩
  have hmark : IsMark authorizeWord ('(' :: writtenArguments roles ++ [')']) (written roles) :=
    ⟨[], authorizeWord, [], by simp [written, authorizeWord], by simp, .refl _, by simp⟩
  have hread : authorizeBlock none (written roles) = some (writtenArguments roles, []) :=
    authorizeBlock_eq_some_iff.2
      ⟨_, (List.append_nil _).symm, [], _, rfl, ⟨_, harguments, hmark⟩, .inl rfl⟩
  rw [readings, finds_of_whole authorizeBlock_advances hread, List.map_singleton]

/-- **The mark names the roles that it is written from**, in their order. -/
theorem namedRoles_written (hroles : ∀ role ∈ roles, IsRole role) (hquote : ∀ role ∈ roles, '"' ∉ role) :
    namedRoles (written roles) = roles := by
  have hparenthesis : ')' ∉ writtenArguments roles := by
    have hvalue := notMem_writtenValue (c := ')') (by decide) (by decide) fun role hrole => (hroles role hrole).parenthesis_notMem
    simp [writtenArguments, hvalue]
  rw [namedRoles, readings_written hparenthesis, List.flatMap_singleton]
  by_cases hne : roles = []
  · subst hne
    rw [readings_writtenArguments_nil, List.flatMap_nil]
  · have hvalue : writtenValue roles ≠ [] := by
      intro hnil
      have hnamed := rolesOfValue_writtenValue hne hroles
      rw [hnil] at hnamed
      exact hne hnamed.symm
    rw [readings_writtenArguments hvalue (notMem_writtenValue (by decide) (by decide) hquote), List.flatMap_singleton,
      rolesOfValue_writtenValue hne hroles]

/-- **Roles are a normal form.**  The roles of a text, written as one mark, are the
    roles of that mark, unless one of them holds the quote that it would be written
    in. -/
theorem distinctRoles_written (h : ∀ role ∈ distinctRoles s, '"' ∉ role) :
    distinctRoles (written (distinctRoles s)) = distinctRoles s := by
  rw [distinctRoles, namedRoles_written (fun role => isRole_of_mem_distinctRoles) h,
    firstSpellings_eq_self (distinctRoles_distinct s), sortByCase_eq_self (distinctRoles_ascending s)]

/-- A page with a role that looks like an assignment, over two lines, and one role in
    two spellings. -/
def trickyPage : Text :=
  "[Authorize(Roles=\"a's [Role='x']\nRoles=, b\")] @attribute [authorize(role = 'B;')]".toList

/-- Neither the quotes nor the brackets of the role end the value that it is written
    in. -/
theorem distinctRoles_written_trickyPage :
    distinctRoles trickyPage = ["a's [Role='x']\nRoles=".toList, ['b']] ∧
    (∀ role ∈ distinctRoles trickyPage, '"' ∉ role) ∧
      distinctRoles (written (distinctRoles trickyPage)) = distinctRoles trickyPage := by
  have hroles : distinctRoles trickyPage = ["a's [Role='x']\nRoles=".toList, ['b']] := by
    have hfirst : firstSpellings (namedRoles trickyPage) = ["a's [Role='x']\nRoles=".toList, ['b']] := by decide +kernel
    rw [distinctRoles, hfirst, sortByCase_eq_self (by decide +kernel)]
  have hquote : ∀ role ∈ distinctRoles trickyPage, '"' ∉ role := by
    rw [hroles]
    decide +kernel
  exact ⟨hroles, hquote, distinctRoles_written hquote⟩

end SiteAudit.Page.Access
