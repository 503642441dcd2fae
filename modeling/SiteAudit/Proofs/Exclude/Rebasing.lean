/-
  Rebased rule lines.

  * `answerOfLine?_rebase`: below a plain directory a rebased line says what the line
    says by itself, if it keeps its meaning.
  * `exists_of_ofLine_rebase`: it says nothing of other paths.
  * `rebase_refines`: so it is for lists of lines.
  * `rebase_loses_meaning`: the directories and lines that are left out.
-/
import SiteAudit.Proofs.Exclude.Precedence
import SiteAudit.Proofs.Exclude.RebasedPattern

namespace SiteAudit.Exclude

open Text (joinWith splitOn startsWith)

variable {base line : Text} {names directory path : List Text} {lines : List Text}

/-! ## Lines that keep their meaning -/

/-- A line that gives no rule. -/
def IsSilent (line : Text) : Prop :=
  Text.isAllBlank line = true ∨ startsWith ['#'] line = true

/-- All that the pattern asks for is to be a directory. -/
def AsksForAnyDirectory (pattern : Text) : Prop :=
  patternNames pattern = [anyDirectories] ∧ asksForDirectory pattern = true

/-- The pattern is a star, by itself or in any directory, or a double star. -/
def IsBareStar (pattern : Text) : Prop :=
  patternNames pattern = [anyDirectories] ∨ patternNames pattern = [anyDirectories, ['*']]

/-- A line that means the same once it is rebased.  Either it gives no rule, or its
    pattern asks for more than to be a directory, shows its only slash, and has
    something to negate. -/
def KeepsMeaning (line : Text) : Prop :=
  IsSilent line ∨
    ¬ AsksForAnyDirectory (patternOfLine line) ∧ ¬ HidesSlash (unnegated line) ∧
      ¬ (patternOfLine line = [] ∧ unnegated line ≠ [])

instance (line : Text) : Decidable (IsSilent line) := inferInstanceAs (Decidable (_ ∨ _))

instance (pattern : Text) : Decidable (AsksForAnyDirectory pattern) := inferInstanceAs (Decidable (_ ∧ _))

instance (pattern : Text) : Decidable (IsBareStar pattern) := inferInstanceAs (Decidable (_ ∨ _))

instance (pattern : Text) : Decidable (HidesSlash pattern) := inferInstanceAs (Decidable (_ ∧ _))

instance (line : Text) : Decidable (KeepsMeaning line) := inferInstanceAs (Decidable (_ ∨ _))

theorem anchoredNames_ne_nil {pattern : Text} (hne : pattern ≠ []) : anchoredNames (splitOn '/' pattern) ≠ [] := by
  intro hnil
  have hnames : splitOn '/' pattern = [[]] := by
    rcases hsplit : splitOn '/' pattern with _ | ⟨_ | ⟨c, name⟩, names⟩
    · exact absurd hsplit (Text.splitOn_ne_nil '/' pattern)
    · rw [hsplit] at hnil
      have hnone : names = [] := hnil
      rw [hnone]
    · rw [hsplit] at hnil
      rcases names with _ | ⟨_ | ⟨d, next⟩, _ | ⟨third, names⟩⟩ <;> simp only [anchoredNames] at hnil <;>
        first
        | cases hnil
        | (split at hnil <;> cases hnil)
  have hjoin := Text.joinWith_splitOn '/' pattern
  rw [hnames] at hjoin
  exact hne hjoin.symm

theorem withoutTrailingBlanks_of_blank (h : Text.isAllBlank line = true) : withoutTrailingBlanks line = [] := by
  rw [Text.isAllBlank, List.all_eq_true] at h
  have hends : Text.endsWith ['\\', ' '] line = false := by
    rw [Bool.eq_false_iff]
    intro hends
    obtain ⟨rest, hrest⟩ := Option.isSome_iff_exists.1 hends
    have hmem : '\\' ∈ line := List.mem_reverse.1 (by rw [Text.dropExact?_eq_some_iff.1 hrest]; simp)
    exact absurd (h _ hmem) (by decide)
  rw [withoutTrailingBlanks, hends]
  simpa [Text.trimRight, List.dropWhile_eq_nil_iff] using h

theorem ofLine_silent (h : IsSilent line) : Rule.ofLine line = .ok none := by
  rcases h with hblank | hcomment
  · rw [Rule.ofLine, withoutTrailingBlanks_of_blank hblank]
  · obtain ⟨rest, hrest⟩ := Option.isSome_iff_exists.1 hcomment
    obtain ⟨kept, hkept⟩ := exists_withoutTrailingBlanks (c := '#') (by decide) [] rest
    rw [Rule.ofLine, Text.dropExact?_eq_some_iff.1 hrest, List.singleton_append, ← List.nil_append ('#' :: rest),
      hkept]
    rfl

/-! ## Rebased lines -/

theorem rebase_silent (h : IsSilent line) : rebase base line = line := by
  unfold rebase
  rw [if_pos]
  rcases h with h | h <;> simp [h]

/-- A rebased pattern goes on after the directory, with a text that does not depend on
    the directory. -/
theorem exists_rebasedPattern (pattern : Text) :
    ∃ rest, ∀ base, rebasedPattern base pattern = '/' :: (base ++ '/' :: rest) := by
  by_cases hslash : startsWith ['/'] pattern = true
  · obtain ⟨rest, hrest⟩ := Option.isSome_iff_exists.1 hslash
    refine ⟨rest, fun base => ?_⟩
    rw [rebasedPattern, if_pos hslash, Text.dropExact?_eq_some_iff.1 hrest]
    rfl
  · by_cases hinside : (pattern.reverse.dropWhile (· == '/')).contains '/' = true
    · refine ⟨pattern, fun base => ?_⟩
      rw [rebasedPattern, if_neg hslash, if_pos hinside]
      rfl
    · refine ⟨'*' :: '*' :: '/' :: pattern, fun base => ?_⟩
      rw [rebasedPattern, if_neg hslash, if_neg hinside]
      simp

theorem rebase_spec (hbase : base ≠ []) (hsilent : ¬ IsSilent line) (hlone : line ≠ ['!']) :
    unnegated (rebase base line) = rebasedPattern base (unnegated line) ∧
      startsWith ['!'] (rebase base line) = startsWith ['!'] line ∧
      startsWith ['#'] (rebase base line) = false := by
  obtain ⟨hblank, hcomment⟩ := not_or.1 hsilent
  unfold rebase
  rw [if_neg (by simp [hbase, hblank, hcomment, hlone])]
  split
  · next pattern => exact ⟨rfl, rfl, rfl⟩
  · next hplain =>
    obtain ⟨rest, hrest⟩ := exists_rebasedPattern line
    obtain ⟨hnegated, hunnegated⟩ : startsWith ['!'] line = false ∧ unnegated line = line := by
      cases line with
      | nil => exact ⟨rfl, rfl⟩
      | cons c line =>
        have hc : '!' ≠ c := by
          rintro rfl
          exact hplain line rfl
        simp [startsWith, unnegated, Text.dropExact?, hc]
    rw [hunnegated, hnegated, hrest]
    exact ⟨rfl, rfl, rfl⟩

theorem unnegated_eq_nil (h : unnegated line = []) : line = [] ∨ line = ['!'] := by
  cases line with
  | nil => exact Or.inl rfl
  | cons c line =>
    by_cases hc : c = '!'
    · subst hc
      have hrest : unnegated ('!' :: line) = line := rfl
      rw [← hrest, h]
      exact Or.inr rfl
    · simp [unnegated, Text.dropExact?, Ne.symm hc] at h

/-- Something is left of a line unless it is silent or negates nothing. -/
theorem patternOfLine_ne_nil (hsilent : ¬ IsSilent line) (hlone : line ≠ ['!'])
    (hnegation : ¬ (patternOfLine line = [] ∧ unnegated line ≠ [])) : patternOfLine line ≠ [] := by
  intro hnil
  have hnone : unnegated line = [] := by
    by_contra h
    exact hnegation ⟨hnil, h⟩
  rcases unnegated_eq_nil hnone with rfl | rfl
  · exact hsilent (Or.inl rfl)
  · exact hlone rfl

theorem exists_below (base pattern : Text) :
    ∃ rest, withoutTrailingBlanks (rebasedPattern base pattern) = '/' :: (base ++ '/' :: rest) := by
  obtain ⟨rest, hrest⟩ := exists_rebasedPattern pattern
  rw [hrest, ← List.cons_append]
  exact exists_withoutTrailingBlanks (by decide) _ _

theorem rebase_lone (base : Text) : rebase base ['!'] = ['!'] := by
  simp [rebase]

theorem ofLine_lone : Rule.ofLine ['!'] = .error (.malformed ['!']) := rfl

theorem ofLine_rebase {rest : Text} (hdir : IsPlainDirectory directory) (hsilent : ¬ IsSilent line)
    (hlone : line ≠ ['!']) (hrest : withoutTrailingBlanks
      (rebasedPattern (joinWith ['/'] directory) (unnegated line)) = below directory rest) :
    Rule.ofLine (rebase (joinWith ['/'] directory) line) =
      ruleOfPattern (rebase (joinWith ['/'] directory) line) (startsWith ['!'] line) (below directory rest) := by
  obtain ⟨hunnegated, hnegated, hcomment⟩ := rebase_spec hdir.isPath.text_ne_nil hsilent hlone
  have hpattern : patternOfLine (rebase (joinWith ['/'] directory) line) = below directory rest := by
    rw [patternOfLine, hunnegated, hrest]
  rw [ofLine_eq hcomment (by simp [hpattern, below]) (by simp [hpattern, below]), hnegated, hpattern]

theorem anchoredNames_below_ne_nil (directory : List Text) (rest : Text) :
    anchoredNames (splitOn '/' (below directory rest)) ≠ [] :=
  anchoredNames_ne_nil (by simp [below])

/-- **Below a plain directory a rebased line says what the line says by itself**, if
    it keeps its meaning. -/
theorem answerOfLine?_rebase (hdir : IsPlainDirectory directory) (hpath : IsPath path) (hkeeps : KeepsMeaning line)
    (hfeed : '\n' ∈ joinWith ['/'] path → ¬ IsBareStar (patternOfLine line)) :
    answerOfLine? (joinWith ['/'] (directory ++ path)) (rebase (joinWith ['/'] directory) line) =
      answerOfLine? (joinWith ['/'] path) line := by
  by_cases hsilent : IsSilent line
  · rw [rebase_silent hsilent, answerOfLine?, answerOfLine?, ofLine_silent hsilent]
    rfl
  by_cases hlone : line = ['!']
  · subst hlone
    rw [rebase_lone, answerOfLine?, answerOfLine?, ofLine_lone]
    rfl
  obtain ⟨hasks, hseen, hnegation⟩ := hkeeps.resolve_left hsilent
  have hne := patternOfLine_ne_nil hsilent hlone hnegation
  have hslash : patternOfLine line ≠ ['/'] := by
    intro h
    exact hasks (by rw [h]; exact ⟨rfl, rfl⟩)
  obtain ⟨rest, hrest, hsame, hkept⟩ := rebasedPattern_spec (joinWith ['/'] directory) hne hseen
  have hrule := ofLine_eq (by simpa using (not_or.1 hsilent).2) hne hslash
  rw [answerOfLine?, answerOfLine?, hrule, ofLine_rebase hdir hsilent hlone hrest,
    answer_of_pattern _ _ _ (anchoredNames_ne_nil hne),
    answer_of_pattern _ _ _ (anchoredNames_below_ne_nil directory rest)]
  -- The names of the directory are taken off; what is left says the same by itself.
  have hasks' : asksForDirectory (below directory rest) = asksForDirectory (patternOfLine line) :=
    (asksForDirectory_below hdir rest).trans hsame
  rw [slashWeight, hasks', ← slashWeight, patternNames_below hdir,
    Text.joinWith_append hdir.ne_nil hpath.ne_nil, reading_directory hdir (namesAfterSlash_ne_nil rest)]
  congr 1
  refine reading_kept hpath hkept (namesAfterSlash_ne_nil rest) (fun more h => head?_ne_of_joinedRuns h)
    (fun h => ?_) fun h => not_or.1 (hfeed h)
  have hno : asksForDirectory (patternOfLine line) = false := by simpa using fun h' => hasks ⟨h, h'⟩
  exact ⟨hno, by simp [slashWeight, hno]⟩

/-- **A rebased line says nothing of what is not below the directory.** -/
theorem exists_of_ofLine_rebase {rule : Rule} {e : Weight} {p : Text} (hdir : IsPlainDirectory directory)
    (hrule : Rule.ofLine (rebase (joinWith ['/'] directory) line) = .ok (some rule))
    (hweight : rule.weight? p = some e) : ∃ r, p = joinWith ['/'] directory ++ '/' :: r := by
  by_cases hsilent : IsSilent line
  · rw [rebase_silent hsilent, ofLine_silent hsilent] at hrule
    cases hrule
  by_cases hlone : line = ['!']
  · subst hlone
    rw [rebase_lone, ofLine_lone] at hrule
    cases hrule
  obtain ⟨rest, hrest⟩ := exists_below (joinWith ['/'] directory) (unnegated line)
  rw [ofLine_rebase hdir hsilent hlone hrest,
    ruleOfPattern_eq _ _ (anchoredNames_below_ne_nil directory rest)] at hrule
  cases hshape : shapeOf (slashWeight (below directory rest)) (asksForDirectory (below directory rest))
      (patternNames (below directory rest)) with
  | error fault => cases fault <;> simp [hshape] at hrule
  | ok shape =>
    simp only [hshape] at hrule
    split at hrule
    · obtain rfl := Option.some.inj (Except.ok.inj hrule)
      rw [patternNames_below hdir] at hshape
      exact exists_of_shapeOf_directory hdir (namesAfterSlash_ne_nil rest) hshape hweight
    · cases hrule

/-! ## Rule lists -/

/-- What rule lines say of a path, if they can be rules. -/
def verdict? (lines path : List Text) : Option Bool :=
  (rulesOfLines lines).toOption.map (excludes · (joinWith ['/'] path))

theorem withoutOuterSlashes_text (hpath : IsPath path) :
    withoutOuterSlashes (joinWith ['/'] path) = joinWith ['/'] path := by
  obtain ⟨c, s, hs, hc⟩ := hpath.exists_cons
  obtain ⟨front, last, hlast, hne, hslash, -⟩ := hpath.exists_last
  have hleft : (joinWith ['/'] path).dropWhile (· == '/') = joinWith ['/'] path := by
    rw [hs, List.dropWhile_cons_of_neg (by simpa using hc)]
  have hright : (joinWith ['/'] path).reverse.dropWhile (· == '/') = (joinWith ['/'] path).reverse := by
    obtain ⟨d, rest, hd⟩ := List.exists_cons_of_ne_nil (List.reverse_ne_nil_iff.2 hne)
    have hd' : d ≠ '/' := by
      rintro rfl
      exact hslash (List.mem_reverse.1 (by rw [hd]; simp))
    rw [hlast, List.reverse_append, hd, List.cons_append, List.dropWhile_cons_of_neg (by simpa using hd')]
  rw [withoutOuterSlashes, hleft, hright, List.reverse_reverse]

theorem ruledPath_text (hpath : IsPath path) : ruledPath (joinWith ['/'] path) = joinWith ['/'] path := by
  rw [ruledPath, withoutOuterSlashes_text hpath]
  cases hdot : Text.dropExact? ['.', '/'] (joinWith ['/'] path) with
  | none => rfl
  | some rest =>
    have hsplit := hpath.splitOn
    have hfirst : splitOn '/' (['.'] ++ '/' :: rest) = ['.'] :: splitOn '/' rest := Text.splitOn_append ['.']
    rw [Text.dropExact?_eq_some_iff.1 hdot, List.cons_append, List.singleton_append, ← List.singleton_append,
      hfirst] at hsplit
    exact absurd rfl (hpath.names ['.'] (by rw [← hsplit]; simp)).ne_dot

theorem map_last? (weight : Weight) (rules : List Rule) (p : Text) : (last? weight rules p).map (·.negated) =
    ((rules.map (Rule.answer p)).reverse.find? fun answer => answer.2 == some weight).map (·.1) := by
  rw [last?, ← List.map_reverse, List.find?_map, Option.map_map]
  rfl

theorem excludes_congr {rules₁ rules₂ : List Rule} {path₁ path₂ : List Text} (hpath₁ : IsPath path₁)
    (hpath₂ : IsPath path₂) (h : rules₁.map (Rule.answer (joinWith ['/'] path₁)) =
      rules₂.map (Rule.answer (joinWith ['/'] path₂))) :
    excludes rules₁ (joinWith ['/'] path₁) = excludes rules₂ (joinWith ['/'] path₂) := by
  have hexcludes {rules : List Rule} {path : List Text} (hpath : IsPath path) :
      excludes rules (joinWith ['/'] path) = (((last? .direct rules (joinWith ['/'] path)).map (·.negated)).or
        ((last? .viaDirectory rules (joinWith ['/'] path)).map (·.negated))).any (!·) := by
    rw [excludes, withoutOuterSlashes_text hpath, ruledPath_text hpath, deciding?_eq, ← Option.map_or,
      Option.any_map]
    simp [hpath.text_ne_nil]
  rw [hexcludes hpath₁, hexcludes hpath₂, map_last?, map_last?, map_last?, map_last?, h]

/-- What the rules of lines say of a path. -/
def answers? (p : Text) (lines : List Text) : Option (List (Bool × Option Weight)) :=
  (rulesOfLines lines).toOption.map (List.map (Rule.answer p))

theorem answers?_cons (p line : Text) (lines : List Text) : answers? p (line :: lines) =
    (answerOfLine? p line).bind fun first => (answers? p lines).map (first.toList ++ ·) := by
  rw [answers?, answers?, answerOfLine?, rulesOfLines]
  cases Rule.ofLine line with
  | error fault => rfl
  | ok rule =>
    cases rulesOfLines lines with
    | error fault => cases rule <;> rfl
    | ok rules => cases rule <;> rfl

theorem answers?_congr {change : Text → Text} {p q : Text} {lines : List Text}
    (h : ∀ line ∈ lines, answerOfLine? q (change line) = answerOfLine? p line) :
    answers? q (lines.map change) = answers? p lines := by
  induction lines with
  | nil => rfl
  | cons line lines ih =>
    rw [List.map_cons, answers?_cons, answers?_cons, h line (by simp),
      ih fun line hmem => h line (by simp [hmem])]

theorem verdict?_congr {lines₁ lines₂ path₁ path₂ : List Text} (hpath₁ : IsPath path₁) (hpath₂ : IsPath path₂)
    (h : answers? (joinWith ['/'] path₁) lines₁ = answers? (joinWith ['/'] path₂) lines₂) :
    verdict? lines₁ path₁ = verdict? lines₂ path₂ := by
  rw [answers?, answers?] at h
  rw [verdict?, verdict?]
  cases hrules₁ : rulesOfLines lines₁ with
  | error fault₁ =>
    cases hrules₂ : rulesOfLines lines₂ with
    | error fault₂ => rfl
    | ok rules₂ => simp [hrules₁, hrules₂, Except.toOption] at h
  | ok rules₁ =>
    cases hrules₂ : rulesOfLines lines₂ with
    | error fault₂ => simp [hrules₁, hrules₂, Except.toOption] at h
    | ok rules₂ =>
      rw [hrules₁, hrules₂] at h
      exact congrArg some (excludes_congr hpath₁ hpath₂ (Option.some.inj h))

theorem exists_line_of_mem : ∀ {lines : List Text} {rules : List Rule} {rule : Rule},
    rulesOfLines lines = .ok rules → rule ∈ rules → ∃ line ∈ lines, Rule.ofLine line = .ok (some rule)
  | [], rules, rule, h, hmem => by
    rw [rulesOfLines] at h
    obtain rfl := Except.ok.inj h
    simp at hmem
  | line :: lines, rules, rule, h, hmem => by
    simp only [rulesOfLines, bind_eq_ok_iff] at h
    obtain ⟨first, hfirst, more, hmore, hrules⟩ := h
    obtain rfl := Except.ok.inj hrules
    rcases List.mem_append.1 hmem with hmem | hmem
    · rw [Option.mem_toList] at hmem
      rw [hmem] at hfirst
      exact ⟨line, by simp, hfirst⟩
    · obtain ⟨found, hfound, hrule⟩ := exists_line_of_mem hmore hmem
      exact ⟨found, by simp [hfound], hrule⟩

theorem exists_of_verdict?_rebase (hdir : IsPlainDirectory directory) (hnames : IsPath names)
    (h : verdict? (lines.map (rebase (joinWith ['/'] directory))) names = some true) :
    ∃ path, IsPath path ∧ names = directory ++ path := by
  obtain ⟨rules, hrules, hexcluded⟩ := Option.map_eq_some_iff.1 h
  obtain ⟨-, rule, hdeciding, -⟩ := excludes_iff.1 hexcluded
  rw [ruledPath_text hnames, deciding?_eq, Option.or_eq_some_iff] at hdeciding
  obtain ⟨weight, hlast⟩ : ∃ weight, last? weight rules (joinWith ['/'] names) = some rule :=
    hdeciding.elim (fun h => ⟨_, h⟩) fun h => ⟨_, h.2⟩
  obtain ⟨hmem, hweight⟩ := last?_sound hlast
  have hrules' : rulesOfLines (lines.map (rebase (joinWith ['/'] directory))) = .ok rules := by
    cases hresult : rulesOfLines (lines.map (rebase (joinWith ['/'] directory))) with
    | error fault => simp [hresult, Except.toOption] at hrules
    | ok found =>
      rw [hresult] at hrules
      exact congrArg _ (Option.some.inj hrules)
  obtain ⟨rebased, hrebased, hrule⟩ := exists_line_of_mem hrules' hmem
  obtain ⟨line, -, rfl⟩ := List.mem_map.1 hrebased
  obtain ⟨r, hr⟩ := exists_of_ofLine_rebase hdir hrule hweight
  have hsplit : names = directory ++ splitOn '/' r := by
    rw [← hnames.splitOn, hr,
      Text.splitOn_joinWith_append hdir.ne_nil fun name hmem => (hdir.names name hmem).no_slash]
  exact ⟨splitOn '/' r, ⟨Text.splitOn_ne_nil '/' r, fun name hmem => hnames.names name (by simp [hsplit, hmem])⟩,
    hsplit⟩

/-- **Rebasing keeps what rule lines say.**  Below a directory whose name has no
    sign of a glob rebased lines exclude only what is below it, and if they keep
    their meaning exactly what the lines exclude by themselves. -/
theorem rebase_refines (hdir : IsPlainDirectory directory) (lines : List Text) :
    (∀ names, IsPath names → verdict? (lines.map (rebase (joinWith ['/'] directory))) names = some true →
      ∃ path, IsPath path ∧ names = directory ++ path) ∧
    ((∀ line ∈ lines, KeepsMeaning line) → ∀ path, IsPath path →
      ('\n' ∈ joinWith ['/'] path → ∀ line ∈ lines, ¬ IsBareStar (patternOfLine line)) →
      verdict? (lines.map (rebase (joinWith ['/'] directory))) (directory ++ path) = verdict? lines path) := by
  refine ⟨fun names hnames hverdict => ?_, fun hkeeps path hpath hfeed => ?_⟩
  · exact exists_of_verdict?_rebase hdir hnames hverdict
  · exact verdict?_congr (hdir.isPath.append hpath) hpath (answers?_congr fun line hmem =>
      answerOfLine?_rebase hdir hpath (hkeeps line hmem) fun h => hfeed h line hmem)

/-- Lines with a negation, an anchored pattern and one for a directory. -/
def webLines : List Text :=
  ["*.log".toList, "!keep.log".toList, "/build".toList, "docs/api/".toList]

/-- The lines below the directory `web`. -/
theorem rebase_refines_web :
    (∀ names, IsPath names → verdict? (webLines.map (rebase (joinWith ['/'] ["web".toList]))) names = some true →
      ∃ path, IsPath path ∧ names = ["web".toList] ++ path) ∧
    verdict? (webLines.map (rebase (joinWith ['/'] ["web".toList]))) ["web".toList, "obj".toList, "a.log".toList] =
      verdict? webLines ["obj".toList, "a.log".toList] ∧
    verdict? webLines ["obj".toList, "a.log".toList] = some true := by
  have hdir : IsPlainDirectory ["web".toList] := ⟨by simp, by decide⟩
  have hpath : IsPath ["obj".toList, "a.log".toList] := ⟨by simp, by decide⟩
  obtain ⟨hbelow, hsame⟩ := rebase_refines hdir webLines
  exact ⟨hbelow, hsame (by decide) _ hpath (by decide), by decide +kernel⟩

/-- Brackets in the name of a directory make a set; a blank after a slash at the
    end anchors a pattern; a lone slash, which asks for nothing, asks for all. -/
theorem rebase_loses_meaning :
    (verdict? ["*.log".toList] ["a.log".toList] = some true ∧
      verdict? (["*.log".toList].map (rebase "[x]".toList)) ["[x]".toList, "a.log".toList] = some false ∧
      verdict? (["*.log".toList].map (rebase "[x]".toList)) ["x".toList, "a.log".toList] = some true) ∧
    (verdict? ["build/ ".toList] ["sub".toList, "build".toList, "f".toList] = some true ∧
      verdict? (["build/ ".toList].map (rebase "a".toList))
        ["a".toList, "sub".toList, "build".toList, "f".toList] = some false) ∧
    verdict? ["/".toList] ["f".toList] = some false ∧
      verdict? (["/".toList].map (rebase "b".toList)) ["b".toList, "f".toList] = some true := by
  decide +kernel

end SiteAudit.Exclude
