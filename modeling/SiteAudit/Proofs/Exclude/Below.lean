/-
  A pattern below a directory and the pattern by itself.

  `reading_below`: after the names of a directory a pattern says of a path what it
  says of the rest of the path by itself.  Patterns that have a form of their own
  by themselves, a double star alone and a star in any directory, are no
  exception, but a path with a line feed may tell them apart.
-/
import SiteAudit.Proofs.Exclude.Directory

namespace SiteAudit.Exclude

open Text (joinWith)

variable {names path : List Text} {name : Text} {weight : Weight} {forDirectory : Bool}

/-! ## A star in any directory -/

theorem restsOfSome_all {q : Char → Bool} : ∀ {s : Text}, s ≠ [] → (∀ c ∈ s, q c = true) →
    ∃ more, Text.restsOfSome q s = [] :: more
  | [], hne, _ => absurd rfl hne
  | [c], _, hall => ⟨[], by simp [Text.restsOfSome, hall c]⟩
  | c :: d :: s, _, hall => by
    obtain ⟨more, hmore⟩ := restsOfSome_all (s := d :: s) (by simp) fun e he => hall e (by simp [he])
    exact ⟨more ++ [d :: s], by rw [Text.restsOfSome, if_pos (hall c (by simp)), hmore]; rfl⟩

/-- After characters that may be taken, the rests of what follows come first. -/
theorem restsOfSome_append {q : Char → Bool} {t : Text} : ∀ {s : Text}, s ≠ [] → (∀ c ∈ s, q c = true) →
    ∃ more, Text.restsOfSome q (s ++ t) = Text.restsOfSome q t ++ t :: more
  | [], hne, _ => absurd rfl hne
  | [c], _, hall => ⟨[], by simp [Text.restsOfSome, hall c]⟩
  | c :: d :: s, _, hall => by
    obtain ⟨more, hmore⟩ := restsOfSome_append (t := t) (s := d :: s) (by simp) fun e he => hall e (by simp [he])
    exact ⟨more ++ [d :: s ++ t], by rw [List.cons_append, Text.restsOfSome, if_pos (hall c (by simp)), hmore]; simp⟩

theorem filterMap_afterSlash?_eq_nil {q : Char → Bool} {s : Text} (h : '/' ∉ s) :
    (Text.restsOfSome q s).filterMap afterSlash? = [] := by
  rw [List.filterMap_eq_nil_iff]
  intro r hr
  obtain ⟨taken, -, rfl, -⟩ := Text.mem_restsOfSome_iff.1 hr
  rw [Option.eq_none_iff_forall_not_mem]
  intro rest hrest
  rw [Option.mem_def, afterSlash?_eq_some_iff] at hrest
  simp [hrest] at h

theorem weightOfPieces_lastName (hpath : IsPath path) (hfeed : '\n' ∉ joinWith ['/'] path) :
    weightOfPieces .name [.directories, .wholeName] (joinWith ['/'] path) = some .direct := by
  obtain ⟨front, last, hjoin, hne, hslash, hfront⟩ := hpath.exists_last
  have hlast : weightOfPieces .name [.wholeName] last = some .direct := by
    obtain ⟨more, hmore⟩ := restsOfSome_all (q := (· != '/')) hne fun c hc => by
      simpa using fun h : c = '/' => hslash (h ▸ hc)
    simp [weightOfPieces, Piece.rests, hmore, Ending.weight?]
  have hafter : afterSlash? last = none := by
    rw [Option.eq_none_iff_forall_not_mem]
    intro rest hrest
    rw [Option.mem_def, afterSlash?_eq_some_iff] at hrest
    simp [hrest] at hslash
  rw [hjoin] at hfeed ⊢
  rw [weightOfPieces, Piece.rests]
  rcases hfront with rfl | ⟨before, hbefore, rfl⟩
  · rw [List.nil_append, filterMap_afterSlash?_eq_nil hslash]
    simp [hlast]
  · obtain ⟨more, hmore⟩ := restsOfSome_append (q := isPassable) (t := '/' :: last) hbefore fun c hc => by
      have hne : c ≠ '\n' := by
        rintro rfl
        exact hfeed (by simp [hc])
      simpa [isPassable] using hne
    have hrests : Text.restsOfSome isPassable ('/' :: last) = Text.restsOfSome isPassable last ++ [last] := by
      simp [Text.restsOfSome, isPassable]
    have hfirst : afterSlash? ('/' :: last) = some last := rfl
    rw [List.append_assoc, List.singleton_append, hmore, hrests]
    simp only [List.filterMap_append, filterMap_afterSlash?_eq_nil hslash, List.filterMap_cons, hafter, hfirst,
      List.filterMap_nil, List.nil_append, List.cons_append, List.findSome?_cons, hlast]

/-! ## Patterns for what stands in directories -/

theorem of_weightOfPieces_slash {e : Weight} {pieces : List Piece} {s : Text}
    (h : weightOfPieces (.slash weight) pieces s = some e) : e = weight ∧ ∃ r, '/' :: r <:+ s := by
  rw [← List.append_nil pieces] at h
  obtain ⟨r, hr, hweight⟩ := exists_suffix_of_weightOfPieces h
  simp only [weightOfPieces, Ending.weight?] at hweight
  split at hweight
  · next hhead =>
    obtain ⟨rest, rfl⟩ := List.head?_eq_some_iff.1 hhead
    exact ⟨(Option.some.inj hweight).symm, rest, hr⟩
  · cases hweight

theorem weightOfPieces_anySlash (hpath : IsPath path) :
    weightOfPieces (.slash weight) [.directories, .wholeName] (joinWith ['/'] path) =
      (Shape.anySlash weight).weight? (joinWith ['/'] path) := by
  rw [Shape.weight?]
  cases hweight : weightOfPieces (.slash weight) [.directories, .wholeName] (joinWith ['/'] path) with
  | some e =>
    obtain ⟨rfl, r, hr⟩ := of_weightOfPieces_slash hweight
    have hmem : '/' ∈ joinWith ['/'] path := hr.subset (by simp)
    simp [hmem]
  | none =>
    obtain ⟨name, names, rfl⟩ := List.exists_cons_of_ne_nil hpath.ne_nil
    have hname := hpath.names name (by simp)
    cases names with
    | nil => simp [joinWith, hname.no_slash]
    | cons next names =>
      -- The first name, and the slash after it, would do.
      rw [weightOfPieces, List.findSome?_eq_none_iff] at hweight
      have hself := hweight (joinWith ['/'] (name :: next :: names)) (by simp [Piece.rests])
      rw [weightOfPieces, List.findSome?_eq_none_iff] at hself
      have hfirst := hself ('/' :: joinWith ['/'] (next :: names)) (by
        rw [Piece.rests, Text.mem_restsOfSome_iff]
        refine ⟨name, hname.ne_nil, by simp [joinWith], fun c hc => ?_⟩
        simpa using fun h : c = '/' => hname.no_slash (h ▸ hc))
      simp [weightOfPieces, Ending.weight?] at hfirst

/-! ## Doubled slashes -/

/-- The names of a pattern with more than one slash at its end. -/
def doubled (name : Text) (more : Nat) : List Text :=
  name :: (List.replicate (more + 1) [] ++ [anyDirectories])

theorem patternOf_emptyNames : ∀ more : Nat, patternOf weight true (List.replicate more [] ++ [anyDirectories]) =
    .ok (List.replicate more (.literal '/'), .slash weight)
  | 0 => rfl
  | more + 1 => by
    have hempty : namePieces [] = .ok [] := rfl
    rw [List.replicate_succ, List.cons_append, patternOf_cons (by decide) (by simp), patternOf_emptyNames more,
      hempty]
    rfl

theorem patternOf_doubled (hname : name ≠ anyDirectories) (more : Nat) : patternOf weight false (doubled name more) =
    (namePieces name).map fun here => (here ++ List.replicate (more + 1) (.literal '/'), .slash weight) := by
  rw [doubled, patternOf_cons hname (by simp), patternOf_emptyNames]
  cases namePieces name <;> rfl

theorem weightOfPieces_doubled (hpath : IsPath path) (front : List Piece) (more : Nat) :
    weightOfPieces (.slash weight) (front ++ List.replicate (more + 1) (.literal '/')) (joinWith ['/'] path) =
      none := by
  rw [Option.eq_none_iff_forall_not_mem]
  intro e he
  obtain ⟨r, hr, hweight⟩ := exists_suffix_of_weightOfPieces he
  obtain ⟨s, rfl, hs⟩ : ∃ s, r = ['/'] ++ s ∧
      weightOfPieces (.slash weight) (List.replicate more (.literal '/')) s = some e := exists_of_literals hweight
  obtain ⟨t, rfl⟩ : ∃ t, s = '/' :: t := by
    cases more with
    | zero =>
      simp only [List.replicate_zero, weightOfPieces, Ending.weight?] at hs
      split at hs
      · next hhead => exact (List.head?_eq_some_iff.1 hhead)
      · cases hs
    | succ more =>
      obtain ⟨t, rfl, -⟩ : ∃ t, s = ['/'] ++ t ∧
          weightOfPieces (.slash weight) (List.replicate more (.literal '/')) t = some e := exists_of_literals hs
      exact ⟨t, rfl⟩
  obtain ⟨before, hbefore⟩ := hr
  have hempty : [] ∈ path := by
    rw [← hpath.splitOn, ← hbefore]
    simp [Text.splitOn_append]
  exact (hpath.names [] hempty).ne_nil rfl

/-! ## The pattern by itself -/

theorem head?_joinedRuns (names : List Text) : (joinedRuns names).head? = names.head? := by
  induction names with
  | nil => rfl
  | cons name names ih =>
    rw [joinedRuns]
    split
    · next h => rw [ih, h.1, h.2, List.head?_cons]
    · rfl

theorem head?_ne_of_joinedRuns : ∀ {written more : List Text}, joinedRuns written = anyDirectories :: more →
    more.head? ≠ some anyDirectories
  | [], more, h => by simp [joinedRuns] at h
  | name :: written, more, h => by
    rw [joinedRuns] at h
    split at h
    · exact head?_ne_of_joinedRuns h
    · next hapart =>
      obtain ⟨rfl, rfl⟩ := List.cons.inj h
      rw [head?_joinedRuns]
      exact fun hhead => hapart ⟨rfl, hhead⟩

theorem patternOf_run_star : patternOf weight true [anyDirectories, ['*']] =
    .ok (after [.furtherDirectories, .literal '/'] ([.wholeName], .name)) := rfl

theorem patternOf_run_star_run : patternOf weight true [anyDirectories, ['*'], anyDirectories] =
    .ok (after [.furtherDirectories, .literal '/'] ([.wholeName], .slash weight)) := rfl

theorem shapeOf_run (hne : names ≠ []) (hstar : names ≠ [['*']]) (hslash : names ≠ [['*'], anyDirectories]) :
    shapeOf weight forDirectory (anyDirectories :: names) =
      (patternOf weight false names).map fun pattern => .starting (.directories :: pattern.1) pattern.2 := by
  rw [shapeOf, if_neg (by simpa using hne), if_neg (by simpa using hstar), if_neg (by simpa using hslash),
    List.head?_cons, if_pos rfl, List.tail_cons]
  cases patternOf weight false names <;> rfl

theorem any_isPassable (hpath : IsPath path) (hfeed : '\n' ∉ joinWith ['/'] path) :
    (joinWith ['/'] path).any isPassable = true := by
  obtain ⟨c, s, hs, -⟩ := hpath.exists_cons
  have hc : c ≠ '\n' := by
    rintro rfl
    exact hfeed (by simp [hs])
  simp [hs, isPassable, hc]

/-- **After a slash a pattern says what it says by itself.** -/
theorem reading_below (hpath : IsPath path) (hne : names ≠ [])
    (hruns : ∀ more, names = anyDirectories :: more → more.head? ≠ some anyDirectories)
    (hrun : names = [anyDirectories] → forDirectory = false ∧ weight = .direct)
    (hfeed : '\n' ∈ joinWith ['/'] path → names ≠ [anyDirectories] ∧ names ≠ [anyDirectories, ['*']]) :
    (patternOf weight true names).map (reading ('/' :: joinWith ['/'] path)) =
      (shapeOf weight forDirectory names).map (Shape.reading (joinWith ['/'] path)) := by
  obtain ⟨name, names, rfl⟩ := List.exists_cons_of_ne_nil hne
  by_cases hname : name = anyDirectories
  · subst hname
    by_cases halone : names = []
    · subst halone
      obtain ⟨rfl, rfl⟩ := hrun rfl
      have hany := any_isPassable hpath fun h => (hfeed h).1 rfl
      have hshape : shapeOf .direct false [anyDirectories] = .ok .anything := rfl
      have hpattern : patternOf .direct true [anyDirectories] = .ok ([], .slash .direct) := rfl
      rw [hshape, hpattern]
      simp [Except.map, reading, Shape.reading, Shape.weight?, Shape.isOrdered, weightOfPieces, Ending.weight?,
        hany]
    by_cases hstar : names = [['*']]
    · subst hstar
      have hfree : '\n' ∉ joinWith ['/'] path := fun h => (hfeed h).2 rfl
      have hshape : shapeOf weight forDirectory [anyDirectories, ['*']] = .ok .anything := rfl
      rw [patternOf_run_star, hshape, Except.map, Except.map, reading_furtherDirectories]
      simp [reading, after, Shape.reading, Shape.weight?, Shape.isOrdered, weightOfPieces_lastName hpath hfree,
        Piece.isOrdered, any_isPassable hpath hfree]
    by_cases hslash : names = [['*'], anyDirectories]
    · subst hslash
      have hshape : shapeOf weight forDirectory [anyDirectories, ['*'], anyDirectories] =
          .ok (.anySlash weight) := rfl
      rw [patternOf_run_star_run, hshape, Except.map, Except.map, reading_furtherDirectories]
      simp [reading, after, Shape.reading, Shape.isOrdered, weightOfPieces_anySlash hpath, Piece.isOrdered]
    · obtain ⟨next, names, rfl⟩ := List.exists_cons_of_ne_nil halone
      have hnext : next ≠ anyDirectories := fun h => hruns _ rfl (by simp [h])
      rw [patternOf_run halone, patternOf_true hnext, map_after, shapeOf_run halone hstar hslash]
      cases patternOf weight false (next :: names) with
      | error fault => rfl
      | ok pattern => exact congrArg Except.ok (reading_furtherDirectories _ pattern)
  · rw [patternOf_true hname, shapeOf_of_head_ne (by simpa using hname)]
    cases patternOf weight false (name :: names) with
    | error fault => rfl
    | ok pattern => exact congrArg Except.ok (reading_literals ['/'] (joinWith ['/'] path) pattern)

/-- More than one slash at the end, in any directory or not, apply to no path. -/
theorem reading_below_doubled (hpath : IsPath path) (hname : name ≠ anyDirectories) (more : Nat) :
    (patternOf weight true (anyDirectories :: doubled name more)).map (reading ('/' :: joinWith ['/'] path)) =
      (shapeOf weight forDirectory (doubled name more)).map (Shape.reading (joinWith ['/'] path)) := by
  have htrue : patternOf weight true (doubled name more) =
      (patternOf weight false (doubled name more)).map (after [.literal '/']) := patternOf_true hname
  rw [patternOf_run (by simp [doubled]), htrue, map_after, shapeOf_of_head_ne (by simpa [doubled] using hname),
    patternOf_doubled hname]
  cases namePieces name with
  | error fault => rfl
  | ok here =>
    have hin : weightOfPieces (.slash weight) (.directories :: (here ++ List.replicate (more + 1) (.literal '/')))
        (joinWith ['/'] path) = none := weightOfPieces_doubled hpath (.directories :: here) more
    have hself : weightOfPieces (.slash weight) (here ++ List.replicate (more + 1) (.literal '/'))
        (joinWith ['/'] path) = none := weightOfPieces_doubled hpath here more
    simp only [Except.map, List.cons_append, List.nil_append, reading_furtherDirectories, Except.ok.injEq]
    simp [reading, after, Shape.reading, Shape.weight?, Shape.isOrdered, hin, hself, Piece.isOrdered]

end SiteAudit.Exclude
