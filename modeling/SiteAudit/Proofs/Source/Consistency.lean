/-
  Both passes of an audit see one set of files.

  * `LooksAt`: the paths that discovery looks at.  It succeeds unless one of them is
    too long or a directory is nested too deep (`discoveryFault?_eq_none_iff_looksAt`).
  * `IsFileSet`: what it has to answer then, known from the entries below the root.
  * `selected_of_subset`, `ofPaths_selected_of_subset`: with fewer suffixes it answers
    fewer files, and there are fewer sources, in the same order.
  * `discover_consistent`: the same of the two passes, and of the names under which
    sources are known.
  * `long_file_separates`: a path can be too long for one of the passes alone.
-/
import SiteAudit.Audit.OfTree
import SiteAudit.Proofs.Audit.Noninterference
import SiteAudit.Proofs.Files.Descent

namespace SiteAudit.Source

open Files

variable {tree : Tree} {root path : Path} {suffixes few many : List Text} {rules : List Exclude.Rule}
  {names : List Text} {node : Node} {paths : List Path} {sources : List Source}

/-! ## When discovery succeeds -/

/-- Discovery looks at a path, written in some way: at the root, at what the listing
    looks at, and at what has one of the suffixes. -/
inductive LooksAt [Platform] (tree : Tree) (root : Path) (suffixes : List Text) : Text → Path → Prop
  | root : LooksAt tree root suffixes root.text root
  | listed {names : List Text} {node : Node} {written : Text} : tree.StandsBelow root names node →
      Tree.writtenFor? (root.below names) node = some written →
      LooksAt tree root suffixes written (root.below names)
  | accepted {names : List Text} {node : Node} : tree.StandsBelow root names node →
      hasSuffix suffixes (root.below names) = true →
      LooksAt tree root suffixes (root.below names).text (root.below names)

theorem LooksAt.mono [Platform] (hsub : few ⊆ many) {written : Text} (h : LooksAt tree root few written path) :
    LooksAt tree root many written path := by
  cases h with
  | root => exact .root
  | listed hbelow hwritten => exact .listed hbelow hwritten
  | accepted hbelow hsuffix => exact .accepted hbelow (hasSuffix_mono hsub hsuffix)

/-- **Discovery fails only of a path that it looks at and that is too long, or of a
    directory that is nested too deep.** -/
theorem discoveryFault?_eq_none_iff_looksAt [Platform] {errand : Errand} (sound : tree.Sound) :
    discoveryFault? errand tree root suffixes = none ↔
      (∀ written path, LooksAt tree root suffixes written path → ¬ tree.TooLong written path) ∧
        tree.WithinDepth errand root := by
  rw [discoveryFault?, Option.or_eq_none_iff, sound.listingFault?_eq_none_iff_withinDepth,
    List.findSome?_eq_none_iff]
  simp only [accepted, List.mem_filter, sound.mem_pathsBelow_iff_standsBelow,
    Tree.lookFault?_eq_none_iff_not_tooLong]
  constructor
  · rintro ⟨⟨⟨hroot, hlisted⟩, hwithin⟩, haccepted⟩
    refine ⟨fun written path hlooks => ?_, hwithin⟩
    cases hlooks with
    | root => exact hroot
    | listed hbelow hwritten => exact hlisted _ _ _ hbelow hwritten
    | accepted hbelow hsuffix => exact haccepted _ ⟨⟨_, _, hbelow, rfl⟩, hsuffix⟩
  · rintro ⟨hshort, hwithin⟩
    have hlisted {names : List Text} {node : Node} {written : Text} (hbelow : tree.StandsBelow root names node)
        (hwritten : Tree.writtenFor? (root.below names) node = some written) :
        ¬ tree.TooLong written (root.below names) := hshort _ _ (.listed hbelow hwritten)
    refine ⟨⟨⟨hshort _ _ .root, fun names node written => hlisted⟩, hwithin⟩, ?_⟩
    rintro _ ⟨⟨names, node, hbelow, rfl⟩, hsuffix⟩
    exact hshort _ _ (.accepted hbelow hsuffix)

theorem discover_eq_ok_iff [Platform] {errand : Errand} : discover errand tree root suffixes rules = .ok paths ↔
    discoveryFault? errand tree root suffixes = none ∧ paths = selected tree root suffixes rules := by
  rw [discover]
  split
  · next hfault => simp [hfault]
  · next hnone => simp [hnone, eq_comm]

theorem ofTree_eq_ok_iff [Platform] {errand : Errand} : ofTree errand tree root suffixes rules = .ok sources ↔
    discoveryFault? errand tree root suffixes = none ∧
      sources = ofPaths tree root (selected tree root suffixes rules) := by
  rw [ofTree, map_eq_ok_iff]
  simp only [discover_eq_ok_iff]
  constructor
  · rintro ⟨paths, ⟨hnone, rfl⟩, rfl⟩
    exact ⟨hnone, rfl⟩
  · rintro ⟨hnone, rfl⟩
    exact ⟨_, ⟨hnone, rfl⟩, rfl⟩

/-! ## What discovery answers -/

/-- The paths are in strict order, name by name, and are those of the entries below
    the root that are files, have one of the suffixes, and are not excluded. -/
structure IsFileSet (tree : Tree) (root : Path) (suffixes : List Text) (rules : List Exclude.Rule)
    (paths : List Path) : Prop where
  ascending : paths.Pairwise fun a b => compare a.parts b.parts = .lt
  mem_iff : ∀ path, path ∈ paths ↔ ∃ names node, tree.StandsBelow root names node ∧ path = root.below names ∧
    tree.IsFileAt path node ∧ hasSuffix suffixes path = true ∧ isExcluded rules root path = false

theorem isFileSet_of_discover [Platform] {errand : Errand} (sound : tree.Sound)
    (h : discover errand tree root suffixes rules = .ok paths) : IsFileSet tree root suffixes rules paths := by
  obtain ⟨hnone, rfl⟩ := discover_eq_ok_iff.1 h
  have hfits := ((discoveryFault?_eq_none_iff_looksAt sound).1 hnone).1
  refine ⟨(((Tree.pathsBelow_pairwise tree root).filter _).filter _).filter _, fun path => ?_⟩
  simp only [selected, candidates, accepted, List.mem_filter, sound.mem_pathsBelow_iff_standsBelow,
    Bool.not_eq_true']
  constructor
  · rintro ⟨⟨⟨⟨names, node, hbelow, rfl⟩, hsuffix⟩, hfile⟩, hkept⟩
    have hfile' := (sound.isFile_below_iff hbelow (hfits _ _ (.accepted hbelow hsuffix))).1 hfile
    exact ⟨names, node, hbelow, rfl, hfile', hsuffix, hkept⟩
  · rintro ⟨names, node, hbelow, rfl, hfile, hsuffix, hkept⟩
    have hfile' := (sound.isFile_below_iff hbelow (hfits _ _ (.accepted hbelow hsuffix))).2 hfile
    exact ⟨⟨⟨⟨names, node, hbelow, rfl⟩, hsuffix⟩, hfile'⟩, hkept⟩

/-! ## Fewer suffixes -/

theorem selected_of_subset (tree : Tree) (root : Path) (rules : List Exclude.Rule) (hsub : few ⊆ many) :
    selected tree root few rules = (selected tree root many rules).filter (hasSuffix few) := by
  simp only [selected, candidates, accepted, List.filter_filter]
  refine List.filter_congr fun path _ => ?_
  by_cases hfew : hasSuffix few path = true
  · simp [hfew, hasSuffix_mono hsub hfew]
  · simp [hfew]

theorem discoveryFault?_of_subset [Platform] {errand : Errand} (sound : tree.Sound) (hsub : few ⊆ many)
    (h : discoveryFault? errand tree root many = none) : discoveryFault? errand tree root few = none := by
  rw [discoveryFault?_eq_none_iff_looksAt sound] at h ⊢
  exact ⟨fun written path hlooks => h.1 written path (hlooks.mono hsub), h.2⟩

/-! ## Sources by their names -/

/-- The name of a source has one of the suffixes. -/
def isNamedWith (suffixes : List Text) (source : Source) : Bool :=
  hasSuffix suffixes (Path.ofText source.file)

theorem isNamedWith_of_ofPath? (sound : tree.Sound) (hbelow : tree.StandsBelow root names node)
    {source : Source} (h : ofPath? tree root (root.below names) = some source) :
    isNamedWith suffixes source = hasSuffix suffixes (root.below names) := by
  obtain ⟨text, -, rfl⟩ := Option.map_eq_some_iff.1 h
  have hname := sound.isEntryName_of_standsBelow hbelow
  obtain ⟨location, -, hdescends⟩ := hbelow
  rw [isNamedWith, Path.relativeTo_below, Path.ofText_text fun part hpart => (hname part hpart).isPart,
    hasSuffix_below root hdescends.node?_eq.1, relativePath]

theorem ofPaths_selected_of_subset (sound : tree.Sound) (hsub : few ⊆ many) (rules : List Exclude.Rule) :
    ofPaths tree root (selected tree root few rules) =
      (ofPaths tree root (selected tree root many rules)).filter (isNamedWith few) := by
  rw [selected_of_subset tree root rules hsub, ofPaths, ofPaths, List.filterMap_filter, List.filter_filterMap]
  refine List.filterMap_congr fun path hpath => ?_
  have hlisted : path ∈ tree.pathsBelow root := by
    simp only [selected, candidates, accepted, List.mem_filter] at hpath
    exact hpath.1.1.1
  obtain ⟨names, node, hbelow, rfl⟩ := sound.mem_pathsBelow_iff_standsBelow.1 hlisted
  cases hsource : ofPath? tree root (root.below names) with
  | none => simp
  | some source => simp [Option.filter, isNamedWith_of_ofPath? sound hbelow hsource]

theorem joined_below (sound : tree.Sound) (hbelow : tree.StandsBelow root names node) :
    root.joined (Path.ofText ((root.below names).relativeTo root).text) = root.below names :=
  Path.joined_relativeTo fun name hname => (sound.isEntryName_of_standsBelow hbelow name hname).isPart

theorem relativeTo_injective (sound : tree.Sound) {others : List Text} {other : Node}
    (hbelow : tree.StandsBelow root names node) (hother : tree.StandsBelow root others other)
    (h : ((root.below names).relativeTo root).text = ((root.below others).relativeTo root).text) :
    names = others := by
  have hpath : root.below names = root.below others := by
    rw [← joined_below sound hbelow, h, joined_below sound hother]
  exact List.append_cancel_left (congrArg Path.parts hpath)

/-! ## Both passes -/

/-- An audit finds its routes in the pages among the sources in which it finds its
    links. -/
theorem ofTree_audit_eq [Platform] (sound : tree.Sound) {audit : Audit}
    (h : Audit.ofTree tree root rules = .ok audit) :
    ∃ linked, ofTree .links tree root linkSuffixes rules = .ok linked ∧
      audit = Audit.ofSources (linked.filter (isNamedWith pageSuffixes)) linked := by
  rw [Audit.ofTree] at h
  split at h
  · cases h
  · simp only [bind_eq_ok_iff, mapError_eq_ok_iff, Except.ok.injEq] at h
    obtain ⟨pages, hpages, linked, hlinked, rfl⟩ := h
    obtain ⟨-, rfl⟩ := ofTree_eq_ok_iff.1 hpages
    refine ⟨linked, hlinked, ?_⟩
    rw [ofPaths_selected_of_subset sound Audit.pageSuffixes_subset, ← (ofTree_eq_ok_iff.1 hlinked).2]

/-- **Both passes see one set of files.**  Discovery succeeds unless a path that it
    looks at is too long or a directory is nested too deep, and answers the file set.
    With fewer suffixes it answers, in the same order, the files that have one of these,
    and so do the sources.  Names that are relative to the root tell entries apart and
    find them again. -/
theorem discover_consistent [Platform] {errand : Errand} (sound : tree.Sound) (hsub : few ⊆ many) :
    ((∃ paths, discover errand tree root many rules = .ok paths) ↔
      (∀ written path, LooksAt tree root many written path → ¬ tree.TooLong written path) ∧
        tree.WithinDepth errand root) ∧
    (∀ paths, discover errand tree root many rules = .ok paths →
      IsFileSet tree root many rules paths ∧
      discover errand tree root few rules = .ok (paths.filter (hasSuffix few)) ∧
      ofTree errand tree root many rules = .ok (ofPaths tree root paths) ∧
      ofTree errand tree root few rules = .ok ((ofPaths tree root paths).filter (isNamedWith few))) ∧
    (∀ audit, Audit.ofTree tree root rules = .ok audit → ∃ linked,
      ofTree .links tree root linkSuffixes rules = .ok linked ∧
        audit = Audit.ofSources (linked.filter (isNamedWith pageSuffixes)) linked) ∧
    (∀ names node, tree.StandsBelow root names node →
      root.joined (Path.ofText ((root.below names).relativeTo root).text) = root.below names) ∧
    ∀ names node others other, tree.StandsBelow root names node → tree.StandsBelow root others other →
      ((root.below names).relativeTo root).text = ((root.below others).relativeTo root).text →
        names = others := by
  refine ⟨?_, fun paths hpaths => ?_, fun audit haudit => ofTree_audit_eq sound haudit,
    fun names node hbelow => joined_below sound hbelow,
    fun names node others other hbelow hother h => relativeTo_injective sound hbelow hother h⟩
  · rw [← discoveryFault?_eq_none_iff_looksAt sound]
    simp [discover_eq_ok_iff]
  · have hset := isFileSet_of_discover sound hpaths
    obtain ⟨hmany, rfl⟩ := discover_eq_ok_iff.1 hpaths
    have hfew := discoveryFault?_of_subset sound hsub hmany
    refine ⟨hset, ?_, ofTree_eq_ok_iff.2 ⟨hmany, rfl⟩, ?_⟩
    · exact discover_eq_ok_iff.2 ⟨hfew, (selected_of_subset tree root rules hsub).symm⟩
    · exact ofTree_eq_ok_iff.2 ⟨hfew, (ofPaths_selected_of_subset sound hsub rules).symm⟩

/-- A page, beside links to it, to its directory and to nowhere. -/
def signposted : Tree :=
  Audit.workplace [(["a.razor".toList], Audit.page), (["s".toList], .directory),
    (["s".toList, "b.CS".toList], .file []), (["s".toList, "c.html".toList], .link "../a.razor".toList),
    (["s".toList, "d.cs".toList], .link "nowhere".toList), (["t.cs".toList], .link "s".toList),
    (["x.razor".toList], Audit.page)]

section
open scoped Platform.Usual

/-- Only the link to the page is a file of its own. -/
theorem discover_consistent_signposted : signposted.Sound ∧ pageSuffixes ⊆ linkSuffixes ∧
    discover .links signposted ⟨.relative, []⟩ linkSuffixes Audit.excludingX =
      .ok [⟨.relative, ["a.razor".toList]⟩, ⟨.relative, ["s".toList, "b.CS".toList]⟩,
        ⟨.relative, ["s".toList, "c.html".toList]⟩] ∧
    discover .links signposted ⟨.relative, []⟩ pageSuffixes Audit.excludingX =
      .ok [⟨.relative, ["a.razor".toList]⟩] := by
  have sound : signposted.Sound := by decide +kernel
  have hall : discover .links signposted ⟨.relative, []⟩ linkSuffixes Audit.excludingX =
      .ok [⟨.relative, ["a.razor".toList]⟩, ⟨.relative, ["s".toList, "b.CS".toList]⟩,
        ⟨.relative, ["s".toList, "c.html".toList]⟩] := by
    decide +kernel
  have hpages := ((discover_consistent sound Audit.pageSuffixes_subset).2.1 _ hall).2.1
  exact ⟨sound, Audit.pageSuffixes_subset, hall, hpages.trans (by decide +kernel)⟩

end

/-- A page beside a file that is no page and whose path is too long. -/
def overlong : Tree :=
  Audit.shallow.put [['w'], Audit.longName, List.replicate 100 'q' ++ ".cs".toList] (.file [])

section
open scoped Platform.Usual

/-- **A path can be too long for one pass alone**: with more suffixes discovery
    fails, with fewer it does not. -/
theorem long_file_separates : overlong.Sound ∧ pageSuffixes ⊆ linkSuffixes ∧
    (∃ paths, discover .links overlong Audit.winding pageSuffixes [] = .ok paths) ∧
      ¬ ∃ paths, discover .links overlong Audit.winding linkSuffixes [] = .ok paths := by
  have site : overlong.Site Audit.winding [['w'], Audit.longName] := by decide +kernel
  have hpages : Fits .links overlong Audit.winding [['w'], Audit.longName] pageSuffixes :=
    (fits_iff site).2 (by decide +kernel)
  refine ⟨site.sound, Audit.pageSuffixes_subset, ⟨_, discover_eq site hpages⟩, ?_⟩
  rintro ⟨paths, hpaths⟩
  have hnone := (discover_eq_ok_iff.1 hpaths).1
  rw [discoveryFault?_eq_none_iff site, fits_iff site] at hnone
  revert hnone
  decide +kernel

end

end SiteAudit.Source
