/-
  What an audit depends on.

  A file takes part in an audit if it has a suffix of sources, no rule excludes
  it, and its bytes are UTF-8.

  * `ofSources_eq_ofFiles`: other files leave no trace in routes, roles and links;
  * `Fits`: nothing is in the way that cannot be looked at or is nested too deep;
  * `ofTree_eq_ofFiles`: the audit of a tree that fits is made of the files that take
    part, and no other tree has an audit (`exists_ofTree_iff`);
  * `ofTree_noninterference`: trees with the same files that take part have the
    same audit, and so has the tree without the files that the rules exclude.
-/
import SiteAudit.Audit.OfTree
import SiteAudit.Proofs.Source.OfTree
import SiteAudit.Proofs.Text.Utf8

namespace SiteAudit.Audit

open Files
open Source (hasSuffix linkSuffixes ofFile? pageSuffixes relativePath)
open Text.Utf8 (Bytes)

variable {tree tree₁ tree₂ : Tree} {root : Path} {location location₁ location₂ : Location}
  {rules rules₁ rules₂ : List Exclude.Rule} {suffixes : List Text} {file : List Text × Bytes}

/-! ## Files that take part -/

/-- A file takes part in an audit. -/
def takesPart (rules : List Exclude.Rule) (file : List Text × Bytes) : Bool :=
  hasSuffix linkSuffixes (relativePath file.1) && !Exclude.excludes rules (relativePath file.1).text &&
    (Text.Utf8.decode file.2).toOption.isSome

/-- The audit of files that no rule excludes. -/
def ofFiles (files : List (List Text × Bytes)) : Audit :=
  ofSources (files.filterMap (ofFile? pageSuffixes [])) (files.filterMap (ofFile? linkSuffixes []))

theorem takesPart_iff : takesPart rules file = true ↔
    takesPart [] file = true ∧ Exclude.excludes rules (relativePath file.1).text = false := by
  have hnone : Exclude.excludes [] (relativePath file.1).text = false := by
    simp [Exclude.excludes, Exclude.deciding?, Exclude.decidingFrom]
  simp [takesPart, hnone]
  tauto

theorem ofFile?_of_takesPart (h : takesPart rules file = true) :
    ofFile? suffixes rules file = ofFile? suffixes [] file := by
  obtain ⟨h, hkept⟩ := takesPart_iff.1 h
  obtain ⟨-, hkept'⟩ := takesPart_iff.1 h
  simp [ofFile?, hkept, hkept']

/-- A file that does not take part is an empty source at most: the beginning of a
    byte-order mark is no text, but is read as one. -/
theorem text_eq_nil_of_ofFile? (hsub : suffixes ⊆ linkSuffixes) (hno : takesPart rules file = false)
    {source : Source} (h : ofFile? suffixes rules file = some source) : source.text = [] := by
  obtain ⟨hsuffix, hkept⟩ : hasSuffix suffixes (relativePath file.1) = true ∧
      Exclude.excludes rules (relativePath file.1).text = false := by
    by_contra hcon
    rw [ofFile?, if_neg (by simpa using hcon)] at h
    cases h
  have hlinked : hasSuffix linkSuffixes (relativePath file.1) = true := by
    rw [hasSuffix, List.contains_iff_mem] at hsuffix ⊢
    exact hsub hsuffix
  have hundecoded : ∀ text, Text.Utf8.decode file.2 ≠ .ok text := by
    intro text htext
    simp [takesPart, hlinked, hkept, htext, Except.toOption] at hno
  simp only [ofFile?, hsuffix, hkept, Source.textOfBytes] at h
  cases htext : Text.Utf8.decodeMarked file.2 with
  | error fault => simp [htext, Except.map, Except.toOption] at h
  | ok text =>
    obtain rfl := Text.Utf8.eq_nil_of_decodeMarked htext hundecoded
    simp only [htext, Except.map, Except.toOption, Bool.not_false, Bool.and_self, if_true, Option.map_some,
      Option.some.injEq] at h
    subst h
    rfl

/-! ## What they are made into -/

/-- What is found in sources, and not in an empty one, is found in the files that
    take part. -/
theorem flatMap_ofFile? {α : Type} {find : Source → List α} (hempty : ∀ name, find ⟨name, []⟩ = [])
    (hsub : suffixes ⊆ linkSuffixes) (files : List (List Text × Bytes)) :
    (files.filterMap (ofFile? suffixes rules)).flatMap find =
      ((files.filter (takesPart rules)).filterMap (ofFile? suffixes [])).flatMap find := by
  induction files with
  | nil => rfl
  | cons file files ih =>
    cases hpart : takesPart rules file with
    | true =>
      rw [List.filter_cons_of_pos hpart, List.filterMap_cons, List.filterMap_cons,
        ofFile?_of_takesPart hpart]
      cases ofFile? suffixes [] file with
      | none => exact ih
      | some source => rw [List.flatMap_cons, List.flatMap_cons, ih]
    | false =>
      rw [List.filter_cons_of_neg (by simp [hpart]), List.filterMap_cons]
      cases hsource : ofFile? suffixes rules file with
      | none => exact ih
      | some source =>
        have hnothing : find source = [] := by
          rw [← hempty source.file, ← text_eq_nil_of_ofFile? hsub hpart hsource]
        rw [List.flatMap_cons, hnothing, List.nil_append, ih]

theorem pageSuffixes_subset : pageSuffixes ⊆ linkSuffixes := by decide

/-- **Only files that take part show in an audit.** -/
theorem ofSources_eq_ofFiles (rules : List Exclude.Rule) (files : List (List Text × Bytes)) :
    ofSources (files.filterMap (ofFile? pageSuffixes rules)) (files.filterMap (ofFile? linkSuffixes rules)) =
      ofFiles (files.filter (takesPart rules)) := by
  have hroutes : Route.ofSources (files.filterMap (ofFile? pageSuffixes rules)) =
      Route.ofSources ((files.filter (takesPart rules)).filterMap (ofFile? pageSuffixes [])) :=
    flatMap_ofFile? (fun _ => rfl) pageSuffixes_subset files
  have hlinks (catalogue : Route.Catalogue) :
      Link.ofSources catalogue (files.filterMap (ofFile? linkSuffixes rules)) =
        Link.ofSources catalogue ((files.filter (takesPart rules)).filterMap (ofFile? linkSuffixes [])) :=
    flatMap_ofFile? (fun _ => rfl) (List.Subset.refl _) files
  rw [ofFiles, ofSources, ofSources, hroutes, hlinks]

/-! ## The audit of a tree -/

theorem rootFault?_eq_none (site : tree.Site root location) : rootFault? tree root = none := by
  have hreach := site.root
  have hdirectory : tree.isDirectory root = true := by simp [Tree.isDirectory, Tree.entry?, hreach]
  rw [Tree.reach] at hreach
  simp [rootFault?, Tree.lookFault?, Tree.lookFaultAs?, hreach, hdirectory]

/-- Nothing keeps the files of a site from being found, the pages and those in which
    links are looked for. -/
structure Fits [Platform] (tree : Tree) (root : Path) (location : Location) : Prop where
  pages : Source.Fits .pages tree root location pageSuffixes
  links : Source.Fits .links tree root location linkSuffixes

theorem ofTree_eq_ofFiles [Platform] (site : tree.Site root location) (hfits : Fits tree root location) :
    ofTree tree root rules = .ok (ofFiles ((tree.filesBelow location).filter (takesPart rules))) := by
  rw [ofTree, rootFault?_eq_none site, Source.ofTree_eq site hfits.pages, Source.ofTree_eq site hfits.links,
    ← ofSources_eq_ofFiles]
  rfl

/-- **A site has an audit exactly if it fits.** -/
theorem exists_ofTree_iff [Platform] (site : tree.Site root location) :
    (∃ audit, ofTree tree root rules = .ok audit) ↔ Fits tree root location := by
  constructor
  · rintro ⟨audit, haudit⟩
    simp only [ofTree, rootFault?_eq_none site, bind_eq_ok_iff, mapError_eq_ok_iff] at haudit
    obtain ⟨pages, hpages, linked, hlinked, -⟩ := haudit
    exact ⟨Source.fits_of_ofTree site hpages, Source.fits_of_ofTree site hlinked⟩
  · exact fun hfits => ⟨_, ofTree_eq_ofFiles site hfits⟩

/-- Two trees, each with its rules, have the same files that take part. -/
def SameParts (rules₁ rules₂ : List Exclude.Rule) (tree₁ tree₂ : Tree) (location₁ location₂ : Location) : Prop :=
  ∀ names bytes,
    tree₁.node? (location₁ ++ names) = some (.file bytes) ∧ takesPart rules₁ (names, bytes) = true ↔
      tree₂.node? (location₂ ++ names) = some (.file bytes) ∧ takesPart rules₂ (names, bytes) = true

theorem SameParts.files_eq (site₁ : tree₁.Site root location₁) (site₂ : tree₂.Site root location₂)
    (h : SameParts rules₁ rules₂ tree₁ tree₂ location₁ location₂) :
    (tree₁.filesBelow location₁).filter (takesPart rules₁) =
      (tree₂.filesBelow location₂).filter (takesPart rules₂) := by
  refine Tree.eq_of_mem_iff ((Tree.filesBelow_pairwise tree₁ location₁).filter _)
    ((Tree.filesBelow_pairwise tree₂ location₂).filter _) ?_
  rintro ⟨names, bytes⟩
  simp only [List.mem_filter, Tree.mem_filesBelow_iff site₁.directory, Tree.mem_filesBelow_iff site₂.directory]
  exact h names bytes

theorem SameParts.of_files_eq (site₁ : tree₁.Site root location₁) (site₂ : tree₂.Site root location₂)
    (h : (tree₁.filesBelow location₁).filter (takesPart rules₁) =
      (tree₂.filesBelow location₂).filter (takesPart rules₂)) :
    SameParts rules₁ rules₂ tree₁ tree₂ location₁ location₂ := by
  intro names bytes
  rw [← Tree.mem_filesBelow_iff site₁.directory, ← Tree.mem_filesBelow_iff site₂.directory,
    ← List.mem_filter, ← List.mem_filter, h]

/-! ## Leaving out what is excluded -/

/-- The tree without the files below a location that the rules exclude. -/
def withoutExcluded (rules : List Exclude.Rule) (tree : Tree) (location : Location) : Tree :=
  tree.withoutFiles location fun names => Exclude.excludes rules (relativePath names).text

theorem fits_withoutExcluded [Platform] (hfits : Fits tree root location) :
    Fits (withoutExcluded rules tree location) root location :=
  ⟨hfits.pages.withoutFiles _, hfits.links.withoutFiles _⟩

theorem sameParts_withoutExcluded :
    SameParts rules [] tree (withoutExcluded rules tree location) location location := by
  intro names bytes
  rw [takesPart_iff, withoutExcluded, Tree.node?_withoutFiles_file]
  tauto

/-- **An audit depends on the files that take part, and on nothing else** as long
    as no path is too long to be looked at and no directory is nested too deep.  Rules
    are as good as taking away the files that they exclude. -/
theorem ofTree_noninterference [Platform] (site₁ : tree₁.Site root location₁)
    (site₂ : tree₂.Site root location₂) (hfits₁ : Fits tree₁ root location₁) (hfits₂ : Fits tree₂ root location₂)
    (hsame : SameParts rules rules tree₁ tree₂ location₁ location₂) :
    ∃ audit, ofTree tree₁ root rules = .ok audit ∧ ofTree tree₂ root rules = .ok audit ∧
      ofTree (withoutExcluded rules tree₁ location₁) root [] = .ok audit := by
  have site₃ : (withoutExcluded rules tree₁ location₁).Site root location₁ := site₁.withoutFiles _
  refine ⟨_, ofTree_eq_ofFiles site₁ hfits₁, ?_, ?_⟩
  · rw [ofTree_eq_ofFiles site₂ hfits₂, hsame.files_eq site₁ site₂]
  · rw [ofTree_eq_ofFiles site₃ (fits_withoutExcluded hfits₁),
      SameParts.files_eq site₁ site₃ sameParts_withoutExcluded]

/-! ## Two pairs of sites -/

/-- A tree whose working directory has some entries below it. -/
def workplace (entries : List (List Text × Node)) : Tree :=
  entries.foldl (fun tree entry => tree.put (['w'] :: entry.1) entry.2) (.emptyAt [['w']])

/-- A page. -/
def page : Node :=
  .file (Text.Utf8.encode "@page \"/\"".toList)

/-- Files named `x` are excluded. -/
def excludingX : List Exclude.Rule :=
  [⟨false, .starting [.directories, .literal 'x', .literal '.', .anyRun] .name⟩]

/-- A page beside bytes that are no text and a file that is excluded. -/
def littered : Tree :=
  workplace [(["a.razor".toList], page), (["b.cs".toList], .file [0xff]), (["x.html".toList], page)]

/-- The page beside a directory that is named like a page. -/
def tidied : Tree :=
  workplace [(["a.razor".toList], page), (["d.razor".toList], .directory)]

section
open scoped Platform.Usual

/-- Litter is not in the audit. -/
theorem ofTree_noninterference_litter : ∃ audit, ofTree littered ⟨.relative, []⟩ excludingX = .ok audit ∧
    ofTree tidied ⟨.relative, []⟩ excludingX = .ok audit ∧
      ofTree (withoutExcluded excludingX littered [['w']]) ⟨.relative, []⟩ [] = .ok audit := by
  have site₁ : littered.Site ⟨.relative, []⟩ [['w']] := by decide +kernel
  have site₂ : tidied.Site ⟨.relative, []⟩ [['w']] := by decide +kernel
  have hfits₁ : Fits littered ⟨.relative, []⟩ [['w']] :=
    ⟨(Source.fits_iff site₁).2 (by decide +kernel), (Source.fits_iff site₁).2 (by decide +kernel)⟩
  have hfits₂ : Fits tidied ⟨.relative, []⟩ [['w']] :=
    ⟨(Source.fits_iff site₂).2 (by decide +kernel), (Source.fits_iff site₂).2 (by decide +kernel)⟩
  exact ofTree_noninterference site₁ site₂ hfits₁ hfits₂ (.of_files_eq site₁ site₂ (by decide +kernel))

end

/-- A long name. -/
def longName : Text := List.replicate 250 'p'

/-- A root whose path goes up and down many times. -/
def winding : Path :=
  ⟨.relative, longName :: (List.replicate 15 [['.', '.'], longName]).flatten⟩

/-- A page below the long name. -/
def shallow : Tree :=
  workplace [([longName], .directory), ([longName, "a.razor".toList], page)]

/-- The page beside an empty directory. -/
def deep : Tree :=
  shallow.put [['w'], longName, List.replicate 100 'q'] .directory

section
open scoped Platform.Usual

/-- An empty directory whose path is too long keeps a site from having an audit. -/
theorem empty_directory_interferes :
    shallow.Site winding [['w'], longName] ∧ deep.Site winding [['w'], longName] ∧
      SameParts [] [] shallow deep [['w'], longName] [['w'], longName] ∧
      (∃ audit, ofTree shallow winding [] = .ok audit) ∧ ¬ ∃ audit, ofTree deep winding [] = .ok audit := by
  have site₁ : shallow.Site winding [['w'], longName] := by decide +kernel
  have site₂ : deep.Site winding [['w'], longName] := by decide +kernel
  refine ⟨site₁, site₂, .of_files_eq site₁ site₂ (by decide +kernel), ?_, ?_⟩
  · exact (exists_ofTree_iff site₁).2
      ⟨(Source.fits_iff site₁).2 (by decide +kernel), (Source.fits_iff site₁).2 (by decide +kernel)⟩
  · rw [exists_ofTree_iff site₂]
    intro hfits
    have htooLong := hfits.links.short [List.replicate 100 'q'] .directory (by decide +kernel) (Or.inl rfl)
    revert htooLong
    decide +kernel

end

end SiteAudit.Audit
