/-
  What stands below a root, links included, and how its path is written.

  * `Descends`: names lead from a directory, over directories, to an entry.  A link
    can be that entry, but none is passed.  `StandsBelow`: from the root they do.
  * `mem_pathsBelow_iff_standsBelow`: these entries are the ones that are listed.
  * `isFile_below_iff`: which of them are files, or links to one.
  * `TooLong`: the paths that cannot be looked at (`lookFaultAs?_eq_none_iff`).
    `WithinDepth`: no directory is nested too deep.  What keeps a root from being
    listed is a path that is too long, or such a directory
    (`listingFault?_eq_none_iff_withinDepth`).
  * `Path.ofText_text`, `Path.joined_relativeTo`: a path is read back from its text,
    and found again from the root.
-/
import SiteAudit.Proofs.Files.Below

namespace SiteAudit.Files

/-! ## Paths and their texts -/

namespace Path

variable {path root : Path} {names : List Text}

/-- Where a path leads from a directory on; an anchored path starts at the top. -/
def joined (directory path : Path) : Path :=
  if path.anchor = .relative then directory.below path.parts else path

theorem partsOf_joinWith (h : ∀ name ∈ names, isPart name = true ∧ '/' ∉ name) :
    partsOf (Text.joinWith ['/'] names) = names := by
  by_cases hne : names = []
  · subst hne
    rfl
  · rw [partsOf, Text.splitOn_joinWith hne fun name hname => (h name hname).2,
      List.filter_eq_self.2 fun name hname => (h name hname).1]

/-- An anchor is read back in front of a text that begins with no slash. -/
theorem anchorOf_append {c : Char} (hc : c ≠ '/') (anchor : Anchor) (s : Text) :
    anchorOf (anchor.text ++ c :: s) = anchor := by
  cases anchor <;> simp [Anchor.text, anchorOf, hc]

theorem partsOf_append (anchor : Anchor) (s : Text) : partsOf (anchor.text ++ s) = partsOf s := by
  cases anchor <;> simp [Anchor.text, partsOf, isPart]

/-- **A path is read back from its text.** -/
theorem ofText_text (h : ∀ part ∈ path.parts, isPart part = true ∧ '/' ∉ part) : ofText path.text = path := by
  obtain ⟨anchor, parts⟩ := path
  rw [text]
  split
  · next hdot =>
    obtain ⟨rfl, rfl⟩ : anchor = .relative ∧ parts = [] := hdot
    rfl
  · next hdot =>
    have hparts : partsOf (anchor.text ++ Text.joinWith ['/'] parts) = parts := by
      rw [partsOf_append, partsOf_joinWith h]
    rw [ofText, hparts]
    cases parts with
    | nil => cases anchor <;> simp_all [Anchor.text, anchorOf, Text.joinWith]
    | cons part parts =>
      obtain ⟨hpart, hslash⟩ := h part (by simp)
      obtain ⟨c, part, rfl⟩ := List.exists_cons_of_ne_nil (l := part) (by simp_all [isPart])
      obtain ⟨rest, hrest⟩ : ∃ rest, Text.joinWith ['/'] ((c :: part) :: parts) = c :: rest := by
        cases parts <;> simp [Text.joinWith]
      have hc : c ≠ '/' := by
        rintro rfl
        simp at hslash
      rw [hrest, anchorOf_append hc]

theorem joined_relativeTo (h : ∀ name ∈ names, isPart name = true ∧ '/' ∉ name) :
    root.joined (ofText ((root.below names).relativeTo root).text) = root.below names := by
  rw [relativeTo_below, ofText_text h, joined, if_pos rfl]

end Path

namespace Tree

open Text.Utf8 (Bytes)

variable {tree : Tree} {root path : Path} {location : Location} {names : List Text} {node : Node}
  {written : Text}

/-! ## Descents -/

/-- Names lead from a directory, over directories, to an entry.  A link can be that
    entry, but none is passed. -/
inductive Descends (tree : Tree) : Location → List Text → Node → Prop
  | last {location : Location} {name : Text} {node : Node} : tree.node? location = some .directory →
      tree.node? (location ++ [name]) = some node → Descends tree location [name] node
  | pass {location : Location} {name : Text} {names : List Text} {node : Node} :
      tree.node? location = some .directory → Descends tree (location ++ [name]) names node →
      Descends tree location (name :: names) node

/-- The root is a directory, from which names lead to an entry. -/
def StandsBelow (tree : Tree) (root : Path) (names : List Text) (node : Node) : Prop :=
  ∃ location, tree.reach root .look = .ok (.entry location .directory) ∧ Descends tree location names node

theorem Descends.node?_eq (h : Descends tree location names node) :
    names ≠ [] ∧ tree.node? (location ++ names) = some node := by
  induction h with
  | last _ hnode => exact ⟨by simp, hnode⟩
  | pass _ _ ih => exact ⟨by simp, by simpa using ih.2⟩

theorem Sound.descends (h : tree.Sound) : ∀ (names : List Text) {location : Location}, names ≠ [] →
    tree.node? (location ++ names) = some node → Descends tree location names node
  | [], _, hne, _ => absurd rfl hne
  | [_], _, _, hnode => .last (h.placed hnode) hnode
  | name :: next :: names, location, hne, hnode => by
    have hdir := h.directory_above (name :: next :: names) hne hnode
    have hnode' : tree.node? ((location ++ [name]) ++ next :: names) = some node := by simpa using hnode
    exact .pass hdir (h.descends (next :: names) (by simp) hnode')

section
variable (h : tree.Sound)
include h

theorem Sound.descends_iff : Descends tree location names node ↔
    names ≠ [] ∧ tree.node? (location ++ names) = some node :=
  ⟨Descends.node?_eq, fun ⟨hne, hnode⟩ => h.descends names hne hnode⟩

theorem Sound.standsBelow_iff (hroot : tree.reach root .look = .ok (.entry location .directory)) :
    tree.StandsBelow root names node ↔ names ≠ [] ∧ tree.node? (location ++ names) = some node := by
  rw [StandsBelow, hroot, ← h.descends_iff]
  constructor
  · rintro ⟨_, heq, hdescends⟩
    cases heq
    exact hdescends
  · exact fun hdescends => ⟨location, rfl, hdescends⟩

/-- **The paths that are listed are those of the entries below the root.** -/
theorem Sound.mem_pathsBelow_iff_standsBelow :
    path ∈ tree.pathsBelow root ↔ ∃ names node, tree.StandsBelow root names node ∧ path = root.below names := by
  constructor
  · intro hpath
    obtain ⟨location, hroot⟩ : ∃ location, tree.reach root .look = .ok (.entry location .directory) := by
      rw [pathsBelow] at hpath
      split at hpath
      · next location hroot => exact ⟨location, hroot⟩
      · simp at hpath
    obtain ⟨names, node, hne, hnode, rfl⟩ := (mem_pathsBelow_iff hroot).1 hpath
    exact ⟨names, node, (h.standsBelow_iff hroot).2 ⟨hne, hnode⟩, rfl⟩
  · rintro ⟨names, node, ⟨location, hroot, hdescends⟩, rfl⟩
    obtain ⟨hne, hnode⟩ := hdescends.node?_eq
    exact (mem_pathsBelow_iff hroot).2 ⟨names, node, hne, hnode, rfl⟩

theorem Sound.isEntryName_of_standsBelow (hbelow : tree.StandsBelow root names node) :
    ∀ name ∈ names, IsEntryName name := by
  obtain ⟨location, -, hdescends⟩ := hbelow
  exact fun name hname => h.named hdescends.node?_eq.2 name (by simp [hname])

end

theorem IsEntryName.isPart {name : Text} (h : IsEntryName name) : Path.isPart name = true ∧ '/' ∉ name := by
  have hname := h.isName.1
  simp only [not_or] at hname
  simpa [Path.isPart, hname] using h.no_slash

/-! ## What can be looked at -/

/-- A path, written in some way, is too long to be looked at, or a name is that comes
    up on the way. -/
def TooLong (tree : Tree) (written : Text) (path : Path) : Prop :=
  '\x00' ∉ written ∧ (exceeds maxPathBytes written = true ∨
    tree.walk .look maxLinks (tree.startOf path) path.parts = .error .nameTooLong)

theorem lookFaultAs?_eq_none_iff : tree.lookFaultAs? written path = none ↔ ¬ tree.TooLong written path := by
  rw [lookFaultAs?, reachAs, TooLong]
  by_cases hnull : '\x00' ∈ written
  · simp [hnull]
  by_cases hlong : exceeds maxPathBytes written = true
  · simp [hnull, hlong]
  simp only [Bool.not_eq_true] at hlong
  cases hwalk : tree.walk .look maxLinks (tree.startOf path) path.parts with
  | ok reach => simp [hnull, hlong, Except.mapError]
  | error cause => cases cause <;> simp [hnull, hlong, Except.mapError]

theorem lookFault?_eq_none_iff_not_tooLong : tree.lookFault? path = none ↔ ¬ tree.TooLong path.text path :=
  lookFaultAs?_eq_none_iff

/-- The way in which the listing writes the path of an entry to look at it, if it
    does that. -/
def writtenFor? [Platform] (path : Path) : Node → Option Text
  | .file _ => none
  | .directory => some path.text
  | .link _ => if Platform.looksAtLinks then some path.listedText else none

/-- No directory below the root is nested deeper than the errand can go. -/
def WithinDepth [Platform] (tree : Tree) (errand : Errand) (root : Path) : Prop :=
  ∀ names, tree.StandsBelow root names .directory → names.length ≤ Platform.maxDepth errand

/-- What the listing comes upon without fault: what it looks at there is not too
    long, and a directory is not nested too deep. -/
theorem meetingFault?_eq_none_iff [Platform] {errand : Errand} :
    tree.meetingFault? errand none root names node = none ↔
      (∀ written, writtenFor? (root.below names) node = some written →
        ¬ tree.TooLong written (root.below names)) ∧
      (node = .directory → names.length ≤ Platform.maxDepth errand) := by
  cases node with
  | file bytes => simp [meetingFault?, writtenFor?]
  | directory =>
    simp [meetingFault?, writtenFor?, openingFault?, lookFault?_eq_none_iff_not_tooLong]
  | link target =>
    cases hlooks : Platform.looksAtLinks with
    | false => simp [meetingFault?, writtenFor?, hlooks]
    | true => simp [meetingFault?, writtenFor?, hlooks, lookFaultAs?_eq_none_iff]

/-- **A root is listed unless a path that the listing looks at is too long, or a
    directory is nested too deep.** -/
theorem Sound.listingFault?_eq_none_iff_withinDepth [Platform] {errand : Errand} (h : tree.Sound) :
    tree.listingFault? errand none root = none ↔
      (¬ tree.TooLong root.text root ∧ ∀ names node written, tree.StandsBelow root names node →
        writtenFor? (root.below names) node = some written → ¬ tree.TooLong written (root.below names)) ∧
      tree.WithinDepth errand root := by
  rw [← lookFault?_eq_none_iff_not_tooLong, listingFault?]
  split
  · next location hroot =>
    simp only [openingFault?, Option.bind_none, Option.none_or, Option.or_eq_none_iff,
      List.findSome?_eq_none_iff, Platform.mem_arrange_iff, mem_namesBelow_iff]
    constructor
    · rintro ⟨hopened, hall⟩
      have hmet {names : List Text} {node : Node} (hbelow : tree.StandsBelow root names node) := by
        obtain ⟨hne, hnode⟩ := (h.standsBelow_iff hroot).1 hbelow
        exact meetingFault?_eq_none_iff.1 (by simpa [hnode] using hall names ⟨hne, node, hnode⟩)
      exact ⟨⟨hopened, fun names node written hbelow => (hmet hbelow).1 written⟩,
        fun names hbelow => (hmet hbelow).2 rfl⟩
    · rintro ⟨⟨hopened, hshort⟩, hwithin⟩
      refine ⟨hopened, ?_⟩
      rintro names ⟨hne, node, hnode⟩
      have hbelow := (h.standsBelow_iff hroot).2 ⟨hne, hnode⟩
      rw [hnode, Option.bind_some, meetingFault?_eq_none_iff]
      exact ⟨fun written => hshort names node written hbelow, fun hdir => hwithin names (hdir ▸ hbelow)⟩
  · next hroot =>
    have hnothing {names : List Text} {node : Node} : ¬ tree.StandsBelow root names node := by
      rintro ⟨location, hdir, -⟩
      exact hroot location hdir
    constructor
    · intro hopened
      exact ⟨⟨hopened, fun names node written hbelow => absurd hbelow hnothing⟩,
        fun names hbelow => absurd hbelow hnothing⟩
    · rintro ⟨⟨hopened, -⟩, -⟩
      exact hopened

/-! ## What is a file -/

/-- The entry at a path is a file, or a link through which the path leads to one. -/
def IsFileAt (tree : Tree) (path : Path) : Node → Prop
  | .file _ => True
  | .directory => False
  | .link _ => ∃ stop bytes, Follows tree .look maxLinks (tree.startOf path) path.parts (.entry stop (.file bytes))

theorem Follows.eq {purpose : Purpose} {links : Nat} {reach other : Reach}
    (h : Follows tree purpose links location names reach)
    (h' : Follows tree purpose links location names other) : reach = other :=
  Except.ok.inj ((walk_eq_ok_iff.2 h).symm.trans (walk_eq_ok_iff.2 h'))

/-- The path of an entry that is a file leads to one, and no other does. -/
theorem Sound.isFileAt_iff (h : tree.Sound) (hbelow : tree.StandsBelow root names node) :
    tree.IsFileAt (root.below names) node ↔ ∃ stop bytes,
      Follows tree .look maxLinks (tree.startOf root) (root.parts ++ names) (.entry stop (.file bytes)) := by
  obtain ⟨location, hroot, hdescends⟩ := hbelow
  have hwalk (hplain : node.IsPlain) := h.follows_root hroot hplain hdescends.node?_eq.2
  cases node with
  | file bytes => exact iff_of_true trivial ⟨_, _, hwalk trivial⟩
  | directory =>
    refine iff_of_false id ?_
    rintro ⟨stop, bytes, hfollows⟩
    cases hfollows.eq (hwalk trivial)
  | link target => rfl

/-- **Which entries are files**, as long as they can be looked at. -/
theorem Sound.isFile_below_iff (h : tree.Sound) (hbelow : tree.StandsBelow root names node)
    (hfits : ¬ tree.TooLong (root.below names).text (root.below names)) :
    tree.isFile (root.below names) = true ↔ tree.IsFileAt (root.below names) node := by
  have hnull : '\x00' ∉ (root.below names).text := by
    obtain ⟨location, hroot, hdescends⟩ := hbelow
    exact h.null_notMem hroot hdescends.node?_eq.2
  have hasked : IsAsked (root.below names) := by
    simp only [TooLong, hnull, not_false_eq_true, true_and, not_or, Bool.not_eq_true] at hfits
    exact ⟨hnull, hfits.1⟩
  rw [h.isFileAt_iff hbelow]
  constructor
  · intro hfile
    rw [isFile, entry?] at hfile
    split at hfile
    · next bytes hentry =>
      split at hentry
      · next stop node hreach =>
        obtain rfl := Option.some.inj hentry
        exact ⟨stop, bytes, (reach_eq_ok_iff.1 hreach).2⟩
      · cases hentry
    · cases hfile
  · rintro ⟨stop, bytes, hfollows⟩
    have hreach : tree.reach (root.below names) .look = .ok (.entry stop (.file bytes)) :=
      reach_eq_ok_iff.2 ⟨hasked, hfollows⟩
    rw [isFile, entry?, hreach]

end Tree

end SiteAudit.Files
