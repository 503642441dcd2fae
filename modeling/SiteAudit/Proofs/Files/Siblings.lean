/-
  Paths into one directory.

  * `Follows.split`: a walk comes to a directory, and takes its last name from there.
  * `Follows.last_name`: from there it ends under the name, unless the name leads
    nowhere down or belongs to a link.
  * `Tree.isLink`: the entry at a path is a link; if it is none, the path leads to a
    place under its name (`exists_directory`).
  * `isLink_of_locate?_eq`: so two paths that differ in their names alone lead to one
    entry only if a link stands at one of them.
-/
import SiteAudit.Proofs.Files.Descent
import SiteAudit.Proofs.Files.Naming

namespace SiteAudit.Files.Tree

variable {tree : Tree} {location directory stop : Location} {links : Nat} {names : List Text} {name target : Text}
  {node : Node} {reach : Reach} {path other : Path}

/-! ## The last name -/

/-- **A walk takes its last name from a directory**, to which the names before
    lead. -/
theorem Follows.split (h : Follows tree .look links location (names ++ [name]) reach) :
    ∃ directory fewer, Follows tree .look links location names (.entry directory .directory) ∧
      Follows tree .look fewer directory [name] reach := by
  generalize hall : names ++ [name] = all at h
  -- A walk may replace a link, so its names are not those of the walk that is split.
  induction h generalizing names with
  | done => simp at hall
  | @stay links location first more reach hdir hfits hstay hwalk ih =>
    cases names with
    | nil =>
      obtain ⟨rfl, rfl⟩ := List.cons.inj hall
      exact ⟨location, links, .done hdir, .stay hdir hfits hstay hwalk⟩
    | cons next names =>
      obtain ⟨rfl, hmore⟩ := List.cons.inj hall
      obtain ⟨directory, fewer, hbefore, hlast⟩ := ih hmore
      exact ⟨directory, fewer, .stay hdir fits_look hstay hbefore, hlast⟩
  | @up links location more reach hdir hfits hwalk ih =>
    cases names with
    | nil =>
      obtain ⟨rfl, rfl⟩ := List.cons.inj hall
      exact ⟨location, links, .done hdir, .up hdir hfits hwalk⟩
    | cons next names =>
      obtain ⟨rfl, hmore⟩ := List.cons.inj hall
      obtain ⟨directory, fewer, hbefore, hlast⟩ := ih hmore
      exact ⟨directory, fewer, .up hdir fits_look hbefore, hlast⟩
  | @vacant links location last hdir hname hnext =>
    obtain ⟨rfl, hlast⟩ := List.append_eq_singleton_iff.1 hall |>.resolve_right (by simp)
    obtain rfl := List.cons.inj hlast |>.1
    exact ⟨location, links, .done hdir, .vacant hdir hname hnext⟩
  | @enter links location first more node reach hdir hfits hname hnext hplain hwalk ih =>
    cases names with
    | nil =>
      obtain ⟨rfl, rfl⟩ := List.cons.inj hall
      exact ⟨location, links, .done hdir, .enter hdir hfits hname hnext hplain hwalk⟩
    | cons next names =>
      obtain ⟨rfl, hmore⟩ := List.cons.inj hall
      obtain ⟨directory, fewer, hbefore, hlast⟩ := ih hmore
      exact ⟨directory, fewer, .enter hdir fits_look hname hnext hplain hbefore, hlast⟩
  | keepLink _ hpurpose => cases hpurpose
  | @takeLink links location first more target reach hdir hfits hname hkeep hnext hwalk ih =>
    cases names with
    | nil =>
      obtain ⟨rfl, rfl⟩ := List.cons.inj hall
      exact ⟨location, links + 1, .done hdir, .takeLink hdir hfits hname hkeep hnext hwalk⟩
    | cons next names =>
      obtain ⟨rfl, rfl⟩ := List.cons.inj hall
      obtain ⟨directory, fewer, hbefore, hlast⟩ := @ih (Text.splitOn '/' target ++ names) (by simp)
      exact ⟨directory, fewer, .takeLink hdir fits_look hname (by simp) hnext hbefore, hlast⟩

theorem Follows.last_name (h : Follows tree .look links directory [name] (.entry stop node)) :
    stop = directory ++ [name] ∨
      (name = [] ∨ name = ['.'] ∨ name = ['.', '.']) ∧ stop.length ≤ directory.length ∨
      IsName name ∧ ∃ target, tree.node? (directory ++ [name]) = some (.link target) := by
  cases h with
  | stay _ _ hstay hwalk =>
    cases hwalk
    exact Or.inr (Or.inl ⟨hstay.imp_right Or.inl, Nat.le_refl _⟩)
  | up _ _ hwalk =>
    cases hwalk
    exact Or.inr (Or.inl ⟨by simp, by simp⟩)
  | enter _ _ _ _ _ hwalk =>
    cases hwalk
    exact Or.inl rfl
  | keepLink _ hpurpose => cases hpurpose
  | takeLink _ _ hname _ hnext => exact Or.inr (Or.inr ⟨hname, _, hnext⟩)

/-- A link in a directory is found as a link by a path that leads there. -/
theorem Follows.keep_link (h : Follows tree .look links location names (.entry directory .directory))
    (hname : IsName name) (hlink : tree.node? (directory ++ [name]) = some (.link target)) :
    Follows tree .name links location (names ++ [name]) (.entry (directory ++ [name]) (.link target)) := by
  generalize hend : Reach.entry directory .directory = reached at h
  induction h with
  | done hnode =>
    cases hend
    exact .keepLink hnode rfl hname hlink
  | stay hdir _ hstay _ ih => exact .stay hdir (by simp [Fits]) hstay (ih hend)
  | up hdir _ _ ih => exact .up hdir (by simp [Fits]) (ih hend)
  | vacant => cases hend
  | enter hdir _ hpassed hnext hplain _ ih => exact .enter hdir (by simp [Fits]) hpassed hnext hplain (ih hend)
  | keepLink _ hpurpose => cases hpurpose
  | takeLink hdir _ hpassed _ hnext _ ih =>
    exact .takeLink hdir (by simp [Fits]) hpassed (by simp) hnext (by simpa using ih hend)

/-! ## Two names -/

/-- The entry at the path is a link. -/
def isLink (tree : Tree) (path : Path) : Bool :=
  match tree.reach path .name with
  | .ok (.entry _ (.link _)) => true
  | _ => false

theorem isLink_iff : tree.isLink path = true ↔
    ∃ location target, tree.reach path .name = .ok (.entry location (.link target)) := by
  rw [isLink]
  split
  · next place target hreach => simp [hreach]
  · next hno =>
    refine iff_of_false (by simp) ?_
    rintro ⟨place, target, hreach⟩
    exact hno _ _ hreach

/-- A path leads to a place under its name, if its entry is no link and it does not
    go up. -/
theorem exists_directory (hname : Path.isPart path.name = true) (hlink : tree.isLink path = false)
    (hled : tree.locate? path = some location) : ∃ directory,
      Follows tree .look maxLinks (tree.startOf path) path.parent.parts (.entry directory .directory) ∧
      (location = directory ++ [path.name] ∨ path.name = ['.', '.'] ∧ location.length ≤ directory.length) := by
  obtain ⟨node, hreach⟩ := locate?_eq_some_iff.1 hled
  obtain ⟨hasked, hwalk⟩ := reach_eq_ok_iff.1 hreach
  rw [Path.parts_eq hname] at hwalk
  obtain ⟨directory, fewer, hbefore, hlast⟩ := hwalk.split
  refine ⟨directory, hbefore, ?_⟩
  rcases hlast.last_name with hunder | ⟨hdots, hlength⟩ | ⟨hsought, target, hnode⟩
  · exact Or.inl hunder
  · simp only [Path.isPart, Bool.and_eq_true, bne_iff_ne] at hname
    exact Or.inr ⟨(hdots.resolve_left hname.1).resolve_left hname.2, hlength⟩
  · have hkept := hbefore.keep_link hsought hnode
    rw [← Path.parts_eq hname] at hkept
    have hfound : tree.isLink path = true := isLink_iff.2 ⟨_, _, reach_eq_ok_iff.2 ⟨hasked, hkept⟩⟩
    simp [hlink] at hfound

/-- **Two names in one directory lead to one entry only through a link.** -/
theorem isLink_of_locate?_eq (hparent : path.parent = other.parent) (hne : path ≠ other)
    (hname : Path.isPart path.name = true) (hname' : Path.isPart other.name = true)
    (hled : tree.locate? path = some location) (hled' : tree.locate? other = some location) :
    tree.isLink path = true ∨ tree.isLink other = true := by
  by_contra hno
  obtain ⟨hlink, hlink'⟩ : tree.isLink path = false ∧ tree.isLink other = false := by simpa using hno
  obtain ⟨directory, hwalk, hplace⟩ := exists_directory hname hlink hled
  obtain ⟨directory', hwalk', hplace'⟩ := exists_directory hname' hlink' hled'
  have hanchor : path.anchor = other.anchor := congrArg (·.anchor) hparent
  -- Both walks come to the same directory.
  rw [hparent, startOf, hanchor, ← startOf] at hwalk
  obtain ⟨rfl, -⟩ := Reach.entry.inj (hwalk.eq hwalk')
  have hnames : path.name ≠ other.name := by
    intro heq
    have hparts : path.parts = other.parts := by rw [Path.parts_eq hname, Path.parts_eq hname', hparent, heq]
    obtain ⟨anchor, parts⟩ := path
    exact hne (by rw [show anchor = other.anchor from hanchor, show parts = other.parts from hparts])
  rcases hplace with rfl | ⟨hup, hlength⟩ <;> rcases hplace' with heq | ⟨hup', hlength'⟩
  · exact hnames (by simpa using heq)
  · rw [List.length_append, List.length_singleton] at hlength'
    omega
  · rw [heq, List.length_append, List.length_singleton] at hlength
    omega
  · exact hnames (hup.trans hup'.symm)

end SiteAudit.Files.Tree
