/-
  Trees that grow: entries are added, and files may get another content, but
  nothing goes and no link is added.

  * `Tree.Grows`: what was there still is, a link with its target.
  * `reach_of_grows`, `reach_look_of_grows`: where a path ended before, at an entry
    or at a place for one, it ends now at the entry that stands there, unless that
    is a link.
  * `Free.grows`: filling a vacant place, or a file, lets a tree grow.
-/
import SiteAudit.Files.Change
import SiteAudit.Proofs.Files.Following

namespace SiteAudit.Files

namespace Tree

variable {before middle after tree : Tree} {location other : Location} {node : Node}

/-! ## Putting entries -/

theorem node?_nil (tree : Tree) : tree.node? [] = some .directory :=
  rfl

theorem node?_put (h : location ≠ []) (tree : Tree) (node : Node) (other : Location) :
    (tree.put location node).node? other = if other = location then some node else tree.node? other := by
  by_cases hother : other = []
  · subst hother
    rw [if_neg (Ne.symm h), node?_nil, node?_nil]
  · simp only [node?, hother, if_false, put, Std.TreeMap.getElem?_insert]
    by_cases heq : other = location
    · simp [heq]
    · simp [heq, Ne.symm heq]

/-! ## Growth -/

/-- What was there still is. -/
structure Grows (before after : Tree) : Prop where
  here : after.here = before.here
  directory : ∀ {location}, before.node? location = some .directory →
    after.node? location = some .directory
  link : ∀ {location target}, before.node? location = some (.link target) →
    after.node? location = some (.link target)
  file : ∀ {location bytes}, before.node? location = some (.file bytes) →
    ∃ others, after.node? location = some (.file others)

/-- A place may be filled where nothing is, and a file where a file is. -/
def Free (tree : Tree) (location : Location) : Node → Prop
  | .file _ => tree.node? location = none ∨ ∃ old, tree.node? location = some (.file old)
  | _ => tree.node? location = none

theorem Free.ne_nil (h : tree.Free location node) : location ≠ [] := by
  rintro rfl
  cases node <;> simp [Free, node?_nil] at h

/-- **Filling a free place lets a tree grow.** -/
theorem Free.grows (h : tree.Free location node) : tree.Grows (tree.put location node) := by
  have hput := node?_put h.ne_nil tree node
  have hkept {other : Location} {found : Node} (ho : tree.node? other = some found)
      (hfound : ∀ old, found ≠ .file old) : (tree.put location node).node? other = some found := by
    rw [hput, if_neg, ho]
    rintro rfl
    cases node <;> simp [Free, ho] at h
    exact h.elim fun old hold => hfound old hold
  refine ⟨rfl, fun hd => hkept hd (by simp), fun hl => hkept hl (by simp), fun {other old} hf => ?_⟩
  rw [hput]
  by_cases hother : other = location
  · subst hother
    cases node with
    | file bytes => exact ⟨bytes, by rw [if_pos rfl]⟩
    | directory => simp [Free, hf] at h
    | link target => simp [Free, hf] at h
  · exact ⟨old, by rw [if_neg hother, hf]⟩

/-! ## Walks -/

variable {purpose : Purpose} {links : Nat} {names : List Text} {reach : Reach} {path : Path}

theorem Grows.plain (h : before.Grows after) (hnode : before.node? location = some node)
    (hplain : node.IsPlain) : ∃ node', after.node? location = some node' ∧ node'.IsPlain := by
  cases node with
  | link target => exact hplain.elim
  | directory => exact ⟨.directory, h.directory hnode, trivial⟩
  | file bytes =>
    obtain ⟨others, hfile⟩ := h.file hnode
    exact ⟨.file others, hfile, trivial⟩

/-- A walk takes the same steps after a tree has grown, up to the entry that
    stands at its end then, be it for the same purpose or to look at the end. -/
theorem Follows.of_grows {purpose' : Purpose} (hgrows : before.Grows after)
    (hfits : ∀ more, Fits purpose more → Fits purpose' more) (hkeep : purpose' = .name → purpose = .name)
    (h : Follows before purpose links location names reach)
    (hnode : after.node? reach.location = some node) (hplain : node.IsPlain) :
    Follows after purpose' links location names (.entry reach.location node) := by
  induction h with
  | done => exact .done hnode
  | vacant hdir hname =>
    exact .enter (hgrows.directory hdir) (hfits _ fits_nil) hname hnode hplain (.done hnode)
  | keepLink hdir hpurpose hname hnext =>
    obtain rfl := Option.some.inj ((hgrows.link hnext).symm.trans hnode)
    exact hplain.elim
  | stay hdir hmore hname _ ih => exact .stay (hgrows.directory hdir) (hfits _ hmore) hname (ih hnode)
  | up hdir hmore _ ih => exact .up (hgrows.directory hdir) (hfits _ hmore) (ih hnode)
  | enter hdir hmore hname hnext hplain' _ ih =>
    obtain ⟨node', hnext', hplain'⟩ := hgrows.plain hnext hplain'
    exact .enter (hgrows.directory hdir) (hfits _ hmore) hname hnext' hplain' (ih hnode)
  | takeLink hdir hmore hname hgo hnext _ ih =>
    exact .takeLink (hgrows.directory hdir) (hfits _ hmore) hname (fun h => hgo ⟨h.1, hkeep h.2⟩)
      (hgrows.link hnext) (ih hnode)

theorem startOf_of_grows (hgrows : before.Grows after) (path : Path) : after.startOf path = before.startOf path := by
  rw [startOf, startOf, hgrows.here]

/-- **Where a path ended before, it ends now at the entry that stands there.** -/
theorem reach_of_grows (hgrows : before.Grows after) (h : before.reach path purpose = .ok reach)
    (hnode : after.node? reach.location = some node) (hplain : node.IsPlain) :
    after.reach path purpose = .ok (.entry reach.location node) := by
  obtain ⟨hasked, hfollows⟩ := reach_eq_ok_iff.1 h
  have hwalk := hfollows.of_grows hgrows (fun _ hmore => hmore) id hnode hplain
  exact reach_eq_ok_iff.2 ⟨hasked, startOf_of_grows hgrows path ▸ hwalk⟩

theorem reach_look_of_grows (hgrows : before.Grows after) (h : before.reach path purpose = .ok reach)
    (hnode : after.node? reach.location = some node) (hplain : node.IsPlain) :
    after.reach path .look = .ok (.entry reach.location node) := by
  obtain ⟨hasked, hfollows⟩ := reach_eq_ok_iff.1 h
  have hwalk := hfollows.of_grows hgrows (fun _ _ => fits_look) (by simp) hnode hplain
  exact reach_eq_ok_iff.2 ⟨hasked, startOf_of_grows hgrows path ▸ hwalk⟩

theorem Grows.locate? (hgrows : before.Grows after) (h : before.locate? path = some location)
    (hnode : after.node? location = some node) (hplain : node.IsPlain) :
    after.locate? path = some location := by
  obtain ⟨old, hreach⟩ := locate?_eq_some_iff.1 h
  exact locate?_eq_some_iff.2 ⟨node, reach_look_of_grows hgrows hreach hnode hplain⟩

end Tree

end SiteAudit.Files
