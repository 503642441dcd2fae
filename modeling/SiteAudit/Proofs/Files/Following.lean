/-
  Walks as sequences of steps.

  * `Tree.Follows`: the steps of a walk, one constructor for each kind.
  * `walk_eq_ok_iff`: a walk ends somewhere exactly if it takes such steps.
  * `reach_eq_ok_iff`: so does a path that is neither too long nor holds a null
    character.
  * `Follows.shows`: what a walk finds at its end stands there.
-/
import SiteAudit.Files.Walk
import SiteAudit.Proofs.Success

namespace SiteAudit.Files

/-- The location at which a walk ends. -/
def Reach.location : Reach → Location
  | entry location _ => location
  | vacant location => location

/-- The entry is no link, which a walk would replace. -/
def Node.IsPlain : Node → Prop
  | link _ => False
  | _ => True

namespace Tree

/-! ## Steps -/

variable {tree : Tree} {location : Location} {purpose : Purpose} {links : Nat} {names : List Text} {reach : Reach}

/-- A name that a walk looks for in a directory. -/
def IsName (name : Text) : Prop :=
  ¬ (name = [] ∨ name = ['.']) ∧ name ≠ ['.', '.'] ∧ exceeds maxNameBytes name = false

/-- The rest of a path does not ask for a directory where a file is to be filled. -/
def Fits (purpose : Purpose) (more : List Text) : Prop :=
  ¬ (purpose = .fill ∧ more ≠ [] ∧ more.all (· = []))

/-- The steps of a walk that replaces at most so many links. -/
inductive Follows (tree : Tree) (purpose : Purpose) : Nat → Location → List Text → Reach → Prop
  | done {links : Nat} {location : Location} {node : Node} : tree.node? location = some node →
      Follows tree purpose links location [] (.entry location node)
  | stay {links : Nat} {location : Location} {name : Text} {more : List Text} {reach : Reach} :
      tree.node? location = some .directory →
      Fits purpose more → name = [] ∨ name = ['.'] →
      Follows tree purpose links location more reach →
      Follows tree purpose links location (name :: more) reach
  | up {links : Nat} {location : Location} {more : List Text} {reach : Reach} :
      tree.node? location = some .directory →
      Fits purpose more → Follows tree purpose links location.dropLast more reach →
      Follows tree purpose links location (['.', '.'] :: more) reach
  | vacant {links : Nat} {location : Location} {name : Text} :
      tree.node? location = some .directory → IsName name →
      tree.node? (location ++ [name]) = none →
      Follows tree purpose links location [name] (.vacant (location ++ [name]))
  | enter {links : Nat} {location : Location} {name : Text} {more : List Text} {node : Node}
      {reach : Reach} : tree.node? location = some .directory →
      Fits purpose more → IsName name → tree.node? (location ++ [name]) = some node →
      node.IsPlain → Follows tree purpose links (location ++ [name]) more reach →
      Follows tree purpose links location (name :: more) reach
  | keepLink {links : Nat} {location : Location} {name target : Text} :
      tree.node? location = some .directory →
      purpose = .name → IsName name → tree.node? (location ++ [name]) = some (.link target) →
      Follows tree purpose links location [name] (.entry (location ++ [name]) (.link target))
  | takeLink {links : Nat} {location : Location} {name : Text} {more : List Text} {target : Text}
      {reach : Reach} : tree.node? location = some .directory →
      Fits purpose more → IsName name → ¬ (more = [] ∧ purpose = .name) →
      tree.node? (location ++ [name]) = some (.link target) →
      Follows tree purpose links (if target.head? = some '/' then [] else location)
        (Text.splitOn '/' target ++ more) reach →
      Follows tree purpose (links + 1) location (name :: more) reach

/-- What `walk` does about a link. -/
def onLinkOf (tree : Tree) (purpose : Purpose) : Nat → Location → List Text → Except Cause Reach
  | 0 => fun _ _ => .error .tooManyLinks
  | links + 1 => tree.walk purpose links

theorem walk_eq (tree : Tree) (purpose : Purpose) (links : Nat) :
    tree.walk purpose links = tree.walkWith purpose (tree.onLinkOf purpose links) := by
  cases links <;> rfl

/-- A walk that goes on from a link by following steps does so all along. -/
theorem follows_of_walkWith
    (hlink : ∀ location names, tree.onLinkOf purpose links location names = .ok reach →
      ∃ fewer, links = fewer + 1 ∧ Follows tree purpose fewer location names reach) :
    ∀ (names : List Text) (location : Location),
    tree.walkWith purpose (tree.onLinkOf purpose links) location names = .ok reach →
    Follows tree purpose links location names reach := by
  intro names
  induction names with
  | nil =>
    intro location h
    rw [walkWith] at h
    split at h
    · next node hnode =>
      obtain rfl := Except.ok.inj h
      exact .done hnode
    · simp at h
  | cons name more ih =>
    intro location h
    rw [walkWith] at h
    split at h
    · next hdir =>
      by_cases hfits : purpose = .fill ∧ more ≠ [] ∧ more.all (· = [])
      · rw [if_pos hfits] at h
        simp at h
      rw [if_neg hfits] at h
      by_cases hstay : name = [] ∨ name = ['.']
      · rw [if_pos hstay] at h
        exact .stay hdir hfits hstay (ih _ h)
      rw [if_neg hstay] at h
      by_cases hup : name = ['.', '.']
      · rw [if_pos hup] at h
        subst hup
        exact .up hdir hfits (ih _ h)
      rw [if_neg hup] at h
      by_cases hlong : exceeds maxNameBytes name
      · rw [if_pos hlong] at h
        simp at h
      rw [if_neg hlong] at h
      have hname : IsName name := ⟨hstay, hup, by simpa using hlong⟩
      cases hnext : tree.node? (location ++ [name]) with
      | none =>
        simp only [hnext] at h
        split at h
        · next hmore =>
          obtain rfl := Except.ok.inj h
          subst hmore
          exact .vacant hdir hname hnext
        · simp at h
      | some node =>
        cases node with
        | link target =>
          simp only [hnext] at h
          split at h
          · next hkeep =>
            obtain rfl := Except.ok.inj h
            obtain ⟨rfl, hpurpose⟩ := hkeep
            exact .keepLink hdir hpurpose hname hnext
          · next hkeep =>
            obtain ⟨fewer, rfl, hfollows⟩ := hlink _ _ h
            exact .takeLink hdir hfits hname hkeep hnext hfollows
        | directory =>
          simp only [hnext] at h
          exact .enter hdir hfits hname hnext trivial (ih _ h)
        | file bytes =>
          simp only [hnext] at h
          exact .enter hdir hfits hname hnext trivial (ih _ h)
    · simp at h
    · simp at h

theorem follows_of_walk : ∀ {links : Nat} {location : Location} {names : List Text},
    tree.walk purpose links location names = .ok reach → Follows tree purpose links location names reach
  | 0, _, _, h => follows_of_walkWith (by simp [onLinkOf]) _ _ (by rwa [← walk_eq])
  | links + 1, _, _, h =>
    follows_of_walkWith (fun _ _ h => ⟨links, rfl, follows_of_walk h⟩) _ _ (by rwa [← walk_eq])

theorem walk_cons {name : Text} {more : List Text} (hdir : tree.node? location = some .directory)
    (hfits : Fits purpose more) :
    tree.walk purpose links location (name :: more) =
      if name = [] ∨ name = ['.'] then tree.walk purpose links location more
      else if name = ['.', '.'] then tree.walk purpose links location.dropLast more
      else if exceeds maxNameBytes name then .error .nameTooLong
      else match tree.node? (location ++ [name]) with
        | none => if more = [] then .ok (.vacant (location ++ [name])) else .error .notFound
        | some (.link target) =>
          if more = [] ∧ purpose = .name then .ok (.entry (location ++ [name]) (.link target))
          else tree.onLinkOf purpose links (if target.head? = some '/' then [] else location)
            (Text.splitOn '/' target ++ more)
        | some _ => tree.walk purpose links (location ++ [name]) more := by
  rw [walk_eq, walkWith, hdir]
  exact if_neg hfits

theorem walk_name {name : Text} {more : List Text} (hdir : tree.node? location = some .directory)
    (hfits : Fits purpose more) (hname : IsName name) :
    tree.walk purpose links location (name :: more) =
      match tree.node? (location ++ [name]) with
        | none => if more = [] then .ok (.vacant (location ++ [name])) else .error .notFound
        | some (.link target) =>
          if more = [] ∧ purpose = .name then .ok (.entry (location ++ [name]) (.link target))
          else tree.onLinkOf purpose links (if target.head? = some '/' then [] else location)
            (Text.splitOn '/' target ++ more)
        | some _ => tree.walk purpose links (location ++ [name]) more := by
  rw [walk_cons hdir hfits, if_neg hname.1, if_neg hname.2.1, if_neg (by simp [hname.2.2])]

theorem fits_nil : Fits purpose [] := by
  simp [Fits]

/-- **A walk takes exactly such steps.** -/
theorem walk_eq_ok_iff : tree.walk purpose links location names = .ok reach ↔
    Follows tree purpose links location names reach := by
  refine ⟨follows_of_walk, fun h => ?_⟩
  induction h with
  | done hnode => rw [walk_eq, walkWith, hnode]
  | stay hdir hfits hname _ ih => rw [walk_cons hdir hfits, if_pos hname, ih]
  | up hdir hfits _ ih => rw [walk_cons hdir hfits, if_neg (by simp), if_pos rfl, ih]
  | vacant hdir hname hnext => simp [walk_name hdir fits_nil hname, hnext]
  | @enter links location name more node reach hdir hfits hname hnext hplain _ ih =>
    rw [walk_name hdir hfits hname, hnext]
    cases node with
    | link target => exact hplain.elim
    | directory => exact ih
    | file bytes => exact ih
  | keepLink hdir hpurpose hname hnext => simp [walk_name hdir fits_nil hname, hnext, hpurpose]
  | takeLink hdir hfits hname hkeep hnext _ ih =>
    rw [walk_name hdir hfits hname, hnext]
    simp only [if_neg hkeep, onLinkOf]
    exact ih

/-- What a walk finds at its end stands there; at a vacant place nothing does. -/
def Shows (tree : Tree) : Reach → Prop
  | .entry location node => tree.node? location = some node
  | .vacant location => tree.node? location = none

theorem Follows.shows (h : Follows tree purpose links location names reach) : tree.Shows reach := by
  induction h with
  | done hnode => exact hnode
  | vacant _ _ hnext => exact hnext
  | keepLink _ _ _ hnext => exact hnext
  | stay _ _ _ _ ih => exact ih
  | up _ _ _ ih => exact ih
  | enter _ _ _ _ _ _ ih => exact ih
  | takeLink _ _ _ _ _ _ ih => exact ih

theorem fits_look {more : List Text} : Fits .look more := by
  simp [Fits]

/-! ## Paths -/

variable {path : Path}

/-- A path that can be asked for at all. -/
def IsAsked (path : Path) : Prop :=
  '\x00' ∉ path.text ∧ exceeds maxPathBytes path.text = false

theorem reach_eq_ok_iff : tree.reach path purpose = .ok reach ↔
    IsAsked path ∧ Follows tree purpose maxLinks (tree.startOf path) path.parts reach := by
  rw [← walk_eq_ok_iff, Tree.reach, reachAs, IsAsked]
  by_cases hnull : '\x00' ∈ path.text
  · rw [if_pos (List.contains_iff_mem.2 hnull)]
    simp [hnull]
  rw [if_neg fun h => hnull (List.contains_iff_mem.1 h)]
  by_cases hlong : exceeds maxPathBytes path.text = true
  · rw [if_pos hlong]
    simp [hlong]
  · rw [if_neg hlong, mapError_eq_ok_iff]
    simp [hnull, hlong]

theorem reach_shows (h : tree.reach path purpose = .ok reach) : tree.Shows reach :=
  (reach_eq_ok_iff.1 h).2.shows

theorem locate?_eq_some_iff :
    tree.locate? path = some location ↔ ∃ node, tree.reach path .look = .ok (.entry location node) := by
  rw [locate?]
  split
  · next found node h => simp [h]
  · next h =>
    constructor
    · simp
    · rintro ⟨node, heq⟩
      exact absurd heq (h location node)

theorem read_of_locate? {bytes : Text.Utf8.Bytes} (h : tree.locate? path = some location)
    (hnode : tree.node? location = some (.file bytes)) : tree.read path = .ok bytes := by
  obtain ⟨node, hreach⟩ := locate?_eq_some_iff.1 h
  have hshown : tree.node? location = some node := reach_shows hreach
  rw [hnode] at hshown
  obtain rfl := Option.some.inj hshown
  rw [read, hreach]

end Tree

end SiteAudit.Files
