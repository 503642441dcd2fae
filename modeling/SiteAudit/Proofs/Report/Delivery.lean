/-
  What writing reports leaves behind.

  * `LastAt`: among the reports whose paths lead to one file, the last.
  * `Delivered`: every file to which a report goes holds the last report that
    goes there, other files are as they were, and new directories stand where
    they are allowed.
  * `writeAll_delivered`: whether or not all reports can be written, those before
    the first failure are delivered.
  * `Delivered.sameFiles_iff`: this changes no file exactly if each of these
    files held its report before.
-/
import SiteAudit.Proofs.Files.Changes
import SiteAudit.Report.Writing

namespace SiteAudit

open Files

/-- The two trees hold the same files. -/
def Files.Tree.SameFiles (before after : Tree) : Prop :=
  ∀ location bytes, after.node? location = some (.file bytes) ↔ before.node? location = some (.file bytes)

namespace Report

variable {before middle after tree : Tree} {path : Path} {content : Text} {location : Location}
  {document : Document} {documents : List Document} {directories : Path → Prop}

/-! ## One report -/

theorem writeText_changes [Platform] (h : writeText tree path content = (after, .ok ())) :
    Tree.Changes (·.IsAbove path) (· = path) tree after ∧
      ∃ location, after.locate? path = some location ∧
        after.node? location = some (.file (Text.Utf8.encode content)) := by
  have hmake := tree.makeDirectories_changes path.parent
  rw [writeText] at h
  split at h
  · simp at h
  · next made hmade =>
    rw [hmade] at hmake
    split at h
    · next written hwritten =>
      obtain ⟨rfl, -⟩ := Prod.mk.inj h
      obtain ⟨hwrite, hheld⟩ := Tree.write_changes hwritten
      refine ⟨(hmake.mono ?_ ?_).trans (hwrite.mono ?_ ?_), hheld⟩
      · exact fun _ hupto => hupto.isAbove
      · exact fun _ hno => hno.elim
      · exact fun _ hno => hno.elim
      · exact fun _ heq => heq
    · simp at h

theorem writeText_failed [Platform] {fault : Fault} (h : writeText tree path content = (after, .error fault)) :
    Tree.Changes (·.IsAbove path) Tree.nowhere tree after := by
  have hmake := (tree.makeDirectories_changes path.parent).mono
    (fun _ hupto => Path.Upto.isAbove hupto) fun _ hno => hno
  rw [writeText] at h
  split at h
  · next made _ hmade =>
    obtain ⟨rfl, -⟩ := Prod.mk.inj h
    rwa [hmade] at hmake
  · next made hmade =>
    split at h
    · simp at h
    · obtain ⟨rfl, -⟩ := Prod.mk.inj h
      rwa [hmade] at hmake

/-! ## Several reports -/

/-- The last of the documents whose path leads to a location. -/
def LastAt (tree : Tree) (documents : List Document) (location : Location) (document : Document) : Prop :=
  ∃ earlier later, documents = earlier ++ document :: later ∧
    tree.locate? document.path = some location ∧
    ∀ other ∈ later, tree.locate? other.path ≠ some location

theorem exists_lastAt (h : ∃ document ∈ documents, tree.locate? document.path = some location) :
    ∃ document, LastAt tree documents location document := by
  induction documents with
  | nil => simp at h
  | cons first documents ih =>
    by_cases hlater : ∃ document ∈ documents, tree.locate? document.path = some location
    · obtain ⟨document, earlier, later, rfl, hlast⟩ := ih hlater
      exact ⟨document, first :: earlier, later, rfl, hlast⟩
    · obtain ⟨document, hmem, hled⟩ := h
      rcases List.mem_cons.1 hmem with rfl | hmem
      · exact ⟨document, [], documents, rfl, hled, fun other ho hother => hlater ⟨other, ho, hother⟩⟩
      · exact absurd ⟨document, hmem, hled⟩ hlater

section
variable {last : Document} (h : LastAt tree documents location last)
include h

theorem LastAt.mem : last ∈ documents := by
  obtain ⟨earlier, later, rfl, -⟩ := h
  simp

theorem LastAt.located : tree.locate? last.path = some location := by
  obtain ⟨-, -, -, hled, -⟩ := h
  exact hled

/-- A document that leads to the same place stands before the last one. -/
theorem LastAt.eq_or_before (hmem : document ∈ documents) (hled : tree.locate? document.path = some location) :
    document = last ∨ [document, last].Sublist documents := by
  obtain ⟨earlier, later, rfl, -, hlater⟩ := h
  rcases List.mem_append.1 hmem with hearlier | hrest
  · exact Or.inr ((List.singleton_sublist.2 hearlier).append (List.singleton_sublist.2 (by simp)))
  · rcases List.mem_cons.1 hrest with rfl | hafter
    · exact Or.inl rfl
    · exact absurd hled (hlater _ hafter)

end

/-- The tree after documents were written, beside the tree before. -/
structure Delivered (directories : Path → Prop) (before after : Tree) (documents : List Document) :
    Prop where
  /-- Nothing else happens than that directories are made and documents filled. -/
  changes : Tree.Changes directories (fun path => ∃ document ∈ documents, path = document.path) before after
  located : ∀ document ∈ documents, ∃ location, after.locate? document.path = some location
  held : ∀ location document, LastAt after documents location document →
    after.node? location = some (.file (Text.Utf8.encode document.content))

theorem Delivered.cons (hfirst : Tree.Changes directories (· = document.path) before middle)
    (hled : middle.locate? document.path = some location)
    (hheld : middle.node? location = some (.file (Text.Utf8.encode document.content)))
    (h : Delivered directories middle after documents) :
    Delivered directories before after (document :: documents) := by
  obtain ⟨bytes, hpresent⟩ := h.changes.grows.file hheld
  have hled' : after.locate? document.path = some location := h.changes.grows.locate? hled hpresent trivial
  refine ⟨(hfirst.mono ?_ ?_).trans (h.changes.mono ?_ ?_), ?_, ?_⟩
  · exact fun _ hpath => hpath
  · exact fun _ hpath => ⟨document, by simp, hpath⟩
  · exact fun _ hpath => hpath
  · rintro _ ⟨other, hmem, hpath⟩
    exact ⟨other, List.mem_cons_of_mem _ hmem, hpath⟩
  · intro other hmem
    rcases List.mem_cons.1 hmem with rfl | hmem
    · exact ⟨location, hled'⟩
    · exact h.located other hmem
  · rintro place last ⟨earlier, later, heq, hlast, hlater⟩
    cases earlier with
    | nil =>
      obtain ⟨rfl, rfl⟩ := List.cons.inj heq
      obtain rfl := Option.some.inj (hled'.symm.trans hlast)
      refine (h.changes.node?_file_iff ?_).2 hheld
      rintro _ ⟨other, hmem, rfl⟩
      exact hlater other hmem
    | cons first earlier =>
      obtain ⟨rfl, rfl⟩ := List.cons.inj heq
      exact h.held place last ⟨earlier, later, rfl, hlast, hlater⟩

/-- The documents before the first one that cannot be written. -/
def delivered [Platform] (tree : Tree) : List Document → List Document
  | [] => []
  | document :: documents =>
    match writeText tree document.path document.content with
    | (written, .ok ()) => document :: delivered written documents
    | (_, .error _) => []

/-- The path stands above one of the documents. -/
def AboveSome (documents : List Document) (path : Path) : Prop :=
  ∃ document ∈ documents, path.IsAbove document.path

/-- **What is written before the first failure is delivered.** -/
theorem writeAll_delivered [Platform] : ∀ (documents : List Document) (tree : Tree),
    Delivered (AboveSome documents) tree (writeAll tree documents).1 (delivered tree documents)
  | [], tree => ⟨.refl tree, by simp [delivered], by simp [delivered, LastAt]⟩
  | document :: documents, tree => by
    have habove : ∀ path : Path, path.IsAbove document.path → AboveSome (document :: documents) path :=
      fun _ hpath => ⟨document, by simp, hpath⟩
    cases hwrite : writeText tree document.path document.content with
    | mk written result =>
      rw [writeAll, delivered, hwrite]
      cases result with
      | ok _ =>
        obtain ⟨hchanges, location, hled, hheld⟩ := writeText_changes hwrite
        have ih := writeAll_delivered documents written
        refine .cons (hchanges.mono habove fun _ heq => heq) hled hheld
          ⟨ih.changes.mono ?_ ?_, ih.located, ih.held⟩
        · rintro path ⟨other, hmem, hpath⟩
          exact ⟨other, List.mem_cons_of_mem _ hmem, hpath⟩
        · exact fun _ hpath => hpath
      | error fault =>
        refine ⟨(writeText_failed hwrite).mono habove ?_, by simp, by simp [LastAt]⟩
        exact fun _ hno => hno.elim

theorem delivered_initial [Platform] : ∀ (documents : List Document) (tree : Tree), delivered tree documents <+: documents
  | [], _ => List.prefix_refl []
  | document :: documents, tree => by
    rw [delivered]
    split
    · next written _ => exact (List.cons_prefix_cons).2 ⟨rfl, delivered_initial documents written⟩
    · exact List.nil_prefix

theorem delivered_eq_self_iff [Platform] : ∀ {documents : List Document} {tree : Tree},
    delivered tree documents = documents ↔ (writeAll tree documents).2 = .ok ()
  | [], _ => by simp [delivered, writeAll]
  | document :: documents, tree => by
    cases hwrite : writeText tree document.path document.content with
    | mk written result =>
      rw [writeAll, delivered, hwrite]
      cases result with
      | ok _ => simpa using delivered_eq_self_iff
      | error fault => simp

/-- **Delivering documents changes no file exactly if every file held its document
    before.** -/
theorem Delivered.sameFiles_iff (h : Delivered directories before after documents) :
    before.SameFiles after ↔ ∀ location document, LastAt after documents location document →
      before.node? location = some (.file (Text.Utf8.encode document.content)) := by
  constructor
  · intro hsame location document hlast
    exact (hsame location _).1 (h.held location document hlast)
  · intro hheld location bytes
    by_cases hled : ∃ document ∈ documents, after.locate? document.path = some location
    · obtain ⟨document, hlast⟩ := exists_lastAt hled
      rw [h.held location document hlast, hheld location document hlast]
    · refine h.changes.node?_file_iff ?_
      rintro _ ⟨document, hmem, rfl⟩ heq
      exact hled ⟨document, hmem, heq⟩

theorem Delivered.read_eq (h : Delivered directories before after documents)
    (hmem : document ∈ documents) : ∃ location last, after.locate? document.path = some location ∧
      LastAt after documents location last ∧
      after.read document.path = .ok (Text.Utf8.encode last.content) := by
  obtain ⟨location, hled⟩ := h.located document hmem
  obtain ⟨last, hlast⟩ := exists_lastAt ⟨document, hmem, hled⟩
  exact ⟨location, last, hled, hlast, Tree.read_of_locate? hled (h.held location last hlast)⟩

end Report

end SiteAudit
