/-
  Writing reports again.

  * `writeAll_isWritten`: reports that could be written stand at their paths, and
    `writeAll_of_isWritten`: reports that stand there can be written.
  * `writeAll_again`: reports that have been written can be written again, which
    leaves every file as it is.
  * `writeAll_retains`: in a plain tree reports put names of their paths, and no
    other.
-/
import SiteAudit.Proofs.Files.Retained
import SiteAudit.Proofs.Report.Delivery

namespace SiteAudit.Report

open Files

variable {tree after : Tree} {path : Path} {content : Text} {documents : List Document}

/-! ## One report -/

theorem writeText_isWritten [Platform] (h : writeText tree path content = (after, .ok ())) : after.IsWritten path := by
  rw [writeText] at h
  split at h
  · simp at h
  · next made hmade =>
    split at h
    · next written hwritten =>
      obtain ⟨rfl, -⟩ := Prod.mk.inj h
      exact Tree.isWritten_of_write (Tree.makeDirectories_ok hmade) hwritten
    · simp at h

theorem exists_writeText [Platform] (h : tree.IsWritten path) (content : Text) :
    ∃ after, writeText tree path content = (after, .ok ()) := by
  obtain ⟨after, hafter⟩ := h.exists_write (Text.Utf8.encode content)
  refine ⟨after, ?_⟩
  simp only [writeText, Tree.makeDirectories_of_isDirectory h.parent, hafter]

/-! ## Several reports -/

theorem writeAll_isWritten [Platform] : ∀ {documents : List Document} {tree : Tree},
    (writeAll tree documents).2 = .ok () → ∀ document ∈ documents, (writeAll tree documents).1.IsWritten document.path
  | [], _, _ => by simp
  | first :: documents, tree, h => by
    cases hwrite : writeText tree first.path first.content with
    | mk written result =>
      rw [writeAll, hwrite] at h ⊢
      cases result with
      | error fault => simp at h
      | ok _ =>
        intro document hmem
        rcases List.mem_cons.1 hmem with rfl | hmem
        · exact (writeText_isWritten hwrite).of_grows (writeAll_delivered documents written).changes.grows
        · exact writeAll_isWritten h document hmem

theorem writeAll_of_isWritten [Platform] : ∀ {documents : List Document} {tree : Tree},
    (∀ document ∈ documents, tree.IsWritten document.path) → (writeAll tree documents).2 = .ok ()
  | [], _, _ => rfl
  | first :: documents, tree, h => by
    obtain ⟨written, hwrite⟩ := exists_writeText (h first (by simp)) first.content
    have hgrows := (writeText_changes hwrite).1.grows
    rw [writeAll, hwrite]
    exact writeAll_of_isWritten fun document hmem => (h document (by simp [hmem])).of_grows hgrows

theorem Delivered.locate?_eq {before middle after : Tree} {directories : Path → Prop} {document : Document}
    (h : Delivered directories before middle documents) (hmem : document ∈ documents)
    (hgrows : middle.Grows after) : after.locate? document.path = middle.locate? document.path := by
  obtain ⟨location, last, hled, hlast, -⟩ := h.read_eq hmem
  obtain ⟨bytes, hfile⟩ := hgrows.file (h.held location last hlast)
  rw [hled, hgrows.locate? hled hfile trivial]

/-- **Reports can be written again, and nothing comes of it.** -/
theorem writeAll_again [Platform] (h : (writeAll tree documents).2 = .ok ()) :
    (writeAll (writeAll tree documents).1 documents).2 = .ok () ∧
      (writeAll tree documents).1.SameFiles (writeAll (writeAll tree documents).1 documents).1 := by
  have hagain := writeAll_of_isWritten (writeAll_isWritten h)
  have hfirst := writeAll_delivered documents tree
  have hsecond := writeAll_delivered documents (writeAll tree documents).1
  rw [delivered_eq_self_iff.2 h] at hfirst
  rw [delivered_eq_self_iff.2 hagain] at hsecond
  refine ⟨hagain, hsecond.sameFiles_iff.2 ?_⟩
  -- The same report is the last one at a location as it was the first time.
  rintro location document ⟨earlier, later, hdocuments, hled, hlater⟩
  have hlocated (other : Document) (hmem : other ∈ documents) :=
    hfirst.locate?_eq hmem hsecond.changes.grows
  refine hfirst.held location document ⟨earlier, later, hdocuments, ?_, fun other hmem => ?_⟩
  · rw [← hlocated document (by simp [hdocuments]), hled]
  · rw [← hlocated other (by simp [hdocuments, hmem])]
    exact hlater other hmem

/-! ## Names of reports -/

/-- The name is met on the way to a report. -/
def IsOnTheWay (documents : List Document) (name : Text) : Prop :=
  ∃ document ∈ documents, name ∈ document.path.parts

/-- The name is that of a report. -/
def IsReportName (documents : List Document) (name : Text) : Prop :=
  ∃ document ∈ documents, name = document.path.name

variable {isDirectoryName isFileName : Text → Prop}

theorem writeText_retains [Platform] (content : Text) (hplain : tree.Plain) (hcut : path.IsCut)
    (hparts : ∀ part ∈ path.parts, isDirectoryName part) (hname : isFileName path.name) :
    Tree.Retains isDirectoryName isFileName tree (writeText tree path content).1 := by
  have hparent : path.parent.IsCut := fun part hpart => hcut part (List.dropLast_subset _ hpart)
  have hmake : Tree.Retains isDirectoryName isFileName tree (tree.makeDirectories path.parent).1 :=
    Tree.makeDirectories_retains hplain hparent fun part hpart => hparts part (List.dropLast_subset _ hpart)
  rw [writeText]
  split
  · next made fault hmade =>
    rw [hmade] at hmake
    exact hmake
  · next made hmade =>
    rw [hmade] at hmake
    split
    · next written hwritten =>
      exact hmake.trans (Tree.write_retains hmake.plain hcut hname (Tree.makeDirectories_ok hmade) hwritten)
    · exact hmake

theorem writeAll_retains_of [Platform] : ∀ (documents : List Document) (tree : Tree), tree.Plain →
    (∀ document ∈ documents, document.path.IsCut ∧ (∀ part ∈ document.path.parts, isDirectoryName part) ∧
      isFileName document.path.name) →
    Tree.Retains isDirectoryName isFileName tree (writeAll tree documents).1
  | [], _, hplain, _ => .refl hplain
  | first :: documents, tree, hplain, h => by
    obtain ⟨hcut, hparts, hname⟩ := h first (by simp)
    have hfirst := writeText_retains first.content hplain hcut hparts hname
    rw [writeAll]
    split
    · next written hwrite =>
      rw [hwrite] at hfirst
      exact hfirst.trans (writeAll_retains_of documents written hfirst.plain fun document hmem =>
        h document (by simp [hmem]))
    · next written fault hwrite =>
      rw [hwrite] at hfirst
      exact hfirst

/-- **Reports put names of their paths**, and no other. -/
theorem writeAll_retains [Platform] (hplain : tree.Plain) (hcut : ∀ document ∈ documents, document.path.IsCut) :
    Tree.Retains (IsOnTheWay documents) (IsReportName documents) tree (writeAll tree documents).1 :=
  writeAll_retains_of documents tree hplain fun document hmem =>
    ⟨hcut document hmem, fun _ hpart => ⟨document, hmem, hpart⟩, document, hmem, rfl⟩

end SiteAudit.Report
