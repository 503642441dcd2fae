/-
  Reading a file that was written as a text.

  * `Tree.Writable`: a file can be put at a path, which has nothing to do with what
    is to stand in it (`exists_writeText_iff`).
  * `readText_of_writeText`: what is read is the text as it was written, but for a
    byte-order mark in front and for its line ends.
  * `writeText_read_back`: so it is at every path that can be written, and what is
    read of any file has no carriage return.
-/
import SiteAudit.Proofs.Files.Standing
import SiteAudit.Proofs.Report.Delivery
import SiteAudit.Proofs.Text.Encoding
import SiteAudit.Proofs.Text.Lines
import SiteAudit.Source.Basic

namespace SiteAudit

open Files Report Text

variable {tree after : Tree} {path : Path} {content text : Text}

/-- A file can be put at the path: the directories above it can be made, and the
    path then leads to a file or to a place for one. -/
def Files.Tree.Writable [Platform] (tree : Tree) (path : Path) : Prop :=
  ∃ made reach, tree.makeDirectories path.parent = (made, .ok ()) ∧ made.reach path .fill = .ok reach ∧
    made.Free reach.location (.file [])

namespace Source

/-- **Whether a text can be written depends on the path only.** -/
theorem exists_writeText_iff [Platform] :
    (∃ after, writeText tree path content = (after, .ok ())) ↔ tree.Writable path := by
  cases hmade : tree.makeDirectories path.parent with
  | mk made result =>
    cases result with
    | error fault => simp [writeText, Tree.Writable, hmade]
    | ok _ =>
      have hwritable : tree.Writable path ↔ ∃ after, made.write path (Utf8.encode content) = .ok after := by
        rw [Tree.exists_write_iff]
        simp [Tree.Writable, hmade]
      rw [hwritable, writeText, hmade]
      cases hwrite : made.write path (Utf8.encode content) <;> simp [hwrite]

theorem read_of_writeText [Platform] (h : writeText tree path content = (after, .ok ())) :
    after.read path = .ok (Utf8.encode content) := by
  obtain ⟨-, location, hled, hheld⟩ := writeText_changes h
  exact Tree.read_of_locate? hled hheld

/-- **What was written is read**, but for a mark and for line ends. -/
theorem readText_of_writeText [Platform] (h : writeText tree path content = (after, .ok ())) :
    readText after path = .ok (withLineFeeds (Utf8.unmarked content)) := by
  rw [readText, read_of_writeText h]
  simp only [textOfBytes, Utf8.decodeMarked_encode]
  rfl

theorem return_notMem_of_readText (h : readText tree path = .ok text) : '\r' ∉ text := by
  rw [readText] at h
  split at h
  · cases h
  · obtain ⟨decoded, -, rfl⟩ := map_eq_ok_iff.1 (mapError_eq_ok_iff.1 h)
    exact (relined_withLineFeeds decoded).return_notMem

/-- **Reading undoes writing up to the line ends.**  A text can be written at every
    path where a file can be put, and leaves its bytes there.  What is then read is
    the text without a mark that it begins with, and with a line feed for every line
    end; a text without a mark in front and without carriage returns is read as it
    is.  No text that is read has a carriage return. -/
theorem writeText_read_back [Platform] :
    (∀ (tree : Tree) (path : Path) (content : Text), tree.Writable path →
      ∃ after, writeText tree path content = (after, .ok ()) ∧
        after.read path = .ok (String.ofList content).toUTF8.data.toList ∧
        (∃ text, readText after path = .ok text ∧
          ∀ other, Relined (Utf8.unmarked content) other ↔ other = text) ∧
        (content.head? ≠ some '\ufeff' → '\r' ∉ content → readText after path = .ok content)) ∧
    ∀ (tree : Tree) (path : Path) (text : Text), readText tree path = .ok text → '\r' ∉ text := by
  refine ⟨?_, fun tree path text h => return_notMem_of_readText h⟩
  intro tree path content hwritable
  obtain ⟨after, hafter⟩ := exists_writeText_iff.2 hwritable
  have hread := readText_of_writeText hafter
  refine ⟨after, hafter, ?_, ⟨_, hread, fun other => relined_iff⟩, ?_⟩
  · rw [← Utf8.encode_eq, read_of_writeText hafter]
  · intro hmark hreturn
    rw [hread, Utf8.unmarked_eq_self hmark, ← relined_iff.1 (relined_self hreturn)]

section
open scoped Platform.Usual

/-- Two marks and line ends of all kinds, at a path below a directory that is not
    there yet: one mark stays, and every line end becomes a line feed. -/
theorem writeText_read_back_twoMarks :
    (Tree.emptyAt [['w']]).Writable (Path.ofText "out/r.md".toList) ∧
      ∃ after, readText after (Path.ofText "out/r.md".toList) = .ok "\ufeffa\n\n\nb\n".toList ∧
        '\r' ∉ "\ufeffa\n\n\nb\n".toList ∧
        writeText (Tree.emptyAt [['w']]) (Path.ofText "out/r.md".toList) "\ufeff\ufeffa\r\r\n\nb\r".toList =
          (after, .ok ()) := by
  have hwritable : (Tree.emptyAt [['w']]).Writable (Path.ofText "out/r.md".toList) :=
    exists_writeText_iff.1 ⟨_, Prod.ext rfl (by decide +kernel :
      (writeText (Tree.emptyAt [['w']]) (Path.ofText "out/r.md".toList) []).2 = .ok ())⟩
  obtain ⟨hwritten, hreturns⟩ := writeText_read_back
  obtain ⟨after, hafter, -, ⟨text, htext, hrelined⟩, -⟩ :=
    hwritten _ _ "\ufeff\ufeffa\r\r\n\nb\r".toList hwritable
  obtain rfl := (hrelined "\ufeffa\n\n\nb\n".toList).1 (relined_iff.2 (by decide))
  exact ⟨hwritable, after, htext, hreturns _ _ _ htext, hafter⟩

end

end Source

end SiteAudit
