/-
  The line numbers of links.

  * `ofLinesFrom_append`, `ofLinesFrom_moveDown`: the links of further lines are those
    of the lines on their own, moved down by the number of lines before them.
  * `mem_ofLinesFrom_iff`: a link is one of some line, read under that line's number.
  * `links_numbered`: cutting a text at a line feed cuts its links, and a link is
    numbered by the line feeds before its line.
-/
import SiteAudit.Link.Occurrence
import SiteAudit.Proofs.Text.Lines
import SiteAudit.Text.Lines

namespace SiteAudit.Link

open Text

variable {catalogue : Route.Catalogue} {file s : Text} {number : Int} {link : Link}

/-- The link that many lines further down. -/
def moveDown (count : Nat) (link : Link) : Link :=
  { link with line := link.line + count }

theorem ofLine_moveDown (catalogue : Route.Catalogue) (file : Text) (number : Int) (count : Nat) (line : Text) :
    ofLine catalogue file (number + count) line = (ofLine catalogue file number line).map (moveDown count) := by
  rw [ofLine, ofLine, List.map_append, List.map_map, List.map_map]
  rfl

theorem ofLinesFrom_moveDown (catalogue : Route.Catalogue) (file : Text) (count : Nat) :
    ∀ (lines : List Text) (number : Int), ofLinesFrom catalogue file (number + count) lines =
      (ofLinesFrom catalogue file number lines).map (moveDown count)
  | [], _ => rfl
  | line :: lines, number => by
    rw [ofLinesFrom, ofLinesFrom, List.map_append, ← ofLine_moveDown, ← ofLinesFrom_moveDown catalogue file count lines,
      show number + count + 1 = number + 1 + count by omega]

theorem ofLinesFrom_append (catalogue : Route.Catalogue) (file : Text) (more : List Text) :
    ∀ (lines : List Text) (number : Int), ofLinesFrom catalogue file number (lines ++ more) =
      ofLinesFrom catalogue file number lines ++ ofLinesFrom catalogue file (number + lines.length) more
  | [], _ => by simp [ofLinesFrom]
  | line :: lines, number => by
    rw [List.cons_append, ofLinesFrom, ofLinesFrom, ofLinesFrom_append catalogue file more lines, List.append_assoc,
      List.length_cons, show number + 1 + (lines.length : Int) = number + (lines.length + 1 : Nat) by omega]

theorem ofLinesFrom_eq (catalogue : Route.Catalogue) (file : Text) : ∀ (lines : List Text) (number : Nat),
    ofLinesFrom catalogue file number lines =
      (lines.zipIdx number).flatMap fun (line, number) => ofLine catalogue file number line
  | [], _ => rfl
  | line :: lines, number => by
    have ih := ofLinesFrom_eq catalogue file lines (number + 1)
    rw [ofLinesFrom, List.zipIdx_cons, List.flatMap_cons, ← ih]
    rfl

theorem file_and_line_of_mem_ofLine {line : Text} (h : link ∈ ofLine catalogue file number line) :
    link.file = file ∧ link.line = number := by
  rcases List.mem_append.1 h with h | h
  · obtain ⟨raw, -, rfl⟩ := List.mem_map.1 h
    exact ⟨rfl, rfl⟩
  · obtain ⟨raw, -, rfl⟩ := List.mem_map.1 h
    exact ⟨rfl, rfl⟩

theorem mem_ofLinesFrom_iff : ∀ {lines : List Text} {number : Int},
    link ∈ ofLinesFrom catalogue file number lines ↔
      ∃ (i : Nat) (line : Text), lines[i]? = some line ∧ link ∈ ofLine catalogue file (number + i) line
  | [], _ => by simp [ofLinesFrom]
  | line :: lines, number => by
    rw [ofLinesFrom, List.mem_append, mem_ofLinesFrom_iff]
    constructor
    · rintro (h | ⟨i, other, hother, h⟩)
      · exact ⟨0, line, rfl, by simpa using h⟩
      · refine ⟨i + 1, other, hother, ?_⟩
        rwa [show number + (i + 1 : Nat) = number + 1 + i by omega]
    · rintro ⟨i, other, hother, h⟩
      cases i with
      | zero =>
        obtain rfl : line = other := by simpa using hother
        exact Or.inl (by simpa using h)
      | succ i =>
        refine Or.inr ⟨i, other, hother, ?_⟩
        rwa [show number + 1 + (i : Int) = number + (i + 1 : Nat) by omega]

theorem ofLine_nil (catalogue : Route.Catalogue) (file : Text) (number : Int) : ofLine catalogue file number [] = [] := rfl

/-- An empty line at the end has no links. -/
theorem ofLines_lines (catalogue : Route.Catalogue) (file s : Text) :
    ofLines catalogue file (lines s) = ofLinesFrom catalogue file 1 (splitOn '\n' s) := by
  rcases splitOn_eq_lines_or s with h | h
  · rw [h, ofLines]
  · rw [h, ofLinesFrom_append, ofLinesFrom, ofLinesFrom, ofLine_nil, ofLines]
    simp

/-- **Lines are numbered across a cut.**  Lines that are written with a line feed
    behind each come back.  The links of a text that goes on behind a line feed are
    those of the first part and those of the second, moved down by the lines of the
    first.  So the links of a text are those of its lines, each under a number one
    higher than the number of line feeds before the line. -/
theorem links_numbered (catalogue : Route.Catalogue) (file : Text) :
    (∀ pieces : List Text, (∀ line ∈ pieces, '\n' ∉ line) → lines (pieces.flatMap (· ++ ['\n'])) = pieces) ∧
    (∀ a b : Text, ofLines catalogue file (lines (a ++ ['\n'] ++ b)) =
      ofLines catalogue file (lines (a ++ ['\n'])) ++
        (ofLines catalogue file (lines b)).map (moveDown (1 + a.count '\n'))) ∧
    ∀ (s : Text) (link : Link), link ∈ ofLines catalogue file (lines s) ↔
      ∃ front line, IsLine s front line ∧ link.line = 1 + (front.count '\n' : Nat) ∧
        link ∈ ofLine catalogue file link.line line := by
  refine ⟨fun pieces => lines_ended, fun a b => ?_, fun s link => ?_⟩
  · rw [List.append_assoc, List.singleton_append, lines_append, lines_append_feed, ofLines, ofLinesFrom_append,
      length_splitOn, ofLinesFrom_moveDown, Nat.add_comm 1]
    rfl
  · simp only [ofLines_lines, mem_ofLinesFrom_iff, getElem?_splitOn_iff]
    constructor
    · rintro ⟨i, line, ⟨front, hline, rfl⟩, hlink⟩
      obtain ⟨-, hnumber⟩ := file_and_line_of_mem_ofLine hlink
      exact ⟨front, line, hline, hnumber, hnumber ▸ hlink⟩
    · rintro ⟨front, line, hline, hnumber, hlink⟩
      exact ⟨_, line, ⟨front, hline, rfl⟩, hnumber ▸ hlink⟩

end SiteAudit.Link
