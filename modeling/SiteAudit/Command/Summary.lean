/-
  The summary of an audit: a table of eight counts, as a terminal shows it.
-/
import SiteAudit.Audit.Basic

namespace SiteAudit.Command.Summary

/-- The number of links with a verdict. -/
def linksWith (audit : Audit) (verdict : Link.Verdict) : Nat :=
  (audit.links.filter (·.verdict == verdict.label)).length

/-- The counts and their names. -/
def counts (audit : Audit) : List (Text × Nat) :=
  [("routes".toList, audit.routes.length),
    ("routes_active".toList, (audit.routes.filter (·.live)).length),
    ("routes_authorized".toList, (audit.routes.filter (·.authorized)).length),
    ("roles".toList, audit.roles.length),
    ("links".toList, audit.links.length),
    ("links_external".toList, linksWith audit .external),
    ("links_matched".toList, linksWith audit .matched),
    ("links_unknown".toList, linksWith audit .unknown)]

/-- The width of the column of names: that of the longest one. -/
def nameWidth : Nat := 17

/-- The width of the column of counts: that of its head or of the longest
    count. -/
def countWidth (audit : Audit) : Nat :=
  (counts audit).foldl (fun width row => max width (Text.ofNat row.2).length) 5

/-- So many blanks. -/
def blanks (n : Nat) : Text :=
  List.replicate n ' '

/-- The text with blanks after it up to a width. -/
def padRight (width : Nat) (s : Text) : Text :=
  s ++ blanks (width - s.length)

/-- The text with blanks before it up to a width. -/
def padLeft (width : Nat) (s : Text) : Text :=
  blanks (width - s.length) ++ s

/-- The text with blanks around it up to a width, an odd one after it. -/
def centred (width : Nat) (s : Text) : Text :=
  let space := width - s.length
  blanks (space / 2) ++ s ++ blanks (space - space / 2)

/-- The text in bold face. -/
def bold (s : Text) : Text :=
  "\x1b[1m".toList ++ s ++ "\x1b[0m".toList

/-- The text in italics. -/
def italic (s : Text) : Text :=
  "\x1b[3m".toList ++ s ++ "\x1b[0m".toList

/-- A horizontal line with its left end, its crossing and its right end. -/
def rule (width : Nat) (line left crossing right : Char) : Text :=
  left :: List.replicate (nameWidth + 2) line ++ crossing :: List.replicate (width + 2) line ++
    [right]

/-- A cell of the head. -/
def headCell (s : Text) : Text :=
  bold [' '] ++ bold s ++ bold [' ']

/-- The line of a count. -/
def countLine (width : Nat) (row : Text × Nat) : Text :=
  ['│', ' '] ++ padRight nameWidth row.1 ++ [' ', '│', ' '] ++
    padLeft width (Text.ofNat row.2) ++ [' ', '│']

/-- The lines of the summary. -/
def lines (audit : Audit) : List Text :=
  let width := countWidth audit
  [italic (centred (nameWidth + width + 7) "Route audit summary".toList),
    rule width '━' '┏' '┳' '┓',
    '┃' :: headCell (padRight nameWidth "metric".toList) ++
      '┃' :: headCell (padLeft width "count".toList) ++ ['┃'],
    rule width '━' '┡' '╇' '┩'] ++
  (counts audit).map (countLine width) ++
  [rule width '─' '└' '┴' '┘']

/-- The text of the summary. -/
def render (audit : Audit) : Text :=
  (lines audit).flatMap (· ++ ['\n'])

end SiteAudit.Command.Summary
