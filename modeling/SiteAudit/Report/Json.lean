/-
  The audit as a JSON document.

  * `Json` is a JSON value and `Json.render` its text: two blanks for every
    level, an item or a field a line, empty lists and objects on one line, and
    ASCII characters only;
  * `ofAudit` is the value of an audit, with the fields of every object in
    alphabetical order.
-/
import SiteAudit.Report.Number
import SiteAudit.Text.Quoted

namespace SiteAudit.Report

/-- A JSON value; numbers are integers. -/
inductive Json where
  | text (s : Text)
  | number (n : Int)
  | flag (b : Bool)
  | list (items : List Json)
  | object (fields : List (Text × Json))

namespace Json

/-- A code unit by its four hexadecimal digits. -/
def escapedUnit (unit : Nat) : Text :=
  '\\' :: 'u' :: Text.hexDigits unit 4

/-- A character inside quotes. -/
def escapedChar (c : Char) : Text :=
  let n := c.toNat
  if c = '"' ∨ c = '\\' then ['\\', c]
  else if c = '\n' then ['\\', 'n']
  else if c = '\r' then ['\\', 'r']
  else if c = '\t' then ['\\', 't']
  else if n = 8 then ['\\', 'b']
  else if n = 12 then ['\\', 'f']
  else if 32 ≤ n ∧ n < 127 then [c]
  else if n < 0x10000 then escapedUnit n
  else escapedUnit (0xd800 + (n - 0x10000) / 0x400) ++ escapedUnit (0xdc00 + (n - 0x10000) % 0x400)

/-- A text between quotes. -/
def quote (s : Text) : Text :=
  '"' :: s.flatMap escapedChar ++ ['"']

/-- A new line at a level. -/
def newLine (level : Nat) : Text :=
  '\n' :: List.replicate (2 * level) ' '

mutual

/-- The text of a value at a level. -/
def renderAt (level : Nat) : Json → Text
  | text s => quote s
  | number n => Text.ofInt n
  | flag b => if b then ['t', 'r', 'u', 'e'] else ['f', 'a', 'l', 's', 'e']
  | list [] => ['[', ']']
  | list (item :: items) =>
    '[' :: newLine (level + 1) ++ renderAt (level + 1) item ++ renderItems (level + 1) items ++
      newLine level ++ [']']
  | object [] => ['{', '}']
  | object ((name, value) :: fields) =>
    '{' :: newLine (level + 1) ++ quote name ++ [':', ' '] ++ renderAt (level + 1) value ++
      renderFields (level + 1) fields ++ newLine level ++ ['}']

/-- The items after the first one. -/
def renderItems (level : Nat) : List Json → Text
  | [] => []
  | item :: items => ',' :: newLine level ++ renderAt level item ++ renderItems level items

/-- The fields after the first one. -/
def renderFields (level : Nat) : List (Text × Json) → Text
  | [] => []
  | (name, value) :: fields =>
    ',' :: newLine level ++ quote name ++ [':', ' '] ++ renderAt level value ++
      renderFields level fields

end

/-- The text of a value. -/
def render (value : Json) : Text :=
  renderAt 0 value

/-- The value of a route. -/
def ofRoute (route : Route) : Json :=
  object [("active".toList, flag route.live), ("authorized".toList, flag route.authorized),
    ("roles".toList, list (route.roles.map text)), ("route".toList, text route.template),
    ("source_file".toList, text route.file)]

/-- The value of a link. -/
def ofLink (link : Link) : Json :=
  object [("classification".toList, text link.verdict),
    ("destination".toList, text link.destination), ("line_number".toList, number link.line),
    ("method".toList, text link.method), ("scheme".toList, text link.scheme),
    ("source_file".toList, text link.file)]

/-- The value of an audit. -/
def ofAudit (audit : Audit) : Json :=
  object [("links".toList, list (audit.links.map ofLink)),
    ("roles".toList, list (audit.roles.map text)),
    ("routes".toList, list (audit.routes.map ofRoute))]

end Json

/-- The JSON document of an audit, if the lines of its links can be written. -/
def renderJson [Platform] (audit : Audit) : Except LongNumber Text :=
  ifWritten audit (Json.ofAudit audit).render

end SiteAudit.Report
