/-
  Quoted texts in messages: between single quotes, or between double quotes if
  the text holds a single quote and no double one; the quote and the backslash
  are escaped, and so is what is not printable.
-/
import SiteAudit.Text.Printable

namespace SiteAudit.Text

/-- The last `width` hexadecimal digits of a number. -/
def hexDigits (n : Nat) : (width : Nat) → Text
  | 0 => []
  | width + 1 => hexDigits (n / 16) width ++ [Nat.digitChar (n % 16)]

/-- A character that is not printable, by its code point. -/
def escapedCode (n : Nat) : Text :=
  if n ≤ 0xff then '\\' :: 'x' :: hexDigits n 2
  else if n ≤ 0xffff then '\\' :: 'u' :: hexDigits n 4
  else '\\' :: 'U' :: hexDigits n 8

/-- One character of a quoted text. -/
def quotedChar (quote c : Char) : Text :=
  if c = quote ∨ c = '\\' then ['\\', c]
  else if c = '\t' then ['\\', 't']
  else if c = '\n' then ['\\', 'n']
  else if c = '\r' then ['\\', 'r']
  else if isPrintable c then [c]
  else escapedCode c.toNat

/-- The text between quotes. -/
def quoted (s : Text) : Text :=
  let quote := if s.contains '\'' && !s.contains '"' then '"' else '\''
  quote :: s.flatMap (quotedChar quote) ++ [quote]

/-- Quoted texts between brackets, with commas between them. -/
def quotedList (texts : List Text) : Text :=
  '[' :: joinWith [',', ' '] (texts.map quoted) ++ [']']

end SiteAudit.Text
