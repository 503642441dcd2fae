/-
  Who may see a page: authorization marks and the roles they name.

  * a text asks for authorization if it has an `Authorize` mark in one of its
    three forms and no `AllowAnonymous` mark;
  * roles are named by `Role` or `Roles` assignments in the arguments of
    bracketed `Authorize` marks, several to a value with commas or semicolons
    between them; of every role the first spelling counts;
  * `Access.ofText` is the outcome for a whole text, which has roles only if
    authorization is asked for.
-/
import SiteAudit.Text.Order
import SiteAudit.Text.Phrase
import SiteAudit.Text.Spelling

namespace SiteAudit.Page

/-- The outcome for one text. -/
structure Access where
  /-- The page asks for an authorized user. -/
  authorized : Bool
  /-- The roles asked for, in report order. -/
  roles : List Text
  deriving DecidableEq

namespace Access

/-! ## Marks -/

/-- The word before a mark that stands as a directive. -/
def attributeWord : Text :=
  ['@', 'a', 't', 't', 'r', 'i', 'b', 'u', 't', 'e']

/-- The word of a mark that asks for authorization. -/
def authorizeWord : Text :=
  ['A', 'u', 't', 'h', 'o', 'r', 'i', 'z', 'e']

/-- The word of a mark that admits everyone. -/
def anonymousWord : Text :=
  ['A', 'l', 'l', 'o', 'w', 'A', 'n', 'o', 'n', 'y', 'm', 'o', 'u', 's']

/-- What follows an opening bracket and the blanks after it. -/
def openBracket? : Text → Option Text
  | '[' :: rest => some (Text.trimLeft rest)
  | _ => none

/-- What follows blanks and a closing bracket. -/
def closeBracket? (s : Text) : Option Text :=
  match Text.trimLeft s with
  | ']' :: rest => some rest
  | _ => none

/-- The text between parentheses, if a parenthesis comes next; else nothing is
    read. -/
def arguments? (s : Text) : Option (Text × Text) :=
  match Text.trimLeft s with
  | '(' :: inside => Text.upTo? ')' inside
  | _ => some ([], s)

/-- `[Authorize]` or `[Authorize(…)]`; what is read are the arguments. -/
def authorizeBracket? (s : Text) : Option (Text × Text) := do
  let inside ← openBracket? s
  let afterWord ← Text.dropWord? authorizeWord inside
  let (arguments, afterArguments) ← arguments? afterWord
  let rest ← closeBracket? afterArguments
  some (arguments, rest)

/-- `[AllowAnonymous]`. -/
def anonymousBracket? (s : Text) : Option (Unit × Text) := do
  let inside ← openBracket? s
  let afterWord ← Text.dropWord? anonymousWord inside
  let rest ← closeBracket? afterWord
  some ((), rest)

/-- What follows `@attribute` and any blanks. -/
def afterAttribute? (s : Text) : Option Text :=
  (Text.dropWord? attributeWord s).map Text.trimLeft

/-- `@attribute Authorize`, with at least one blank between the words. -/
def bareAuthorize? (s : Text) : Option (Text × Text) := do
  let afterWord ← Text.dropWord? attributeWord s
  if afterWord.head?.any Text.isBlank then
    let rest ← Text.dropWord? authorizeWord (Text.trimLeft afterWord)
    some ([], rest)
  else none

/-- A bracketed `Authorize` mark, with or without `@attribute` before it. -/
def authorizeBlock : Text.Form Text := fun _ s =>
  ((afterAttribute? s).bind authorizeBracket?) <|> authorizeBracket? s

/-- An `Authorize` mark in any of its forms. -/
def authorizeMark : Text.Form Text := fun before s =>
  authorizeBlock before s <|> bareAuthorize? s

/-- An `AllowAnonymous` mark, with or without `@attribute` before it. -/
def anonymousMark : Text.Form Unit := fun _ s =>
  ((afterAttribute? s).bind anonymousBracket?) <|> anonymousBracket? s

/-! ## Roles -/

/-- An equals sign and a quoted value that is not empty, blanks allowed. -/
def assignedValue? (s : Text) : Option (Text × Text) :=
  (Text.signedValue? '=' s).filter (·.1 ≠ [])

/-- An assignment to `Role` or `Roles`, at the beginning of a word; what is
    read is the value. -/
def roleAssignment : Text.Form Text := fun before s =>
  if Text.isBoundary before s.head? then do
    let afterWord ← Text.dropWord? ['R', 'o', 'l', 'e'] s
    assignedValue? afterWord <|> (Text.dropWord? ['s'] afterWord).bind assignedValue?
  else none

/-- The roles named by one value. -/
def rolesOfValue (value : Text) : List Text :=
  ((Text.splitWhere (fun c => c == ',' || c == ';') value).map Text.trim).filter (· ≠ [])

/-- The roles named in a text, in text order and with repetitions. -/
def namedRoles (s : Text) : List Text :=
  (Text.readings authorizeBlock s).flatMap fun arguments =>
    (Text.readings roleAssignment arguments).flatMap rolesOfValue

/-- The roles of a text: first spellings, in report order. -/
def distinctRoles (s : Text) : List Text :=
  Text.sortByCase (Text.firstSpellings (namedRoles s))

/-- The outcome for a text. -/
def ofText (s : Text) : Access :=
  if Text.holds authorizeMark s && !Text.holds anonymousMark s then ⟨true, distinctRoles s⟩
  else ⟨false, []⟩

end Access

end SiteAudit.Page
