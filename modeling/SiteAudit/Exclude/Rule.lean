/-
  Exclusion rules: one line of a rule list.

  * `Rule.ofLine` reads a line.  Blank lines, comments, a lone slash and lines
    with an unclosed bracket give no rule; a line that cannot be a rule is a
    fault;
  * `Rule.speaks? rule path` says whether the rule applies to a path and how
    firmly: to the path itself, or because of a directory on the way to it.
    Where a pattern can apply in several ways the preferred one counts.
-/
import SiteAudit.Exclude.Glob
import SiteAudit.Text.Blank
import SiteAudit.Text.Quoted

namespace SiteAudit.Exclude

/-- How firmly a rule applies to a path. -/
inductive Weight where
  /-- To the path itself. -/
  | direct
  /-- Because of a directory on the way. -/
  | viaDirectory
  deriving DecidableEq

/-- What must follow the pieces of a pattern. -/
inductive Ending where
  /-- A slash, which is a directory on the way, or the end of the path. -/
  | name
  /-- A slash, which applies with the given weight. -/
  | slash (weight : Weight)
  deriving DecidableEq

/-- The pattern of a rule. -/
inductive Shape where
  /-- Any path with a character other than a line feed. -/
  | anything
  /-- Any path with a slash. -/
  | anySlash (weight : Weight)
  /-- A path that begins with the pieces. -/
  | starting (pieces : List Piece) (ending : Ending)
  deriving DecidableEq

/-- A rule; a negated one brings paths back. -/
structure Rule where
  negated : Bool
  shape : Shape
  deriving DecidableEq

/-! ## Application -/

/-- The weight with which an ending applies at a place of a path.  A line feed
    that is the last character does not keep a path from ending. -/
def Ending.weight? : Ending → Text → Option Weight
  | name, '/' :: _ => some .viaDirectory
  | name, s => if s = [] ∨ s = ['\n'] then some .direct else none
  | slash weight, s => if s.head? = some '/' then some weight else none

/-- The weight with which pieces and an ending apply from a place on. -/
def weightOfPieces (ending : Ending) : List Piece → Text → Option Weight
  | [], s => ending.weight? s
  | piece :: more, s => (piece.rests s).findSome? (weightOfPieces ending more)

/-- The weight with which a pattern applies to a path. -/
def Shape.weight? : Shape → Text → Option Weight
  | anything, path => if path.any isPassable then some .direct else none
  | anySlash weight, path => if path.contains '/' then some weight else none
  | starting pieces ending, path => weightOfPieces ending pieces path

/-- The weight with which a rule applies to a path. -/
def Rule.weight? (rule : Rule) (path : Text) : Option Weight :=
  rule.shape.weight? path

/-! ## Reading a line -/

/-- Why a line cannot be a rule. -/
inductive RuleFault where
  /-- Nothing is left after a negation, or a backslash ends a name. -/
  | malformed (line : Text)
  /-- A set has a range that runs downwards. -/
  | reversedRange
  deriving DecidableEq

/-- The wording of a fault. -/
def RuleFault.message : RuleFault → Text
  | malformed line => "Invalid git pattern: ".toList ++ Text.quoted line
  | reversedRange => "Invalid character range".toList

/-- The name that stands for any number of directories. -/
def anyDirectories : Text :=
  ['*', '*']

/-- The line without the blanks at its end, unless the last one is escaped. -/
def withoutTrailingBlanks (line : Text) : Text :=
  if Text.endsWith ['\\', ' '] line then line else Text.trimRight line

/-- The names of a pattern, anchored: a slash in front only anchors, and a
    single name applies at any depth. -/
def anchoredNames : List Text → List Text
  | [] :: names => names
  | [name] => if name = anyDirectories then [name] else [anyDirectories, name]
  | [name, []] => if name = anyDirectories then [name, []] else [anyDirectories, name, []]
  | names => names

/-- The names with an empty last one, which asks for a directory, spelled out. -/
def spelledOut (names : List Text) : List Text :=
  if names.getLast? = some [] then names.dropLast ++ [anyDirectories] else names

/-- The names with neighbouring runs of directories joined. -/
def joinedRuns : List Text → List Text
  | [] => []
  | name :: names =>
    if name = anyDirectories ∧ names.head? = some anyDirectories then joinedRuns names
    else name :: joinedRuns names

/-- The pieces of one name. -/
def namePieces (name : Text) : Except GlobFault (List Piece) :=
  if name = ['*'] then .ok [.wholeName] else globPieces name

/-- The pieces and the ending of names; `slash` says that a slash must come
    before the next name, and `weight` belongs to the slash of a last run of
    directories. -/
def patternOf (weight : Weight) : (slash : Bool) → List Text → Except GlobFault (List Piece × Ending)
  | _, [] => .ok ([], .name)
  | slash, name :: names =>
    if name = anyDirectories then
      if names = [] then .ok ([], .slash weight)
      else do
        let (pieces, ending) ← patternOf weight true names
        .ok (.furtherDirectories :: pieces, ending)
    else do
      let here ← namePieces name
      let before := if slash then [Piece.literal '/'] else []
      let (pieces, ending) ← if names = [] then .ok ([], .name) else patternOf weight true names
      .ok (before ++ here ++ pieces, ending)

/-- The shape of names. -/
def shapeOf (weight : Weight) (forDirectory : Bool) (names : List Text) :
    Except GlobFault Shape :=
  if names = [anyDirectories] then
    .ok (if forDirectory then .anySlash .viaDirectory else .anything)
  else if names = [anyDirectories, ['*']] then .ok .anything
  else if names = [anyDirectories, ['*'], anyDirectories] then .ok (.anySlash weight)
  else if names.head? = some anyDirectories then do
    let (pieces, ending) ← patternOf weight false names.tail
    .ok (.starting (.directories :: pieces) ending)
  else do
    let (pieces, ending) ← patternOf weight false names
    .ok (.starting pieces ending)

/-- The ranges of all sets of a pattern run upwards. -/
def Shape.isOrdered : Shape → Bool
  | starting pieces _ => pieces.all (·.isOrdered)
  | _ => true

/-- The rule of a pattern with its negation taken off. -/
def ruleOfPattern (line : Text) (negated : Bool) (pattern : Text) :
    Except RuleFault (Option Rule) :=
  let written := Text.splitOn '/' pattern
  let forDirectory := written.getLast? == some []
  let weight := if forDirectory then Weight.viaDirectory else .direct
  let names := anchoredNames written
  if names = [] then .error (.malformed line)
  else match shapeOf weight forDirectory (joinedRuns (spelledOut names)) with
    | .error .openBracket => .ok none
    | .error .lastBackslash => .error (.malformed line)
    | .ok shape => if shape.isOrdered then .ok (some ⟨negated, shape⟩) else .error .reversedRange

/-- The rule of a line, if the line has one. -/
def Rule.ofLine (line : Text) : Except RuleFault (Option Rule) :=
  match withoutTrailingBlanks line with
  | [] => .ok none
  | '#' :: _ => .ok none
  | ['/'] => .ok none
  | '!' :: pattern => ruleOfPattern line true pattern
  | pattern => ruleOfPattern line false pattern

end SiteAudit.Exclude
