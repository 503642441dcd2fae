/-
  The options of the command, and reading them from arguments.

  * an argument is an option, possibly with a value attached after an equals
    sign, or a plain one; the long name of an option may be shortened as long as
    it stays unambiguous;
  * an argument that starts with a minus sign is plain if it is the sign alone,
    looks like a negative number, or has a space and is no option;
  * after two minus signs no argument is an option or a value; attached to an
    option they give it no value;
  * `read` goes through the arguments from left to right.  The first fault
    counts, but left-over arguments are a fault only at the end, and an
    ambiguous name is one before all others.
-/
import SiteAudit.Text.Digit
import SiteAudit.Text.Quoted

namespace SiteAudit.Command

/-- The options. -/
inductive Flag where
  | help
  | path
  | output
  | csv
  | jsonOutput
  | exclude
  | respectGitignore
  | verbose
  deriving DecidableEq

/-- All options, in the order of the help text. -/
def Flag.all : List Flag :=
  [help, path, output, csv, jsonOutput, exclude, respectGitignore, verbose]

/-- The long name of an option. -/
def Flag.name : Flag → Text
  | help => "--help".toList
  | path => "--path".toList
  | output => "--output".toList
  | csv => "--csv".toList
  | jsonOutput => "--json-output".toList
  | exclude => "--exclude".toList
  | respectGitignore => "--respect-gitignore".toList
  | verbose => "--verbose".toList

/-- The short name of the help option, the only one that has one. -/
def shortHelp : Text :=
  ['-', 'h']

/-- The option as messages name it. -/
def Flag.title : Flag → Text
  | help => shortHelp ++ '/' :: Flag.help.name
  | flag => flag.name

/-- The option needs a value. -/
def Flag.takesValue : Flag → Bool
  | path | output | jsonOutput | exclude => true
  | help | csv | respectGitignore | verbose => false

/-- What the command is asked to do. -/
structure Options where
  /-- The root; empty for the working directory. -/
  path : Text := []
  /-- Where the Markdown report goes; none if the option was given no value. -/
  output : Option Text := some "routes.md".toList
  /-- The tables are written as well. -/
  csv : Bool := false
  /-- Where the JSON document goes; empty for nowhere. -/
  jsonOutput : Text := []
  /-- Exclusion rules, in the order given. -/
  exclude : List Text := []
  /-- Rule files below the root apply. -/
  respectGitignore : Bool := false
  /-- All events are reported. -/
  verbose : Bool := false
  deriving DecidableEq

/-- The options after one of them is given, with a value or with none.  Of a
    repeated option the last value counts, except that rules add up. -/
def Options.give (options : Options) (flag : Flag) (value : Option Text) : Options :=
  match flag with
  | .path => { options with path := value.getD [] }
  | .output => { options with output := value }
  | .jsonOutput => { options with jsonOutput := value.getD [] }
  | .exclude => { options with exclude := options.exclude ++ [value.getD []] }
  | .help | .csv | .respectGitignore | .verbose => options

/-- The options after one of them is switched on. -/
def Options.switchOn (options : Options) (flag : Flag) : Options :=
  match flag with
  | .csv => { options with csv := true }
  | .respectGitignore => { options with respectGitignore := true }
  | .verbose => { options with verbose := true }
  | .help | .path | .output | .jsonOutput | .exclude => options

/-- Why arguments are not understood. -/
inductive UsageFault where
  /-- A shortened name could be that of several options. -/
  | ambiguous (argument : Text) (candidates : List Flag)
  /-- An option lacks its value. -/
  | missingValue (flag : Flag)
  /-- A value is attached to an option that takes none. -/
  | ignoredValue (flag : Flag) (value : Text)
  /-- Arguments are left over. -/
  | unrecognized (arguments : List Text)
  deriving DecidableEq

/-- The wording of a fault. -/
def UsageFault.message : UsageFault → Text
  | ambiguous argument candidates =>
    "ambiguous option: ".toList ++ argument ++ " could match ".toList ++
      Text.joinWith [',', ' '] (candidates.map (·.name))
  | missingValue flag => "argument ".toList ++ flag.title ++ ": expected one argument".toList
  | ignoredValue flag value =>
    "argument ".toList ++ flag.title ++ ": ignored explicit argument ".toList ++ Text.quoted value
  | unrecognized arguments =>
    "unrecognized arguments: ".toList ++ Text.joinWith [' '] arguments

/-! ## Arguments -/

/-- An argument by its form. -/
inductive Argument where
  /-- An option, by its long or its short name, and the value attached to it. -/
  | option (flag : Flag) (short : Bool) (attached : Option Text)
  /-- An argument that can be the value of an option. -/
  | plain (text : Text)
  /-- An argument that is neither an option nor a value. -/
  | stray (text : Text)
  deriving DecidableEq

/-- The text before the first equals sign, and the text after it if there is
    one. -/
def cutValue (argument : Text) : Text × Option Text :=
  match argument.dropWhile (· != '=') with
  | _ :: value => (argument.takeWhile (· != '='), some value)
  | [] => (argument, none)

/-- The value that an attached text gives. -/
def attachedValue? (attached : Text) : Option Text :=
  if attached = ['-', '-'] then none else some attached

/-- The options whose long name begins with a text. -/
def flagsFrom (start : Text) : List Flag :=
  Flag.all.filter fun flag => Text.startsWith start flag.name

/-- An argument that starts with a minus sign but names no option. -/
def Argument.ofOther (argument : Text) : Argument :=
  if Text.isNegativeNumber argument || argument.contains ' ' then .plain argument
  else .stray argument

/-- An argument by its form, two minus signs not yet seen. -/
def Argument.ofText (argument : Text) : Except UsageFault Argument :=
  match argument with
  | '-' :: '-' :: _ =>
    let (name, value) := cutValue argument
    match Flag.all.find? (·.name == name) with
    | some flag => .ok (.option flag false value)
    | none =>
      match flagsFrom name with
      | [] => .ok (Argument.ofOther argument)
      | [flag] => .ok (.option flag false value)
      | candidates => .error (.ambiguous argument candidates)
  | ['-', 'h'] => .ok (.option .help true none)
  | '-' :: 'h' :: '=' :: value => .ok (.option .help true (some value))
  | '-' :: 'h' :: value => .ok (.option .help true (some value))
  | ['-'] => .ok (.plain argument)
  | '-' :: _ => .ok (Argument.ofOther argument)
  | _ => .ok (.plain argument)

/-- All arguments by their forms. -/
def Argument.ofTexts : List Text → Except UsageFault (List Argument)
  | [] => .ok []
  | text :: texts =>
    if text = ['-', '-'] then .ok ((text :: texts).map .stray)
    else do
      let argument ← Argument.ofText text
      let arguments ← Argument.ofTexts texts
      .ok (argument :: arguments)

/-! ## Reading -/

/-- What is asked for. -/
inductive Request where
  | help
  | audit (options : Options)
  deriving DecidableEq

/-- A help option with a value attached: further short names of it are still a
    call for help. -/
def helpWith (short : Bool) (value : Text) : Except UsageFault Request :=
  let others := value.dropWhile (· == 'h')
  if short && value != [] then
    if others = [] then .ok .help else .error (.ignoredValue .help others)
  else .error (.ignoredValue .help value)

/-- Go through arguments; `left` are the ones left over so far. -/
def readFrom (options : Options) (left : List Text) : List Argument → Except UsageFault Request
  | [] => if left = [] then .ok (.audit options) else .error (.unrecognized left)
  | .plain text :: more => readFrom options (left ++ [text]) more
  | .stray text :: more => readFrom options (left ++ [text]) more
  | .option .help _ none :: _ => .ok .help
  | .option .help short (some value) :: _ => helpWith short value
  | .option flag _ (some attached) :: more =>
    if flag.takesValue then readFrom (options.give flag (attachedValue? attached)) left more
    else .error (.ignoredValue flag attached)
  | .option flag _ none :: .plain value :: more =>
    if flag.takesValue then readFrom (options.give flag (some value)) left more
    else readFrom (options.switchOn flag) (left ++ [value]) more
  | .option flag _ none :: more =>
    if flag.takesValue then .error (.missingValue flag)
    else readFrom (options.switchOn flag) left more

/-- What the arguments ask for. -/
def read (arguments : List Text) : Except UsageFault Request :=
  (Argument.ofTexts arguments).bind (readFrom {} [])

end SiteAudit.Command
