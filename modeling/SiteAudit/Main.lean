/-
  The program: the command run on the files of the machine.

  The part of the file system that a run can see is read into a tree, the
  command is run on the tree, and what it changed there is changed on the
  machine.  The machine counts as a usual platform.
-/
import SiteAudit.Command.Run

namespace SiteAudit.Console

open scoped Platform.Usual

/-! ## Reading the machine's files -/

/-- A location as the machine names it. -/
def placeOf (location : Files.Location) : String :=
  String.ofList (Files.Path.text ⟨.absolute, location⟩)

/-- The location of a place without links. -/
def locationOf (place : String) : Files.Location :=
  Files.Path.partsOf place.toList

/-- The kind of what stands at a location, if anything does. -/
def kindAt (location : Files.Location) : IO (Option IO.FS.FileType) := do
  let top ← IO.FS.realPath "/"
  match ← (top / placeOf location).symlinkMetadata.toBaseIO with
  | .ok metadata => return some metadata.type
  | .error _ => return none

/-- Where the links at a location lead in the end; a link that leads nowhere
    leads to itself here. -/
def targetOf (location : Files.Location) : IO Files.Location := do
  match ← (IO.FS.realPath (placeOf location)).toBaseIO with
  | .ok place => return locationOf place.toString
  | .error _ => return location

/-- Enter what stands at a location into a tree. -/
def loadEntry (tree : Files.Tree) (location : Files.Location) : IO Files.Tree := do
  match ← kindAt location with
  | some .dir => return tree.put location .directory
  | some .symlink => return tree.put location (.link (placeOf (← targetOf location)).toList)
  | some _ =>
    match ← (IO.FS.readBinFile (placeOf location)).toBaseIO with
    | .ok bytes => return tree.put location (.file bytes.toList)
    | .error _ => return tree
  | none => return tree

/-- Enter what stands on the way along names without links. -/
def loadAlong (tree : Files.Tree) (location : Files.Location) : List Text → IO Files.Tree
  | [] => return tree
  | name :: names => do
    let tree ← loadEntry tree (location ++ [name])
    loadAlong tree (location ++ [name]) names

/-- Enter what stands on the way along names, links and double dots among them. -/
def loadWay (tree : Files.Tree) (location : Files.Location) : List Text → IO Files.Tree
  | [] => return tree
  | name :: names => do
    if name = ['.', '.'] then loadWay tree location.dropLast names
    else
      let next := location ++ [name]
      let tree ← loadEntry tree next
      let target ← targetOf next
      let tree ← if target = next then pure tree else loadAlong tree [] target
      loadWay tree target names

/-- Enter everything below a location, so many directories deep. -/
def loadBelow (tree : Files.Tree) (location : Files.Location) : (depth : Nat) → IO Files.Tree
  | 0 => return tree
  | depth + 1 => do
    let place ← IO.FS.realPath (placeOf location)
    let mut tree := tree
    for entry in ← place.readDir do
      let next := location ++ [entry.fileName.toList]
      tree ← loadEntry tree next
      match tree.node? next with
      | some .directory => tree ← loadBelow tree next depth
      | some (.link target) => tree ← loadAlong tree [] (locationOf (String.ofList target))
      | _ => pure ()
    return tree

/-- The greatest depth to which directories are entered. -/
def maxDepth : Nat := 2048

/-- The paths that a run with the given options looks at or writes to. -/
def pathsOf (options : Command.Options) : List Files.Path :=
  let reports := (options.output.map Files.Path.ofText).toList
  [Files.Path.ofText options.path, Files.Path.ofText options.jsonOutput] ++ reports ++
    reports.filterMap Report.routesCsvPath? ++ reports.filterMap Report.linksCsvPath?

/-- The tree of what a run with the given options can see. -/
def load (here : Files.Location) (options : Command.Options) : IO Files.Tree := do
  let mut tree := Files.Tree.emptyAt here
  for path in pathsOf options do
    tree ← loadWay tree (tree.startOf path) path.parts
  match tree.reach (Command.rootOf options tree) .look with
  | .ok (.entry location .directory) => loadBelow tree location maxDepth
  | _ => return tree

/-! ## Changing the machine's files -/

/-- Make on the machine what a run changed in a tree. -/
def store (before after : Files.Tree) : IO Unit :=
  for (location, node) in after.nodes.toList do
    if before.node? location != some node then
      match node with
      | .directory => IO.FS.createDir (placeOf location)
      | .file bytes => IO.FS.writeBinFile (placeOf location) (ByteArray.mk bytes.toArray)
      | .link _ => pure ()

/-! ## The run -/

/-- Print what a run answers and reports. -/
def present (outcome : Command.Outcome) : IO Unit := do
  let stderr ← IO.getStderr
  IO.print (String.ofList (outcome.help ++ outcome.stdout))
  stderr.putStr (String.ofList outcome.complaint)
  for event in outcome.events do
    stderr.putStrLn (String.ofList (event.level.label ++ [' '] ++ event.message))
  stderr.putStr (String.ofList outcome.stderr)

/-- Run the command on the machine's files and answer its exit code. -/
def runOnMachine (arguments : List Text) : IO UInt32 := do
  let here := locationOf (← IO.FS.realPath ".").toString
  let tree ← match Command.read arguments with
    | .ok (.audit options) => load here options
    | _ => pure (Files.Tree.emptyAt here)
  let outcome := Command.run arguments tree
  store tree outcome.tree
  present outcome
  match outcome.ending with
  | .exit code => return code.number.toUInt32
  | .broken breakdown =>
    (← IO.getStderr).putStrLn (String.ofList breakdown.message)
    return Command.ExitCode.failure.number.toUInt32

end SiteAudit.Console

/-- The command line. -/
def main (arguments : List String) : IO UInt32 :=
  SiteAudit.Console.runOnMachine (arguments.map String.toList)
