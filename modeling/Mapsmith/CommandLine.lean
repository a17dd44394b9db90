import Mapsmith.CommandLine.Arguments
import Mapsmith.Config.Project
import Mapsmith.Generation
import Mapsmith.Workspace

/-!
# The command

One run of the command: it takes its settings from the project file, imports the modules it is given,
reads their classes, makes a pass over them, and then prints the generated units, writes them, or
compares them with what has been written. What is found goes to the error output, one line each; with
the verbose flag it also tells there what happens.
-/

namespace Mapsmith.CommandLine

/-- Why a run breaks off without a word. -/
inductive Crash
  /-- A module cannot be run. -/
  | fault (e : Program.Fault)
  /-- The pass has no result. -/
  | pass (e : Generation.PassError)
  /-- A file cannot be read or written. -/
  | file (e : FileError)
  /-- The project file cannot be read, or is not what it should be. -/
  | project (e : Config.ProjectError)
  /-- A flag that names a place has a blank value. -/
  | blankValue (f : Flag)
  deriving Repr

/-- How a run ends. -/
inductive Outcome
  /-- With an explanation of the command. -/
  | usage (u : Usage)
  /-- With a status and the lines of both outputs. -/
  | finished (status : Nat) (output errors : List String)
  /-- Broken off. -/
  | crashed (c : Crash)
  deriving Repr

/-- The status of an explanation. -/
def Usage.status : Usage → Nat
  | help => 0
  | wrong => 2

/-! ### Stages of a run -/

/-- What a run says when its settings or modules cannot be used. -/
def complaint (message : String) : String :=
  "map-compiler: " ++ message

/-- A run that ends because its settings or modules cannot be used. -/
def refused (told : List String) (f : Failure) : Outcome :=
  .finished 2 [] (told ++ [complaint f.message])

/-- The settings: of the file that is named, or else of the project file if there is one. -/
def loadConfig (w : Workspace) (named : Option PathName) : Except Config.ProjectError Config :=
  match named with
  | some name => Config.ofProject w.tree name
  | none =>
    if w.hasFile ["pyproject.toml"] then Config.ofProject w.tree (.ofText "pyproject.toml")
    else .ok {}

/-- The place that the value of a flag names. -/
def placeOf (f : Flag) (value : FlagValue) : Except Crash PathName :=
  match value with
  | .given text => .ok (.ofText text)
  | .blank => .error (.blankValue f)

/-- The directory below which modules are looked for, if there is one. Parts of two dots are taken back
with the parts before them, whatever these lead to. -/
def searchRoot (tree : FileTree) (name : PathName) : Except FileError (Option FilePath) :=
  if '\x00' ∈ name.text.toList then .error .nullCharacter
  else .ok (if tree.node? name.destination = some .directory then some name.destination else none)

/-- The lines that a text with its line break takes up. -/
def unitLines (u : Emission.GeneratedUnit) : List String :=
  ["# --- " ++ u.module ++ " ---", u.source]

/-! ### A run -/

/-- What is done with the result of a pass: the files afterwards and how the run ends. To compare, a blank
place is as good as none. -/
def deliver (a : Arguments) (tree : FileTree) (told : List String) (r : Generation.PassResult) :
    FileTree × Outcome :=
  let status := if r.hasErrors then 1 else 0
  if a.check then
    let target := PathName.ofText ((a.output.bind (·.text?)).getD ".")
    match tree.staleUnits target r.units with
    | .error e => (tree, .crashed (.file e))
    | .ok stale =>
      (tree, .finished (if stale.isEmpty then status else 1) []
        (told ++ stale.map fun name => "out of date: " ++ name.text))
  else match a.output.map (placeOf .output) with
    | none => (tree, .finished status (r.units.flatMap unitLines) told)
    | some (.error c) => (tree, .crashed c)
    | some (.ok target) =>
      match tree.writeUnits target r.units with
      | (tree, .error e) => (tree, .crashed (.file e))
      | (tree, .ok written) =>
        let paths := written.map (·.text)
        let notes := if a.verbose then paths.map ("Wrote " ++ ·) ++ paths.map ("wrote " ++ ·) else []
        (tree, .finished status (paths.map ("wrote " ++ ·)) (told ++ notes))

/-- Reads classes and makes a pass over them. -/
def generate (a : Arguments) (tree : FileTree) (config : Config) (reading : Program.Read TypeGraph) :
    FileTree × Outcome :=
  let tell (lines : List String) : List String := if a.verbose then lines else []
  let (result, reader) := reading { memory := {} }
  let reading := (reader.events.filter fun e => a.verbose || e.isWarning).map (·.text)
  match result with
  | .error (.graph e) => (tree, refused reading e.failure)
  | .error e => (tree, .crashed (.fault e))
  | .ok g =>
    match Generation.runPass config g { capacity := config.cacheSize } with
    | (.error e, _) => (tree, .crashed (.pass e))
    | (.ok r, state) =>
      deliver a tree
        (reading ++ tell (state.events.map (·.text)) ++ r.diagnostics.map (·.text)) r

/-- Where modules are looked for and where the settings are, as far as a command line says it. -/
def placed (w : Workspace) (a : Arguments) : Except Crash (Option FilePath × Option PathName) := do
  let root ← (searchRoot w.tree (← placeOf .path a.path)).mapError .file
  return (root, ← a.config.mapM (placeOf .config))

/-- Runs the command in a workspace: the files afterwards and how the run ends. -/
def run (w : Workspace) (line : List String) : FileTree × Outcome :=
  match Arguments.parse line with
  | .error u => (w.tree, .usage u)
  | .ok a =>
    match placed w a with
    | .error c => (w.tree, .crashed c)
    | .ok (root, settings) => match loadConfig w settings with
      | .error (.invalid e) => (w.tree, refused [] e.failure)
      | .error e => (w.tree, .crashed (.project e))
      | .ok config => generate a w.tree config (w.read root a.modules)

end Mapsmith.CommandLine
