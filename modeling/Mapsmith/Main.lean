import Mapsmith.CommandLine
import Mapsmith.Interchange.Declarations
import Mapsmith.Value.Json

/-!
# The executable

Runs the command in a workspace that one line of standard input describes: a JSON table with the
program, the directory below which its modules lie, and further files with their texts. The files that
the run makes or changes are written to the current directory.
-/

namespace Mapsmith.Executable

/-- The workspace that a table describes; nothing if the table does not fit. -/
def workspace : Interchange.Decoder (Except FileError Workspace) := fun v => do
  let program ← Interchange.field "program" Interchange.program v
  let directory ← Interchange.fieldOr "dir" Interchange.text "." v
  let files ← match v.get? "files" with
    | none => some []
    | some (.dict files) => files.mapM fun (p, x) =>
      (Interchange.text x).map fun text => (PathName.ofText p, text)
    | some _ => none
  return Workspace.ofProgram program (PathName.ofText directory) files

/-- How the command is used. -/
def usage : String :=
  "usage: map-compiler [-h] [-o OUTPUT] [--check] [--config CONFIG] [--path PATH] [-v]\n"
    ++ "                    modules [modules ...]"

/-- Writes a file below the current directory. -/
def writeFile (p : FilePath) (text : String) : IO Unit := do
  IO.FS.createDirAll (FilePath.text ("." :: p.dropLast))
  IO.FS.writeFile p.text text

/-- Tells how a run has ended and gives its status. -/
def report : CommandLine.Outcome → IO UInt32
  | .usage .help => do
    IO.println usage
    return 0
  | .usage .wrong => do
    IO.eprintln usage
    return 2
  | .finished status output errors => do
    errors.forM fun line => IO.eprintln line
    output.forM fun line => IO.println line
    return status.toUInt32
  | .crashed _ => do
    IO.eprintln "map-compiler: the run has broken off"
    return 1

end Mapsmith.Executable

open Mapsmith in
/-- Runs the command. -/
def main (line : List String) : IO UInt32 := do
  let description := Value.Json.read (← (← IO.getStdin).getLine)
  match description.bind Executable.workspace with
  | some (.ok w) =>
    let (tree, outcome) := CommandLine.run w line
    (tree.changedSince w.tree).forM fun (p, text) => Executable.writeFile p text
    Executable.report outcome
  | _ =>
    IO.eprintln "map-compiler: the description of the workspace cannot be used"
    return 2
