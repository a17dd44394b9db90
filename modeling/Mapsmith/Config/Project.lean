import Mapsmith.Config.Reading
import Mapsmith.FileTree
import Mapsmith.Value.Toml.Document

/-!
# Project files

The configuration of a project stands in one table of its project file. A file without that table
stands for the defaults.
-/

namespace Mapsmith.Config

/-- Why the configuration of a project file cannot be had. -/
inductive ProjectError
  /-- The settings cannot be used, or the file cannot be read. -/
  | invalid (e : Invalid)
  /-- There can be no file of the name. -/
  | nullCharacter
  /-- The table of tools is no table. -/
  | toolsNotATable
  /-- An integer of the file has too many digits. -/
  | integerTooLong
  /-- The values of the file are nested too deeply. -/
  | nestedTooDeeply
  deriving DecidableEq, Repr

/-- The configuration in the text of a project file. -/
def ofProjectText (source text : String) : Except ProjectError Config :=
  match Value.Toml.read text with
  | .error .malformed => .error (.invalid ⟨source, "invalid TOML: "⟩)
  | .error .tooLong => .error .integerTooLong
  | .error .tooDeep => .error .nestedTooDeeply
  | .ok document => match (document.get? "tool").getD (.dict []) with
    | .dict tools => match ((Value.dict tools).get? "map_compiler").getD (.dict []) with
      | .dict table => match ofTable source (.dict table) with
        | .ok c => .ok c
        | .error e => .error (.invalid e)
      | _ => .error (.invalid ⟨source, "[tool.map_compiler] must be a table"⟩)
    | _ => .error .toolsNotATable

/-- The words for a failure to read a file. -/
def readFailure (path : String) : FileError → String
  | .isADirectory => "[Errno 21] Is a directory: " ++ Text.quote path
  | .notADirectory => "[Errno 20] Not a directory: " ++ Text.quote path
  | .nameTooLong => "[Errno 36] File name too long: " ++ Text.quote path
  | _ => "[Errno 2] No such file or directory: " ++ Text.quote path

/-- The configuration in the project file that a name leads to. -/
def ofProject (tree : FileTree) (name : PathName) : Except ProjectError Config :=
  match tree.readFile name with
  | .ok text => ofProjectText name.text text
  | .error .nullCharacter => .error .nullCharacter
  | .error e => .error (.invalid ⟨name.text, "cannot read file: " ++ readFailure name.text e⟩)

end Mapsmith.Config
