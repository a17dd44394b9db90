import Mapsmith.FileTree
import Mapsmith.Program.Reading

/-!
# Workspaces

A directory with the modules of a program among its files. The module of a file is known by the text
of the file; a file with any other text declares no classes, and only its import lines count. Modules
are looked for below a directory: a name is a package if there is a directory for it, and importing a
module runs the packages it is in, then the modules it imports, then the module itself.
-/

namespace Mapsmith

open Program

/-- Files, with the modules that some of their texts declare. -/
structure Workspace where
  /-- The files. -/
  tree : FileTree := {}
  /-- What the texts of modules declare. -/
  sources : List (String × ModuleDeclaration) := []

namespace Workspace

/-! ### Files of modules -/

/-- What stands for a module. -/
inductive ModulePlace
  /-- A directory, with the file that is run for it if there is one. -/
  | package (directory : FilePath) (file : Option FilePath)
  /-- A file. -/
  | file (path : FilePath)
  deriving DecidableEq, Repr

variable (w : Workspace)

/-- Is there a file at a path? -/
def hasFile (p : FilePath) : Bool :=
  w.tree.node? p matches some (.file _)

/-- What stands for a module of a simple name in a directory. A package with a file of its own comes
first, then a file, then a bare directory. -/
def place? (directory : FilePath) (name : String) : Option ModulePlace :=
  let inner := directory ++ [name]
  let initial := inner ++ ["__init__.py"]
  let single := directory ++ [name ++ ".py"]
  if name = "" then none
  else if w.hasFile initial then some (.package inner (some initial))
  else if w.hasFile single then some (.file single)
  else if w.tree.node? inner = some .directory then some (.package inner none)
  else none

/-- The modules that the import lines of a text name. -/
def importLines (text : String) : List String :=
  (text.splitOn "\n").filterMap fun line => match line.splitOn " " with
    | ["import", name] => if name = "" then none else some name
    | _ => none

/-- What a file declares under the name of a module. -/
def declarationAt (name : String) (p : FilePath) : ModuleDeclaration :=
  let text := (w.tree.files.lookup p).getD ""
  match w.sources.lookup text with
  | some m => { m with name, file := some p.text }
  | none => { name, file := some p.text, hasHeader := false, imports := importLines text }

/-! ### Laying out a program -/

/-- The file of a module below a directory. -/
def fileOf (directory : PathName) (module : String) : PathName :=
  let parts := module.splitOn "."
  directory ++ ⟨"", parts.dropLast ++ [parts.getLast?.getD "" ++ ".py"]⟩

/-- The file that is run for a package below a directory. -/
def initialOf (directory : PathName) (package : String) : PathName :=
  directory ++ ⟨"", package.splitOn "." ++ ["__init__.py"]⟩

/-- The text that stands for a module. -/
def textOf (m : ModuleDeclaration) : String :=
  "# module " ++ m.name ++ "\n"

/-- A workspace with the modules of a program below a directory, and with files. Every package that a
module is in has an empty file; it comes before a module that is declared under the package's name. -/
def ofProgram (p : Program) (directory : PathName) (files : List (PathName × String)) :
    Except FileError Workspace := do
  let packages := p.modules.flatMap fun m => (packagesOf m.name).dropLast
  let initial := packages.eraseDups.map fun package => (initialOf directory package, "")
  let modules := p.modules.map fun m => (fileOf directory m.name, textOf m)
  let tree ← (initial ++ modules ++ files).foldlM
    (fun (tree : FileTree) (name, text) => tree.write name text) {}
  return ⟨tree, p.modules.reverse.map fun m => (textOf m, m)⟩

/-! ### Importing -/

/-- The directory of a package, if the place is one. -/
def ModulePlace.directory? : ModulePlace → Option FilePath
  | .package directory _ => some directory
  | .file _ => none

/-- The file that is run for a module. -/
def ModulePlace.file? : ModulePlace → Option FilePath
  | .package _ path => path
  | .file path => some path

/-- What stands for a module whose name goes on so, and the name of the part that is missing otherwise.
Only a package has modules in it. -/
def find (directory : Option FilePath) (outer : String) :
    List String → Except Fault ModulePlace
  | [] => .error .emptyName
  | name :: rest =>
    let full := if outer = "" then name else outer ++ "." ++ name
    match directory.bind (w.place? · name), rest with
    | none, _ => .error (.noModule ("No module named " ++ Text.quote full))
    | some place, [] => .ok place
    | some place, next :: _ => match place.directory? with
      | some inner => find (some inner) full rest
      | none => .error (.noModule ("No module named " ++ Text.quote (full ++ "." ++ next) ++ "; "
          ++ Text.quote full ++ " is not a package"))

/-- What stands for a module below a directory. -/
def placeOf (root : Option FilePath) (module : String) : Except Fault ModulePlace :=
  w.find root "" (module.splitOn ".")

/-- Runs what stands for a module, unless the module is there. -/
def loadOne (root : Option FilePath) (importer : Importer) (module : String) : Run Unit := do
  if ((← get).module? module).isSome then return
  let place ← MonadExcept.ofExcept (w.placeOf root module)
  let index ← Running.addModule module (place.file?.map (·.text))
  match place.file? with
  | none => pure ()
  | some p =>
    modify fun m => m.changeModule index fun o => { o with isUnfinished := true }
    Running.runModule importer index (w.declarationAt module p)
    modify fun m => m.changeModule index fun o => { o with isUnfinished := false }
  Running.attach module index

/-- How modules find others below a directory; imports may nest so deep. A module is there when the packages
it is in are. -/
def importer (root : Option FilePath) : Nat → Importer
  | 0 => { load := fun _ => return, loadMember := fun _ => return }
  | levels + 1 =>
    let load (module : String) : Run Unit :=
      (packagesOf module).forM (w.loadOne root (importer root levels))
    { load
      loadMember := fun module =>
        if (w.placeOf root module).toOption.isSome then load module else return }

/-- Imports a module by its name. At every level of nesting a module has been added for which there is a
file or a directory, so their number bounds the levels. -/
def importModule (root : Option FilePath) (module : String) : Run Unit := do
  if module = "" then throw .emptyName
  if module.startsWith "." then throw .relativeName
  let levels := w.tree.files.length + w.tree.directories.length + 1
  (w.importer root levels).load module

/-- The classes that modules declare, which are imported one after the other. -/
def select (root : Option FilePath) (modules : List String) : Run (List Object) := do
  let chosen ← modules.mapM fun module => do
    tryCatch (w.importModule root module) fun e => match e.importDetail? with
      | some detail => throw (.graph (.noModule module detail))
      | none => throw e
    let m ← get
    return ((m.module? module).map m.classesOf).getD []
  return chosen.flatten

/-- Reads the classes that modules declare. -/
def read (root : Option FilePath) (modules : List String) : Read TypeGraph := do
  Read.graphOf (← Read.run (w.select root modules))

end Workspace

end Mapsmith
