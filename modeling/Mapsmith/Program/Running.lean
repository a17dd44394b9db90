import Mapsmith.Program.Making

/-!
# Running modules

What running the modules of a program leaves behind. A module begins with the names that every module of a
program knows; then it imports other modules, takes over names of these, makes its type variables, and makes
its classes. A program is run module by module, in order; the packages that a module is in are there before
it, and know it once it has been run.
-/

namespace Mapsmith.Program

/-- The name of a module and of the packages it is in, the outermost first. -/
def packagesOf (module : String) : List String :=
  let parts := Text.parts '.' module
  (List.range parts.length).map fun n => ".".intercalate (parts.take (n + 1))

/-- How modules find others. -/
structure Importer where
  /-- Sees to it that a module is there. -/
  load : String → Run Unit
  /-- Sees to it that a module is there which another one may have as a member; it need not exist. -/
  loadMember : String → Run Unit

namespace Running

/-! ### Imports -/

/-- The module of a name. -/
def moduleOf (name : String) : Run Nat := do
  match (← get).module? name with
  | some index => return index
  | none => throw (.noModule ("No module named " ++ Text.quote name))

/-- Runs the import of a module. The name of its outermost package gets a meaning. -/
def runImport (importer : Importer) (index : Nat) (name : String) : Run Unit := do
  if name ∈ libraryModules then
    modify fun m => m.bind index (firstPart name) (.libraryModule (firstPart name))
  else
    importer.load name
    let top ← moduleOf (firstPart name)
    modify fun m => m.bind index (firstPart name) (.module top)

/-- What a module has under a name: something of its own, or a module that is in it. -/
def exported? (importer : Importer) (module name : String) : Run (Option Object) := do
  if module ∈ libraryModules then return (libraryMember? module name).map .ofItem
  importer.load module
  let index ← moduleOf module
  match (← get).global? index name with
  | some o => return some o
  | none =>
    importer.loadMember (module ++ "." ++ name)
    let m ← get
    return (m.global? index name).or ((m.module? (module ++ "." ++ name)).map .module)

/-- Runs the import of a name from a module. -/
def runFromImport (importer : Importer) (index : Nat) (name : String) : Run Unit := do
  let module := allButLastPart name
  let name := lastPart name
  match ← exported? importer module name with
  | some o => modify fun m => m.bind index name o
  | none =>
    let m ← get
    let o := ((m.module? module).bind (m.modules[·]?)).getD { name := module }
    throw (.noExport name module o.isUnfinished o.file)

/-! ### Type variables -/

/-- Runs the declaration of a type variable. -/
def runTypeVariable (s : Scope) (v : TypeVariable) : Run Unit := do
  let maker ← Run.evaluate s (.ofParts ["typing", "TypeVar"])
  if !maker.same (.cls (.library ⟨"typing", "TypeVar"⟩)) then
    let o ← Run.call s maker (.ofItems [.text v.name])
    modify fun m => m.bind s.moduleIndex (Text.normalized v.name) o
    return
  let constraints ← (← Run.evaluateAll s v.constraints).mapM Run.whole
  let bound ← v.bound.mapM fun e => do Run.whole (← Run.evaluate s e)
  let module := (((← get).modules[s.moduleIndex]?).map (·.name)).getD "__main__"
  let o ← Run.makeVariable v.name constraints bound v.covariant v.contravariant .type module
  modify fun m => m.bind s.moduleIndex (Text.normalized v.name) o

/-! ### Modules -/

/-- Runs the declaration of a class at the top of a module. -/
def runClass (site : Site) (s : Scope) (d : ClassDeclaration) : Run Unit := do
  let o ← Making.run site s none d
  if d.head.isLocal then
    modify fun m => m.bind s.moduleIndex ("make_" ++ d.head.name) (.other "function")
  modify fun m => m.bind s.moduleIndex (d.head.boundAs none) o

/-- Runs a module that has come into being. -/
def runModule (importer : Importer) (index : Nat) (d : ModuleDeclaration) : Run Unit := do
  if d.holdsNull then throw .badValue
  if !d.isWritable then throw .malformed
  modify fun m => m.changeModule index fun o => { o with places := d.places }
  let d := d.normalized
  if d.hasHeader then
    modify fun m => header.foldl (fun m (name, item) => m.bind index name (.ofItem item)) m
  d.imports.forM (runImport importer index)
  d.fromImports.forM (runFromImport importer index)
  let s := Scope.ofModule index
  d.typeVariables.forM (runTypeVariable s)
  let site : Site := ⟨index, d.name⟩
  d.classes.forM (runClass site s)

/-- Adds a module without names: its place. -/
def addModule (name : String) (file : Option String) : Run Nat := do
  let index := (← get).modules.length
  modify fun m => m.addModule { name, file }
  return index

/-- Makes a module known to the package it is in. -/
def attach (name : String) (index : Nat) : Run Unit := do
  if '.' ∈ name.toList then
    match (← get).module? (allButLastPart name) with
    | some package => modify fun m => m.bind package (lastPart name) (.module index)
    | none => return

/-! ### Programs -/

/-- How the modules of a program find others: only those that have been run are there. -/
def importer : Importer where
  load name := do let _ ← moduleOf name
  loadMember _ := return

/-- Adds a package without names unless it is there. -/
def addPackage (name : String) : Run Unit := do
  if ((← get).module? name).isNone then attach name (← addModule name none)

/-- Runs a module of a program. -/
def runDeclared (d : ModuleDeclaration) : Run Unit := do
  (packagesOf d.name).dropLast.forM addPackage
  let index ← addModule d.name d.file
  runModule importer index d
  attach d.name index

/-- Runs a program. -/
def runProgram (p : Program) : Run Unit :=
  p.modules.forM runDeclared

end Running

end Mapsmith.Program
