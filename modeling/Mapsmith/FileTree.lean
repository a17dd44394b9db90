import Mapsmith.Emission.GeneratedUnit

/-!
# File trees

Generated units on disk. The files below a directory are a list of paths with their texts, beside
the directories that have been made. A unit is written where the parts of its module's name lead,
unless the file there already reads as the unit's text; reading takes every kind of line break for
one.
-/

namespace Mapsmith

/-- Where something is: the names that lead there from the directory the tree stands for. Names of two
dots at the front lead out of it, and a slash at the front leads to the top of the file system. -/
abbrev FilePath := List String

/-- Why a file cannot be read or written. -/
inductive FileError
  /-- A file stands where a directory is to be made. -/
  | fileExists
  /-- The path leads through a file. -/
  | notADirectory
  /-- A directory stands where a file is read or written. -/
  | isADirectory
  /-- There is nothing at the path. -/
  | notFound
  /-- A name, or the whole path, is too long. -/
  | nameTooLong
  /-- The path holds a null character. -/
  | nullCharacter
  /-- The name of a unit leads nowhere. -/
  | emptyName
  deriving DecidableEq, Repr

/-- What stands at a path. -/
inductive FileNode
  /-- A file with its text. -/
  | file (text : String)
  /-- A directory. -/
  | directory
  deriving DecidableEq, Repr

/-- Files and directories below one directory. -/
structure FileTree where
  /-- The files with their texts. -/
  files : List (FilePath × String) := []
  /-- The directories. -/
  directories : List FilePath := []
  deriving DecidableEq, Repr, Inhabited

namespace FilePath

/-- A path as it is shown. -/
def text (p : FilePath) : String :=
  "/".intercalate p

/-- The top of the file system. -/
def top : FilePath := ["/"]

/-- Is the path the directory that the tree stands for, or one on the way to it from the top? -/
def isSurrounding (p : FilePath) : Bool :=
  p.all (· = "..") || p = top

/-- Does the path lead out of the directory that the tree stands for? -/
def isOutside (p : FilePath) : Bool :=
  p.head? = some ".." || p.head? = some "/"

/-- One step further: two dots lead back. -/
def enter (p : FilePath) (part : String) : FilePath :=
  if part ≠ ".." then p ++ [part]
  else if p = top then p
  else if p.all (· = "..") then p ++ [".."]
  else p.dropLast

end FilePath

/-- A path as someone names it: from the top of the file system, or from the directory that the
tree stands for. -/
structure PathName where
  /-- The slashes that it begins with: one, or exactly two. -/
  lead : String := ""
  /-- Its parts. -/
  parts : List String := []
  deriving DecidableEq, Repr

namespace PathName

/-- The name that a text spells. Empty parts and parts that stay in place are dropped; of the slashes
in front one is kept, or both if there are two. -/
def ofText (s : String) : PathName where
  lead := match (s.toList.takeWhile (· = '/')).length with
    | 0 => ""
    | 2 => "//"
    | _ => "/"
  parts := (s.splitOn "/").filter fun part => part ≠ "" && part ≠ "."

/-- A name as it is shown. -/
def text (n : PathName) : String :=
  if n.lead = "" && n.parts.isEmpty then "." else n.lead ++ "/".intercalate n.parts

/-- A name below another one. A name from the top stays as it is. -/
def append (n m : PathName) : PathName :=
  if m.lead = "" then { n with parts := n.parts ++ m.parts } else m

instance : Append PathName := ⟨append⟩

/-- The name of the directory that something is in. -/
def parent (n : PathName) : PathName :=
  { n with parts := n.parts.dropLast }

/-- Where the name begins. -/
def start (n : PathName) : FilePath :=
  if n.lead = "" then [] else FilePath.top

/-- Where the name leads if all its parts are directories. -/
def destination (n : PathName) : FilePath :=
  n.parts.foldl FilePath.enter n.start

end PathName

namespace FileTree

/-! ### Reading -/

/-- How many bytes one part of a name may have. -/
def maxPartSize : Nat := 255

/-- How many bytes a whole name may have. -/
def maxNameSize : Nat := 4095

/-- What stands at a path, if anything does. -/
def node? (tree : FileTree) (p : FilePath) : Option FileNode :=
  if p.isSurrounding then some .directory
  else match tree.files.lookup p with
    | some text => some (.file text)
    | none => if p ∈ tree.directories then some .directory else none

/-- A text with every kind of line break as a line feed. -/
def unifyBreaks : List Char → List Char
  | '\r' :: '\n' :: rest => '\n' :: unifyBreaks rest
  | '\r' :: rest => '\n' :: unifyBreaks rest
  | c :: rest => c :: unifyBreaks rest
  | [] => []

/-- A text as it is read. -/
def readBack (text : String) : String :=
  String.ofList (unifyBreaks text.toList)

/-- Follows the parts of a name from a path. -/
def follow (tree : FileTree) : FilePath → List String → Except FileError FilePath
  | p, [] => .ok p
  | p, part :: parts => match tree.node? p with
    | none => .error .notFound
    | some (.file _) => .error .notADirectory
    | some .directory =>
      if part.utf8ByteSize > maxPartSize then .error .nameTooLong
      else follow tree (p.enter part) parts

/-- Can a name be used at all? -/
def checkName (name : PathName) : Except FileError Unit :=
  if '\x00' ∈ name.text.toList then .error .nullCharacter
  else if name.text.utf8ByteSize > maxNameSize then .error .nameTooLong
  else .ok ()

/-- Where a name leads. There need not be anything, but the directories on the way are there. -/
def locate (tree : FileTree) (name : PathName) : Except FileError FilePath := do
  checkName name
  tree.follow name.start name.parts

/-- What stands where a name leads. -/
def lookup (tree : FileTree) (name : PathName) : Except FileError FileNode := do
  match tree.node? (← tree.locate name) with
  | some node => .ok node
  | none => .error .notFound

/-- Is there something where a name leads? A name that cannot be followed leads to nothing, but one
that is too long is an error. -/
def isPresent (tree : FileTree) (name : PathName) : Except FileError Bool :=
  match tree.lookup name with
  | .ok _ => .ok true
  | .error .nameTooLong => .error .nameTooLong
  | .error _ => .ok false

/-- The text of the file that a name leads to, as it is. -/
def readFile (tree : FileTree) (name : PathName) : Except FileError String := do
  match ← tree.lookup name with
  | .file text => .ok text
  | .directory => .error .isADirectory

/-- Does what a name leads to read as a text? A name that leads nowhere does not. -/
def readsAs (tree : FileTree) (name : PathName) (text : String) : Except FileError Bool := do
  if ← tree.isPresent name then return readBack (← tree.readFile name) == text else return false

/-! ### Writing -/

/-- Makes the directories that parts of a name lead to from a path. A file that stands in the way is
taken for the name of a directory to be made if it comes last, or if a directory had to be made
before it. -/
def makeWithin (tree : FileTree) (made : Bool) : FilePath → List String → Except FileError FileTree
  | _, [] => .ok tree
  | p, part :: parts =>
    if part.utf8ByteSize > maxPartSize then .error .nameTooLong
    else match tree.node? (p.enter part) with
      | some .directory => makeWithin tree made (p.enter part) parts
      | some (.file _) => .error (if made || parts.isEmpty then .fileExists else .notADirectory)
      | none =>
        makeWithin { tree with directories := tree.directories ++ [p.enter part] } true
          (p.enter part) parts

/-- Makes a directory and those on the way to it. -/
def makeDirectory (tree : FileTree) (name : PathName) : Except FileError FileTree := do
  checkName name
  tree.makeWithin false name.start name.parts

/-- The tree with a text at a path whose directory exists. -/
def setFile (tree : FileTree) (p : FilePath) (text : String) : FileTree :=
  if tree.files.any (·.1 == p) then
    { tree with files := tree.files.map fun f => if f.1 = p then (p, text) else f }
  else { tree with files := tree.files ++ [(p, text)] }

/-- Writes a file whose directory exists. -/
def writeFile (tree : FileTree) (name : PathName) (text : String) : Except FileError FileTree := do
  let p ← tree.locate name
  if tree.node? p = some .directory then .error .isADirectory
  else return tree.setFile p text

/-- Writes a file, making the directories on the way. -/
def write (tree : FileTree) (name : PathName) (text : String) : Except FileError FileTree := do
  (← tree.makeDirectory name.parent).writeFile name text

/-- The files that were not there before, or had another text. -/
def changedSince (tree before : FileTree) : List (FilePath × String) :=
  tree.files.filter fun (p, text) => !p.isOutside && before.files.lookup p ≠ some text

/-- Removes what a name leads to if it is a file. -/
def remove (tree : FileTree) (name : PathName) : FileTree :=
  match tree.locate name with
  | .ok p => { tree with files := tree.files.filter (·.1 ≠ p) }
  | .error _ => tree

end FileTree

/-! ### Units -/

namespace Emission.GeneratedUnit

/-- The name of a module's file below the output directory. A part of the module's name that begins
with a slash leads to the top of the file system. -/
def nameOf (module : String) : Except FileError PathName :=
  let whole := ((module.splitOn ".").map PathName.ofText).foldl PathName.append {}
  match whole.parts.getLast? with
  | some name => .ok { whole with parts := whole.parts.dropLast ++ [name ++ ".py"] }
  | none => .error .emptyName

/-- The name of the unit's file below the output directory. -/
def fileName (u : GeneratedUnit) : Except FileError PathName :=
  nameOf u.module

end Emission.GeneratedUnit

namespace FileTree

open Emission

/-- Is the unit's file missing, or does it read otherwise? -/
def isStale (tree : FileTree) (root : PathName) (u : GeneratedUnit) : Except FileError Bool := do
  return !(← tree.readsAs (root ++ (← u.fileName)) u.source)

/-- The names of the units whose files are missing or read otherwise, in the order of the units. -/
def staleUnits (tree : FileTree) (root : PathName) :
    List GeneratedUnit → Except FileError (List PathName)
  | [] => .ok []
  | u :: us => do
    let name ← u.fileName
    let stale ← tree.isStale root u
    let rest ← staleUnits tree root us
    return if stale then (root ++ name) :: rest else rest

/-- Writes the unit's file unless it reads as the unit's text: the tree, and the name if it was
written. -/
def writeUnit (tree : FileTree) (root : PathName) (u : GeneratedUnit) :
    Except FileError (FileTree × Option PathName) := do
  let name ← u.fileName
  if ← tree.isStale root u then return (← tree.write (root ++ name) u.source, some (root ++ name))
  else return (tree, none)

/-- Writes units in order up to the first that cannot be: the tree, and the names written or what
went wrong. -/
def writeUnits (tree : FileTree) (root : PathName) :
    List GeneratedUnit → FileTree × Except FileError (List PathName)
  | [] => (tree, .ok [])
  | u :: us =>
    match tree.writeUnit root u with
    | .error e => (tree, .error e)
    | .ok (tree, written) =>
      let (tree, rest) := writeUnits tree root us
      (tree, rest.map (written.toList ++ ·))

end FileTree

end Mapsmith
