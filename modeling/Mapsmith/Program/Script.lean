import Mapsmith.Program.Declaration

/-!
# Programs as they are written down

On what lines of its file the classes of a module are written. The first line has the names that every
module begins with; each import and each type variable has one. A class has its decorators first, one on
a line, and then the line that tells its name and what it inherits from; what is in its body follows line by
line. A class that asks for a later line has blank lines before it.
-/

namespace Mapsmith.Program

/-! ### Expressions -/

namespace Expr

mutual

/-- How an expression for a type is written. -/
def text : Expr → String
  | name word => word
  | constant v => v.literal
  | ellipsis => "..."
  | note n => n.spelling
  | member owner word => text owner ++ "." ++ word
  | subscript owner (row items) => text owner ++ "[" ++ ", ".intercalate (texts items) ++ "]"
  | subscript owner index => text owner ++ "[" ++ text index ++ "]"
  | list items => "[" ++ ", ".intercalate (texts items) ++ "]"
  | bars left right => text left ++ " | " ++ text right
  | invalid text => text
  | _ => ""

/-- How expressions in a row are written. -/
def texts : List Expr → List String
  | [] => []
  | e :: es => text e :: texts es

end

end Expr

/-! ### Classes -/

namespace ClassHead

variable (d : ClassHead)

/-- The bases that come with the kind of a class. -/
def basesOfKind : List Expr :=
  match d.kind with
  | .model => if d.joinsKind then [.ofParts ["pydantic", "BaseModel"]] else []
  | .protocol => [.ofParts ["typing", "Protocol"]]
  | .enum => if d.joinsKind then [.ofParts ["enum", "Enum"]] else []
  | .dataclass | .namedTuple | .plain => []

/-- The bases of a class as they are written. A tuple with named members has none of its own. -/
def allBases : List Expr :=
  let declared := if d.kind = .namedTuple then [] else d.bases
  let generic := if d.typeParameters.isEmpty then []
    else [.applied (.ofParts ["typing", "Generic"]) d.typeParameters]
  declared ++ d.basesOfKind ++ generic ++ if d.isAbstractBase then [.ofParts ["abc", "ABC"]] else []

/-- The line that tells the name of a class and what it inherits from. -/
def title : String :=
  let bases := (if d.kind = .namedTuple then [.ofParts ["typing", "NamedTuple"]] else []) ++ d.allBases
  let bases := if bases.isEmpty then "" else "(" ++ ", ".intercalate (Expr.texts bases) ++ ")"
  "class " ++ d.name ++ bases ++ ":"

/-- The number of lines of the decorators on the class. -/
def decoratorLines : Nat :=
  d.decorators.length + if d.kind = .dataclass then 1 else 0

end ClassHead

/-- The number of lines of a property. What reads it and what assigns it have a line for a decorator each. -/
def Property.lines (p : Property) : Nat :=
  if !p.hasGetter then 1 else if p.hasSetter then 4 else 2

/-- The number of lines of a method. What is not simply called on values has a decorator. -/
def Method.lines (f : Method) : Nat :=
  if f.kind = .ofValue then 1 else 2

/-- The number of lines of the body of a class, without the classes in it. A model begins with its settings. -/
def ClassHead.bodyLines (d : ClassHead) : Nat :=
  (if d.kind = .model then 1 else 0) + d.values.length + d.fields.length
    + (if d.constructor matches .inherited then 0 else 1)
    + d.properties.foldl (fun n p => n + p.lines) 0 + d.methods.foldl (fun n m => n + m.lines) 0

/-- Where a class is written. -/
structure ClassPlace where
  /-- The line it begins on, be it with a decorator. -/
  first : Int
  /-- The line that tells its name. -/
  line : Int
  /-- What is written on that line. -/
  title : String
  deriving Repr

/-- Where a class is written that comes after a number of lines. A class in a function has the line of the
function before it. -/
def ClassHead.place (outer : Option String) (used : Int) (d : ClassHead) : ClassPlace :=
  let opening := if d.isLocal && outer.isNone then 1 else 0
  let first := max (used + opening + 1) (d.line.getD 0)
  ⟨first, first + d.decoratorLines, d.title⟩

mutual

/-- The paths of a class and those in its body with where they are written, in order, and the number of
lines up to the end of the class. A body without anything has a line that says so, and a function two that
hand over its class. -/
def ClassDeclaration.places (outer : Option String) (used : Int) :
    ClassDeclaration → List (String × ClassPlace) × Int
  | ⟨head, nested⟩ =>
    let place := head.place outer used
    let (inner, last) := placesOfClasses (some (head.path outer)) (place.line + head.bodyLines) nested
    let last := if last = place.line then last + 1 else last
    ((head.path outer, place) :: inner, if head.isLocal && outer.isNone then last + 2 else last)

/-- The paths of classes in a row with where they are written, and the number of lines up to their end. -/
def placesOfClasses (outer : Option String) (used : Int) :
    List ClassDeclaration → List (String × ClassPlace) × Int
  | [] => ([], used)
  | d :: ds =>
    let (first, used) := d.places outer used
    let (rest, used) := placesOfClasses outer used ds
    (first ++ rest, used)

end

/-- The number of lines before the classes of a module. -/
def ModuleDeclaration.openingLines (m : ModuleDeclaration) : Nat :=
  (if m.hasHeader then 1 else 0) + m.imports.length + m.fromImports.length + m.typeVariables.length

/-- The paths of the classes of a module, with where they are written. Paths are in their normal form. -/
def ModuleDeclaration.places (m : ModuleDeclaration) : List (String × ClassPlace) :=
  (placesOfClasses none m.openingLines m.classes).1.map fun (path, place) => (Text.normalized path, place)

end Mapsmith.Program
