import Mapsmith.Program.Expr
import Mapsmith.Program.Library

/-!
# Objects

What the expressions of a program stand for: classes, type variables, types made of other types, texts
that are looked up later, and plain values. Types that are made alike are the same type; the alternatives
of a union and the values of a literal count in any order. Only some objects can be looked up in a table,
and a type with others inside it is none of them.
-/

namespace Mapsmith

/-! ### Values that count as the same -/

namespace Value

/-- The integer that a value counts as, if it counts as one. -/
def integer? : Value → Option Int
  | bool b => some (if b then 1 else 0)
  | int n => some n
  | float x => x.toInt?
  | _ => none

/-- The integer that a value is. A truth value is one too. -/
def count? : Value → Option Int
  | bool b => some (if b then 1 else 0)
  | int n => some n
  | _ => none

/-- A number as a fraction. -/
def fraction? : Value → Option (Int × Nat)
  | float x => x.fraction?
  | v => v.count?.map (·, 1)

/-- Is the value a number that need not be whole? -/
def isFloat : Value → Bool
  | float _ => true
  | _ => false

/-- The name of the type of a value. -/
def typeName : Value → String
  | null => "NoneType"
  | bool _ => "bool"
  | int _ => "int"
  | float _ => "float"
  | str _ => "str"
  | moment _ => "datetime.datetime"
  | list _ => "list"
  | dict _ => "dict"

mutual

/-- Do two values count as the same? Numbers do if they are equal, whatever their types. -/
def alike : Value → Value → Bool
  | null, null => true
  | str s, str t => s = t
  | moment s, moment t => s = t
  | list vs, list ws => alikeAll vs ws
  | dict es, dict fs => es.length = fs.length && entriesIn es fs
  | float x, float y => x = y || (x.toInt? = some 0 && y.toInt? = some 0)
  | v, w => match v.integer?, w.integer? with
    | some m, some n => m = n
    | _, _ => false

/-- Do values in a row count as the same? -/
def alikeAll : List Value → List Value → Bool
  | [], [] => true
  | v :: vs, w :: ws => alike v w && alikeAll vs ws
  | _, _ => false

/-- Are entries among those of another table? -/
def entriesIn : List (String × Value) → List (String × Value) → Bool
  | [], _ => true
  | (key, v) :: es, fs => (fs.lookup key).any (alike v) && entriesIn es fs

end

end Value

namespace Program

/-! ### Classes and formers -/

/-- A class, of the library or of the program. -/
inductive ClassId
  /-- A class of the library. -/
  | library (c : LibraryClass)
  /-- A class of the program, by its place in the order in which classes come into being. -/
  | program (index : Nat)
  deriving DecidableEq, Repr, Inhabited

/-- The class that every class inherits from. -/
def ClassId.everything : ClassId :=
  library (.builtin "object")

/-- What makes a type of others. -/
inductive Former
  /-- A class that takes types without knowing any of them. -/
  | subscripted (c : ClassId)
  /-- A named form. -/
  | named (name : String)
  /-- A class that is generic in type variables. -/
  | generic (c : ClassId)
  /-- One of several types. -/
  | union
  /-- One of several types, with bars between them. -/
  | bars
  /-- Something that can be called: its arguments, then its result. -/
  | callable
  /-- One of several values. -/
  | literal
  /-- A special form on a whole type. -/
  | special (name : String)
  deriving DecidableEq, Repr, Inhabited

namespace Former

/-- Does the former make one of several types? -/
def isUnion : Former → Bool
  | union | bars => true
  | _ => false

/-- Is the former one of the library of types, and not a class or bars between types? -/
def isTyping : Former → Bool
  | subscripted _ | bars => false
  | _ => true

end Former

/-! ### Objects -/

/-- Something that an expression stands for. -/
inductive Object
  /-- A class. -/
  | cls (c : ClassId)
  /-- A type variable, by its place in the order in which they come into being. -/
  | typeVariable (index : Nat)
  /-- A special form without what it is applied to. -/
  | special (name : String)
  /-- A named form without its types. -/
  | named (name : String)
  /-- A type made of others. -/
  | formed (former : Former) (args : List Object)
  /-- A type with notes. -/
  | annotated (inner : Object) (notes : List Object)
  /-- A text that stands for a type and is looked up later. It has a place of its own, and may stand
  for something that is said of a whole type if it is one. -/
  | forward (id : Nat) (text : String) (isWhole : Bool)
  /-- A plain value. -/
  | constant (v : Value)
  /-- Three dots. -/
  | ellipsis
  /-- A note on a type. -/
  | note (note : Note)
  /-- Things in a row. -/
  | row (items : List Object)
  /-- Things in brackets. -/
  | list (items : List Object)
  /-- A module of the program, by its place in the order in which modules come into being. -/
  | module (index : Nat)
  /-- A module of the library. -/
  | libraryModule (name : String)
  /-- A value of an enum. -/
  | enumValue (owner : Nat) (name : String)
  /-- A function, by its name with its module. -/
  | function (name : String)
  /-- A function of the language, by its name. -/
  | builtinFunction (name : String)
  /-- What reads the member at a place of a tuple. -/
  | tupleReader (place : Nat)
  /-- Things in braces. -/
  | set (items : List Object)
  /-- Things in braces that cannot be changed. -/
  | frozenSet (items : List Object)
  /-- Keys with values, each as a row of both. -/
  | table (entries : List Object)
  /-- A view of a kind of things that another object holds. -/
  | view (kind : String) (of : Object)
  /-- What lies between two places, by a step. -/
  | slice (first last step : Object)
  /-- A value that a class of the library has made. -/
  | datum (value : Datum)
  /-- Something with a place of its own, where what it holds can change. -/
  | cell (place : Nat)
  /-- What a class has made: its place, what it is as a value of a class of the library, if it is one, what
  it has under names, and what else it keeps. -/
  | made (place : Nat) (maker : ClassId) (kept : List Object) (members state : List (String × Object))
  /-- What a class of the library holds under a name, for its values. -/
  | descriptor (holding : Holding) (owner : LibraryClass) (name : String)
  /-- What an object has under a name, to be called. -/
  | method (owner : Object) (name : String)
  /-- A function without a name, by its place in the order in which these come into being. -/
  | lambda (index : Nat)
  /-- What yields things one after the other, by its place in the order in which such come into being. -/
  | iterator (index : Nat)
  /-- Something else of a kind, as it is written. -/
  | other (kind : String) (shown : String := "<" ++ kind ++ ">")
  deriving Repr, Inhabited

/-- What is given to a call: things in their places, then things under names. -/
structure Arguments where
  /-- The things in their places. -/
  inPlace : List Object := []
  /-- The things under names. -/
  byName : List (String × Object) := []
  deriving Inhabited

namespace Arguments

/-- Things in their places alone. -/
def ofItems (items : List Object) : Arguments where
  inPlace := items

/-- The arguments without the first one in its place. -/
def tail (a : Arguments) : Arguments :=
  { a with inPlace := a.inPlace.tail }

/-- The arguments with one in front of them. -/
def after (o : Object) (a : Arguments) : Arguments :=
  { a with inPlace := o :: a.inPlace }

/-- Is nothing given? -/
def isEmpty (a : Arguments) : Bool :=
  a.inPlace.isEmpty && a.byName.isEmpty

end Arguments

namespace Object

/-- The missing value. -/
def none : Object :=
  constant .null

/-- The class of the missing value. -/
def missing : Object :=
  cls (.library .missing)

/-- The type that anything has. -/
def anything : Object :=
  cls (.library .anything)

/-- A text. -/
def text (s : String) : Object :=
  constant (.str s)

/-- A value that is written out. -/
def ofValue : Value → Object
  | .list items => list (items.map constant)
  | v => constant v

/-- What a class of the library has under a name, by what it holds there. -/
def ofHolding (c : LibraryClass) (name : String) (holding : Holding) : Object :=
  match holding with
  | .function => function (c.qualifiedName ++ "." ++ name)
  | .property => other "property"
  | .slot | .method | .reader | .part => descriptor holding c name
  | .maker | .shared => method (cls (.library c)) name
  | .value => other "object"
  | .absent => none

/-- What something of the library is. -/
def ofItem : LibraryItem → Object
  | .cls c => cls (.library c)
  | .special name => special name
  | .named name => named name
  | .module name => libraryModule name
  | .function name => function name
  | .builtinFunction name => builtinFunction name
  | .plain v => constant v
  | .ellipsis => ellipsis
  | .variable index => typeVariable index
  | .annotated c kind shown => annotated (cls (.library c)) [other kind shown]
  | .other kind shown => other kind shown

/-- Is the object the class of the missing value? -/
def isMissing : Object → Bool
  | cls (.library c) => c = .missing
  | _ => false

/-- The text of an object that is one. -/
def text? : Object → Option String
  | constant (.str s) => some s
  | _ => Option.none

/-- The things of a row, or an object as the only one. -/
def items : Object → List Object
  | row items => items
  | o => [o]

/-- The things of a list or a row, or an object as the only one. -/
def parts : Object → List Object
  | list items | row items => items
  | o => [o]

/-- Two objects are of one type as far as the values of a literal go. -/
def sameType : Object → Object → Bool
  | constant v, constant w => v.typeName = w.typeName
  | _, _ => true

/-! ### Notes -/

/-- The marker that a note is. -/
def marker : Object → Directive.Marker
  | note n => n.marker
  | _ => .other

/-- A type without its notes. -/
def bare : Object → Object
  | annotated inner _ => inner
  | o => o

/-- The markers on a type. -/
def ownMarkers : Object → List Directive.Marker
  | annotated _ notes => notes.map marker
  | _ => []

/-- The markers on a type and on its alternatives. -/
def markers (o : Object) : List Directive.Marker :=
  o.ownMarkers ++ match o.bare with
    | formed f args => if f.isUnion then args.flatMap ownMarkers else []
    | _ => []

/-! ### Sameness -/

/-- The name under which a value keeps that it is the same as another one with the same members. -/
def byValue : String := "by value"

/-- The name under which a value keeps the name of its class if it cannot be looked up in a table. -/
def notLookedUp : String := "not looked up"

mutual

/-- Are two objects the same? -/
def same : Object → Object → Bool
  | cls a, cls b => a = b
  | typeVariable a, typeVariable b => a = b
  | special a, special b | named a, named b => a = b
  | formed f as, formed g bs =>
    if f.isUnion && g.isUnion then as.length = bs.length && allAmong as bs
    else if f = .literal && g = .literal then as.length = bs.length && valuesAmong as bs
    else f = g && sameAll as bs
  | annotated a ns, annotated b ms => same a b && sameAll ns ms
  | forward _ s _, forward _ t _ => s = t
  | constant v, constant w => v.alike w
  | ellipsis, ellipsis => true
  | note a, note b => a = b
  | row as, row bs | list as, list bs => sameAll as bs
  | module a, module b => a = b
  | libraryModule a, libraryModule b => a = b
  | enumValue a m, enumValue b n => a = b && m = n
  | function a, function b | builtinFunction a, builtinFunction b => a = b
  | tupleReader a, tupleReader b => a = b
  | set as, set bs | set as, frozenSet bs | frozenSet as, set bs | frozenSet as, frozenSet bs
  | table as, table bs => as.length = bs.length && allAmong as bs
  | view a o, view b p => a = b && same o p
  | cell a, cell b => a = b
  | slice a b c, slice d e f => same a d && same b e && same c f
  | datum a, datum b => a.alike b
  | datum a, constant v | constant v, datum a => a.isNumber v
  | made p a ks xs st, made q b ls ys _ => p = q || (a = b && (st.any (·.1 = byValue)) && sameAll ks ls
      && sameMembers xs ys)
  | descriptor _ a m, descriptor _ b n => a = b && m = n
  | method a m, method b n => same a b && m = n
  | lambda a, lambda b | iterator a, iterator b => a = b
  | other a s, other b t => a = b && s = t
  | _, _ => false

/-- Are objects in a row the same? -/
def sameAll : List Object → List Object → Bool
  | [], [] => true
  | a :: as, b :: bs => same a b && sameAll as bs
  | _, _ => false

/-- Do names mean the same, one after the other? -/
def sameMembers : List (String × Object) → List (String × Object) → Bool
  | [], [] => true
  | (m, a) :: as, (n, b) :: bs => m = n && same a b && sameMembers as bs
  | _, _ => false

/-- Are objects among others? -/
def allAmong : List Object → List Object → Bool
  | [], _ => true
  | a :: as, bs => bs.any (same a) && allAmong as bs

/-- Are values among others of the same types? -/
def valuesAmong : List Object → List Object → Bool
  | [], _ => true
  | a :: as, bs => bs.any (fun b => sameType a b && same a b) && valuesAmong as bs

end

/-- The first of every group of objects that are the same. -/
def distinct (os : List Object) : List Object :=
  os.foldl (fun kept o => if kept.any (·.same o) then kept else kept ++ [o]) []

/-! ### Looking up in tables -/

mutual

/-- The type of something in the object that cannot be looked up in a table. -/
def unhashable? : Object → Option String
  | constant (.list _) => some "list"
  | constant (.dict _) => some "dict"
  | list _ => some "list"
  | set _ => some "set"
  | table _ => some "dict"
  | view kind _ => if kind = "dict_values" then Option.none else some kind
  | slice .. => some "slice"
  | made _ _ kept members state => match state.lookup notLookedUp with
    | some name => some ((name.text?).getD "object")
    | Option.none =>
      (anyUnhashable? kept).or (if state.any (·.1 = byValue) then memberUnhashable? members else Option.none)
  | frozenSet items => anyUnhashable? items
  | formed _ args => anyUnhashable? args
  | annotated inner notes => (unhashable? inner).or (anyUnhashable? notes)
  | row items => anyUnhashable? items
  | _ => Option.none

/-- The first such type in objects in a row. -/
def anyUnhashable? : List Object → Option String
  | [] => Option.none
  | o :: os => (unhashable? o).or (anyUnhashable? os)

/-- The first such type in what names mean. -/
def memberUnhashable? : List (String × Object) → Option String
  | [] => Option.none
  | (_, o) :: os => (unhashable? o).or (memberUnhashable? os)

end

/-- Can the object be looked up in a table? -/
def isHashable (o : Object) : Bool :=
  o.unhashable?.isNone

/-! ### Truth -/

/-- Does the object count as true? -/
def isTruthy : Object → Bool
  | constant v => v.isTruthy
  | row items | list items | set items | frozenSet items | table items => !items.isEmpty
  | view _ o => o.isTruthy
  | made _ _ (o :: _) _ _ => o.isTruthy
  | datum d => d.isTruthy
  | _ => true

/-! ### Type variables -/

mutual

/-- The type variables that a type leaves open, in the order in which they occur; a class leaves none
open. -/
def openVariables : Object → List Nat
  | typeVariable index => [index]
  | formed _ args => openVariablesAll args
  | annotated inner _ => openVariables inner
  | list items | row items => openVariablesAll items
  | _ => []

/-- The type variables that types in a row leave open. -/
def openVariablesAll : List Object → List Nat
  | [] => []
  | o :: os => openVariables o ++ openVariablesAll os

end

/-- The type variables that types leave open, each once. -/
def parameters (os : List Object) : List Nat :=
  (openVariablesAll os).eraseDups

end Object

end Program

end Mapsmith
