import Mapsmith.Directive.Declaration
import Mapsmith.Program.Library.Class
import Mapsmith.TypeGraph

/-!
# Faults

Why a program cannot be run or read. Where a text in quotes is looked up, some faults are no more than a
reason to take the text as it stands; these have a wording, since it is told.
-/

namespace Mapsmith.Program

/-- Why an object cannot be used in the way it is. -/
inductive Misuse
  /-- It takes no subscript. -/
  | notSubscriptable (what : String)
  /-- It is no generic class. -/
  | notGeneric (what : String)
  /-- It takes another number of types. -/
  | arity (what : String) (actual expected : Nat)
  /-- An operator does not go between two objects of these types. -/
  | operands (operator left right : String)
  /-- It cannot stand for a type inside another one. -/
  | notAnArgument (what : String)
  /-- It is no type without arguments. -/
  | bareForm (what : String)
  /-- A row stands where one type is expected. -/
  | row (context what : String)
  /-- It cannot be looked up in a table. -/
  | unhashable (type : String)
  /-- It cannot be called. -/
  | notCallable (type : String)
  /-- Something else that its wording tells. -/
  | other (wording : String)
  deriving DecidableEq, Repr

/-- The wording of a misuse. -/
def Misuse.message : Misuse → String
  | notSubscriptable what => what ++ " is not subscriptable"
  | notGeneric what => what ++ " is not a generic class"
  | arity what actual expected =>
    "Too " ++ (if actual > expected then "many" else "few") ++ " arguments for " ++ what
      ++ "; actual " ++ toString actual ++ ", expected " ++ toString expected
  | operands operator left right =>
    "unsupported operand type(s) for " ++ operator ++ ": " ++ Text.quote left ++ " and "
      ++ Text.quote right
  | notAnArgument what => what ++ " is not valid as type argument"
  | bareForm what => "Plain " ++ what ++ " is not valid as type argument"
  | row context what => context ++ " Got " ++ String.ofList (what.toList.take 100) ++ "."
  | unhashable type => "unhashable type: " ++ Text.quote type
  | notCallable type => Text.quote type ++ " object is not callable"
  | other wording => wording

/-- Why a program cannot be run or read. -/
inductive Fault
  /-- A text is no part of a program. -/
  | malformed
  /-- A decorator is refused. -/
  | directive (e : Directive.DeclarationError)
  /-- A class or a module cannot be read. -/
  | graph (e : GraphError)
  /-- A name stands for nothing. -/
  | unknownName (name : String)
  /-- A name is used in a function that gives it a meaning only later. -/
  | unboundName (name : String)
  /-- An object has no member of a name. -/
  | noMember (wording : String)
  /-- An object is not used as it can be. -/
  | misuse (m : Misuse)
  /-- A value is not one that is possible. -/
  | badValue
  /-- A number is divided by zero. -/
  | divisionByZero
  /-- There is nothing at a place, such as the first one of an empty text. -/
  | noPlace
  /-- An enum has no value of a name. -/
  | noEntry
  /-- A model is not declared as models are. -/
  | badModel
  /-- A model is not given what it needs. -/
  | invalidModel
  /-- A module that is imported cannot be had. -/
  | noModule (detail : String)
  /-- A module does not have a name that is imported from it. -/
  | noExport (name module : String) (isUnfinished : Bool) (file : Option String)
  /-- A module without a name. -/
  | emptyName
  /-- The name of a module that depends on where it is used. -/
  | relativeName
  /-- Types are nested too deep. -/
  | tooDeep
  /-- A failure of a class of the library. -/
  | raised (failure : LibraryClass)
  deriving Repr

namespace Fault

/-- What is wrong with an import, if it is an import that went wrong. -/
def importDetail? : Fault → Option String
  | noModule detail => some detail
  | noExport name module isUnfinished file =>
    some ("cannot import name " ++ Text.quote name ++ " from "
      ++ (if isUnfinished then "partially initialized module " else "") ++ Text.quote module
      ++ (if isUnfinished then " (most likely due to a circular import)" else "")
      ++ " (" ++ file.getD "unknown location" ++ ")")
  | _ => none

/-- Why a text in quotes stands for no type, if the fault is no more than that. -/
def lookupDetail? : Fault → Option String
  | unknownName name | unboundName name => some ("name " ++ Text.quote name ++ " is not defined")
  | noMember wording => some wording
  | misuse m => some m.message
  | _ => none

/-- A failure of a class of the language. -/
def failure (name : String) : Fault :=
  raised (.builtin name)

/-- A misuse that its wording alone tells of. -/
def ofWording (wording : String) : Fault :=
  misuse (.other wording)

end Fault

end Mapsmith.Program
