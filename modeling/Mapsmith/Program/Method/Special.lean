import Mapsmith.Program.Function.Records
import Mapsmith.Program.Method.Operator

/-!
# What the language calls itself

The methods that stand behind the forms of the language, called by their own names: what an object is as a text
or a number, how many things it has, what is at a place, what goes through it, what a name means, how a value of
a class comes to be.
-/

namespace Mapsmith.Program

namespace Run

/-- The classes that inherit from a class directly. -/
def heirsOf (m : Memory) (c : ClassId) : List Object :=
  ((List.range m.classes.length).filter fun index =>
    c ∈ basesOf m (.program index)).map fun index => .cls (.program index)

/-- What a function is when it is had from an object. -/
def boundTo (ev : Evaluator) (s : Scope) (f o : Object) (args : List Object) : Run Object := do
  let m ← get
  let owner := args.headD .none
  match f with
  | .function name => return if owner.same .none then f else .method owner (lastPart name)
  | .lambda _ =>
    if owner.same .none then return f else newBound f owner
  | .descriptor holding c name =>
    if owner.same .none && args.length > 1 then return f
    if !m.isValueOf owner (.library c) && !m.isValueOf (m.plain owner) (.library c) then
      refuse (.other ("descriptor " ++ Text.quote name ++ " for " ++ Text.quote c.name
        ++ " objects doesn't apply to a " ++ Text.quote (m.typeName owner) ++ " object"))
    if holding = .reader || holding = .part then member owner name else return .method owner name
  | _ => match m.seen o, args with
    | .made _ (.library l) _ members _, owner :: others =>
      let c := match others, m.seen owner with
        | .cls c :: _, _ => c
        | _, .cls c => c
        | _, _ => m.classOf owner
      if l = .builtin "property" then
        if owner.same .none then return o
        match (members.lookup "fget").filter (!·.same .none) with
        | some getter => ev.call s getter (.ofItems [owner])
        | none => throw (.noMember ("property of " ++ Text.quote (m.typeName owner) ++ " object has no getter"))
      else hadFrom (if owner.same .none then none else some owner) c o
    | _, _ => return o

/-- The class of the library that lays out the values of a class. -/
def layoutOf? (m : Memory) (c : ClassId) : Option LibraryClass :=
  (m.line c).findSome? fun a => match a with
    | .library l => if l.hasLayout then some l else none
    | .program _ => none

/-- What comes of asking a class of the library for a new value of a class, before anything is done with it. -/
def newValue (ev : Evaluator) (s : Scope) (l : LibraryClass) (given : Arguments) : Run Object := do
  let m ← get
  match given.inPlace with
  | [] => refuse (.other (l.name ++ ".__new__(): not enough arguments"))
  | .cls c :: args =>
    let rest := { given with inPlace := args }
    if !m.inherits c (.library l) && l ≠ .builtin "object" then
      refuse (.other (l.name ++ ".__new__(" ++ m.nameOf c ++ "): " ++ m.nameOf c
        ++ " is not a subtype of " ++ l.name))
    match c, layoutOf? m c with
    | .library c, layout =>
      if l = .builtin "object" && layout.isSome then
        refuse (.other ("object.__new__(" ++ c.name ++ ") is not safe, use " ++ c.name ++ ".__new__()"))
      let isEmptied := l.name ∈ ["list", "dict", "set", "bytearray"] && l.module = "builtins"
      construct ev s c (if isEmptied then {} else rest)
    | c, some layout =>
      if l = .builtin "object" then
        refuse (.other ("object.__new__(" ++ m.nameOf c ++ ") is not safe, use " ++ layout.name
          ++ ".__new__()"))
      let value ← construct ev s layout rest
      newMade c [(← get).seen value] [] []
    | c, none => newMade c [] [] []
  | o :: _ =>
    refuse (.other (l.name ++ ".__new__(X): X is not a type object (" ++ m.typeName o ++ ")"))

/-- What comes of giving a value that is there what its class is given for a new one. -/
def renewed (ev : Evaluator) (s : Scope) (o : Object) (given : Arguments) : Run Object := do
  let m ← get
  let c := m.classOf o
  match m.dataclass? c, declares m c "__init__" with
  | some shape, true =>
    let members ← givenMembers c shape given
    becomeWith o fun old => setEntries old members
    return .none
  | none, true =>
    let _ ← givenParameters c given
    return .none
  | _, false => pure ()
  let anew (name : String) : Run Unit := do
    let value ← construct ev s (.builtin name) given
    become o ((← get).plain value)
  match m.plain o with
  | .list _ => if (keeper? m o).isNone then anew "list"
  | .set _ => anew "set"
  | .table entries => if (keeper? m o).isNone then
      become o (.table (← updatedBy ev false entries given))
  | _ =>
    if m.isValueOf o (.library (.builtin "BaseException")) then
      noNames (m.typeName o) given
      keep o Memory.argsName (.row given.inPlace)
    else if m.classOf o = .everything && !given.isEmpty then
      refuse (.other "object.__init__() takes exactly one argument (the instance to initialize)")
  return .none

/-- What an object is told to a writer of objects. -/
def reduced (ev : Evaluator) (o : Object) : Run Object := do
  let m ← get
  match m.seen o with
  | .builtinFunction name => return .text name
  | .ellipsis => return .text "Ellipsis"
  | .other "NotImplementedType" shown => return .text shown
  | _ =>
    if m.isValueOf o (.library (.builtin "BaseException")) then
      let args := (keptUnder? m o Memory.argsName).getD (.row [])
      return .row [m.typeOf o, args]
    match m.plain o with
    | .made .. => fail "NotImplementedError"
    | .datum (.fraction num den) =>
      return .row [m.typeOf o, .row [intOf num, intOf (Int.ofNat den)]]
    | .datum (.decimal _) => return .row [m.typeOf o, .row [.text (← display ev o)]]
    | _ => refuse (.other ("cannot pickle " ++ Text.quote (m.typeName o) ++ " object"))

/-- What a class is asked by its methods. -/
def askedOfClass (o : Object) (word : String) (given : Arguments) : Run Object := do
  let m ← get
  let args ← received (if word = "subclasses" then .nothing else .one) ("type.__" ++ word ++ "__")
    ("__" ++ word ++ "__") given
  let first := args.head?.join.getD .none
  match word, o with
  | "instancecheck", o => isInstance first o
  | "subclasscheck", o => isSubclass first o
  | _, .cls c => newList (heirsOf m c)
  | _, _ => newList []

/-- What a method yields that reads something of an object and takes nothing. -/
def readingMethod? (ev : Evaluator) (s : Scope) (o : Object) (word : String) : Option (Run Object) :=
  let language (name : String) : Run Object := ofLanguage ev s name (.ofItems [o])
  match word with
  | "len" | "iter" | "next" | "repr" | "hash" | "abs" => some (language word)
  | "bool" => some (do return truth (← isTrue ev o))
  | "str" => some (do return .text (← display ev o))
  | "int" | "index" => some (do return intOf (← integerOf o))
  | "float" => some (do return floatOf (← realOf o))
  | _ => none

/-- What a method of the language's own yields. -/
def specialMethod (ev : Evaluator) (s : Scope) (o : Object) (word : String) (given : Arguments) :
    Run Object := do
  let m ← get
  let name := "__" ++ word ++ "__"
  let one : Run Object := do return (← inSlots name 1 1 given).headD .none
  let only : Run Object := do
    return ((← received .one (m.typeName o ++ "." ++ name) name given).head?.join).getD .none
  match operatorWords.lookup word, operatorWords.lookup (word.drop 1).toString,
    comparisonWords.lookup word, signWords.lookup word with
  | some "**", _, _, _ =>
    match ← slottedApart name 1 2 given with
    | [other, modulus] => raised ev s o other (if modulus.same .none then none else some modulus)
    | args => operatorMethod ev s "**" o (args.headD .none)
  | some operator, _, _, _ => operatorMethod ev s operator o (← one)
  | none, some "**", _, _ =>
    if word = "rpow" then
      reflectedMethod ev s "**" o ((← slottedApart name 1 2 given).headD .none)
    else changingMethod ev s "**" o (← one)
  | none, some operator, _, _ =>
    if word.startsWith "r" then reflectedMethod ev s operator o (← one)
    else changingMethod ev s operator o (← one)
  | none, none, some operator, _ => comparisonMethod ev operator o (← one)
  | none, none, none, some sign =>
    let _ ← inSlots name 0 0 given
    signed ev sign o
  | none, none, none, none =>
    if let some reading := readingMethod? ev s o word then
      let _ ← inSlots name 0 0 given
      return ← reading
    match word with
    | "divmod" =>
      let other ← one
      if isOperand "//" (m.plain o) (m.plain other) then divided ev o other else return leftOpen
    | "rdivmod" =>
      let other ← one
      if isOperand "//" (m.plain o) (m.plain other) then divided ev other o else return leftOpen
    | "contains" => return truth (← isAmong ev (← one) o)
    | "getitem" => match m.seen o with
      | .cls _ | .formed .. | .named _ | .special _ | .annotated .. => subscript ev s o (← one)
      | _ => valueWith ev s o (← one)
    | "class_getitem" => subscript ev s o (← only)
    | "missing" => valueForMissing ev s o (← only)
    | "setitem" => match ← slottedApart name 2 2 given with
      | [key, value] =>
        putAt ev o key value
        return .none
      | _ => return .none
    | "delitem" =>
      removeAt ev o (← one)
      return .none
    | "getattribute" | "getattr" => member o (← memberName (← one))
    | "setattr" => match ← slottedApart name 2 2 given with
      | [key, value] =>
        setMember o (← memberName key) (some value)
        return .none
      | _ => return .none
    | "delattr" =>
      setMember o (← memberName (← one)) none
      return .none
    | "format" =>
      let layout ← only
      return .text (← laidOut ev (← textual "__format__() argument" layout) o)
    | "complex" =>
      let _ ← received .nothing (m.typeName o ++ "." ++ name) name given
      construct ev s (.builtin "complex") (.ofItems [o])
    | "round" => rounded ev o given.inPlace.head?
    | "floor" => floorOf o
    | "ceil" => ceilingOf o
    | "trunc" => return intOf (← integerOf o)
    | "bytes" => construct ev s (.builtin "bytes") (.ofItems [o])
    | "dir" =>
      let _ ← received .nothing "object.__dir__" name given
      namesUnder s (some o)
    | "reversed" =>
      let _ ← received .nothing (m.typeName o ++ "." ++ name) name given
      reversedOf ev o
    | "call" => ev.call s o given
    | "get" =>
      let args ← slottedApart name 1 2 given
      if args.all (·.same .none) then refuse (.other "__get__(None, None) is invalid")
      boundTo ev s o o args
    | "init" => renewed ev s o given
    | "new" => match o with
      | .cls (.library l) => newValue ev s l given
      | _ => newValue ev s (.builtin "object") given
    | "init_subclass" =>
      noNames (m.nameOf (match o with | .cls c => c | o => m.classOf o) ++ ".__init_subclass__") given
      if !given.inPlace.isEmpty then
        refuse (.other ("object.__init_subclass__() takes no arguments ("
          ++ toString given.inPlace.length ++ " given)"))
      return .none
    | "subclasshook" => return leftOpen
    | "instancecheck" | "subclasscheck" | "subclasses" => askedOfClass o word given
    | "prepare" => newTable []
    | "set_name" | "set" | "delete" => return .none
    | "reduce" | "reduce_ex" => reduced ev o
    | "getstate" => match m.seen o with
      | .made _ _ _ members@(_ :: _) _ => newTableOf members
      | _ => return .none
    | "sizeof" => return intOf (match m.typeName o with
      | "object" | "NoneType" | "ellipsis" | "NotImplementedType" => 16
      | _ => 48)
    | "getnewargs" => match m.plain o with
      | .row items => return .row [.row items]
      | p => return .row [p]
    | "mro_entries" => return .row [o]
    | "enter" | "copy" | "deepcopy" => return o
    | "exit" => return .none
    | _ => fail "NotImplementedError"

end Run

end Mapsmith.Program
