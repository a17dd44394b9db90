import Mapsmith.Number.Arithmetic
import Mapsmith.Number.Decimal
import Mapsmith.Program.Memory

/-!
# How objects are written

A type that mapping does not look into is known by how it is written, and a model that is given types is
named by them. A class is written with its module, but for the classes of the language. The three
spellings here are that of an object inside a type, that of an object by itself, and that of a type in the
name of a model.
-/

namespace Mapsmith.Program

namespace Memory

variable (m : Memory)

/-! ### Inside a type and alone -/

/-- A class inside a type. -/
def classSpelling (c : ClassId) : String :=
  if m.moduleOf c ∈ ["builtins", ""] then m.pathOf c else m.qualifiedName c

/-- A class by itself. -/
def classLiteral (c : ClassId) : String :=
  if c = .library .anything then m.qualifiedName c
  else if m.metaclassOf c = .enum then "<enum " ++ Text.quote (m.nameOf c) ++ ">"
  else "<class " ++ Text.quote (m.classSpelling c) ++ ">"

/-- A type variable. -/
def variableSpelling (index : Nat) : String :=
  ((m.typeVariables[index]?).map (·.spelling)).getD ""

/-- A module. -/
def moduleLiteral (index : Nat) : String :=
  "<module " ++ Text.quote (((m.modules[index]?).map (·.name)).getD "") ++ ">"

/-- Things in a row that are written already, between parentheses. -/
def rowSpelling (items : List String) : String :=
  match items with
  | [item] => "(" ++ item ++ ",)"
  | _ => "(" ++ ", ".intercalate items ++ ")"

/-- A function of the language by itself. -/
def builtinFunctionLiteral (name : String) : String :=
  "<built-in function " ++ name ++ ">"

/-- Things in braces that are written already. -/
def braced (items : List String) : String :=
  "\x7b" ++ ", ".intercalate items ++ "\x7d"

/-- What a class of the library holds for its values. -/
def descriptorLiteral (holding : Holding) (owner : LibraryClass) (name : String) : String :=
  let what := match holding with
    | .slot => "slot wrapper"
    | .method => "method"
    | .reader => "attribute"
    | _ => "member"
  "<" ++ what ++ " " ++ Text.quote name ++ " of " ++ Text.quote owner.typeName ++ " objects>"

/-- The name of the type of what a class of the library holds for its values. -/
def descriptorType : Holding → String
  | .slot => "wrapper_descriptor"
  | .method => "method_descriptor"
  | .reader => "getset_descriptor"
  | _ => "member_descriptor"

/-- The kind of what yields things one after the other. -/
def iteratorKind (index : Nat) : String :=
  ((m.iterators[index]?).map (·.kind)).getD "generator"

/-- The class of an object that a method belongs to, as far as its methods are held by a class. -/
def classOfOwner : Object → ClassId
  | .made _ maker .. => maker
  | .enumValue owner _ => .program owner
  | .datum d => .library d.cls
  | .constant v => .library (.builtin v.typeName)
  | .row _ => .library .tuple
  | .list _ => .library (.builtin "list")
  | .set _ => .library (.builtin "set")
  | .frozenSet _ => .library (.builtin "frozenset")
  | .table _ => .library (.builtin "dict")
  | .cell place => match m.cells[place]? with
    | some (.made _ maker ..) => maker
    | some (.list _) => .library (.builtin "list")
    | some (.set _) => .library (.builtin "set")
    | some (.table _) => .library (.builtin "dict")
    | _ => .everything
  | _ => .everything

/-- How a class holds or inherits what is under a name, and the class that holds it. -/
def heldIn? (line : List ClassId) (name : String) : Option (ClassId × Holding) :=
  (line ++ [ClassId.everything]).findSome? fun a => match a with
    | .library l => (l.holding? name).map (a, ·)
    | .program _ => (m.own? a name).map fun _ => (a, .function)

/-- How a method that belongs to an object is held, and the class that holds it. What a class has for its values
is not called on the class itself. -/
def methodHeld? (owner : Object) (name : String) : Option (ClassId × Holding) :=
  match owner with
  | .cls c => match m.heldIn? (m.line c) name with
    | some (a, .function) => match a with
      | .program _ => some (a, .function)
      | .library _ => m.heldIn? (.library (m.metaclassOf c).cls :: (m.metaclassOf c).cls.line.map .library) name
    | some (a, .maker) => some (a, .maker)
    | some (a, .shared) => some (a, .shared)
    | _ => m.heldIn? (.library (m.metaclassOf c).cls :: (m.metaclassOf c).cls.line.map .library) name
  | o => m.heldIn? (m.line (m.classOfOwner o)) name

/-- The name of the type of what an object has under a name, to be called. -/
def methodType (owner : Object) (name : String) : String :=
  match m.methodHeld? owner name with
  | some (_, .function) | some (_, .shared) => "method"
  | some (_, .slot) => "method-wrapper"
  | some _ => "builtin_function_or_method"
  | none => if name.startsWith "__" then "method-wrapper" else "builtin_function_or_method"

/-- The name of what has made a class. -/
def metaclassName : Metaclass → String
  | .ordinary => "type"
  | .abstract => "ABCMeta"
  | .protocol => "_ProtocolMeta"
  | .model => "ModelMetaclass"
  | .enum => "EnumType"
  | .anything => "_AnyMeta"

/-- What a type variable stands for. -/
def variableKind (index : Nat) : VariableKind :=
  ((m.typeVariables[index]?).map (·.kind)).getD .type

/-- The name of the class of type variables of a kind. -/
def variableClass : VariableKind → String
  | .type => "TypeVar"
  | .parameters => "ParamSpec"
  | .several => "TypeVarTuple"

/-- The name of the type of an object. -/
def typeName : Object → String
  | .cls c => metaclassName (m.metaclassOf c)
  | .typeVariable index => variableClass (m.variableKind index)
  | .special _ => "_SpecialForm"
  | .named _ => "_SpecialGenericAlias"
  | .formed (.subscripted _) _ => "types.GenericAlias"
  | .formed .bars _ => "types.UnionType"
  | .formed .union _ => "_UnionGenericAlias"
  | .formed .literal _ => "_LiteralGenericAlias"
  | .formed .callable _ => "_CallableGenericAlias"
  | .formed .. => "_GenericAlias"
  | .annotated .. => "_AnnotatedAlias"
  | .forward .. => "ForwardRef"
  | .constant v => v.typeName
  | .ellipsis => "ellipsis"
  | .note n => String.ofList (n.spelling.toList.takeWhile (· ≠ '('))
  | .row _ => "tuple"
  | .list _ => "list"
  | .module _ | .libraryModule _ => "module"
  | .enumValue owner _ => m.nameOf (.program owner)
  | .function _ => "function"
  | .builtinFunction _ => "builtin_function_or_method"
  | .tupleReader _ => "_tuplegetter"
  | .set _ => "set"
  | .table _ => "dict"
  | .made _ (.library c) .. => c.typeName
  | .made _ maker .. => m.nameOf maker
  | .cell place => match m.cells[place]? with
    | some (.list _) => "list"
    | some (.set _) => "set"
    | some (.table _) => "dict"
    | some (.made _ (.library c) ..) => c.typeName
    | some (.made _ maker ..) => m.nameOf maker
    | _ => "object"
  | .frozenSet _ => "frozenset"
  | .view kind _ => if kind = "globals" || kind = "vars" then "dict" else kind
  | .slice .. => "slice"
  | .datum d => d.cls.typeName
  | .descriptor holding .. => descriptorType holding
  | .method owner name => m.methodType owner name
  | .lambda _ => "function"
  | .iterator index => m.iteratorKind index
  | .other kind _ => kind

/-- The path of a method of an object: that of the class that holds it, and the name. -/
def methodPath (owner : Object) (name : String) : String :=
  let c := (m.methodHeld? owner name).map (·.1)
  m.pathOf (c.getD (match owner with
    | .cls c => c
    | o => m.classOfOwner o)) ++ "." ++ name

/-- What an object has under a name, to be called. -/
def methodLiteral (owner : Object) (name type literal : String) : String :=
  let owner' := match owner with
    | .cls c => m.classLiteral c
    | _ => literal
  match m.methodType owner name with
  | "method" => "<bound method " ++ m.methodPath owner name ++ " of " ++ owner' ++ ">"
  | "method-wrapper" => "<method-wrapper " ++ Text.quote name ++ " of " ++ type ++ " object>"
  | _ => "<built-in method " ++ name ++ " of " ++ (if owner matches .cls _ then "type" else type) ++ " object>"

/-- Types in a subscript. -/
def subscriptSpelling (args : List String) : String :=
  if args.isEmpty then "[()]" else "[" ++ ", ".intercalate args ++ "]"

/-- Does an object stand for the parameters of something that can be called? -/
def isParameterList : Object → Bool
  | .ellipsis | .row _ | .list _ | .formed (.special "Concatenate") _ => true
  | .typeVariable index => m.variableKind index = .parameters
  | _ => false

/-- Does a callable type have two parts, the first of which stands for its parameters? -/
def isOpenCallable (args : List Object) : Bool :=
  match args with
  | [o, _] => m.isParameterList o
  | _ => false

/-- A callable type whose arguments and result are written already. -/
def callableSpelling (name : String) (isOpen : Bool) (args : List String) : String :=
  if isOpen then name ++ subscriptSpelling args
  else name ++ "[[" ++ ", ".intercalate args.dropLast ++ "], " ++ args.getLast?.getD "" ++ "]"

/-- A type made of others that are written already. It may be a callable type whose parameters one of them stands
for. -/
def formedSpelling (former : Former) (isOpen : Bool) (args : List String) : String :=
  match former, args with
  | .bars, args =>
    " | ".intercalate (args.map fun a => if a = LibraryClass.missing.name then "None" else a)
  | .union, ["NoneType", o] | .union, [o, "NoneType"] => "typing.Optional[" ++ o ++ "]"
  | .union, args => "typing.Union" ++ subscriptSpelling args
  | .callable, args => callableSpelling "typing.Callable" isOpen args
  | .literal, args => "typing.Literal" ++ subscriptSpelling args
  | .special name, args | .named name, args => "typing." ++ name ++ subscriptSpelling args
  | .subscripted c, args =>
    if c = .library (.abstractCollection "Callable") then
      callableSpelling (m.classSpelling c) isOpen args
    else m.classSpelling c ++ subscriptSpelling args
  | .generic c, args => m.classSpelling c ++ subscriptSpelling args

mutual

/-- What is kept as the value of an enum, by itself: a plain value, things in a row or in brackets, or a
class. -/
def keptLiteral : Object → String
  | .constant v => v.literal
  | .datum d => d.literal
  | .cls c => m.classLiteral c
  | .ellipsis => "Ellipsis"
  | .row items => rowSpelling (keptLiterals items)
  | .list items => "[" ++ ", ".intercalate (keptLiterals items) ++ "]"
  | .set items => if items.isEmpty then "set()" else braced (keptLiterals items)
  | .frozenSet items =>
    if items.isEmpty then "frozenset()" else "frozenset(" ++ braced (keptLiterals items) ++ ")"
  | .table entries => braced (keptEntries entries)
  | .other _ shown => shown
  | _ => ""

/-- What is kept in a row, by itself. -/
def keptLiterals : List Object → List String
  | [] => []
  | o :: os => keptLiteral o :: keptLiterals os

/-- What is kept in a table, by itself. -/
def keptEntries : List Object → List String
  | [] => []
  | .row items :: os => ": ".intercalate (keptLiterals items) :: keptEntries os
  | _ :: os => keptEntries os

end

/-- A value of an enum. -/
def enumValueLiteral (owner : Nat) (name : String) : String :=
  let kept := (m.class? owner).bind fun c => c.keptAt? name
  let isNameless := name.toList.head?.all (·.isDigit)
  "<" ++ m.nameOf (.program owner) ++ (if isNameless then "" else "." ++ name) ++ ": "
    ++ (kept.map m.keptLiteral).getD "" ++ ">"

/-- Members that are written already, each with its name, of what has a name. -/
def membersSpelling (name : String) (members : List (String × String)) : String :=
  name ++ "(" ++ ", ".intercalate (members.map fun (n, s) => n ++ "=" ++ s) ++ ")"

/-- The members of a value that are written with it: those of a dataclass or of a model. -/
def shownNames? (maker : ClassId) : Option (List String) :=
  match m.dataclass? maker, m.model? maker with
  | some shape, _ => some ((shape.fields.filter fun (_, f) => f.role = FieldRole.member).map (·.1))
  | none, some shape => some (shape.fields.map (·.1))
  | none, none => none

/-- The name under which a value keeps how it is written, if nothing else tells. -/
def shownName : String := "shown"

/-- The name under which a failure keeps what it was given. -/
def argsName : String := "args"

/-- Where the number that an object is stands. -/
def standing? : Object → Option Standing
  | .constant (.float x) => some (.ofReal x)
  | .constant v => v.count?.map fun n => .at n 1
  | .datum (.decimal d) => some (.ofDecimal d)
  | .datum (.fraction num den) => some (.at num den)
  | _ => none

/-- Does the value of an entry come before that of another one? Nothing if it cannot be told. -/
def precedes? (a b : Object) : Option Bool :=
  match a, b with
  | .row [_, .constant (.str s)], .row [_, .constant (.str t)] => some (decide (s < t))
  | .row [_, v], .row [_, w] => match standing? v, standing? w with
    | some x, some y => some (x.compare? y = some .lt)
    | _, _ => none
  | _, _ => none

/-- Entries that are written already, those with the greatest values first if their values have an order. -/
def byCount (entries : List Object) (texts : List String) : List String :=
  if (entries.zip entries.tail).all fun (a, b) => (precedes? a b).isSome then
    ((entries.zip texts).mergeSort fun (a, _) (b, _) => precedes? a b ≠ some true).map (·.2)
  else texts

/-- A value that has the items of a collection, which are written already, by its class in the library; if it is a
table, its entries are written as they are and as pairs too. -/
def keptSpelling (name : String) (c : LibraryClass) (kept : Object) (text : String) (entries pairs : List String)
    (state : List (String × String)) : String :=
  match c.name, kept with
  | "OrderedDict", .table [] | "Counter", .table [] => name ++ "()"
  | "OrderedDict", .table _ => name ++ "([" ++ ", ".intercalate pairs ++ "])"
  | "Counter", .table es => name ++ "(" ++ braced (byCount es entries) ++ ")"
  | "defaultdict", _ => name ++ "(" ++ ((state.lookup "default_factory").getD "None") ++ ", " ++ text ++ ")"
  | "deque", _ => name ++ "(" ++ text ++ (match state.lookup "maxlen" with
      | some n => if n = "None" then "" else ", maxlen=" ++ n
      | none => "") ++ ")"
  | "bytearray", _ => name ++ "(" ++ text ++ ")"
  | "ChainMap", _ =>
    let maps := (state.lookup "maps").getD ""
    name ++ "(" ++ String.ofList ((maps.toList.drop 1).take (maps.length - 2)) ++ ")"
  | "set", .set [] => name ++ "()"
  | "set", .set _ => name ++ "(" ++ text ++ ")"
  | "frozenset", .frozenSet [] => name ++ "()"
  | "frozenset", .frozenSet _ =>
    if text.startsWith "frozenset(" then name ++ (text.drop 9).toString else text
  | _, _ => text

/-- What a class has made, with its parts written already. -/
def madeSpelling (maker : ClassId) (shown : Option String) (kept : List Object)
    (texts entries pairs : List String) (members state : List (String × String)) : String :=
  let libraries := (m.line maker).filterMap fun a => match a with
    | .library l => some l
    | .program _ => none
  let isFailure := libraries.contains (.builtin "BaseException")
  let plainly := "<" ++ (if m.moduleOf maker = "" then m.pathOf maker else m.qualifiedName maker) ++ " object>"
  match shown, m.nearest? maker (·.tuple), m.shownNames? maker with
  | some text, _, _ => text
  | none, some shape, _ =>
    membersSpelling (m.nameOf maker) (shape.fields.zip texts)
  | none, none, some names =>
    if (m.dataclass? maker).isSome then
      let ofClass (n : String) : Option String := match m.attribute? maker n with
        | some (.object (.constant v)) => some v.literal
        | _ => none
      membersSpelling (m.pathOf maker) (names.filterMap fun n => ((members.lookup n).or (ofClass n)).map (n, ·))
    else membersSpelling (m.nameOf maker) (members.filter fun (n, _) => n ∈ names)
  | none, none, none =>
    if isFailure then
      let args := (state.lookup argsName).getD "()"
      m.nameOf maker ++ (if args.endsWith ",)" then (args.dropEnd 2).toString ++ ")" else args)
    else match kept with
      | .row _ :: _ => rowSpelling texts
      | o :: _ =>
        let c := (libraries.find? fun c => c.module = "collections" || c.hasLayout).getD (.builtin "object")
        keptSpelling (m.nameOf maker) c o (texts.headD "") entries pairs state
      | [] => (state.lookup "data").getD plainly

mutual

/-- An object inside a type. -/
def spelling : Object → String
  | .cls c => m.classSpelling c
  | .typeVariable index => m.variableSpelling index
  | .special name | .named name => "typing." ++ name
  | .formed (.special "Unpack") args => "*" ++ String.join (literals args)
  | .formed former args =>
    m.formedSpelling former (m.isOpenCallable args) (if former.isTyping then shortSpellings args else spellings args)
  | .annotated inner notes =>
    "typing.Annotated[" ++ ", ".intercalate (shortSpelling inner :: literals notes) ++ "]"
  | .forward _ text _ => "ForwardRef(" ++ Text.quote text ++ ")"
  | .constant v => v.literal
  | .ellipsis => "..."
  | .note n => n.spelling
  | .row items => rowSpelling (literals items)
  | .list items => "[" ++ ", ".intercalate (literals items) ++ "]"
  | .module index => m.moduleLiteral index
  | .libraryModule name =>
    "<module " ++ Text.quote name ++ (if name = "abc" then " (frozen)>" else ">")
  | .enumValue owner name => m.enumValueLiteral owner name
  | .function name => name
  | .tupleReader place =>
    "_tuplegetter(" ++ toString place ++ ", 'Alias for field number " ++ toString place ++ "')"
  | .builtinFunction name => if name = "open" then "io.open" else name
  | .set items => if items.isEmpty then "set()" else braced (literals items)
  | .frozenSet items =>
    if items.isEmpty then "frozenset()" else "frozenset(" ++ braced (literals items) ++ ")"
  | .table entries => braced (entrySpellings entries)
  | .view kind (.table entries) =>
    if kind = "mappingproxy" then kind ++ "(" ++ braced (entrySpellings entries) ++ ")"
    else kind ++ "([" ++ ", ".intercalate (if kind = "dict_keys" then keySpellings entries
      else if kind = "dict_values" then valueSpellings entries else pairSpellings entries) ++ "])"
  | .view kind o@(.made _ c (.table entries :: _) _ _) =>
    if m.inherits c (.library ⟨"collections", "ChainMap"⟩) then
      let name := if kind = "dict_keys" then "KeysView" else if kind = "dict_values" then "ValuesView"
        else "ItemsView"
      name ++ "(" ++ spelling o ++ ")"
    else if kind = "mappingproxy" then kind ++ "(" ++ spelling o ++ ")"
    else
      (if m.inherits c (.library ⟨"collections", "OrderedDict"⟩) then "o" else "") ++ kind ++ "(["
        ++ ", ".intercalate (if kind = "dict_keys" then keySpellings entries
          else if kind = "dict_values" then valueSpellings entries else pairSpellings entries) ++ "])"
  | .view kind o => kind ++ "(" ++ spelling o ++ ")"
  | .cell place => "<" ++ m.typeName (.cell place) ++ ">"
  | .slice first last step =>
    "slice(" ++ ", ".intercalate [spelling first, spelling last, spelling step] ++ ")"
  | .datum d => d.literal
  | .made _ maker kept members state =>
    m.madeSpelling maker ((state.lookup shownName).bind (·.text?)) kept (keptSpellings kept)
      (heldEntries kept) (keptPairs kept) (memberSpellings members) (memberSpellings state)
  | .other _ shown => shown
  | .descriptor holding owner name => descriptorLiteral holding owner name
  | .method owner name => m.methodLiteral owner name (m.typeName owner) (spelling owner)
  | .lambda _ => "<function <lambda>>"
  | .iterator index => "<" ++ m.iteratorKind index ++ " object>"

/-- Objects inside a type. -/
def spellings : List Object → List String
  | [] => []
  | o :: os => spelling o :: spellings os

/-- An object inside a type of the library's making, where a function goes by its name alone. -/
def shortSpelling : Object → String
  | .function name => lastPart name
  | .lambda _ => "<lambda>"
  | .builtinFunction name => builtinFunctionLiteral name
  | o => spelling o

/-- Objects inside a type of the library's making. -/
def shortSpellings : List Object → List String
  | [] => []
  | o :: os => shortSpelling o :: shortSpellings os

/-- Keys with values. -/
def entrySpellings : List Object → List String
  | [] => []
  | .row entry :: os => ": ".intercalate (literals entry) :: entrySpellings os
  | o :: os => spelling o :: entrySpellings os

/-- Keys. -/
def keySpellings : List Object → List String
  | [] => []
  | .row (key :: _) :: os => alone key :: keySpellings os
  | o :: os => spelling o :: keySpellings os

/-- Values of keys. -/
def valueSpellings : List Object → List String
  | [] => []
  | .row (_ :: value :: _) :: os => alone value :: valueSpellings os
  | o :: os => spelling o :: valueSpellings os

/-- Keys with values, each a row. -/
def pairSpellings : List Object → List String
  | [] => []
  | .row entry :: os => rowSpelling (literals entry) :: pairSpellings os
  | o :: os => spelling o :: pairSpellings os

/-- What a value is as one of a class of the library: a row by its things. -/
def keptSpellings : List Object → List String
  | [] => []
  | .row items :: os => literals items ++ keptSpellings os
  | o :: os => spelling o :: keptSpellings os

/-- The entries of a table that a value is. -/
def heldEntries : List Object → List String
  | [] => []
  | .table entries :: os => entrySpellings entries ++ heldEntries os
  | _ :: os => heldEntries os

/-- The entries of a table that a value is, each a row. -/
def keptPairs : List Object → List String
  | [] => []
  | .table entries :: os => pairSpellings entries ++ keptPairs os
  | _ :: os => keptPairs os

/-- Objects by themselves, each with its name. -/
def memberSpellings : List (String × Object) → List (String × String)
  | [] => []
  | (name, o) :: os => (name, alone o) :: memberSpellings os

/-- An object by itself. -/
def alone : Object → String
  | .cls c => m.classLiteral c
  | .ellipsis => "Ellipsis"
  | .builtinFunction name => builtinFunctionLiteral name
  | o => spelling o

/-- Objects by themselves. -/
def literals : List Object → List String
  | [] => []
  | o :: os => alone o :: literals os

end

/-- An object by itself. -/
def literal (o : Object) : String :=
  m.alone o

/-- A type in a label: a text stands without its quotes. -/
def label (o : Object) : String :=
  match o, m.asText? o with
  | .forward _ text _, _ => text
  | .cls c, _ => m.classSpelling c
  | _, some s => s
  | o, none => m.literal o

/-! ### In the name of a model -/

/-- The name of a type made of others, without its module. -/
def formedName : Former → String
  | .union | .bars => "Union"
  | .callable => "Callable"
  | .literal => "Literal"
  | .special name | .named name => name
  | .subscripted c => m.pathOf c
  | .generic c => m.nameOf c

/-- The arguments of a type in the name of a model: those of a callable type count as one list. -/
def displayedArgs (former : Former) (args : List String) : List String :=
  match former with
  | .callable => match args with
    | ["...", result] => ["...", result]
    | args => ["list", args.getLast?.getD ""]
  | _ => args

mutual

/-- A type in the name of a model. A plain value counts for its type. -/
def display : Object → String
  | .cls c => m.pathOf c
  | .formed .literal args => "Literal[" ++ ", ".intercalate (literals m args) ++ "]"
  | .formed former args =>
    m.formedName former ++ "[" ++ ", ".intercalate (displayedArgs former (displays args)) ++ "]"
  | .annotated inner notes =>
    "Annotated[" ++ ", ".intercalate (display inner :: displays notes) ++ "]"
  | .typeVariable index => m.variableSpelling index
  | .forward _ text _ => "ForwardRef(" ++ Text.quote text ++ ")"
  | .special name | .named name => name
  | .constant v => v.typeName
  | .ellipsis => "..."
  | .note n => String.ofList (n.spelling.toList.takeWhile (· ≠ '('))
  | .row _ => "tuple"
  | .list _ => "list"
  | .module _ | .libraryModule _ => "module"
  | .enumValue owner _ => m.pathOf (.program owner)
  | .function _ => "function"
  | .builtinFunction _ => "builtin_function_or_method"
  | .tupleReader _ => "_tuplegetter"
  | .set _ => "set"
  | .table _ => "dict"
  | .made _ maker .. => m.nameOf maker
  | .cell place => m.typeName (.cell place)
  | .frozenSet _ => "frozenset"
  | .view kind _ => if kind = "globals" || kind = "vars" then "dict" else kind
  | .slice .. => "slice"
  | .datum d => d.cls.name
  | .descriptor holding .. => descriptorType holding
  | .method owner name => m.methodType owner name
  | .lambda _ => "function"
  | .iterator index => m.iteratorKind index
  | .other kind _ => kind

/-- Types in the name of a model. -/
def displays : List Object → List String
  | [] => []
  | o :: os => display o :: displays os

end

/-- A type that is given to a model, in its name. A text stands for itself. -/
def givenName : Object → String
  | .constant (.str s) => s
  | o => m.display o

end Memory

end Mapsmith.Program
