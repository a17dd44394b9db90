import Mapsmith.Program.Construction.Failure
import Mapsmith.Program.Construction.Model
import Mapsmith.Program.Construction.Time
import Mapsmith.Program.Construction.Type

/-!
# Values of the library's classes

What a class of the library makes of what it is given: numbers of texts and other numbers, collections of what
one can go through, points in time of their parts, failures of anything. What a class cannot make anything of
is refused.
-/

namespace Mapsmith.Program

namespace Run

/-- What is after a class in the order of what an object or another class inherits from. -/
def makeSuper (given : Arguments) : Run Object := do
  let m ← get
  noNames "super" given
  match given.inPlace with
  | [] => fail "RuntimeError"
  | c :: rest =>
    if rest.length > 1 then
      refuse (.other ("super() expected at most 2 arguments, got " ++ toString given.inPlace.length))
    let name := match c with
      | .cls id => m.nameOf id
      | _ => ""
    let made (shown : String) (owner start : Object) : Run Object :=
      newMade (.library (.builtin "super")) []
        [("__thisclass__", c), ("__self__", owner), ("__self_class__", start)]
        [(Memory.shownName, .text ("<super: <class " ++ Text.quote name ++ ">, " ++ shown ++ ">"))]
    match c with
    | .cls id => match rest.filter (!·.same .none) with
      | [] => made "NULL" .none .none
      | o :: _ =>
        let heir? : Option ClassId := match o with
          | .cls d => if m.inherits d id then some d else none
          | _ => none
        if heir?.isNone && !m.isValueOf o id then
          refuse (.other "super(type, obj): obj must be an instance or subtype of type")
        let start := heir?.getD (m.classOf o)
        made ("<" ++ m.nameOf start ++ " object>") o (.cls start)
    | _ => refuse (.other ("super() argument 1 must be a type, not " ++ m.typeName c))

/-- What a class of the language makes of what it is given. -/
def makeBuiltin (ev : Evaluator) (c : LibraryClass) (given : Arguments) : Run Object := do
  let m ← get
  let one : Run (Option Object) := do return (← placed c.name 0 1 given).head?
  let items : Run (List Object) := do
    match ← one with
    | none => return []
    | some o => parts ev o
  match c.name with
  | "int" => makeInteger ev given
  | "float" => match ← one with
    | none => return floatOf (.zero false)
    | some o => return floatOf (← realOf (← realSaid ev o))
  | "bool" => match ← one with
    | none => return truth false
    | some o => return truth (← isTrue ev o)
  | "complex" => makeComplex ev given
  | "str" => makeText ev given
  | "bytes" => return .datum (.bytes (← bytesOf ev "bytes" given))
  | "bytearray" => newMade (.library c) [.datum (.bytes (← bytesOf ev "bytearray" given))] [] []
  | "memoryview" => makeBytesView given
  | "list" => newList (← items)
  | "tuple" => return .row (← items)
  | "set" => newSet (← setOf (← items))
  | "frozenset" => return .frozenSet (← setOf (← items))
  | "dict" =>
    checkOneTable false given
    newTable (← updatedBy ev false [] given)
  | "range" =>
    let ns ← (← placed "range" 1 3 given).mapM integer
    match ns with
    | [last] => return .datum (.range 0 last 1)
    | [first, last] => return .datum (.range first last 1)
    | first :: last :: step :: _ =>
      if step = 0 then throw .badValue
      return .datum (.range first last step)
    | [] => return .none
  | "slice" => match ← placed "slice" 1 3 given with
    | [last] => return .slice .none last .none
    | [first, last] => return .slice first last .none
    | first :: last :: step :: _ => return .slice first last step
    | [] => return .none
  | "object" =>
    if given.isEmpty then newMade (.library c) [] [] [(Memory.shownName, .text "<object object>")]
    else refuse (.other "object() takes no arguments")
  | "NoneType" => if given.isEmpty then return .none else refuse (.other "NoneType takes no arguments")
  | "ellipsis" => if given.isEmpty then return .ellipsis else refuse (.other "EllipsisType takes no arguments")
  | "NotImplementedType" =>
    if given.isEmpty then return .other c.name "NotImplemented"
    else refuse (.other "NotImplementedType takes no arguments")
  | "property" =>
    let names := ["fget", "fset", "fdel", "doc"]
    let args ← namedOnly "property" true (parametersFrom "fget? fset? fdel? doc?") given
    let members := (names.zip args).map fun (name, o) => (if name = "doc" then "__doc__" else name, o.getD .none)
    newMade (.library c) [] members [(Memory.shownName, .text "<property object>")]
  | "classmethod" | "staticmethod" => match ← placed c.name 1 1 given with
    | f :: _ =>
      newMade (.library c) [] [("__func__", f), ("__wrapped__", f)]
        [(Memory.shownName, .text ("<" ++ c.name ++ "(" ++ m.written f ++ ")>"))]
    | [] => return .none
  | "super" => makeSuper given
  | "enumerate" | "filter" | "map" | "zip" | "reversed" => makeIterator ev c.name given
  | "function" => refuse (.other "function() missing required argument 'code' (pos 1)")
  | "mappingproxy" =>
    let args ← namedOnly "mappingproxy" true (parametersFrom "mapping") given
    let o := (args.headD none).getD .none
    if (mappingOf? m o).isNone then
      refuse (.other ("mappingproxy() argument must be a mapping, not " ++ m.typeName o))
    return .view "mappingproxy" o
  | "module" =>
    let args ← namedOnly "module" true (parametersFrom "name doc?") given
    let name ← textual "module() argument 'name'" ((args.headD none).getD .none)
    newMade (.library c) [] [("__name__", .text name), ("__doc__", (args.getD 1 none).getD .none)]
      [(Memory.shownName, .text ("<module " ++ Text.quote name ++ ">"))]
  | name => refuse (.other ("cannot create " ++ Text.quote name ++ " instances"))

/-- What another class of the library makes of what it is given. -/
def makeOther (c : LibraryClass) (given : Arguments) : Run Object := do
  let m ← get
  match c.qualifiedName with
  | "decimal.Decimal" => makeDecimal given
  | "fractions.Fraction" =>
    makeFraction (← assignedFraction given)
  | "uuid.UUID" =>
    makeIdentifier (← takenBy "UUID.__init__()"
      "hex? bytes? bytes_le? fields? int? version? * is_safe?" given)
  | "enum.auto" =>
    let args ← takenBy "auto.__init__()" "value?" given
    let value := args.headD none
    let shown := match value with
      | some o => m.written o
      | none => "_auto_null"
    newMade (.library c) [] [("value", value.getD (.other "object"))]
      [(Memory.shownName, .text ("auto(" ++ shown ++ ")"))]
  | "dataclasses.InitVar" =>
    let args ← takenBy "InitVar.__init__()" "type" given
    forConstruction ((args.headD none).getD .none)
  | "dataclasses.KW_ONLY" => refuse (.other "_KW_ONLY_TYPE.__new__() takes no arguments")
  | _ =>
    if c.isEnumeration then
      let _ ← takenBy "EnumType.__call__()" "value names? * module? qualname? type? start? boundary?" given
      throw .badValue
    if !c.awaited.isEmpty then
      refuse (.other ("Can't instantiate abstract class " ++ c.name ++ " with abstract "
        ++ plural c.awaited.length "method" ++ " " ++ ", ".intercalate (Text.sort c.awaited)))
    if c.module.startsWith "pydantic" then makeOfModels c given
    else if given.isEmpty then newMade (.library c) [] [] []
    else refuse (.other (c.name ++ "() takes no arguments"))
where
  /-- What the class of fractions is given. -/
  assignedFraction (given : Arguments) : Run (List (Option Object)) := do
    if given.inPlace.length > 2 then
      refuseMany "Fraction.__new__()" 1 3 (given.inPlace.length + 1) 0
    takenBy "Fraction.__new__()" "numerator? denominator? * _normalize?" given

/-- What a class of the library makes of what it is given. -/
def construct (ev : Evaluator) (s : Scope) (c : LibraryClass) (given : Arguments) : Run Object := do
  if LibraryClass.type ∈ c.line then makeType ev s (.library c) given
  else if LibraryClass.builtin "BaseException" ∈ c.line then makeFailure ev (.library c) given
  else if c.isBuiltin then makeBuiltin ev c given
  else if c.module = "datetime" then makeMoment c.name given
  else if c.module = "typing" then makeOfTypes ev s c given
  else if c.module = "collections" then makeCollection ev c given
  else makeOther c given

end Run

end Mapsmith.Program
