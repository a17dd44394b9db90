import Mapsmith.Program.Construction.Text
import Mapsmith.Program.Member

/-!
# Collections of what classes are given

Rows, lists, sets and tables of the things that one can go through, tables that count or that know what to do for a
key that is missing, and what goes through several things at once.
-/

namespace Mapsmith.Program

namespace Run

/-- Can an object be called? -/
def isCallable (m : Memory) (o : Object) : Bool :=
  match m.seen o with
  | .cls _ | .function _ | .builtinFunction _ | .method .. | .lambda _ | .named _ | .special _
  | .annotated .. => true
  | .formed former _ => former ≠ .bars
  | .descriptor holding .. => holding = .slot || holding = .method
  | .made _ maker .. =>
    (m.attribute? maker "__call__").isSome || maker = .library ⟨"typing", "NewType"⟩
      || maker = .library (.builtin "staticmethod")
  | .enumValue owner _ => declares m (.program owner) "__call__"
  | _ => false

/-! ### Tables -/

/-- Entries with those that a pair makes: a key and a value. The place of the pair is known. -/
def pairEntered (ev : Evaluator) (isOrdered : Bool) (entries : List Object) (pair : Object) (place : Nat) :
    Run (List Object) := do
  let items ← tryCatch (parts ev pair) fun e => match e with
    | .misuse m =>
      if isOrdered then throw (.misuse m)
      else refuse (.other ("cannot convert dictionary update sequence element #" ++ toString place
        ++ " to a sequence"))
    | e => throw e
  match items with
  | [key, value] =>
    checkLookUp key
    entered entries key value
  | _ => throw .badValue

/-- Entries with those that an object has or is made of. -/
def updatedWith (ev : Evaluator) (isOrdered : Bool) (entries : List Object) (o : Object) :
    Run (List Object) := do
  match mappingOf? (← get) o with
  | some others => enteredAll entries others
  | none =>
    let pairs ← parts ev o
    pairs.zipIdx.foldlM (fun es (pair, i) => pairEntered ev isOrdered es pair i) entries

/-- Entries with those that names make. -/
def updatedNames (entries : List Object) (names : List (String × Object)) : Run (List Object) :=
  names.foldlM (fun es (name, o) => entered es (.text name) o) entries

/-- Entries with those of what is given. -/
def updatedBy (ev : Evaluator) (isOrdered : Bool) (entries : List Object) (given : Arguments) :
    Run (List Object) := do
  let entries ← match given.inPlace.head? with
    | some o => updatedWith ev isOrdered entries o
    | none => pure entries
  updatedNames entries given.byName

/-- Refuses more than one thing in its place for a table. -/
def checkOneTable (isOrdered : Bool) (given : Arguments) : Run Unit := do
  let n := given.inPlace.length
  if n > 1 then
    refuse (.other (if isOrdered then "expected at most 1 arguments, got " ++ toString n
      else "dict expected at most 1 argument, got " ++ toString n))

/-- Entries with so many more of a thing. -/
def countedMore (ev : Evaluator) (entries : List Object) (key more : Object) : Run (List Object) := do
  checkLookUp key
  match ← valueAt? entries key with
  | some held => entered entries key (← operated ev "+" more held)
  | none => entered entries key (← operated ev "+" more (intOf 0))

/-- Entries that count things in addition to those that they count: those of a table by its values, others by how
often they occur. Names come last. -/
def countedWith (ev : Evaluator) (isLess : Bool) (entries : List Object) (given : Arguments) :
    Run (List Object) := do
  let more (es : List Object) (key n : Object) : Run (List Object) := do
    if isLess then
      let held := (← valueAt? es key).getD (intOf 0)
      entered es key (← operated ev "-" held n)
    else countedMore ev es key n
  let addAll (es others : List Object) : Run (List Object) :=
    others.foldlM (fun es e => match e with
      | .row [key, n] => more es key n
      | _ => return es) es
  let entries ← match given.inPlace.filter (!·.same .none) with
    | [] => pure entries
    | o :: _ => match mappingOf? (← get) o with
      | some others =>
        if entries.isEmpty && !isLess then enteredAll [] others else addAll entries others
      | none =>
        (← parts ev o).foldlM (fun es key => do
          checkLookUp key
          more es key (intOf 1)) entries
  if given.byName.isEmpty then return entries
  let names := Memory.entriesOf given.byName
  if entries.isEmpty && !isLess then enteredAll [] names else addAll entries names

/-- Refuses a number of things in their places in the words of a function with a first parameter of its own. -/
def refusePlaces {α : Type} (what : String) (least most given : Nat) : Run α :=
  refuseMany what least most given 0

/-- What a class of collections makes of what it is given. -/
def makeCollection (ev : Evaluator) (c : LibraryClass) (given : Arguments) : Run Object := do
  let m ← get
  let n := given.inPlace.length
  let make (kept : Object) (state : List (String × Object)) : Run Object :=
    newMade (.library c) [kept] [] state
  match c.name with
  | "OrderedDict" =>
    checkOneTable true given
    make (.table (← updatedBy ev true [] given)) []
  | "defaultdict" =>
    let factory := given.inPlace.headD .none
    if !isCallable m factory && !factory.same .none then
      refuse (.other "first argument must be callable or None")
    checkOneTable false given.tail
    make (.table (← updatedBy ev false [] given.tail)) [("default_factory", factory)]
  | "Counter" =>
    if n > 1 then refusePlaces "Counter.__init__()" 1 2 (n + 1)
    make (.table (← countedWith ev false [] given)) []
  | "deque" =>
    let args ← namedOnly "deque" true (parametersFrom "iterable? maxlen?") given
    let most := (args.getD 1 none).filter (!·.same .none)
    let most ← match most with
      | none => pure none
      | some o => match ← integer? o with
        | some n => if n < 0 then throw .badValue else pure (some n.toNat)
        | none => refuse (.other "an integer is required")
    let items ← match args.headD none with
      | some o => parts ev o
      | none => pure []
    let items := match most with
      | some k => items.drop (items.length - k)
      | none => items
    make (.list items) [("maxlen", (most.map fun k => intOf (Int.ofNat k)).getD .none)]
  | "ChainMap" =>
    match given.byName with
    | (name, _) :: _ =>
      refuse (.other ("ChainMap.__init__() got an unexpected keyword argument " ++ Text.quote name))
    | [] => pure ()
    let maps ← if given.inPlace.isEmpty then do pure [← newTable []] else pure given.inPlace
    let all ← newList maps
    newMade (.library c) [.table (← chained m maps)] [("maps", all)] [("maps", all)]
  | "UserDict" =>
    if n > 1 then refusePlaces "UserDict.__init__()" 1 2 (n + 1)
    let given := { given with inPlace := given.inPlace.filter (!·.same .none) }
    let inner ← newTable (← updatedBy ev false [] given)
    newMade (.library c) [] [("data", inner)] [("data", inner)]
  | "UserList" =>
    let args ← takenBy "UserList.__init__()" "initlist?" given
    let items ← match (args.headD none).filter (!·.same .none) with
      | some o => parts ev o
      | none => pure []
    let inner ← newList items
    newMade (.library c) [] [("data", inner)] [("data", inner)]
  | "UserString" =>
    let args ← takenBy "UserString.__init__()" "seq" given
    let inner := Object.text (← display ev ((args.headD none).getD .none))
    newMade (.library c) [] [("data", inner)] [("data", inner)]
  | name => refuse (.other (name ++ " cannot be instantiated"))

/-! ### What goes through things -/

/-- What goes back through the things of an object. -/
def reversedOf (ev : Evaluator) (o : Object) : Run Object := do
  let m ← get
  let back (kind : String) (owner : Object) (n : Nat) : Run Object := newIterator kind (.back owner n)
  let backEntries (kind : String) (owner : Object) (n : Nat) : Run Object :=
    newIterator kind (.entries kind owner 0 n true)
  let notReversible {α : Type} : Run α :=
    refuse (.other (Text.quote (m.typeName o) ++ " object is not reversible"))
  if let some answer ← said? ev o "__reversed__" [] then return answer
  if let some inner := keptUnder? m o "data" then
    match sequence? m inner with
    | some items => return ← back "reversed" inner items.length
    | none => pure ()
  match m.seen o, m.plain o with
  | .cls c, _ => match valuesOfEnum? m c with
    | some values => newItems "generator" values.reverse
    | none => notReversible
  | _, .list items =>
    let kind := match keeper? m o with
      | some "deque" => "_collections._deque_reverse_iterator"
      | _ => "list_reverseiterator"
    back kind o items.length
  | _, .constant (.list vs) => back "list_reverseiterator" o vs.length
  | _, .table entries =>
    if keeper? m o = some "Counter" || keeper? m o = some "ChainMap" then
      backEntries "dict_reversekeyiterator" o entries.length
    else if m.isOrderedTable o then backEntries "odict_iterator" o entries.length
    else backEntries "dict_reversekeyiterator" o entries.length
  | _, .constant (.dict es) => backEntries "dict_reversekeyiterator" o es.length
  | _, .view kind owner =>
    let n := (m.viewed kind owner).length
    if kind = "dict_values" then backEntries "dict_reversevalueiterator" o n
    else if kind = "dict_items" then backEntries "dict_reverseitemiterator" o n
    else if kind = "dict_keys" || kind = "mappingproxy" then backEntries "dict_reversekeyiterator" o n
    else notReversible
  | _, .datum (.range first last step) =>
    let kind := sequenceKind m o
    back kind o (Datum.integers first last step).length
  | _, _ => match sequence? m o with
    | some items => back "reversed" o items.length
    | none => notReversible

/-- What goes through other things, by the name of its class. -/
def makeIterator (ev : Evaluator) (name : String) (given : Arguments) : Run Object := do
  match name with
  | "enumerate" =>
    let n := given.inPlace.length
    if n + given.byName.length > 2 then
      refuse (.other ("enumerate() takes at most 2 arguments (" ++ toString (n + given.byName.length)
        ++ " given)"))
    match given.byName.find? fun (key, _) =>
        !(key = "start" && (n = 1 || given.byName.length = 2)) && !(key = "iterable" && n = 0) with
    | some (key, _) =>
      refuse (.other (Text.quote key ++ " is an invalid keyword argument for enumerate()"))
    | none => pure ()
    match given.inPlace.head?.or (given.byName.lookup "iterable") with
    | none => refuse (.other "enumerate() missing required argument 'iterable'")
    | some o =>
      let start ← match given.inPlace[1]?.or (given.byName.lookup "start") with
        | some k => integer k
        | none => pure 0
      newIterator name (.numbered start (← iteratorOf ev o))
  | "filter" => match ← placed name 2 2 given with
    | [f, o] => newIterator name (.filtered f (← iteratorOf ev o))
    | _ => return .none
  | "map" =>
    noNames name given
    match given.inPlace with
    | f :: o :: os => newIterator name (.mapped f (← (o :: os).mapM (iteratorOf ev)))
    | _ => refuse (.other "map() must have at least two arguments.")
  | "zip" =>
    if given.byName.length > 1 then
      refuse (.other ("zip() takes at most 1 keyword argument (" ++ toString given.byName.length
        ++ " given)"))
    match given.byName with
    | (key, _) :: _ =>
      if key ≠ "strict" then
        refuse (.other (Text.quote key ++ " is an invalid keyword argument for zip()"))
    | [] => pure ()
    let isStrict ← match given.byName.lookup "strict" with
      | some o => isTrue ev o
      | none => pure false
    newIterator name (.together (← given.inPlace.mapM (iteratorOf ev)) isStrict)
  | _ =>
    noNames name given
    reversedOf ev ((← placed name 1 1 given).headD .none)

end Run

end Mapsmith.Program
