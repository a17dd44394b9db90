import Mapsmith.Program.Member

/-!
# Kinds of objects

Whether an object is a value of a class and whether a class inherits from another one. A class of collections also
counts those that are registered for it, or those that have the methods it asks for; a description of members counts
what has the members.
-/

namespace Mapsmith.Program

namespace Run

/-! ### What has the methods that are asked for -/

/-- The methods that classes of collections and descriptions of the library ask for. -/
def askedMethods : List (String × String) :=
  [("Hashable", "__hash__"), ("Sized", "__len__"), ("Iterable", "__iter__"),
    ("Iterator", "__iter__ __next__"), ("Reversible", "__reversed__ __iter__"),
    ("Container", "__contains__"), ("Collection", "__len__ __iter__ __contains__"),
    ("Callable", "__call__"), ("Generator", "__iter__ __next__ send throw close"),
    ("Awaitable", "__await__"), ("Coroutine", "__await__ send throw close"),
    ("AsyncIterable", "__aiter__"), ("AsyncIterator", "__anext__ __aiter__"),
    ("AsyncGenerator", "__aiter__ __anext__ asend athrow aclose"),
    ("SupportsInt", "__int__"), ("SupportsFloat", "__float__"), ("SupportsComplex", "__complex__"),
    ("SupportsBytes", "__bytes__"), ("SupportsIndex", "__index__"), ("SupportsAbs", "__abs__"),
    ("SupportsRound", "__round__"), ("AbstractContextManager", "__enter__ __exit__"),
    ("AbstractAsyncContextManager", "__aenter__ __aexit__")]

/-- The classes of collections for which classes of the library are registered. -/
def registered : List (LibraryClass × String) :=
  [(.tuple, "Sequence"), (.text, "Sequence"), (.builtin "range", "Sequence"),
    (.builtin "memoryview", "Sequence"), (.builtin "bytes", "ByteString"),
    (.builtin "bytearray", "ByteString"), (.builtin "bytearray", "MutableSequence"),
    (.builtin "list", "MutableSequence"), (⟨"collections", "deque"⟩, "MutableSequence"),
    (.builtin "frozenset", "Set"), (.builtin "set", "MutableSet"), (.builtin "dict", "MutableMapping"),
    (.builtin "mappingproxy", "Mapping"), (.builtin "dict_keys", "KeysView"),
    (.builtin "dict_values", "ValuesView"), (.builtin "dict_items", "ItemsView")]

/-- Has a class something else than the missing value under a name, for its values? -/
def hasForValues (m : Memory) (c : ClassId) (name : String) : Bool :=
  let everything := libraryAttribute? [.builtin "object"] name
  let held := (m.line c).findSome? fun a => match a with
    | .library l => if a = .everything then none else (l.holding? name).map (· ≠ .absent)
    | .program index => ((m.class? index).bind fun o =>
        ((o.attributes.lookup name).map Attribute.toObject).or ((addedEntries m index o).lookup name)).map
          fun o => !o.same .none
  held.getD everything.isSome

/-- Does a class count as a class of the library, beside inheriting from it? -/
def countsAs (m : Memory) (c : ClassId) (l : LibraryClass) : Bool :=
  let isRegistered := (m.line c).any fun a => registered.any fun (r, name) =>
    a = .library r && (l ∈ (LibraryClass.abstractCollection name).line)
  let isAbstract := l.module = "collections.abc" || l.module = "contextlib" || l.name.startsWith "Supports"
  isAbstract && (isRegistered || ((askedMethods.lookup l.name).map fun names =>
    (Text.parts ' ' names).all (hasForValues m c)).getD false)

/-! ### Descriptions -/

/-- The name under which a description tells that values can be told to be of it. -/
def checkableName : String := "_is_runtime_protocol"

/-- Can values be told to be of a class? Only some descriptions say so. -/
def isCheckable (m : Memory) : ClassId → Bool
  | .library l => l ≠ .protocol
  | c@(.program index) =>
    !m.isDescription c || m.inherits c (.library .type)
      || (m.class? index).any fun o => (o.attributes.lookup checkableName).isSome

/-- The names that a description asks for. -/
def describedNames (m : Memory) (c : ClassId) : List String :=
  (m.lineage c).flatMap fun (index, o) =>
    if !m.isDescription (.program index) then []
    else (o.attributes.map (·.1) ++ o.annotations.map (·.1)).filter fun name =>
      name ≠ checkableName && name ∉ [descriptionName, "__slots__", "__doc__", "__module__", typesName]

/-- Has an object something under all names that a description asks for? -/
def fitsDescription (m : Memory) (c : ClassId) (o : Object) : Run Bool :=
  (describedNames m c).foldlM (fun fits name => do
    if !fits then return false
    tryCatch (do
      let _ ← member o name
      return true) fun e => match e with
        | .noMember _ => return false
        | e => throw e) true

/-! ### Asking -/

/-- Is an object a value of one class? -/
def isOfClass (o : Object) (c : ClassId) : Run Bool := do
  let m ← get
  if m.classOf o = c then return true
  if c = .library .anything then refuse (.other "typing.Any cannot be used with isinstance()")
  if !isCheckable m c then
    refuse (.other "Instance and class checks can only be used with @runtime_checkable protocols")
  if m.isValueOf o c then return true
  match c with
  | .library l => return countsAs m (m.classOf o) l
  | .program _ => if m.isDescription c then fitsDescription m c o else return false

/-- Does a class inherit from another one, or count as it? -/
def isHeir (d c : ClassId) : Run Bool := do
  let m ← get
  if !isCheckable m c then
    refuse (.other "Instance and class checks can only be used with @runtime_checkable protocols")
  if c = .everything || m.inherits d c then return true
  match c with
  | .library l => return countsAs m d l
  | .program _ => if m.isDescription c then fitsDescription m c (.cls d) else return false

/-- What is asked of each class that stands for several ones; a class that nothing can be asked of is refused. -/
def askedOf (p : ClassId → Run Bool) (what words : String) : Nat → Object → Run Bool
  | 0, _ => throw .tooDeep
  | levels + 1, o => do
    let all (items : List Object) : Run Bool :=
      items.foldlM (fun found o => do
        if found then return true else askedOf p what words levels o) false
    match o with
    | .cls c => p c
    | .row items | .formed .bars items | .formed .union items => all items
    | .formed (.subscripted _) _ =>
      refuse (.other (what ++ "() argument 2 cannot be a parameterized generic"))
    | .formed .. | .annotated .. =>
      refuse (.other "Subscripted generics cannot be used with class and instance checks")
    | .special name => refuse (.other ("typing." ++ name ++ " cannot be used with " ++ what ++ "()"))
    | .named name => match namedForms.lookup name with
      | some form => p (.library form.origin)
      | none => return false
    | _ => refuse (.other (what ++ "() arg 2 must be " ++ words))

/-- Is an object a value of a class, or of one of several? -/
def isInstance (o c : Object) : Run Object := do
  return .constant (.bool (← askedOf (isOfClass o) "isinstance" "a type, a tuple of types, or a union" 100 c))

/-- Does a class inherit from another one, or from one of several? -/
def isSubclass (o c : Object) : Run Object := do
  let words := "a class, a tuple of classes, or a union"
  match o with
  | .cls d => return .constant (.bool (← askedOf (isHeir d) "issubclass" words 100 c))
  | o => match o, c with
    | .formed (.subscripted _) _, .cls (.library _) => return .constant (.bool false)
    | _, _ => refuse (.other "issubclass() arg 1 must be a class")

end Run

end Mapsmith.Program
