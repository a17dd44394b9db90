import Mapsmith.Program.Function.Kind
import Mapsmith.Program.Function.Name
import Mapsmith.Program.Method.Moment
import Mapsmith.Program.Percent

/-!
# Functions of the language

What the functions that every program knows without an import yield: numbers of numbers, texts of anything,
what is greatest or comes next, what an object has under a name, and whether it is a value of a class.
-/

namespace Mapsmith.Program

namespace Run

/-! ### Numbers -/

/-- A number without its sign. -/
def magnitude (ev : Evaluator) (o : Object) : Run Object := do
  let m ← get
  if let some answer ← said? ev o "__abs__" [] then return answer
  match m.plain o with
  | .constant (.float x) => return floatOf x.abs
  | .datum (.complex re im) =>
    let x := re.distance im
    if !x.isFinite && re.isFinite && im.isFinite then fail "OverflowError"
    return floatOf x
  | .datum (.fraction num den) => return .datum (.fraction num.natAbs den)
  | .datum (.decimal d) => return decimalObject (← decimalResult d.abs)
  | .datum (.duration n) => return .datum (.duration n.natAbs)
  | p => match Outcome.count? p with
    | some n => return intOf n.natAbs
    | none => refuse (.other ("bad operand type for abs(): " ++ Text.quote (m.typeName o)))

/-- The digits of an integer in a base, with a mark in front of them. -/
def inBase (base : Nat) (mark : String) (o : Object) : Run Object := do
  let n ← integer o
  let digits := String.ofList (Nat.toDigits base n.natAbs)
  return .text ((if n < 0 then "-" else "") ++ mark ++ digits)

/-- A quotient and what is left, of two numbers. -/
def divided (ev : Evaluator) (a b : Object) : Run Object := do
  let m ← get
  if let some answer ← settled? ev a "__divmod__" [b] then return answer
  if let some answer ← settled? ev b "__rdivmod__" [a] then return answer
  let refused {α : Type} : Run α :=
    refuse (.operands "divmod()" (m.typeName a) (m.typeName b))
  let isNumeric (o : Object) : Bool := match m.plain o with
    | .datum (.complex ..) => false
    | .datum (.duration _) => true
    | p => (Number.of? p).isSome
  if !isNumeric a || !isNumeric b then refused
  tryCatch (do return .row [← operated ev "//" a b, ← operated ev "%" a b]) fun e => match e with
    | .misuse (.operands ..) => refused
    | e => throw e

/-- A power of an integer within the rest by another one, by the binary digits of the exponent. -/
def powerWithin (base modulus : Int) : List Bool → Int → Int
  | [], result => result
  | bit :: bits, result =>
    let squared := Int.fmod (result * result) modulus
    powerWithin base modulus bits (if bit then Int.fmod (squared * base) modulus else squared)

/-- The number that multiplied by another one is one, within the rest by a third one. -/
def inverseWithin (fuel : Nat) (a b x y : Int) : Option Int :=
  match fuel with
  | 0 => none
  | fuel + 1 =>
    if b = 0 then if a.natAbs = 1 then some (x * a) else none
    else inverseWithin fuel b (Int.fmod a b) y (x - Int.fdiv a b * y)

/-- An integer to the power of another one, within the rest by a third one. -/
def raisedWithin (base power modulus : Int) : Run Object := do
  if modulus = 0 then throw .badValue
  let fuel := 2 * (base.natAbs.log2 + modulus.natAbs.log2) + 8
  let base? := if power ≥ 0 then some base else inverseWithin fuel (Int.fmod base modulus) modulus 1 0
  let some base := base? | throw .badValue
  let bits := (Nat.toDigits 2 power.natAbs).map (· == '1')
  return intOf (powerWithin (Int.fmod base modulus) modulus bits (Int.fmod 1 modulus))

/-- A number with another one as its power, within the rest by a third one. -/
def raised (ev : Evaluator) (s : Scope) (base power : Object) (modulus : Option Object) : Run Object := do
  let m ← get
  match modulus.filter (!·.same .none) with
  | none => operatedWith ev s "**" base power
  | some modulus =>
    let all := [base, power, modulus].map m.plain
    if let some answer ← settled? ev base "__pow__" [power, modulus] then return answer
    match all.map Outcome.count? with
    | [some n, some k, some d] => raisedWithin n k d
    | _ =>
      let isComplex (o : Object) : Bool := o matches .datum (.complex ..)
      let isReal (o : Object) : Bool := o matches .constant (.float _)
      let isDecimal (o : Object) : Bool := o matches .datum (.decimal _)
      let isNumber (o : Object) : Bool := (Number.of? o).isSome
      match m.plain base with
      | .datum (.fraction ..) =>
        refuse (.other "Fraction.__pow__() takes 2 positional arguments but 3 were given")
      | _ =>
        if all.all isNumber && all.any isComplex && !all.any isDecimal then throw .badValue
        if all.any isReal && all.all (fun o => isReal o || (Outcome.count? o).isSome) then
          refuse (.other "pow() 3rd argument not allowed unless all arguments are integers")
        if all.any isDecimal && all.all (fun o => isDecimal o || (Outcome.count? o).isSome) then
          match ← all.mapM decimalOf? with
          | [some x, some y, some z] => match x.count?, y.count?, z.count? with
            | some n, some k, some d =>
              if k < 0 || d = 0 || (n = 0 && k = 0) then throw (.raised ⟨"decimal", "InvalidOperation"⟩)
              match ← raisedWithin n.natAbs k d.natAbs with
              | .constant (.int r) =>
                return decimalObject (.finite (n < 0 && k % 2 = 1) r.natAbs 0)
              | o => return o
            | _, _, _ => throw (.raised ⟨"decimal", "InvalidOperation"⟩)
          | _ => return .none
        refuse (.other ("unsupported operand type(s) for ** or pow(): "
          ++ ", ".intercalate ([base, power, modulus].map fun o => Text.quote (m.typeName o))))

/-- Things added up, from a first one on. -/
def summed (ev : Evaluator) (items : List Object) (start : Object) : Run Object := do
  match (← get).plain start with
  | .constant (.str _) => refuse (.other "sum() can't sum strings [use ''.join(seq) instead]")
  | .datum (.bytes _) =>
    let what := if keeper? (← get) start = some "bytearray" then "bytearray" else "bytes"
    refuse (.other ("sum() can't sum " ++ what ++ " [use b''.join(seq) instead]"))
  | _ => items.foldlM (operated ev "+") start

/-- The number that an object is looked up by. -/
def hashOf (ev : Evaluator) (o : Object) : Run Object := do
  checkLookUp o
  if let some answer ← said? ev o "__hash__" [] then
    if (Outcome.count? ((← get).plain answer)).isSome then return answer
    refuse (.other "__hash__ method should return an integer")
  if (← get).plain o matches .datum (.decimal (.notANumber _ true _)) then
    refuse (.other "Cannot hash a signaling NaN value")
  return intOf ((← hash? o).getD 0)

/-! ### What is greatest -/

/-- The first of things that no other one goes before in an order. -/
def extreme (ev : Evaluator) (s : Scope) (operator : String) (given : Arguments) : Run Object := do
  let function := if operator = ">" then "max" else "min"
  let key := (given.byName.lookup "key").filter (!·.same .none)
  let usual := given.byName.lookup "default"
  if given.inPlace.isEmpty then refuse (.other (function ++ " expected at least 1 argument, got 0"))
  for (name, _) in given.byName do
    if name ≠ "key" && name ≠ "default" then
      refuse (.other (Text.quote name ++ " is an invalid keyword argument for " ++ function ++ "()"))
  if given.inPlace.length > 1 && usual.isSome then
    refuse (.other ("Cannot specify a default for " ++ function ++ "() with multiple positional arguments"))
  let items ← match given.inPlace with
    | [o] => parts ev o
    | items => pure items
  let keyed ← items.mapM fun o => do
    match key with
    | some f => return (← ev.call s f (.ofItems [o]), o)
    | none => return (o, o)
  match keyed, usual with
  | [], some o => return o
  | [], none => throw .badValue
  | first :: rest, _ =>
    let best ← rest.foldlM (fun best o => do
      return if ← isTrue ev (← compared ev operator o.1 best.1) then o else best) first
    return best.2

/-- Does one of the things that an object yields count as true, or as false? -/
def hasOne (ev : Evaluator) (wanted : Bool) (it : Object) : Nat → Run Bool
  | 0 => fail "MemoryError"
  | steps + 1 => do
    match ← ev.next it with
    | some o => if (← isTrue ev o) = wanted then return true else hasOne ev wanted it steps
    | none => return false

/-! ### Texts -/

/-- The character of a number. -/
def character (n : Int) : Run Object := do
  if n.natAbs ≥ Nat.pow 2 31 then fail "OverflowError"
  if n < 0 || 0x110000 ≤ n then throw .badValue
  return .text (String.singleton (Char.ofNat n.toNat))

/-- The number of a character. -/
def characterNumber (o : Object) : Run Object := do
  let wrong {α : Type} (n : Nat) : Run α :=
    refuse (.other ("ord() expected a character, but string of length " ++ toString n ++ " found"))
  match (← get).plain o with
  | .constant (.str s) => match s.toList with
    | [c] => return intOf (Int.ofNat c.toNat)
    | cs => wrong cs.length
  | .datum (.bytes values) => match values with
    | [n] => return intOf (Int.ofNat n)
    | ns => wrong ns.length
  | _ => refuse (.other ("ord() expected string of length 1, but " ++ (← get).typeName o ++ " found"))

/-- The space of names that an object is as a table. -/
def spaceFrom (o : Object) : Run Space := do
  match o with
  | .view "globals" (.module index) => return .module index
  | .cell place => match (← get).cells[place]? with
    | some (.table _) => return .table place
    | _ => return .names (Memory.namesOf (((← get).entries? o).getD []))
  | o => return .names (Memory.namesOf (((← get).entries? o).getD []))

/-- The scope of a text that is read with names of its own. -/
def scopeWith (what : String) (s : Scope) (tables : List Object) : Run Scope := do
  let m ← get
  let isTable (o : Object) : Bool := match o with
    | .view "mappingproxy" _ => false
    | o => m.plain o matches .table _
  let globals := (tables.head?).filter (!·.same .none)
  let locals := (tables[1]?).filter (!·.same .none)
  match globals with
  | some o =>
    if !isTable o then
      if what = "exec" then refuse (.other ("exec() globals must be a dict, not " ++ m.typeName o))
      let isMapping := (sequence? m o).isSome || (pooled? m o).isSome
      refuse (.other (if isMapping then "globals must be a real dict; try eval(expr, {}, mapping)"
        else "globals must be a dict"))
  | none => pure ()
  match locals with
  | some o =>
    if (mappingOf? m o).isNone && (sequence? m o).isNone then
      refuse (.other (if what = "exec" then "locals must be a mapping or None, not " ++ m.typeName o
        else "locals must be a mapping"))
  | none => pure ()
  match globals, locals with
  | none, none => return s
  | some o, none => return { near := ← spaceFrom o, far := ← spaceFrom o }
  | some o, some p => return { near := ← spaceFrom p, far := ← spaceFrom o }
  | none, some p => return { near := ← spaceFrom p, far := s.far }

/-- The text of a program that an object is. -/
def programText? (o : Object) : Run (Option String) := do
  let m ← get
  match m.plain o with
  | .constant (.str text) => return some text
  | .datum (.bytes values) => return some (← decoded "utf-8" "strict" values)
  | _ => return (keptUnder? m o "source").bind (·.text?)

/-- What a text stands for as a program of one expression. -/
def readText (ev : Evaluator) (s : Scope) (args : List (Option Object)) : Run Object := do
  let s ← scopeWith "eval" s ((args.drop 1).map (·.getD .none))
  let o := argOr args 0
  match ← programText? o with
  | some text =>
    let result ← ev.read s text
    return if (keptUnder? (← get) o "mode").any (·.same (.text "exec")) then .none else result
  | none => refuse (.other "eval() arg 1 must be a string, bytes or code object")

/-- A program that is read from a text. -/
def compiled (args : List (Option Object)) : Run Object := do
  let m ← get
  let mode ← textual "compile() argument 'mode'" (argOr args 2)
  if (bytesOrText m (argOr args 1)).isNone then
    refuse (.other ("expected str, bytes or os.PathLike object, not " ++ m.typeName (argOr args 1)))
  if mode ∉ ["exec", "eval", "single"] then throw .badValue
  match ← programText? (argOr args 0) with
  | some text =>
    if (Expr.ofText? text).isNone && mode = "eval" then throw .malformed
    newMade (.library (.builtin "code")) [] [] [("source", .text text), ("mode", .text mode),
      (Memory.shownName, .text "<code object <module>, file \"\", line 1>")]
  | none => refuse (.other "compile() arg 1 must be a string, bytes or AST object")
where
  /-- Is an object a text, or bytes? -/
  bytesOrText (m : Memory) (o : Object) : Option Unit :=
    match m.plain o with
    | .constant (.str _) | .datum (.bytes _) => some ()
    | _ => none

/-! ### All of them -/

/-- The number of things that an object consists of. -/
def sizeOf (ev : Evaluator) (o : Object) : Run Object := do
  let m ← get
  let counted (n : Nat) : Run Object := return intOf (Int.ofNat n)
  if let some n ← lengthSaid? ev o then return ← counted n
  let o' := (keptUnder? m o "data").getD o
  match m.plain o', sequence? m o', pooled? m o' with
  | .datum (.range first last step), _, _ =>
    let n := Datum.integers first last step
    counted n.length
  | _, some items, _ => counted items.length
  | _, none, some (_, items) => counted items.length
  | .cls c, none, none => match valuesOfEnum? m c with
    | some values => counted values.length
    | none => refuse (.other ("object of type " ++ Text.quote (m.typeName o) ++ " has no len()"))
  | _, none, none => refuse (.other ("object of type " ++ Text.quote (m.typeName o) ++ " has no len()"))

/-- The module that is asked for by its name. -/
def moduleNamed (o : Object) : Run Object := do
  let some name ← text? o | refuse (.other "module name must be a string")
  if name = "" then throw .badValue
  if name ∈ libraryModules then return .libraryModule (firstPart name)
  match (← get).module? (firstPart name) with
  | some index => return .module index
  | none => throw (.noModule ("No module named " ++ Text.quote name))

/-- What a function of the language yields that is given things in a way of its own. -/
def ofLanguageFreely (ev : Evaluator) (s : Scope) (name : String) (given : Arguments) : Run Object := do
  match name with
  | "max" => extreme ev s ">" given
  | "min" => extreme ev s "<" given
  | "print" =>
    for (name, _) in given.byName do
      if name ∉ ["sep", "end", "file", "flush"] then
        refuse (.other (Text.quote name ++ " is an invalid keyword argument for print()"))
    for what in ["sep", "end"] do
      match (given.byName.lookup what).filter (!·.same .none) with
      | some o =>
        if (← text? o).isNone then
          refuse (.other (what ++ " must be None or a string, not " ++ (← get).typeName o))
      | none => pure ()
    return .none
  | "sorted" =>
    let items ← placed name 1 1 { given with byName := [] }
    let all ← parts ev (items.headD .none)
    let args ← namedOnly "sort" true (parametersFrom "* key? reverse?") { given with inPlace := [] }
    newList (← sortedBy ev s all (argAt args 0) (argAt args 1))
  | "open" => match given.inPlace.head? with
    | none => refuse (.other "open() missing required argument 'file' (pos 1)")
    | some o => match ← text? o, ← bytes? o, ← integer? o with
      | none, none, none => do
        refuse (.other ("expected str, bytes or os.PathLike object, not " ++ (← get).typeName o))
      | none, none, some _ => fail "OSError"
      | _, _, _ => fail "FileNotFoundError"
  | "aiter" | "anext" =>
    let o := (← placed name 1 (if name = "anext" then 2 else 1) given).headD .none
    refuse (.other (Text.quote ((← get).typeName o) ++ " object is not an async "
      ++ if name = "aiter" then "iterable" else "iterator"))
  | "__build_class__" =>
    refuse (.other (if given.inPlace.length < 2 then "__build_class__: not enough arguments"
      else "__build_class__: func must be a function"))
  | "breakpoint" => return .none
  | name => refuse (.other (name ++ "() cannot be called in this way"))

/-- What a function of the language yields. -/
def ofLanguage (ev : Evaluator) (s : Scope) (name : String) (given : Arguments) : Run Object := do
  let some way := convention? "builtins" name | ofLanguageFreely ev s name given
  let args ← received way name name given
  let first := argOr args 0
  let second := argOr args 1
  match name with
  | "abs" => magnitude ev first
  | "all" => return truth !(← hasOne ev false (← iteratorOf ev first) maxItems)
  | "any" => return truth (← hasOne ev true (← iteratorOf ev first) maxItems)
  | "ascii" => return .text (asciiOnly (← representation ev first))
  | "bin" => inBase 2 "0b" first
  | "oct" => inBase 8 "0o" first
  | "hex" => inBase 16 "0x" first
  | "callable" => return truth (isCallable (← get) first)
  | "chr" => character (← integer first)
  | "ord" => characterNumber first
  | "dir" => match ← (argAt args 0).mapM fun o => said? ev o "__dir__" [] with
    | some (some names) => ofLanguageFreely ev s "sorted" (.ofItems [names])
    | _ => namesUnder s (argAt args 0)
  | "divmod" => divided ev first second
  | "eval" => readText ev s args
  | "exec" =>
    let s ← scopeWith "exec" s ((args.drop 1).map (·.getD .none))
    match ← programText? first with
    | some text =>
      if (Expr.ofText? text).isSome then
        let _ ← ev.read s text
      return .none
    | none => refuse (.other "exec() arg 1 must be a string, bytes or code object")
  | "compile" => compiled args
  | "format" => match argAt args 1 with
    | none => return .text (← laidOut ev "" first)
    | some layout => return .text (← laidOut ev (← textual "format() argument 2" layout) first)
  | "getattr" => memberOr ev first (← memberName second) (argAt args 2)
  | "hasattr" =>
    let name ← memberName second
    return truth (← hasMember ev first name)
  | "setattr" =>
    setMember first (← memberName second) (some (argOr args 2))
    return .none
  | "delattr" =>
    setMember first (← memberName second) none
    return .none
  | "globals" => knownNames s true
  | "locals" => knownNames s false
  | "vars" => held s (argAt args 0)
  | "hash" => hashOf ev first
  | "id" => return intOf 0
  | "isinstance" => isInstance first second
  | "issubclass" => isSubclass first second
  | "iter" => match argAt args 1 with
    | some last =>
      if !isCallable (← get) first then refuse (.other "iter(v, w): v must be callable")
      newIterator "callable_iterator" (.asked first last)
    | none => iteratorOf ev first
  | "len" => sizeOf ev first
  | "next" => match ← ev.next first, argAt args 1 with
    | some item, _ => return item
    | none, some other => return other
    | none, none => fail "StopIteration"
  | "pow" => raised ev s first second (argAt args 2)
  | "repr" => return .text (← representation ev first)
  | "round" => rounded ev first (argAt args 1)
  | "sum" => summed ev (← parts ev first) ((argAt args 1).getD (intOf 0))
  | "__import__" => moduleNamed first
  | "input" => fail "EOFError"
  | name => refuse (.other (name ++ "() cannot be called in this way"))

end Run

end Mapsmith.Program
