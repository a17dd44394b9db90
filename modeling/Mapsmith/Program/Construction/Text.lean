import Mapsmith.Program.Construction.Number
import Mapsmith.Text.Codec

/-!
# Texts and bytes of what classes are given

A text is what an object is shown as, or what bytes stand for in an encoding; bytes are those of a text in an encoding,
so many zeros, or numbers one after the other.
-/

namespace Mapsmith.Program

namespace Run

/-! ### Encodings -/

/-- The encoding of a name. -/
def codecOf (name : String) : Run Text.Codec := do
  match Text.Codec.ofName? name with
  | some codec => return codec
  | none => fail "LookupError"

/-- A text as bytes, in an encoding of a name, with what is done where it has no bytes. -/
def encoded (encoding handler s : String) : Run (List Nat) := do
  match (← codecOf encoding).encode handler s.toList with
  | .ok bytes => return bytes
  | .error name => fail name

/-- The text that bytes stand for in an encoding of a name, with what is done where they stand for none. -/
def decoded (encoding handler : String) (bytes : List Nat) : Run String := do
  match (← codecOf encoding).decode handler bytes with
  | .ok cs => return String.ofList cs
  | .error "TypeError" => refuse (.other "don't know how to handle UnicodeDecodeError in error callback")
  | .error name => fail name

/-- The text that is given under a name to something, if one is. -/
def textUnder (what name : String) (o : Option Object) : Run (Option String) := do
  match o with
  | none => return none
  | some o => return some (← textual (what ++ "() argument " ++ Text.quote name) o)

/-- The encoding and the way to handle errors that are given, or those that stand for them. -/
def codingOf (what : String) (encoding errors : Option Object) : Run (String × String) := do
  let encoding ← textUnder what "encoding" encoding
  let errors ← textUnder what "errors" errors
  return (encoding.getD "utf-8", errors.getD "strict")

/-! ### Texts -/

/-- The bytes that an object is, or that it lets others see, if it does. -/
def bytes? (o : Object) : Run (Option (List Nat)) := do
  match (← get).plain o with
  | .datum (.bytes values) => return some values
  | _ => return none

/-- What the class of texts makes of what it is given. -/
def makeText (ev : Evaluator) (given : Arguments) : Run Object := do
  let m ← get
  match ← namedOnly "str" true (parametersFrom "object? encoding? errors?") given with
  | [none, _, _] => return .text ""
  | [some o, none, none] => return .text (← display ev o)
  | [some o, encoding, errors] =>
    let (encoding, errors) ← codingOf "str" encoding errors
    match ← bytes? o with
    | some values => return .text (← decoded encoding errors values)
    | none =>
      if (m.plain o).text?.isSome then refuse (.other "decoding str is not supported")
      refuse (.other ("decoding to str: need a bytes-like object, " ++ m.typeName o ++ " found"))
  | _ => return .none

/-! ### Bytes -/

/-- The most bytes that something may have. -/
def maxBytes : Int := 10000000

/-- Bytes of what a class of a name is given. -/
def bytesOf (ev : Evaluator) (what : String) (given : Arguments) : Run (List Nat) := do
  let m ← get
  let args ← namedOnly what true (parametersFrom "source? encoding? errors?") given
  let (encoding, errors) ← codingOf what (args.getD 1 none) (args.getD 2 none)
  let hasEncoding := (args.getD 1 none).isSome
  let hasErrors := (args.getD 2 none).isSome
  let text? := (args.headD none).bind fun o => (m.plain o).text?
  match text? with
  | some s =>
    if hasEncoding then return ← encoded encoding errors s
    refuse (.other "string argument without an encoding")
  | none =>
    if hasEncoding then refuse (.other "encoding without a string argument")
    if hasErrors then refuse (.other "errors without a string argument")
    match args.headD none with
    | none => return []
    | some o =>
      if what = "bytes" then
        if let some answer ← said? ev o "__bytes__" [] then
          match ← bytes? answer with
          | some values => return values
          | none =>
            refuse (.other ("__bytes__ returned non-bytes (type " ++ (← get).typeName answer ++ ")"))
      match ← bytes? o, ← integer? o with
      | some values, _ => return values
      | none, some n =>
        if n < 0 then throw .badValue
        if n ≥ Int.ofNat (Nat.pow 2 63) then fail "OverflowError"
        if n > maxBytes then fail "MemoryError"
        return List.replicate n.toNat 0
      | none, none =>
        let items ← tryCatch (parts ev o) fun e => match e with
          | .misuse (.other wording) =>
            if wording.endsWith "is not iterable" then
              refuse (.other ("cannot convert " ++ Text.quote (m.typeName o) ++ " object to " ++ what))
            else throw e
          | e => throw e
        items.mapM byteOf

/-- What the class of views of bytes makes of what it is given. -/
def makeBytesView (given : Arguments) : Run Object := do
  let args ← namedOnly "memoryview" true (parametersFrom "object") given
  let o := (args.headD none).getD .none
  match ← bytes? o with
  | some values =>
    newBytesView o (keeper? (← get) o ≠ some "bytearray") values
  | none => do
    refuse (.other ("memoryview: a bytes-like object is required, not " ++ Text.quote ((← get).typeName o)))

end Run

end Mapsmith.Program
