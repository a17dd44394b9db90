import Mapsmith.Text.Numeral

/-!
# Command-line arguments

A command line is a row of words: flags, some with a value, and the names of modules. A long flag may
be cut short as long as it is clear which one is meant; its value follows it or is attached with an
equals sign. Short flags may be joined, the last of them with its value. The names of modules stand
together, with no flag between them; behind a bare double dash everything is a name, and one attached to
a flag leaves it with a blank value.
-/

namespace Mapsmith.CommandLine

/-! ### Flags -/

/-- A flag. -/
inductive Flag
  /-- How the command is used. -/
  | help
  /-- Where generated modules are written. -/
  | output
  /-- Whether written modules are only compared. -/
  | check
  /-- Where the settings are. -/
  | config
  /-- Where modules are looked for. -/
  | path
  /-- Whether to tell what happens. -/
  | verbose
  deriving DecidableEq, Repr, Inhabited

namespace Flag

/-- Does a value belong to the flag? -/
def takesValue : Flag → Bool
  | output | config | path => true
  | help | check | verbose => false

/-- The long flags. -/
def long : List (String × Flag) :=
  [("--help", help), ("--output", output), ("--check", check), ("--config", config),
    ("--path", path), ("--verbose", verbose)]

/-- The letters of the short flags. -/
def short : List (Char × Flag) :=
  [('h', help), ('o', output), ('v', verbose)]

/-- The flag of a letter. -/
def ofLetter? (c : Char) : Option Flag :=
  short.lookup c

end Flag

/-! ### Words -/

/-- A word of a command line. -/
inductive Word
  /-- The name of a module or the value of a flag. -/
  | plain (text : String)
  /-- A bare double dash. -/
  | separator
  /-- A long flag, with a value if one is attached to it. -/
  | long (flag : Flag) (value : Option String)
  /-- A short flag, with what follows it in the same word if anything does. -/
  | short (flag : Flag) (rest : Option (List Char))
  /-- A flag that there is not. -/
  | unknown
  deriving DecidableEq, Repr

/-- Is a word a number below zero, in the digits of any script? A line feed may end it. -/
def isNegativeNumber : List Char → Bool
  | '-' :: digits =>
    let whole := digits.takeWhile Text.isDecimalDigit
    match digits.dropWhile Text.isDecimalDigit with
    | [] | ['\n'] => !whole.isEmpty
    | '.' :: c :: fraction =>
      Text.isDecimalDigit c && fraction.dropWhile Text.isDecimalDigit ∈ [[], ['\n']]
    | _ => false
  | _ => false

/-- The part of a word before its first equals sign, and the part after it if there is one. -/
def splitAtEquals (word : String) : String × Option String :=
  match word.toList.dropWhile (· ≠ '=') with
  | _ :: value => (String.ofList (word.toList.takeWhile (· ≠ '=')), some (String.ofList value))
  | [] => (word, none)

/-- The word that a text is; nothing if it could be several flags. -/
def wordOf (text : String) : Option Word :=
  match text.toList with
  | ['-'] | [] => some (.plain text)
  | '-' :: '-' :: _ =>
    let (name, value) := splitAtEquals text
    match Flag.long.lookup name with
    | some flag => some (.long flag value)
    | none => match Flag.long.filter (·.1.startsWith name) with
      | [(_, flag)] => some (.long flag value)
      | [] => some (if ' ' ∈ text.toList then .plain text else .unknown)
      | _ => none
  | '-' :: letter :: rest =>
    match Flag.ofLetter? letter with
    | some flag => some (.short flag (match rest with
      | [] => none
      | '=' :: value => some value
      | _ => some rest))
    | none =>
      some (if isNegativeNumber text.toList || ' ' ∈ text.toList then .plain text else .unknown)
  | _ => some (.plain text)

/-- The words of a command line; nothing if one of them could be several flags. -/
def words : List String → Option (List Word)
  | [] => some []
  | "--" :: names => some (.separator :: names.map .plain)
  | text :: rest => do return (← wordOf text) :: (← words rest)

/-! ### Arguments -/

/-- The value that a flag is given. -/
inductive FlagValue
  /-- A text. -/
  | given (text : String)
  /-- What a bare double dash leaves of a value when it is attached to a flag: nothing. -/
  | blank
  deriving DecidableEq, Repr

namespace FlagValue

/-- The value that a text attached to a flag or following it gives. -/
def ofText (text : String) : FlagValue :=
  if text = "--" then .blank else .given text

/-- The text of a value, if it has one. -/
def text? : FlagValue → Option String
  | .given text => some text
  | .blank => none

end FlagValue

/-- What a command line asks for. -/
structure Arguments where
  /-- The names of the modules. -/
  modules : List String := []
  /-- Where generated modules are written. -/
  output : Option FlagValue := none
  /-- Are written modules only compared? -/
  check : Bool := false
  /-- Where the settings are. -/
  config : Option FlagValue := none
  /-- Where modules are looked for. -/
  path : FlagValue := .given "."
  /-- Is it told what happens? -/
  verbose : Bool := false
  deriving DecidableEq, Repr

/-- Why a command line asks for nothing. -/
inductive Usage
  /-- It asks how the command is used. -/
  | help
  /-- It is not understood. -/
  | wrong
  deriving DecidableEq, Repr

/-- How far the names of modules have come. -/
inductive Names
  /-- None has come. -/
  | awaited
  /-- More may follow. -/
  | coming
  /-- A flag has ended them. -/
  | over
  deriving DecidableEq, Repr

/-- What has been understood of a command line. -/
structure Progress where
  /-- The arguments. -/
  arguments : Arguments := {}
  /-- How far the names of modules have come. -/
  names : Names := .awaited
  /-- Is there something that does not belong there? -/
  hasExcess : Bool := false

namespace Progress

variable (p : Progress)

/-- After the name of a module. -/
def name (text : String) : Progress :=
  match p.names with
  | .over => { p with hasExcess := true }
  | _ => { p with
    names := .coming
    arguments := { p.arguments with modules := p.arguments.modules ++ [text] } }

/-- After a bare double dash. -/
def separator : Progress :=
  match p.names with
  | .over => { p with hasExcess := true }
  | _ => p

/-- After the end of a row of names. -/
def interrupt : Progress :=
  match p.names with
  | .coming => { p with names := .over }
  | _ => p

/-- After a flag with its value. -/
def flag : Flag → String → Except Usage Progress
  | .help, _ => .error .help
  | .output, value =>
    .ok { p with arguments := { p.arguments with output := some (.ofText value) } }
  | .check, _ => .ok { p with arguments := { p.arguments with check := true } }
  | .config, value =>
    .ok { p with arguments := { p.arguments with config := some (.ofText value) } }
  | .path, value => .ok { p with arguments := { p.arguments with path := .ofText value } }
  | .verbose, _ => .ok { p with arguments := { p.arguments with verbose := true } }

/-- After flags with their values, one after the other. -/
def flags (fs : List (Flag × String)) : Except Usage Progress :=
  fs.foldlM (fun p (f, value) => p.flag f value) p

end Progress

/-- Short flags in one word. -/
structure Cluster where
  /-- The flags that are complete, with their values. -/
  flags : List (Flag × String) := []
  /-- The last flag, if its value is the next word. -/
  pending : Option Flag := none

/-- The cluster of a flag and the characters after it. After a flag without a value each of them has to
be a flag. -/
def cluster (f : Flag) : List Char → Except Usage Cluster
  | [] => .ok (if f.takesValue then { pending := some f } else { flags := [(f, "")] })
  | c :: rest =>
    if f.takesValue then .ok { flags := [(f, String.ofList (c :: rest))] }
    else match Flag.ofLetter? c with
      | none => .error .wrong
      | some g => do
        let inner ← cluster g rest
        return { inner with flags := (f, "") :: inner.flags }

/-- The cluster of a flag and what is attached to it, if anything is. An attached value may be empty,
for a flag that takes one. -/
def attached (f : Flag) : Option (List Char) → Except Usage Cluster
  | some [] => if f.takesValue then .ok { flags := [(f, "")] } else .error .wrong
  | rest => cluster f (rest.getD [])

/-- Understands the words of a command line one by one. -/
def consume (p : Progress) : List Word → Except Usage Progress
  | [] => .ok p
  | .plain text :: rest => consume (p.name text) rest
  | .separator :: rest => consume p.separator rest
  | .unknown :: rest => consume { p.interrupt with hasExcess := true } rest
  | .long f (some value) :: rest => do
    if f.takesValue then consume (← p.interrupt.flag f value) rest else throw .wrong
  | .long f none :: rest => do
    if !f.takesValue then consume (← p.interrupt.flag f "") rest
    else match rest with
      | .plain value :: rest => consume (← p.interrupt.flag f value) rest
      | _ => throw .wrong
  | .short f letters :: rest => do
    let c ← attached f letters
    match c.pending, rest with
    | none, rest => consume (← p.interrupt.flags c.flags) rest
    | some g, .plain value :: rest => consume (← p.interrupt.flags (c.flags ++ [(g, value)])) rest
    | some _, _ => throw .wrong

/-- What a command line asks for. -/
def Arguments.parse (line : List String) : Except Usage Arguments :=
  match words line with
  | none => .error .wrong
  | some ws => do
    let p ← consume {} ws
    if p.hasExcess || p.arguments.modules.isEmpty then throw .wrong
    return p.arguments

end Mapsmith.CommandLine
