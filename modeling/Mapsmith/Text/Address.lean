import Mapsmith.Text.Quoted

/-!
# Addresses

Addresses of things in nets: how something is reached, where it is, its path there and what is asked for. Some ways of
reaching things have a gate of their own, which is not told, and paths that begin at a root.
-/

namespace Mapsmith.Text

/-- An address of something in a net. -/
structure Address where
  /-- How it is reached. -/
  scheme : String
  /-- Who asks for it. -/
  user : Option String := none
  /-- The word by which the one who asks is known. -/
  password : Option String := none
  /-- Where it is. -/
  host : Option String := none
  /-- The gate there. -/
  port : Option Nat := none
  /-- The path there. -/
  path : Option String := none
  /-- What is asked for. -/
  query : Option String := none
  /-- A part of it. -/
  fragment : Option String := none
  deriving Repr

namespace Address

/-- The ways in which a path begins at a root, with their gates. -/
def rooted : List (String × Nat) :=
  [("http", 80), ("https", 443), ("ws", 80), ("wss", 443), ("ftp", 21)]

/-- A text before a character and the one after it, if the character is there. -/
def partAt (c : Char) (cs : List Char) : List Char × Option (List Char) :=
  match cs.dropWhile (· ≠ c) with
  | [] => (cs, none)
  | _ :: rest => (cs.takeWhile (· ≠ c), some rest)

/-- The number of a gate that a text tells, if it tells one. -/
def port? (cs : Option (List Char)) : Option (Option Nat) :=
  match cs with
  | none | some [] => some none
  | some ds =>
    let n := ds.foldl (fun n c => 10 * n + (c.toNat - 48)) 0
    if ds.all Char.isDigit && n < 65536 then some (some n) else none

/-- An address with a place in a net, told by the text after the way to reach it. -/
def ofPlace? (scheme : String) (rest : List Char) : Option Address :=
  let isRooted := (rooted.lookup scheme).isSome
  let place := rest.takeWhile (· ≠ '/')
  let path := String.ofList (rest.dropWhile (· ≠ '/'))
  let (user, place) : Option (List Char) × List Char := match partAt '@' place with
    | (user, some place) => (some user, place)
    | (place, none) => (none, place)
  let (user, password) : Option (List Char) × Option (List Char) := match user with
    | some cs => (some (partAt ':' cs).1, (partAt ':' cs).2)
    | none => (none, none)
  let (host, port) := partAt ':' place
  let isBad (c : Char) : Bool := c = ' ' || c = '<' || c = '>'
  if (host.isEmpty && isRooted) || host.any isBad then none
  else (port? port).map fun port => {
    scheme
    user := user.map String.ofList
    password := password.map String.ofList
    host := if host.isEmpty then none else some (String.ofList (host.map Char.toLower))
    port := if port = rooted.lookup scheme then none else port
    path := if path = "" then (if isRooted then some "/" else none) else some path }

/-- The address that a text spells. -/
def ofText? (s : String) : Option Address :=
  match partAt ':' s.toList with
  | (_, none) => none
  | (scheme, some rest) =>
    let isLetter (c : Char) : Bool := c.isAlphanum || c = '+' || c = '-' || c = '.'
    if !scheme.all isLetter || !(scheme.headD '0').isAlpha then none
    else
      let scheme := String.ofList (scheme.map Char.toLower)
      let (rest, fragment) := partAt '#' rest
      let (rest, query) := partAt '?' rest
      let found : Option Address := match rest.take 2 with
        | ['/', '/'] => ofPlace? scheme (rest.drop 2)
        | _ => if (rooted.lookup scheme).isSome then none
          else some { scheme, path := some (String.ofList rest) }
      found.map fun a => { a with
        query := query.map String.ofList
        fragment := fragment.map String.ofList }

/-- An address as a text. -/
def text (a : Address) : String :=
  let user := match a.user, a.password with
    | some name, some word => name ++ ":" ++ word ++ "@"
    | some name, none => name ++ "@"
    | none, _ => ""
  let place := match a.host with
    | some host => "//" ++ user ++ host ++ (a.port.map fun n => ":" ++ toString n).getD ""
    | none => ""
  a.scheme ++ ":" ++ place ++ a.path.getD "" ++ ((a.query.map ("?" ++ ·)).getD "")
    ++ ((a.fragment.map ("#" ++ ·)).getD "")

end Address

end Mapsmith.Text
