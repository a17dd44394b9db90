import Mapsmith.Program.Expr
import Mapsmith.Program.Expr.Token
import Mapsmith.Text.Quoted

/-!
# Reading expressions

The expression of a text. Operators bind by their level: alternatives by `or` least, then `and`, `not`,
comparisons, bars and arithmetic, and signs in front of a number most but for powers. A text in a hole is
read for itself. Every step either takes a token or goes one level down, so a multiple of the number of
characters bounds the steps.
-/

namespace Mapsmith.Program.Expr

/-! ### Operators -/

/-- The signs that compare things. -/
def comparisonSigns : List String :=
  ["<", ">", "<=", ">=", "==", "!="]

/-- The level of a sign between two things. -/
def signLevel? (s : String) : Option Nat :=
  if s ∈ comparisonSigns then some 4
  else if s = "|" then some 5
  else if s = "^" then some 6
  else if s = "&" then some 7
  else if s ∈ ["<<", ">>"] then some 8
  else if s ∈ ["+", "-"] then some 9
  else if s ∈ ["*", "/", "//", "%", "@"] then some 10
  else if s = "**" then some 12
  else none

/-- The operator at the beginning of tokens, with its level and what follows it. -/
def operator? : List Token → Option (String × Nat × List Token)
  | .keyword "or" :: ts => some ("or", 1, ts)
  | .keyword "and" :: ts => some ("and", 2, ts)
  | .keyword "not" :: .keyword "in" :: ts => some ("not in", 4, ts)
  | .keyword "is" :: .keyword "not" :: ts => some ("is not", 4, ts)
  | .keyword "in" :: ts => some ("in", 4, ts)
  | .keyword "is" :: ts => some ("is", 4, ts)
  | .sign s :: ts => (signLevel? s).map fun level => (s, level, ts)
  | _ => none

/-- The operator at the beginning of tokens, if it compares things. -/
def comparison? (ts : List Token) : Option (String × List Token) :=
  match operator? ts with
  | some (operator, 4, ts) => some (operator, ts)
  | _ => none

/-- Two things with an operator between them. -/
def joined (operator : String) (left right : Expr) : Expr :=
  if operator = "or" then disjunction left right
  else if operator = "and" then conjunction left right
  else if operator = "|" then bars left right
  else operation operator left right

/-- The level of the right side of an operator. All but powers lean to the left. -/
def rightLevel (level : Nat) : Nat :=
  if level = 12 then 11 else level + 1

/-! ### Atoms -/

/-- The meaning of a word that is no name. -/
def ofKeyword? (word : String) : Option Expr :=
  if word = "None" then some (constant .null)
  else if word = "True" then some (constant (.bool true))
  else if word = "False" then some (constant (.bool false))
  else none

/-- A text as an expression. -/
def ofString (s : String) : Expr :=
  constant (.str s)

/-- Bytes as an expression. -/
def ofBytes (values : List Nat) : Expr :=
  datum (.bytes values)

/-- Bytes that follow each other are one. -/
def bytes : List Token → List Nat × List Token
  | .bytes values :: ts =>
    let (more, ts) := bytes ts
    (values ++ more, ts)
  | ts => ([], ts)

/-- Expressions one after the other, in which texts that follow each other are one. -/
def mergedPieces : List Expr → List Expr
  | constant (.str s) :: es => match mergedPieces es with
    | constant (.str t) :: es => ofString (s ++ t) :: es
    | es => ofString s :: es
  | e :: es => e :: mergedPieces es
  | [] => []

/-- The text that pieces make. Without holes it is a text as it stands. -/
def ofPieces (es : List Expr) : Expr :=
  match mergedPieces es with
  | [] => ofString ""
  | [constant (.str s)] => ofString s
  | es => pieces es

/-- Things with commas between them, and whether there is a comma. -/
structure Items where
  /-- The things. -/
  items : List Expr
  /-- Is there a comma? -/
  hasComma : Bool := true

namespace Items

variable (is : Items)

/-- A thing in front of the things. -/
def after (e : Expr) : Items :=
  ⟨e :: is.items, true⟩

/-- The body of the loop that the things are, if they are one that no brackets are around yet. -/
def loop? : Option Expr :=
  match is with
  | ⟨[gathered "" body], false⟩ => some body
  | _ => none

/-- Are there no loops without brackets around them? -/
def arePlain : Bool :=
  is.items.all fun e => !(e matches gathered "" _)

/-- Things in a row: one without a comma stands for itself. -/
def row : Expr :=
  match is with
  | ⟨[spread e], false⟩ => Expr.row [spread e]
  | ⟨[e], false⟩ => e
  | ⟨items, _⟩ => Expr.row items

/-- Things between parentheses: one without a comma cannot be set out in place. -/
def parenthesized? : Option Expr :=
  match is.loop? with
  | some body => some (gathered "generator" body)
  | none => match is with
    | ⟨[spread _], false⟩ => none
    | is => if is.arePlain then some is.row else none

/-- Things between brackets of a kind. -/
def bracketed? (kind : String) (f : List Expr → Expr) : Option Expr :=
  match is.loop? with
  | some body => some (gathered kind body)
  | none => if is.arePlain then some (f is.items) else none

end Items

/-- A bound of a slice that may be missing. -/
def bound (e : Option Expr) : Expr :=
  e.getD (constant .null)

/-! ### Checks -/

mutual

/-- Can things be given the names in the expression? -/
def isTarget : Expr → Bool
  | name _ | member .. | subscript .. => true
  | row items | list items => areTargets items && (items.filter (· matches spread _)).length ≤ 1
  | _ => false

/-- Can things be given the names in expressions in a row? One may take what is left. -/
def areTargets : List Expr → Bool
  | [] => true
  | spread e :: es => isTarget e && areTargets es
  | e :: es => isTarget e && areTargets es

end

/-- Are these arguments of a call? Those in their places come first, and a name stands once. -/
def areArguments (args : List Expr) : Bool :=
  let names := args.filterMap fun e => match e with
    | keyword n _ => some n
    | _ => none
  let afterNames := args.dropWhile fun e => !(e matches keyword .. | entries _)
  let afterEntries := args.dropWhile fun e => !(e matches entries _)
  names.eraseDups.length = names.length
    && afterNames.all (fun e => e matches keyword .. | entries _ | spread _)
    && afterEntries.all (fun e => e matches keyword .. | entries _)

/-- A parameter of a function without a name. -/
inductive LambdaItem
  /-- What comes before is given by place only. -/
  | slash
  /-- What comes after is given by name only; a name takes the rest. -/
  | star (name : Option String)
  /-- A name takes what is given by other names. -/
  | stars (name : String)
  /-- A name, with its default value if it has one. -/
  | plain (name : String) (default : Option Expr)

namespace LambdaItem

/-- The name that the item brings. -/
def name? : LambdaItem → Option String
  | slash => none
  | star n => n
  | stars n | plain n _ => some n

/-- The default value of the item. -/
def default? : LambdaItem → Option Expr
  | plain _ default => default
  | _ => none

/-- Is the item a name? -/
def isPlain : LambdaItem → Bool
  | plain .. => true
  | _ => false

/-- The parameters that items are, given whether what comes is passed by name only. -/
def parametersFrom : Bool → List LambdaItem → List (String × Passing × Bool)
  | _, [] => []
  | byName, plain n default :: is =>
    (n, if byName then .keyword else .either, default.isSome) :: parametersFrom byName is
  | byName, slash :: is => parametersFrom byName is
  | _, star (some n) :: is => (n, .rest, false) :: parametersFrom true is
  | _, star none :: is => parametersFrom true is
  | _, stars n :: is => (n, .keywords, false) :: parametersFrom true is

/-- The parameters that items are. What comes before a stroke is passed by place only. -/
def parameters (items : List LambdaItem) : List (String × Passing × Bool) :=
  let all := parametersFrom false items
  let byPlace := (items.takeWhile isPlain).length
  if items.any (· matches slash) then
    (all.take byPlace).map (fun (n, _, d) => (n, .positional, d)) ++ all.drop byPlace
  else all

/-- Are these the parameters of a function? -/
def areParameters (items : List LambdaItem) : Bool :=
  let names := items.filterMap name?
  let isStar (i : LambdaItem) : Bool := i matches LambdaItem.star _
  let byPlace := items.takeWhile fun i => i matches LambdaItem.slash | LambdaItem.plain ..
  let byName := (items.drop byPlace.length).drop 1
  let isBare := (items.drop byPlace.length).head?.any (· matches LambdaItem.star none)
  let plain := byPlace.filter isPlain
  names.all Token.isGiven
    && names.eraseDups.length = names.length
    && (byPlace.filter (!isPlain ·)).length ≤ 1
    && !byPlace.head?.any (!isPlain ·)
    && ((plain.dropWhile fun i => i.default?.isNone).all fun i => i.default?.isSome)
    && (!(items.drop byPlace.length).head?.any (fun i => !isStar i) || byName.isEmpty)
    && byName.dropLast.all isPlain
    && byName.getLast?.all (fun i => i matches LambdaItem.plain .. | LambdaItem.stars _)
    && (!isBare || byName.head?.any isPlain)

end LambdaItem

/-! ### Expressions -/

mutual

/-- An expression: alternatives, a choice between two, or a function without a name. -/
def choiceWithin : Nat → List Token → Option (Expr × List Token)
  | 0, _ => none
  | fuel + 1, ts =>
    match ts with
    | .keyword "lambda" :: ts => do
      let (items, ts) ← parametersWithin fuel ts
      let (body, ts) ← choiceWithin fuel ts
      if LambdaItem.areParameters items then
        let parameters := LambdaItem.parameters items
        return (abstraction parameters (items.filterMap LambdaItem.default?) body, ts)
      else none
    | ts => do
      let (yes, ts) ← levelWithin fuel 1 ts
      match ts with
      | .keyword "if" :: ts =>
        let (condition, ts) ← levelWithin fuel 1 ts
        match ts with
        | .keyword "else" :: ts =>
          let (no, ts) ← choiceWithin fuel ts
          some (choice condition yes no, ts)
        | _ => none
      | _ => some (yes, ts)

/-- The parameters of a function without a name, up to the colon after them. -/
def parametersWithin : Nat → List Token → Option (List LambdaItem × List Token)
  | 0, _ => none
  | fuel + 1, ts => do
    if ts.head? = some (.sign ":") then return ([], ts.tail)
    let (item, ts) ← match ts with
      | .sign "/" :: ts => some (LambdaItem.slash, ts)
      | .sign "*" :: .name w :: ts => some (.star (some w), ts)
      | .sign "*" :: ts => some (.star none, ts)
      | .sign "**" :: .name w :: ts => some (.stars w, ts)
      | .name w :: .sign "=" :: ts =>
        (choiceWithin fuel ts).map fun (e, ts) => (.plain w (some e), ts)
      | .name w :: ts => some (.plain w none, ts)
      | _ => none
    match ts with
    | .sign "," :: ts =>
      let (items, ts) ← parametersWithin fuel ts
      some (item :: items, ts)
    | .sign ":" :: ts => some ([item], ts)
    | _ => none

/-- An expression, or one that gets a name. -/
def namedWithin : Nat → List Token → Option (Expr × List Token)
  | 0, _ => none
  | fuel + 1, ts =>
    match ts with
    | .name w :: .sign ":=" :: ts =>
      if Token.isGiven w then (choiceWithin fuel ts).map fun (e, ts) => (named w e, ts) else none
    | ts => choiceWithin fuel ts

/-- Things joined by operators of a level or above. -/
def levelWithin : Nat → Nat → List Token → Option (Expr × List Token)
  | 0, _, _ => none
  | fuel + 1, level, ts => do
    let (left, ts) ← operandWithin fuel level ts
    moreWithin fuel level left ts

/-- What joins on to a thing by operators of a level or above. -/
def moreWithin : Nat → Nat → Expr → List Token → Option (Expr × List Token)
  | 0, _, _, _ => none
  | fuel + 1, level, left, ts =>
    match operator? ts with
    | none => some (left, ts)
    | some (operator, its, rest) =>
      if its < level then some (left, ts)
      else if its = 4 then do
        let (operators, others, rest) ← comparedWithin fuel ts
        moreWithin fuel level (comparison left operators others) rest
      else do
        let (right, rest) ← levelWithin fuel (rightLevel its) rest
        moreWithin fuel level (joined operator left right) rest

/-- The things that a thing is compared with, and how. -/
def comparedWithin : Nat → List Token → Option (List String × List Expr × List Token)
  | 0, _ => none
  | fuel + 1, ts =>
    match comparison? ts with
    | none => some ([], [], ts)
    | some (operator, ts) => do
      let (right, ts) ← levelWithin fuel 5 ts
      let (operators, others, ts) ← comparedWithin fuel ts
      some (operator :: operators, right :: others, ts)

/-- A thing with operators in front of it. -/
def operandWithin : Nat → Nat → List Token → Option (Expr × List Token)
  | 0, _, _ => none
  | fuel + 1, level, ts =>
    match ts with
    | .keyword "not" :: ts =>
      if level > 3 then none
      else (levelWithin fuel 3 ts).map fun (e, ts) => (negation e, ts)
    | .sign "-" :: ts => (levelWithin fuel 11 ts).map fun (e, ts) => (signed "-" e, ts)
    | .sign "+" :: ts => (levelWithin fuel 11 ts).map fun (e, ts) => (signed "+" e, ts)
    | .sign "~" :: ts => (levelWithin fuel 11 ts).map fun (e, ts) => (signed "~" e, ts)
    | ts => do
      let (e, ts) ← atomWithin fuel ts
      trailersWithin fuel e ts

/-- A thing by itself. -/
def atomWithin : Nat → List Token → Option (Expr × List Token)
  | 0, _ => none
  | fuel + 1, ts =>
    match ts with
    | .name w :: ts => some (name w, ts)
    | .keyword w :: ts => (ofKeyword? w).map (·, ts)
    | .number v :: ts => some (constant v, ts)
    | .imaginary s :: ts => some (datum (.imaginary s), ts)
    | .sign "..." :: ts => some (ellipsis, ts)
    | .sign "(" :: ts => do
      let (items, ts) ← itemsWithin fuel ")" ts
      return (← items.parenthesized?, ts)
    | .sign "[" :: ts => do
      let (items, ts) ← itemsWithin fuel "]" ts
      return (← items.bracketed? "list" list, ts)
    | .sign "\x7b" :: ts => bracedWithin fuel ts
    | .bytes values :: ts =>
      let (more, ts) := bytes ts
      some (ofBytes (values ++ more), ts)
    | ts => do
      let (es, ts) ← textsWithin fuel ts
      if es.isEmpty then none else some (ofPieces es, ts)

/-- Texts that follow each other, piece by piece. -/
def textsWithin : Nat → List Token → Option (List Expr × List Token)
  | 0, _ => none
  | fuel + 1, ts =>
    match ts with
    | .text s :: ts => do
      let (more, ts) ← textsWithin fuel ts
      return (ofString s :: more, ts)
    | .pieces ps :: ts => do
      let es ← piecesWithin fuel ps
      let (more, ts) ← textsWithin fuel ts
      return (es ++ more, ts)
    | ts => some ([], ts)

/-- The pieces of a text with holes. -/
def piecesWithin : Nat → List Piece → Option (List Expr)
  | 0, _ => none
  | _ + 1, [] => some []
  | fuel + 1, .plain s :: ps => (piecesWithin fuel ps).map (ofString s :: ·)
  | fuel + 1, .hole source way layout :: ps => do
    let ts ← Token.all? ("(" ++ source ++ ")")
    let (e, []) ← atomWithin fuel ts | none
    let inner ← piecesWithin fuel (← Token.piecesWithin false (layout.length + 1) [] layout.toList)
    return shown way (ofPieces inner) e :: (← piecesWithin fuel ps)

/-- Things with commas between them up to a closing bracket, or one with the loops that make it many. -/
def itemsWithin : Nat → String → List Token → Option (Items × List Token)
  | 0, _, _ => none
  | fuel + 1, close, ts =>
    if ts.head? = some (.sign close) then some (⟨[], true⟩, ts.tail)
    else do
      let (item, ts) ← itemWithin fuel ts
      itemsAfterWithin fuel close item ts

/-- Things with commas between them up to a closing bracket, after the first one. -/
def itemsAfterWithin : Nat → String → Expr → List Token → Option (Items × List Token)
  | 0, _, _, _ => none
  | fuel + 1, close, item, ts =>
    match ts with
    | .sign "," :: ts => do
      let (items, ts) ← itemsWithin fuel close ts
      some (items.after item, ts)
    | .keyword "for" :: ts => do
      let (loops, ts) ← loopsWithin fuel ts
      if item matches spread _ then none
      else if ts.head? = some (.sign close) then
        some (⟨[gathered "" (loops (list [item]))], false⟩, ts.tail)
      else none
    | t :: ts => if t = .sign close then some (⟨[item], false⟩, ts) else none
    | [] => none

/-- A thing in a row, or the parts of one set out in place. -/
def itemWithin : Nat → List Token → Option (Expr × List Token)
  | 0, _ => none
  | fuel + 1, ts =>
    match ts with
    | .sign "*" :: ts => (levelWithin fuel 5 ts).map fun (e, ts) => (spread e, ts)
    | ts => namedWithin fuel ts

/-- The loops that make many things of one, from the first target on. -/
def loopsWithin : Nat → List Token → Option ((Expr → Expr) × List Token)
  | 0, _ => none
  | fuel + 1, ts => do
    let (targets, ts) ← targetsWithin fuel ts
    let .keyword "in" :: ts := ts | none
    if !isTarget targets.row then none
    let (things, ts) ← levelWithin fuel 1 ts
    let (conditions, ts) ← conditionsWithin fuel ts
    let (inner, ts) ← match ts with
      | .keyword "for" :: ts => loopsWithin fuel ts
      | ts => some (id, ts)
    return (fun body => each targets.row things (conditions.foldr given (inner body)), ts)

/-- The targets of a loop. -/
def targetsWithin : Nat → List Token → Option (Items × List Token)
  | 0, _ => none
  | fuel + 1, ts => do
    let (target, ts) ← match ts with
      | .sign "*" :: ts => (levelWithin fuel 5 ts).map fun (e, ts) => (spread e, ts)
      | ts => levelWithin fuel 5 ts
    match ts with
    | .sign "," :: .keyword "in" :: ts => some (⟨[target], true⟩, .keyword "in" :: ts)
    | .sign "," :: ts =>
      let (targets, ts) ← targetsWithin fuel ts
      some (targets.after target, ts)
    | ts => some (⟨[target], false⟩, ts)

/-- The conditions of a loop. -/
def conditionsWithin : Nat → List Token → Option (List Expr × List Token)
  | 0, _ => none
  | fuel + 1, ts =>
    match ts with
    | .keyword "if" :: ts => do
      let (condition, ts) ← levelWithin fuel 1 ts
      let (more, ts) ← conditionsWithin fuel ts
      some (condition :: more, ts)
    | ts => some ([], ts)

/-- What stands in braces: keys with values, or things. -/
def bracedWithin : Nat → List Token → Option (Expr × List Token)
  | 0, _ => none
  | fuel + 1, ts =>
    let startsKey := match ts with
      | .sign "*" :: _ | .name _ :: .sign ":=" :: _ => false
      | _ => true
    match ts with
    | .sign "\x7d" :: ts => some (table [], ts)
    | .sign "**" :: _ => (entriesWithin fuel ts).map fun (es, ts) => (table es, ts)
    | ts => do
      let (item, ts) ← itemWithin fuel ts
      match startsKey, ts with
      | true, .sign ":" :: ts =>
        let (value, ts) ← choiceWithin fuel ts
        match ts with
        | .keyword "for" :: ts =>
          let (loops, ts) ← loopsWithin fuel ts
          let .sign "\x7d" :: ts := ts | none
          return (gathered "dict" (loops (list [row [item, value]])), ts)
        | .sign "," :: ts =>
          let (es, ts) ← entriesWithin fuel ts
          return (table (row [item, value] :: es), ts)
        | .sign "\x7d" :: ts => return (table [row [item, value]], ts)
        | _ => none
      | _, ts =>
        let (items, ts) ← itemsAfterWithin fuel "\x7d" item ts
        return (← items.bracketed? "set" set, ts)

/-- Keys with values up to the closing brace. -/
def entriesWithin : Nat → List Token → Option (List Expr × List Token)
  | 0, _ => none
  | fuel + 1, ts => do
    if ts.head? = some (.sign "\x7d") then return ([], ts.tail)
    let (entry, ts) ← match ts with
      | .sign "**" :: ts => (levelWithin fuel 5 ts).map fun (e, ts) => (entries e, ts)
      | ts => do
        let (key, ts) ← choiceWithin fuel ts
        let .sign ":" :: ts := ts | none
        let (value, ts) ← choiceWithin fuel ts
        some (row [key, value], ts)
    match ts with
    | .sign "," :: ts =>
      let (es, ts) ← entriesWithin fuel ts
      some (entry :: es, ts)
    | .sign "\x7d" :: ts => some ([entry], ts)
    | _ => none

/-- Members, subscripts and calls that follow a thing. -/
def trailersWithin : Nat → Expr → List Token → Option (Expr × List Token)
  | 0, _, _ => none
  | fuel + 1, e, ts =>
    match ts with
    | .sign "." :: .name w :: ts => trailersWithin fuel (member e w) ts
    | .sign "[" :: ts => do
      let (indices, ts) ← indicesWithin fuel ts
      if indices.items.isEmpty then none else trailersWithin fuel (subscript e indices.row) ts
    | .sign "(" :: ts => do
      let (args, ts) ← argumentsWithin fuel ts
      match args.loop? with
      | some body => trailersWithin fuel (call e [gathered "generator" body]) ts
      | none =>
        if args.arePlain && areArguments args.items then trailersWithin fuel (call e args.items) ts
        else none
    | ts => some (e, ts)

/-- What stands in a subscript: things and slices with commas between them. -/
def indicesWithin : Nat → List Token → Option (Items × List Token)
  | 0, _ => none
  | fuel + 1, ts =>
    if ts.head? = some (.sign "]") then some (⟨[], true⟩, ts.tail)
    else do
      let (item, ts) ← indexWithin fuel ts
      match ts with
      | .sign "," :: ts =>
        let (items, ts) ← indicesWithin fuel ts
        some (items.after item, ts)
      | .sign "]" :: ts => some (⟨[item], false⟩, ts)
      | _ => none

/-- A thing in a subscript, or a slice between two bounds. -/
def indexWithin : Nat → List Token → Option (Expr × List Token)
  | 0, _ => none
  | fuel + 1, ts => do
    let isBound := match ts with
      | .sign "*" :: _ | .name _ :: .sign ":=" :: _ => false
      | _ => true
    let (first, ts) ← match ts with
      | .sign ":" :: _ => some (none, ts)
      | .sign "*" :: ts => (choiceWithin fuel ts).map fun (e, ts) => (some (spread e), ts)
      | ts => (namedWithin fuel ts).map fun (e, ts) => (some e, ts)
    match ts with
    | .sign ":" :: ts =>
      if !isBound then none
      let (last, ts) ← boundWithin fuel ts
      match ts with
      | .sign ":" :: ts =>
        let (step, ts) ← boundWithin fuel ts
        some (slice (bound first) (bound last) (bound step), ts)
      | ts => some (slice (bound first) (bound last) (bound none), ts)
    | ts => first.map (·, ts)

/-- A bound of a slice, if there is one. -/
def boundWithin : Nat → List Token → Option (Option Expr × List Token)
  | 0, _ => none
  | fuel + 1, ts =>
    match ts with
    | .sign ":" :: _ | .sign "," :: _ | .sign "]" :: _ => some (none, ts)
    | ts => (choiceWithin fuel ts).map fun (e, ts) => (some e, ts)

/-- The arguments of a call. -/
def argumentsWithin : Nat → List Token → Option (Items × List Token)
  | 0, _ => none
  | fuel + 1, ts =>
    if ts.head? = some (.sign ")") then some (⟨[], true⟩, ts.tail)
    else do
      let (arg, ts) ← argumentWithin fuel ts
      match ts with
      | .sign "," :: ts =>
        let (args, ts) ← argumentsWithin fuel ts
        some (args.after arg, ts)
      | .sign ")" :: ts => some (⟨[arg], false⟩, ts)
      | _ => none

/-- An argument of a call. -/
def argumentWithin : Nat → List Token → Option (Expr × List Token)
  | 0, _ => none
  | fuel + 1, ts =>
    match ts with
    | .sign "*" :: ts => (choiceWithin fuel ts).map fun (e, ts) => (spread e, ts)
    | .sign "**" :: ts => (choiceWithin fuel ts).map fun (e, ts) => (entries e, ts)
    | .name w :: .sign "=" :: ts =>
      if Token.isGiven w then (choiceWithin fuel ts).map fun (e, ts) => (keyword w e, ts) else none
    | ts => do
      let (arg, ts) ← namedWithin fuel ts
      match ts with
      | .keyword "for" :: ts =>
        let (loops, ts) ← loopsWithin fuel ts
        some (gathered "" (loops (list [arg])), ts)
      | ts => some (arg, ts)

end

/-- Expressions with commas between them up to the end. -/
def rowWithin (fuel : Nat) : Nat → List Token → Option Items
  | 0, _ => none
  | _ + 1, [] => some ⟨[], true⟩
  | count + 1, ts => do
    let (e, ts) ← choiceWithin fuel ts
    match ts with
    | [] => some ⟨[e], false⟩
    | .sign "," :: ts => return (← rowWithin fuel count ts).after e
    | _ => none

/-- The expression of a text that is no row's parts. -/
def ofPlainText? (s : String) : Option Expr := do
  let ts ← Token.all? s
  let items ← rowWithin (16 * (s.length + 2)) (ts.length + 1) ts
  if items.items.isEmpty then none else some items.row

/-- The expression of a text. Parts that are set out in place stand for the first of them. -/
def ofText? (s : String) : Option Expr :=
  ofPlainText? (if s.startsWith "*" then "(" ++ s ++ ",)[0]" else s)

end Mapsmith.Program.Expr
