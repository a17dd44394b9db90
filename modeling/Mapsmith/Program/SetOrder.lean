import Mapsmith.Program.Arithmetic

/-!
# Hashes and the order of sets

Numbers, rows of them and sets of them are looked up by numbers that are the same whenever a program runs. A set
keeps its things in a row of slots: a thing goes to the slot that its hash tells, or to the next free one nearby,
or else to one that more digits of the hash tell. One goes through a set from slot to slot. When three fifths of
the slots are taken, the things move to more of them.
-/

namespace Mapsmith.Program

namespace Hash

/-- The prime modulo which numbers are looked up. -/
def modulus : Nat := Nat.pow 2 61 - 1

/-- So many numbers have 64 binary digits. -/
def span : Nat := Nat.pow 2 64

/-- A number of 64 binary digits with a sign in the first one. -/
def signed (n : Nat) : Int :=
  let n := n % span
  if n ≥ Nat.pow 2 63 then Int.ofNat n - Int.ofNat span else Int.ofNat n

/-- The binary digits of a number with a sign. -/
def digits (n : Int) : Nat :=
  (Int.emod n (Int.ofNat span)).toNat

/-- A hash is never minus one. -/
def settled (n : Int) : Int :=
  if n = -1 then -2 else n

/-- A number with a sign, modulo the prime. -/
def ofSize (negative : Bool) (size : Nat) : Int :=
  let r := Int.ofNat (size % modulus)
  settled (if negative then -r else r)

/-- The hash of an integer. -/
def ofInt (n : Int) : Int :=
  ofSize (n < 0) n.natAbs

/-- A number to the power of another one modulo a third, by squaring. -/
def powerMod (base modulus : Nat) : Nat → Nat → Nat
  | 0, _ => 1 % modulus
  | fuel + 1, n =>
    if n = 0 then 1 % modulus
    else
      let half := powerMod (base * base % modulus) modulus fuel (n / 2)
      if n % 2 = 1 then half * base % modulus else half

/-- The inverse of a number modulo the prime. -/
def inverse (n : Nat) : Nat :=
  powerMod (n % modulus) modulus 64 (modulus - 2)

/-- The hash of infinity. -/
def infinity : Int := 314159

/-- The hash of a fraction: the numerator by the inverse of the denominator. -/
def ofFraction (num : Int) (den : Nat) : Int :=
  if den % modulus = 0 then (if num < 0 then -infinity else infinity)
  else ofSize (num < 0) (num.natAbs % modulus * inverse den)

/-- The hash of a binary number, but for what is no number. -/
def ofReal? (x : Binary64) : Option Int :=
  match x, x.fraction? with
  | .infinite negative, _ => some (if negative then -infinity else infinity)
  | _, some (num, den) => some (ofFraction num den)
  | _, none => none

/-- A number with its binary digits turned to the left. -/
def turned (n count : Nat) : Nat :=
  (n * Nat.pow 2 count % span) + n / Nat.pow 2 (64 - count)

/-- The hash of a row, from those of its things. -/
def ofRow (hashes : List Int) : Int :=
  let first : Nat := 11400714785074694791
  let second : Nat := 14029467366897019727
  let fifth : Nat := 2870177450012600261
  let sum := hashes.foldl (fun acc h =>
    turned ((acc + digits h * second) % span) 31 * first % span) fifth
  let sum := (sum + Nat.xor hashes.length (Nat.xor fifth 3527539)) % span
  if sum = span - 1 then 1546275796 else signed sum

/-- The digits of the hash of a thing of a set, mixed. -/
def mixed (h : Int) : Nat :=
  let n := digits h
  Nat.xor (Nat.xor n 89869747) (n * 65536 % span) * 3644798167 % span

/-- The hash of a set, from those of its things. -/
def ofSet (hashes : List Int) : Int :=
  let all := hashes.foldl (fun acc h => Nat.xor acc (mixed h)) 0
  let all := Nat.xor all ((hashes.length + 1) * 1927868237 % span)
  let all := Nat.xor all (Nat.xor (all / 2048) (all / 33554432))
  let all := (all * 69069 + 907133923) % span
  if all = span - 1 then 590923713 else signed all

/-- The hash of a plain value or of one that a class of the library has made, if it is the same whenever a program
runs. -/
def ofValue? (o : Object) : Option Int :=
  match o with
  | .constant (.str "") | .datum (.bytes []) => some 0
  | .datum (.duration n) => some (ofRow ([Duration.days n, Int.ofNat (Duration.seconds n),
      Int.ofNat (Duration.microseconds n)].map ofInt))
  | .datum (.identifier n) => some (ofInt (Int.ofNat n))
  | .datum (.complex re im) => match ofReal? re, ofReal? im with
    | some a, some b => some (settled (signed (digits a + digits b * 1000003)))
    | _, _ => none
  | .datum (.decimal d) => match d with
    | .infinite negative => some (if negative then -infinity else infinity)
    | d => d.fraction?.map fun (num, den) => ofFraction num den
  | o => match Number.of? o with
    | some (.int n) => some (ofInt n)
    | some (.real x) => ofReal? x
    | some (.fraction num den) => some (ofFraction num den)
    | _ => none

end Hash

namespace SetOrder

/-- Slots, each free or with a hash and a thing. -/
abbrev Slots := Array (Option (Int × Object))

/-- How many slots after the one that a hash tells are tried before others. -/
def nearby : Nat := 9

/-- The first free slot of so many, from one on. -/
def freeFrom (slots : Slots) : Nat → Nat → Option Nat
  | 0, _ => none
  | count + 1, i => match slots[i]? with
    | some none => some i
    | _ => freeFrom slots count (i + 1)

/-- The slot for a thing: the one that its hash tells, or another one. -/
def slotFor (slots : Slots) : Nat → Nat → Nat → Nat
  | 0, i, _ => i
  | fuel + 1, i, rest =>
    let count := if i + nearby < slots.size then nearby + 1 else 1
    match freeFrom slots count i with
    | some i => i
    | none =>
      let rest := rest / 32
      slotFor slots fuel ((i * 5 + 1 + rest) % slots.size) rest

/-- Slots with another thing. -/
def put (slots : Slots) (e : Int × Object) : Slots :=
  let n := Hash.digits e.1
  slots.setIfInBounds (slotFor slots (slots.size * 8 + 64) (n % slots.size) n) (some e)

/-- So many slots, a power of two that is greater than a number. -/
def sizeFor (least : Nat) : Nat → Nat → Nat
  | 0, n => n
  | fuel + 1, n => if n ≤ least then sizeFor least fuel (2 * n) else n

/-- The things in slots, in order. -/
def things (slots : Slots) : List (Int × Object) :=
  slots.toList.filterMap id

/-- Slots with another thing, more of them if too many are taken. -/
def added (slots : Slots) (e : Int × Object) : Slots :=
  let slots := put slots e
  let used := (things slots).length
  if used * 5 < (slots.size - 1) * 3 then slots
  else
    let size := sizeFor (if used > 50000 then used * 2 else used * 4) 64 8
    (things slots).foldl put (Array.replicate size none)

/-- Things in the order of a set to which they are added one by one. -/
def ofList (es : List (Int × Object)) : List Object :=
  (things (es.foldl added (Array.replicate 8 none))).map (·.2)

end SetOrder

end Mapsmith.Program
