import Mapsmith.Text.Quoted

/-!
# Texts as bytes

The encodings in which texts are exchanged as bytes, and what becomes of a character that an encoding does not have
or of bytes that stand for no character: it is an error, or it is left out, or something else takes its place. An
encoding is known by several names, in which case and the marks between their words do not count.
-/

namespace Mapsmith.Text

/-- An encoding of texts. -/
inductive Codec
  /-- One byte for each of the first 128 characters. -/
  | ascii
  /-- One byte for each of the first 256 characters. -/
  | latin
  /-- One byte for each of the characters of western letters and marks. -/
  | western
  /-- One to four bytes for a character; there may be a mark in front. -/
  | bytewise (hasMark : Bool)
  /-- Two or four bytes for a character, the greatest first or last; there may be a mark in front. -/
  | pairwise (isBig hasMark : Bool)
  /-- Four bytes for a character, the greatest first or last; there may be a mark in front. -/
  | fourfold (isBig hasMark : Bool)
  /-- The first 256 characters as they are and others by their numbers, after a backslash; all but the printable
  ones may be told that way. -/
  | escaped (isAll : Bool)
  deriving DecidableEq, Repr

namespace Codec

/-- A name of an encoding in the form in which names are compared. -/
def plainName (name : String) : String :=
  String.ofList (name.toList.map fun c => if c = '-' || c = ' ' then '_' else c.toLower)

/-- The names of encodings. -/
def names : List (String × Codec) :=
  let all (words : String) (c : Codec) : List (String × Codec) := (words.splitOn " ").map (·, c)
  all "ascii us_ascii 646 ansi_x3.4_1968 iso646_us iso_ir_6 cp367 csascii ibm367 us" .ascii
    ++ all "latin_1 latin1 latin l1 8859 cp819 iso8859_1 iso_8859_1 iso8859 csisolatin1 ibm819 iso_ir_100" .latin
    ++ all "cp1252 1252 windows_1252" .western
    ++ all "utf_8 utf8 u8 utf utf8_ucs2 utf8_ucs4 cp65001" (.bytewise false)
    ++ all "utf_8_sig" (.bytewise true)
    ++ all "utf_16 utf16 u16" (.pairwise false true)
    ++ all "utf_16_le utf_16le unicodelittleunmarked" (.pairwise false false)
    ++ all "utf_16_be utf_16be unicodebigunmarked" (.pairwise true false)
    ++ all "utf_32 utf32 u32" (.fourfold false true)
    ++ all "utf_32_le utf_32le" (.fourfold false false)
    ++ all "utf_32_be utf_32be" (.fourfold true false)
    ++ all "unicode_escape unicodeescape" (.escaped true)
    ++ all "raw_unicode_escape" (.escaped false)

/-- The encoding of a name. -/
def ofName? (name : String) : Option Codec :=
  names.lookup (plainName name)

/-- The characters of western letters and marks that take the places from 128 on; nothing where there is none. -/
def westernPlaces : List Nat :=
  [0x20ac, 0, 0x201a, 0x192, 0x201e, 0x2026, 0x2020, 0x2021, 0x2c6, 0x2030, 0x160, 0x2039, 0x152, 0, 0x17d, 0, 0,
    0x2018, 0x2019, 0x201c, 0x201d, 0x2022, 0x2013, 0x2014, 0x2dc, 0x2122, 0x161, 0x203a, 0x153, 0, 0x17e, 0x178]

/-- A number in so many bytes, the greatest first or last. -/
def inBytes (isBig : Bool) (count n : Nat) : List Nat :=
  let low := (List.range count).map fun i => n / Nat.pow 256 i % 256
  if isBig then low.reverse else low

/-- A number told by bytes, the greatest first or last. -/
def ofBytes (isBig : Bool) (bytes : List Nat) : Nat :=
  (if isBig then bytes else bytes.reverse).foldl (fun n b => 256 * n + b) 0

/-- The number of a character after a backslash and a letter that tells how long it is. -/
def numbered (n : Nat) : List Char :=
  if n < 0x100 then '\\' :: 'x' :: hexPadded 2 n
  else if n < 0x10000 then '\\' :: 'u' :: hexPadded 4 n
  else '\\' :: 'U' :: hexPadded 8 n

/-- The bytes of a character, if the encoding has it. -/
def ofChar? (codec : Codec) (c : Char) : Option (List Nat) :=
  let n := c.toNat
  match codec with
  | ascii => if n < 128 then some [n] else none
  | latin => if n < 256 then some [n] else none
  | western =>
    if n < 128 || (160 ≤ n && n < 256) then some [n]
    else if n = 0 then none
    else (westernPlaces.findIdx? (· = n)).map fun i => [128 + i]
  | bytewise _ => some ((String.singleton c).toUTF8.toList.map UInt8.toNat)
  | pairwise isBig _ =>
    if n < 0x10000 then some (inBytes isBig 2 n)
    else
      let k := n - 0x10000
      some (inBytes isBig 2 (0xd800 + k / 0x400) ++ inBytes isBig 2 (0xdc00 + k % 0x400))
  | fourfold isBig _ => some (inBytes isBig 4 n)
  | escaped isAll =>
    let plain (cs : List Char) : List Nat := cs.map Char.toNat
    if isAll then
      if c = '\\' then some (plain ['\\', '\\'])
      else if c = '\n' then some (plain ['\\', 'n'])
      else if c = '\r' then some (plain ['\\', 'r'])
      else if c = '\t' then some (plain ['\\', 't'])
      else if 32 ≤ n && n < 127 then some [n] else some (plain (numbered n))
    else if n < 256 then some [n] else some (plain (numbered n))

/-- What takes the place of a character that an encoding does not have. -/
def instead? (handler : String) (c : Char) : Except String (List Char) :=
  match handler with
  | "strict" | "surrogateescape" | "surrogatepass" => .error "UnicodeEncodeError"
  | "ignore" => .ok []
  | "replace" => .ok ['?']
  | "backslashreplace" => .ok (numbered c.toNat)
  | "xmlcharrefreplace" => .ok (('&' :: '#' :: Nat.toDigits 10 c.toNat) ++ [';'])
  | _ => .error "LookupError"

/-- The mark that an encoding puts in front of a text. -/
def mark (codec : Codec) : List Nat :=
  match codec with
  | bytewise true => [0xef, 0xbb, 0xbf]
  | pairwise isBig true => inBytes isBig 2 0xfeff
  | fourfold isBig true => inBytes isBig 4 0xfeff
  | _ => []

/-- A text as bytes, or the name of the failure that it comes to. -/
def encode (codec : Codec) (handler : String) (cs : List Char) : Except String (List Nat) := do
  let parts ← cs.mapM fun c => match codec.ofChar? c with
    | some bytes => pure bytes
    | none => do
      let others ← instead? handler c
      pure (others.flatMap fun c => (codec.ofChar? c).getD [])
  return codec.mark ++ parts.flatten

/-! ### Back again -/

/-- What comes first in bytes: a character with the number of bytes that it takes, or a number of bytes that stand
for none. -/
inductive First
  /-- A character. -/
  | char (c : Char) (count : Nat)
  /-- Bytes that stand for no character. -/
  | bad (count : Nat)
  /-- Bytes that stand for nothing by themselves. -/
  | nothing (count : Nat)

/-- The character of a number, in so many bytes. -/
def charIn (n count : Nat) : First :=
  if n < 0x110000 && !(0xd800 ≤ n && n < 0xe000) then .char (Char.ofNat n) count else .bad count

/-- What comes first in bytes of which one to four make a character. -/
def firstBytewise (bytes : List Nat) : First :=
  match bytes with
  | [] => .nothing 0
  | b :: rest =>
    let (count, low, high) :=
      if b < 0x80 then (1, 0, 0)
      else if 0xc2 ≤ b && b < 0xe0 then (2, 0x80, 0xc0)
      else if b = 0xe0 then (3, 0xa0, 0xc0)
      else if b = 0xed then (3, 0x80, 0xa0)
      else if 0xe1 ≤ b && b < 0xf0 then (3, 0x80, 0xc0)
      else if b = 0xf0 then (4, 0x90, 0xc0)
      else if b = 0xf4 then (4, 0x80, 0x90)
      else if 0xf1 ≤ b && b < 0xf4 then (4, 0x80, 0xc0)
      else (0, 0, 0)
    if count = 0 then .bad 1
    else if count = 1 then .char (Char.ofNat b) 1
    else
      let following := rest.take (count - 1)
      let good := match following with
        | [] => 0
        | x :: xs => if low ≤ x && x < high then 1 + (xs.takeWhile fun x => 0x80 ≤ x && x < 0xc0).length else 0
      if good = count - 1 then
        let front := if count = 2 then b % 32 else if count = 3 then b % 16 else b % 8
        charIn (following.foldl (fun n x => 64 * n + x % 64) front) count
      else .bad (1 + good)

/-- What comes first in bytes that may tell characters by their numbers after a backslash. -/
def firstEscaped (isAll : Bool) (bytes : List Nat) : First :=
  let hex? (count : Nat) (ds : List Nat) : Option Nat :=
    let ds := ds.take count
    if ds.length < count then none
    else ds.foldlM (fun n d => 
      if 48 ≤ d && d < 58 then some (16 * n + (d - 48))
      else if 97 ≤ d && d < 103 then some (16 * n + (d - 87))
      else if 65 ≤ d && d < 71 then some (16 * n + (d - 55)) else none) 0
  let byNumber (count : Nat) (rest : List Nat) : First :=
    match hex? count rest with
    | some n => charIn n (count + 2)
    | none => .bad (2 + (rest.take count).length)
  match bytes with
  | [] => .nothing 0
  | 92 :: 117 :: rest => byNumber 4 rest
  | 92 :: 85 :: rest => byNumber 8 rest
  | 92 :: b :: rest =>
    if !isAll then .char '\\' 1
    else if b = 120 then byNumber 2 rest
    else if b = 10 then .nothing 2
    else match [(92, '\\'), (39, '\''), (34, '"'), (97, '\x07'), (98, '\x08'), (102, '\x0c'), (110, '\n'), (114, '\r'),
        (116, '\t'), (118, '\x0b')].lookup b with
      | some c => .char c 2
      | none =>
        let digits := ((b :: rest).take 3).takeWhile fun d => 48 ≤ d && d < 56
        if digits.isEmpty then .char '\\' 1
        else charIn (digits.foldl (fun n d => 8 * n + (d - 48)) 0) (1 + digits.length)
  | [92] => if isAll then .bad 1 else .char '\\' 1
  | b :: _ => .char (Char.ofNat b) 1

/-- What comes first in bytes. -/
def first (codec : Codec) (bytes : List Nat) : First :=
  match codec, bytes with
  | _, [] => .nothing 0
  | ascii, b :: _ => if b < 128 then .char (Char.ofNat b) 1 else .bad 1
  | latin, b :: _ => .char (Char.ofNat b) 1
  | western, b :: _ =>
    if b < 128 || 160 ≤ b then .char (Char.ofNat b) 1
    else match westernPlaces[b - 128]? with
      | some 0 | none => .bad 1
      | some n => .char (Char.ofNat n) 1
  | bytewise _, bytes => firstBytewise bytes
  | pairwise isBig _, bytes =>
    if bytes.length < 2 then .bad bytes.length
    else
      let n := ofBytes isBig (bytes.take 2)
      if n < 0xd800 || 0xe000 ≤ n then .char (Char.ofNat n) 2
      else if 0xdc00 ≤ n then .bad 2
      else if bytes.length < 4 then .bad bytes.length
      else
        let k := ofBytes isBig ((bytes.drop 2).take 2)
        if 0xdc00 ≤ k && k < 0xe000 then charIn (0x10000 + (n - 0xd800) * 0x400 + (k - 0xdc00)) 4 else .bad 2
  | fourfold isBig _, bytes =>
    if bytes.length < 4 then .bad bytes.length else charIn (ofBytes isBig (bytes.take 4)) 4
  | escaped isAll, bytes => firstEscaped isAll bytes

/-- What takes the place of bytes that stand for no character. -/
def insteadOf (handler : String) (bytes : List Nat) : Except String (List Char) :=
  match handler with
  | "strict" | "surrogatepass" | "surrogateescape" => .error "UnicodeDecodeError"
  | "ignore" => .ok []
  | "replace" => .ok ['\ufffd']
  | "backslashreplace" => .ok (bytes.flatMap fun b => '\\' :: 'x' :: hexPadded 2 b)
  | "xmlcharrefreplace" | "namereplace" => .error "TypeError"
  | _ => .error "LookupError"

/-- The characters of bytes, of which there are at most so many. -/
def decodeWithin (codec : Codec) (handler : String) : Nat → List Nat → Except String (List Char)
  | 0, _ | _, [] => .ok []
  | fuel + 1, bytes =>
    let (start, count) : Except String (List Char) × Nat := match codec.first bytes with
      | .char c count => (.ok [c], count)
      | .nothing count => (.ok [], count)
      | .bad count => (insteadOf handler (bytes.take count), count)
    do
      let cs ← start
      return cs ++ (← decodeWithin codec handler fuel (bytes.drop (max 1 count)))

/-- An encoding as the mark in front of bytes tells it, and the bytes after the mark. -/
def afterMark (codec : Codec) (bytes : List Nat) : Codec × List Nat :=
  match codec with
  | bytewise true =>
    (bytewise false, if bytes.take 3 = [0xef, 0xbb, 0xbf] then bytes.drop 3 else bytes)
  | pairwise _ true =>
    if bytes.take 2 = [0xff, 0xfe] then (pairwise false false, bytes.drop 2)
    else if bytes.take 2 = [0xfe, 0xff] then (pairwise true false, bytes.drop 2) else (pairwise false false, bytes)
  | fourfold _ true =>
    if bytes.take 4 = [0xff, 0xfe, 0, 0] then (fourfold false false, bytes.drop 4)
    else if bytes.take 4 = [0, 0, 0xfe, 0xff] then (fourfold true false, bytes.drop 4)
    else (fourfold false false, bytes)
  | codec => (codec, bytes)

/-- The text that bytes stand for, or the name of the failure that they come to. -/
def decode (codec : Codec) (handler : String) (bytes : List Nat) : Except String (List Char) :=
  let (codec, bytes) := codec.afterMark bytes
  decodeWithin codec handler bytes.length bytes

end Codec

end Mapsmith.Text
