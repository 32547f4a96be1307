import CameraServer.Text.Numeral
import CameraServer.Text.Shortest
import CameraServer.Text.Utf8

/-!
Reading JSON from bytes. Each byte is taken as the character of that number; the text of a string
is decoded once it has been read. A reader returns what follows, or nothing on a syntax error.
-/

set_option autoImplicit false

namespace CameraServer.Json

open CameraServer.Text (Bytes)

def openBrace : Char := '\x7b'

def closeBrace : Char := '\x7d'

abbrev Input := List Char

def inputOf (bytes : Bytes) : Input :=
  bytes.map fun b => Char.ofNat b.toNat

def isSpace (c : Char) : Bool :=
  c = ' ' || c = '\n' || c = '\t' || c = '\r'

def skipSpace (cs : Input) : Input :=
  cs.dropWhile isSpace

def readWord : List Char → Input → Option Input
  | [], cs => some cs
  | _ :: _, [] => none
  | w :: word, c :: cs => if w = c then readWord word cs else none

def readMark (mark : Char) (cs : Input) : Option Input :=
  match skipSpace cs with
  | c :: rest => if c = mark then some rest else none
  | [] => none

/-! ### Numbers -/

inductive Number where
  | natural (n : Nat)
  | negative (n : Int)
  | float (x : Float)

def isDigit (c : Char) : Bool :=
  48 ≤ c.toNat && c.toNat ≤ 57

structure Numeral where
  whole : List Char
  fraction : List Char := []
  exponent : Option Int := none
  rest : Input

def readExponentDigits (sign : Int) (cs : Input) (n : Numeral) : Option Numeral :=
  let digits := cs.takeWhile isDigit
  if digits.isEmpty then none
  else
    some { n with
      exponent := some (sign * Text.digitsValue 10 digits)
      rest := cs.dropWhile isDigit }

def readExponent (n : Numeral) : Option Numeral :=
  match n.rest with
  | c :: '+' :: cs => if c = 'e' || c = 'E' then readExponentDigits 1 cs n else some n
  | c :: '-' :: cs => if c = 'e' || c = 'E' then readExponentDigits (-1) cs n else some n
  | c :: cs => if c = 'e' || c = 'E' then readExponentDigits 1 cs n else some n
  | [] => some n

def readFraction (n : Numeral) : Option Numeral :=
  match n.rest with
  | '.' :: cs =>
      let digits := cs.takeWhile isDigit
      if digits.isEmpty then none
      else some { n with fraction := digits, rest := cs.dropWhile isDigit }
  | _ => some n

def readNumeral (cs : Input) : Option Numeral :=
  let whole := cs.takeWhile isDigit
  if whole.isEmpty then none
  else if whole.head? = some '0' && decide (1 < whole.length) then none
  else (readFraction { whole, rest := cs.dropWhile isDigit }).bind readExponent

def accumulate : Nat → List Char → Nat × List Char
  | significand, [] => (significand, [])
  | significand, c :: cs =>
      let grown := significand * 10 + (c.toNat - 48)
      if grown < Nat.pow 2 64 then accumulate grown cs else (significand, c :: cs)

def powerOfTen (exponent : Nat) : Float :=
  Float.ofScientific 1 false exponent

def scaled : Nat → Float → Int → Option Float
  | 0, x, _ => some x
  | tries + 1, x, exponent =>
      if exponent.natAbs ≤ 308 then
        let power := powerOfTen exponent.natAbs
        if 0 ≤ exponent then
          if (x * power).isInf then none else some (x * power)
        else some (x / power)
      else if x == 0 then some x
      else if 0 ≤ exponent then none
      else scaled tries (x / powerOfTen 308) (exponent + 308)

def maxExponent : Int := 2147483647

def Numeral.float? (n : Numeral) : Option Float :=
  let (whole, dropped) := accumulate 0 n.whole
  let (significand, ignored) := accumulate whole n.fraction
  let shift : Int := (dropped.length : Int) - (n.fraction.length - ignored.length : Nat)
  let exponent := n.exponent.getD 0
  if maxExponent < exponent.natAbs then
    if significand ≠ 0 && decide (0 < exponent) then none else some 0
  else scaled 16 (UInt64.ofNat significand).toFloat (shift + exponent)

/-- Whole numbers stay whole as long as they fit in 64 bits with their sign; minus zero does not. -/
def Numeral.value? (negative : Bool) (n : Numeral) : Option Number :=
  let (whole, dropped) := accumulate 0 n.whole
  let isWhole := n.fraction.isEmpty && n.exponent.isNone && dropped.isEmpty
  if isWhole && !negative then some (.natural whole)
  else if isWhole && decide (0 < whole) && decide (whole ≤ Nat.pow 2 63) then some (.negative (-whole))
  else n.float?.map fun x => .float (if negative then -x else x)

def readNumber (cs : Input) : Option (Number × Input) :=
  match cs with
  | '-' :: rest => (readNumeral rest).bind fun n => (n.value? true).map fun v => (v, n.rest)
  | _ => (readNumeral cs).bind fun n => (n.value? false).map fun v => (v, n.rest)

def skipNumber (cs : Input) : Option Input :=
  match cs with
  | '-' :: rest => (readNumeral rest).map (·.rest)
  | _ => (readNumeral cs).map (·.rest)

/-! ### Strings -/

def readHex4 : Input → Option (Nat × Input)
  | a :: b :: c :: d :: rest => do
      let a ← Text.hexValue? a
      let b ← Text.hexValue? b
      let c ← Text.hexValue? c
      let d ← Text.hexValue? d
      return (a * 4096 + b * 256 + c * 16 + d, rest)
  | _ => none

def simpleEscape? : Char → Option Char
  | '"' => some '"'
  | '\\' => some '\\'
  | '/' => some '/'
  | 'b' => some '\x08'
  | 'f' => some '\x0c'
  | 'n' => some '\n'
  | 'r' => some '\r'
  | 't' => some '\t'
  | _ => none

def utf8Bytes (code : Nat) : Bytes :=
  Text.encodeUtf8 (String.singleton (Char.ofNat code))

def readUnicodeEscape (cs : Input) : Option (Bytes × Input) := do
  let (first, rest) ← readHex4 cs
  if first < 0xD800 ∨ 0xDFFF < first then return (utf8Bytes first, rest)
  guard (first ≤ 0xDBFF)
  match rest with
  | '\\' :: 'u' :: more =>
      let (second, rest) ← readHex4 more
      guard (0xDC00 ≤ second ∧ second ≤ 0xDFFF)
      return (utf8Bytes (0x10000 + (first - 0xD800) * 1024 + (second - 0xDC00)), rest)
  | _ => none

def byteOf (c : Char) : UInt8 := UInt8.ofNat c.toNat

def readStringBytes : Nat → Input → Option (Bytes × Input)
  | 0, _ => none
  | _ + 1, [] => none
  | fuel + 1, c :: rest =>
      if c = '"' then some ([], rest)
      else if c = '\\' then
        match rest with
        | 'u' :: more =>
            (readUnicodeEscape more).bind fun (bytes, rest) =>
              (readStringBytes fuel rest).map fun (tail, rest) => (bytes ++ tail, rest)
        | e :: more =>
            (simpleEscape? e).bind fun e =>
              (readStringBytes fuel more).map fun (tail, rest) => (byteOf e :: tail, rest)
        | [] => none
      else if c.toNat < 32 then none
      else (readStringBytes fuel rest).map fun (tail, rest) => (byteOf c :: tail, rest)

def readString (cs : Input) : Option (String × Input) :=
  (readStringBytes cs.length cs).bind fun (bytes, rest) =>
    (Text.decodeUtf8? bytes).map fun text => (text, rest)

def skipString : Nat → Input → Option Input
  | 0, _ => none
  | _ + 1, [] => none
  | fuel + 1, c :: rest =>
      if c = '"' then some rest
      else if c = '\\' then
        match rest with
        | 'u' :: more => (readHex4 more).bind fun r => skipString fuel r.2
        | e :: more => if (simpleEscape? e).isSome then skipString fuel more else none
        | [] => none
      else if c.toNat < 32 then none
      else skipString fuel rest

/-! ### Values that are passed over -/

mutual

/-- Passes over a value of any depth. The fuel is at least twice the length of the input. -/
def skipValue : Nat → Input → Option Input
  | 0, _ => none
  | fuel + 1, cs =>
      match skipSpace cs with
      | [] => none
      | c :: rest =>
          if c = 'n' then readWord ['u', 'l', 'l'] rest
          else if c = 't' then readWord ['r', 'u', 'e'] rest
          else if c = 'f' then readWord ['a', 'l', 's', 'e'] rest
          else if c = '"' then skipString (rest.length + 1) rest
          else if c = '[' then
            match skipSpace rest with
            | ']' :: rest => some rest
            | _ => skipItems fuel rest
          else if c = openBrace then
            match skipSpace rest with
            | d :: more => if d = closeBrace then some more else skipMembers fuel rest
            | [] => none
          else if c = '-' || isDigit c then skipNumber (c :: rest)
          else none

def skipItems : Nat → Input → Option Input
  | 0, _ => none
  | fuel + 1, cs =>
      (skipValue fuel cs).bind fun rest =>
        match skipSpace rest with
        | ',' :: more => skipItems fuel more
        | ']' :: more => some more
        | _ => none

def skipMembers : Nat → Input → Option Input
  | 0, _ => none
  | fuel + 1, cs =>
      (readMark '"' cs).bind fun rest =>
      (skipString (rest.length + 1) rest).bind fun rest =>
      (readMark ':' rest).bind fun rest =>
      (skipValue fuel rest).bind fun rest =>
        match skipSpace rest with
        | ',' :: more => skipMembers fuel more
        | d :: more => if d = closeBrace then some more else none
        | [] => none

end

end CameraServer.Json
