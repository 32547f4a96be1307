/-!
Numerals: digits in a radix up to 16, signed decimal numbers, and fixed-width decimal output.
-/

set_option autoImplicit false

namespace CameraServer.Text

def hexValue? (c : Char) : Option Nat :=
  let n := c.toNat
  if 48 ≤ n ∧ n ≤ 57 then some (n - 48)
  else if 97 ≤ n ∧ n ≤ 102 then some (n - 87)
  else if 65 ≤ n ∧ n ≤ 70 then some (n - 55)
  else none

def digitValue? (radix : Nat) (c : Char) : Option Nat :=
  (hexValue? c).filter (· < radix)

/-- The number a run of digits stands for; characters that are no digits count as zero. -/
def digitsValue (radix : Nat) (cs : List Char) : Nat :=
  cs.foldl (fun value c => value * radix + (digitValue? radix c).getD 0) 0

def isDigitIn (radix : Nat) (c : Char) : Bool :=
  (digitValue? radix c).isSome

def spanDigits (radix : Nat) (cs : List Char) : List Char × List Char :=
  (cs.takeWhile (isDigitIn radix), cs.dropWhile (isDigitIn radix))

def natural? (cs : List Char) : Option Nat :=
  if cs ≠ [] ∧ cs.all (isDigitIn 10) then some (digitsValue 10 cs) else none

def integer? : List Char → Option Int
  | '-' :: cs => (natural? cs).map fun n => -(n : Int)
  | '+' :: cs => (natural? cs).map fun n => (n : Int)
  | cs => (natural? cs).map fun n => (n : Int)

def unsigned? : List Char → Option Nat
  | '+' :: cs => natural? cs
  | cs => natural? cs

def decimal (n : Nat) : String :=
  toString n

def decimalInt (n : Int) : String :=
  if n < 0 then "-" ++ decimal n.natAbs else decimal n.natAbs

def padded (width n : Nat) : List Char :=
  let digits := Nat.toDigits 10 n
  List.replicate (width - digits.length) '0' ++ digits

def hexadecimal (n : Nat) : List Char :=
  Nat.toDigits 16 n

end CameraServer.Text
