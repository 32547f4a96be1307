import CameraServer.Text.Numeral

/-!
The shortest decimal text of a binary fraction that reads back as the same double-precision number.
-/

set_option autoImplicit false

namespace CameraServer.Text

/-- A positive double is `mantissa * 2 ^ exponent`; every real between half a unit below and half a
unit above rounds to it, the ends included when the mantissa is even. Below a power of two the unit
is half as large. -/
structure Binary where
  mantissa : Nat
  exponent : Int
  lowerIsNear : Bool
deriving Repr

def Binary.ofBits (bits : Nat) : Binary :=
  let fraction : Nat := bits % Nat.pow 2 52
  let biased : Nat := bits / Nat.pow 2 52 % Nat.pow 2 11
  if biased = 0 then ⟨fraction, -1074, false⟩
  else ⟨fraction + Nat.pow 2 52, (biased : Int) - 1075, decide (fraction = 0 ∧ 1 < biased)⟩

structure Fraction where
  num : Nat
  den : Nat

def scaleTwo (n : Nat) (e : Int) : Fraction :=
  if 0 ≤ e then ⟨n * Nat.pow 2 e.toNat, 1⟩ else ⟨n, Nat.pow 2 (-e).toNat⟩

def Fraction.scaleTen (f : Fraction) (e : Int) : Fraction :=
  if 0 ≤ e then ⟨f.num * Nat.pow 10 e.toNat, f.den⟩ else ⟨f.num, f.den * Nat.pow 10 (-e).toNat⟩

def Fraction.le (a b : Fraction) : Bool :=
  a.num * b.den ≤ b.num * a.den

def Fraction.lt (a b : Fraction) : Bool :=
  a.num * b.den < b.num * a.den

def Binary.holds (b : Binary) (digits : Nat) (power : Int) : Bool :=
  let x := Fraction.scaleTen ⟨digits, 1⟩ power
  let low :=
    if b.lowerIsNear then scaleTwo (4 * b.mantissa - 1) (b.exponent - 2)
    else scaleTwo (2 * b.mantissa - 1) (b.exponent - 1)
  let high := scaleTwo (2 * b.mantissa + 1) (b.exponent - 1)
  if b.mantissa % 2 = 0 then low.le x && x.le high else low.lt x && x.lt high

/-- The decimal on the grid of `10 ^ power` that reads back as `b`: of the two neighbours of the
value the nearer one, the even one on a tie. -/
def Binary.onGrid? (b : Binary) (power : Int) : Option Nat :=
  let x := (scaleTwo b.mantissa b.exponent).scaleTen (-power)
  let below := x.num / x.den
  let rest := 2 * (x.num % x.den)
  let near :=
    if rest < x.den then below
    else if x.den < rest then below + 1
    else if below % 2 = 0 then below else below + 1
  let far := if near = below then below + 1 else below
  if b.holds near power then some near
  else if b.holds far power then some far
  else none

def Binary.search (b : Binary) : Nat → Int → Nat × Int
  | 0, power => (b.mantissa, power)
  | tries + 1, power =>
      match b.onGrid? power with
      | some digits => if digits = 0 then b.search tries (power - 1) else (digits, power)
      | none => b.search tries (power - 1)

def dropZeros : Nat → Nat → Int → Nat × Int
  | 0, digits, power => (digits, power)
  | tries + 1, digits, power =>
      if digits % 10 = 0 then dropZeros tries (digits / 10) (power + 1) else (digits, power)

def Binary.shortest (b : Binary) : Nat × Int :=
  let found := b.search 700 310
  dropZeros 400 found.1 found.2

def exponentChars (exponent : Int) : List Char :=
  (if exponent < 0 then '-' else '+') :: Nat.toDigits 10 exponent.natAbs

def positional (digits : List Char) (power : Int) : List Char :=
  let count : Int := digits.length
  let point := count + power
  if 0 ≤ power ∧ point ≤ 16 then
    digits ++ List.replicate power.toNat '0' ++ ['.', '0']
  else if 0 < point ∧ point ≤ 16 then
    digits.take point.toNat ++ '.' :: digits.drop point.toNat
  else if -5 < point ∧ point ≤ 0 then
    '0' :: '.' :: List.replicate (-point).toNat '0' ++ digits
  else
    let exponent := exponentChars (point - 1)
    match digits with
    | [d] => d :: 'e' :: exponent
    | d :: rest => d :: '.' :: rest ++ 'e' :: exponent
    | [] => []

def floatText (x : Float) : String :=
  let bits := x.toBits.toNat
  let sign := if bits / Nat.pow 2 63 = 1 then "-" else ""
  let b := Binary.ofBits (bits % Nat.pow 2 63)
  if b.mantissa = 0 then sign ++ "0.0"
  else
    let (digits, power) := b.shortest
    sign ++ String.ofList (positional (Nat.toDigits 10 digits) power)

end CameraServer.Text
