import CameraServer.Text.Utf8

/-!
Base64 with the standard alphabet and canonical padding. Reading accepts exactly what writing
produces.
-/

set_option autoImplicit false

namespace CameraServer.Http.Base64

open CameraServer.Text (Bytes)

def digit (value : Nat) : Char :=
  if value < 26 then Char.ofNat (65 + value)
  else if value < 52 then Char.ofNat (71 + value)
  else if value < 62 then Char.ofNat (value - 4)
  else if value = 62 then '+' else '/'

def value? (c : Char) : Option Nat :=
  let n := c.toNat
  if 65 ≤ n ∧ n ≤ 90 then some (n - 65)
  else if 97 ≤ n ∧ n ≤ 122 then some (n - 71)
  else if 48 ≤ n ∧ n ≤ 57 then some (n + 4)
  else if c = '+' then some 62
  else if c = '/' then some 63
  else none

def encode : Bytes → List Char
  | [] => []
  | [x] => [digit (x.toNat / 4), digit (x.toNat % 4 * 16), '=', '=']
  | [x, y] =>
      [digit (x.toNat / 4), digit (x.toNat % 4 * 16 + y.toNat / 16),
        digit (y.toNat % 16 * 4), '=']
  | x :: y :: z :: rest =>
      digit (x.toNat / 4) :: digit (x.toNat % 4 * 16 + y.toNat / 16) ::
        digit (y.toNat % 16 * 4 + z.toNat / 64) :: digit (z.toNat % 64) :: encode rest

/-- Four digits at a time; the bits that padding leaves over have to be zero. -/
def decode? : List Char → Option Bytes
  | [] => some []
  | [a, b, '=', '='] =>
      (value? a).bind fun a => (value? b).bind fun b =>
        if b % 16 = 0 then some [UInt8.ofNat (a * 4 + b / 16)] else none
  | [a, b, c, '='] =>
      (value? a).bind fun a => (value? b).bind fun b => (value? c).bind fun c =>
        if c % 4 = 0 then
          some [UInt8.ofNat (a * 4 + b / 16), UInt8.ofNat (b % 16 * 16 + c / 4)]
        else none
  | a :: b :: c :: d :: rest =>
      (value? a).bind fun a => (value? b).bind fun b => (value? c).bind fun c =>
        (value? d).bind fun d => (decode? rest).map fun more =>
          UInt8.ofNat (a * 4 + b / 16) :: UInt8.ofNat (b % 16 * 16 + c / 4) ::
            UInt8.ofNat (c % 4 * 64 + d) :: more
  | _ => none

end CameraServer.Http.Base64
