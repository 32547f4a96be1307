import CameraServer.Text.Blank
import CameraServer.Text.Numeral
import CameraServer.Text.Split

/-!
Requests for a part of a file. Ranges are read strictly: `bytes=`, then `first-last`, `first-` or
`-length` between commas, with numbers of 64 bits that have no sign and no needless zero. Ranges
that overlap, that run backwards or that begin behind the end cannot be satisfied.
-/

set_option autoImplicit false

namespace CameraServer.Http

inductive ByteRange where
  | between (first : Nat) (last : Option Nat)
  | ending (length : Nat)
deriving DecidableEq, Repr

namespace ByteRange

def position? (cs : List Char) : Option Nat := do
  guard (cs.length = 1 ∨ cs.head? ≠ some '0')
  let n ← Text.natural? cs
  guard (n < Nat.pow 2 64)
  return n

def trimLead? (cs : List Char) : Option (List Char) :=
  if (cs.getLast?.map Text.isBlank).getD false || 1 < (cs.filter Text.isBlank).length then none
  else some (Text.trimChars cs)

def ofChars? (cs : List Char) : Option ByteRange := do
  let cs ← trimLead? cs
  let [first, last] := Text.splitAt '-' cs | none
  if first = [] then
    let length ← position? last
    guard (length ≠ 0)
    return .ending length
  else
    let start ← position? first
    if last = [] then return .between start none
    else
      let stop ← position? last
      return .between start (some stop)

def lead : List Char := "bytes=".toList

def readAll? (text : String) : Option (List ByteRange) := do
  let (before, ranges) ← Text.cutAt? lead text.toList
  guard (before = [] ∧ (Text.cutAt? lead ranges).isNone)
  guard (!(ranges.head?.map Text.isBlank).getD false)
  (Text.splitAt ',' ranges).mapM ofChars?

/-- First and last position in a file of `size` bytes; an empty file counts as one byte long. -/
def bounds? (size : Nat) : ByteRange → Option (Nat × Nat)
  | between first last =>
      let stop := min (last.getD (size - 1)) (size - 1)
      if first ≤ stop then some (first, stop) else none
  | ending length => if length ≤ size then some (size - length, size - 1) else none

def overlap (a b : Nat × Nat) : Bool :=
  a.1 ≤ b.2 && b.1 ≤ a.2

def anyOverlap : List (Nat × Nat) → Bool
  | [] => false
  | range :: rest => rest.any (overlap range) || anyOverlap rest

end ByteRange

inductive RangeChoice where
  | unsatisfiable
  | part (first last : Nat)
  | several
deriving DecidableEq, Repr

def RangeChoice.ofText (size : Nat) (text : String) : RangeChoice :=
  match (ByteRange.readAll? text).bind fun ranges => ranges.mapM (ByteRange.bounds? size) with
  | some [(first, last)] => .part first last
  | some ranges => if ByteRange.anyOverlap ranges then .unsatisfiable else .several
  | none => .unsatisfiable

end CameraServer.Http
