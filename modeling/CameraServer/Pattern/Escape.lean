import CameraServer.Pattern.Mode
import CameraServer.Text.Numeral

/-!
What a backslash can stand in front of: signs that would otherwise mean something, control
characters, characters by their number, classes, and places between characters.
-/

set_option autoImplicit false

namespace CameraServer.Pattern

structure Literal where
  char : Char
  byte : Bool := false
deriving DecidableEq, Repr

inductive Escape where
  | literal (value : Literal)
  | shorthand (negated : Bool)
  | edge
  | wordEdge
deriving DecidableEq, Repr

def controlChar? (letter : Char) : Option Char :=
  [('a', '\x07'), ('f', '\x0c'), ('t', '\t'), ('n', '\n'), ('r', '\r'), ('v', '\x0b')].lookup letter

def standsForItself (c : Char) : Bool :=
  c.toNat < 128 && !c.isAlphanum && c ≠ '<' && c ≠ '>'

def readDigits (mode : Mode) : Nat → Nat → List Char → Option (Nat × List Char)
  | 0, value, cs => some (value, cs)
  | count + 1, value, cs =>
      match mode.skip cs with
      | [] => none
      | c :: cs => do
          let digit ← Text.hexValue? c
          readDigits mode count (value * 16 + digit) cs

def readNumber (mode : Mode) (letter : Char) (cs : List Char) : Option (Literal × List Char) := do
  let count ← [('x', 2), ('u', 4), ('U', 8)].lookup letter
  let (code, cs) ← readDigits mode count 0 cs
  if code.isValidChar then some (⟨Char.ofNat code, letter = 'x'⟩, cs) else none

def readEscape (mode : Mode) : List Char → Option (Escape × List Char)
  | [] => none
  | c :: cs =>
      if let some control := controlChar? c then some (.literal ⟨control, false⟩, cs)
      else if ['d', 's', 'w'].contains c then some (.shorthand false, cs)
      else if ['D', 'S', 'W'].contains c then some (.shorthand true, cs)
      else if ['A', 'z'].contains c then some (.edge, cs)
      else if ['b', 'B', '<', '>'].contains c then some (.wordEdge, cs)
      else if standsForItself c then some (.literal ⟨c, false⟩, cs)
      else (readNumber mode c cs).map fun (l, cs) => (.literal l, cs)

end CameraServer.Pattern
