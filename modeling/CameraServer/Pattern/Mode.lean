import CameraServer.Text.Blank
import CameraServer.Text.Split

/-!
The mode a pattern is read in, and the flags that change it. In spaced mode blanks and comments
between the parts of a pattern are left out; a comment goes from a hash to the end of its line.
-/

set_option autoImplicit false

namespace CameraServer.Pattern

structure Mode where
  unicode : Bool := true
  caseless : Bool := false
  spaced : Bool := false
deriving DecidableEq, Repr

/-! ### Blanks -/

def dropBlanks (inside : Bool) : List Char → List Char
  | [] => []
  | c :: cs =>
      if inside then dropBlanks (c ≠ '\n') cs
      else if c = '#' then dropBlanks true cs
      else if Text.isBlank c then dropBlanks false cs
      else c :: cs

def Mode.skip (mode : Mode) (cs : List Char) : List Char :=
  if mode.spaced then dropBlanks false cs else cs

/-- The next character that counts, as far as it can be told without reading a comment to its end:
inside of one, the first character that is not blank is taken for it. -/
def Mode.glance (mode : Mode) (cs : List Char) : Option Char :=
  if mode.spaced then
    match cs.dropWhile Text.isBlank with
    | '#' :: cs => (cs.dropWhile Text.isBlank).head?
    | cs => cs.head?
  else cs.head?

/-! ### Flags -/

def flagLetters : List Char :=
  ['i', 'm', 's', 'U', 'u', 'R', 'x']

def Mode.put (on : Bool) (mode : Mode) (flag : Char) : Mode :=
  match flag with
  | 'i' => { mode with caseless := on }
  | 'u' => { mode with unicode := on }
  | 'x' => { mode with spaced := on }
  | _ => mode

def Mode.withFlags? (mode : Mode) (flags : List Char) : Option Mode :=
  if flags.all ('-' :: flagLetters).contains && flags.eraseDups = flags && flags.getLast? ≠ some '-' then
    match Text.cut? '-' flags with
    | some (set, cleared) => some (cleared.foldl (Mode.put false) (set.foldl (Mode.put true) mode))
    | none => some (flags.foldl (Mode.put true) mode)
  else none

theorem drop_blanks_length (inside : Bool) (cs : List Char) :
    (dropBlanks inside cs).length ≤ cs.length := by
  induction cs generalizing inside with
  | nil => simp [dropBlanks]
  | cons c cs ih =>
      simp only [dropBlanks]
      split
      · exact Nat.le_succ_of_le (ih _)
      · split
        · exact Nat.le_succ_of_le (ih _)
        · split
          · exact Nat.le_succ_of_le (ih _)
          · exact Nat.le_refl _

theorem skip_length (mode : Mode) (cs : List Char) : (mode.skip cs).length ≤ cs.length := by
  unfold Mode.skip
  split
  · exact drop_blanks_length false cs
  · exact Nat.le_refl _

end CameraServer.Pattern
