import CameraServer.Pattern.Mode
import CameraServer.Text.Alphanumeric

/-!
What can follow an opening parenthesis: a plain group, a group with a name, a group in a mode of its
own, or a change of the mode for the rest of the group around it.
-/

set_option autoImplicit false

namespace CameraServer.Pattern

inductive Opening where
  | group (name : Option String) (mode : Mode)
  | switch (mode : Mode)
deriving DecidableEq, Repr

def isGroupName : List Char → Bool
  | [] => false
  | c :: cs =>
      (c = '_' || Text.isAlphabetic c)
        && cs.all fun c => Text.isAlphanumeric c || ['_', '.', '[', ']'].contains c

def readGroupName (mode : Mode) (cs : List Char) : Option (Opening × List Char) :=
  match cs.span (· ≠ '>') with
  | (name, _ :: cs) =>
      if isGroupName name then some (.group (some (String.ofList name)) mode, cs) else none
  | _ => none

def readFlags (mode : Mode) (cs : List Char) : Option (Opening × List Char) := do
  let (flags, cs) := cs.span fun c => c ≠ ':' && c ≠ ')'
  let changed ← mode.withFlags? flags
  match cs with
  | ':' :: cs => return (.group none changed, cs)
  | ')' :: cs => if flags = [] then none else return (.switch changed, cs)
  | _ => none

def readOpening (mode : Mode) (cs : List Char) : Option (Opening × List Char) :=
  match mode.skip cs with
  | '?' :: 'P' :: '<' :: cs | '?' :: '<' :: cs => readGroupName mode cs
  | '?' :: cs => readFlags mode cs
  | cs => some (.group none mode, cs)

end CameraServer.Pattern
