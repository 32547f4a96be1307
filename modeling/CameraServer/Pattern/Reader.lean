import CameraServer.Pattern.Basic
import CameraServer.Pattern.Group

/-!
Reading patterns. Groups and sets must be closed, a repetition needs something to repeat, and names
of groups must differ. There are no counted repetitions: an opening brace outside of sets is an
error. A change of the mode holds to the end of the group it stands in.
-/

set_option autoImplicit false

namespace CameraServer.Pattern

structure Draft where
  mode : Mode := {}
  names : List String := []
  branches : List Pattern := []
  parts : List Pattern := []
deriving Repr

namespace Draft

def push (d : Draft) (part : Pattern) : Draft :=
  { d with parts := part :: d.parts }

def alternate (d : Draft) : Draft :=
  { d with branches := inSequence d.parts.reverse :: d.branches, parts := [] }

def pattern (d : Draft) : Pattern :=
  let last := inSequence d.parts.reverse
  if d.branches.isEmpty then last else .choice (last :: d.branches).reverse

def repeatLast? (d : Draft) : Option Draft :=
  match d.parts with
  | part :: parts => if part.isRepeatable then some { d with parts := .repetition part :: parts } else none
  | [] => none

def within? (d : Draft) (name : Option String) (mode : Mode) : Option Draft :=
  match name with
  | some name => if d.names.contains name then none else some { mode, names := name :: d.names }
  | none => some { mode, names := d.names }

end Draft

def dropLazy : List Char → List Char
  | '?' :: cs => cs
  | cs => cs

def readPart (mode : Mode) (c : Char) (cs : List Char) : Option (Pattern × List Char) :=
  match c with
  | '[' => (CharSet.read mode cs).map fun (members, cs) => (.set mode members, cs)
  | '\\' => (readEscape mode cs).map fun (escape, cs) => (ofEscape mode escape, cs)
  | '.' => some (.any mode, cs)
  | '^' | '$' => some (.edge, cs)
  | '\x7b' => none
  | c => some (.literal mode ⟨c, false⟩, cs)

/-- Reads up to the end of the group or of the text, in at most `fuel` steps, and gives back the
pattern, all names, and the text from the closing parenthesis on. -/
def readGroup : Nat → Draft → List Char → Option (Pattern × List String × List Char)
  | 0, _, _ => none
  | fuel + 1, d, cs =>
      match d.mode.skip cs with
      | [] => some (d.pattern, d.names, [])
      | ')' :: cs => some (d.pattern, d.names, ')' :: cs)
      | '|' :: cs => readGroup fuel d.alternate cs
      | '*' :: cs | '+' :: cs | '?' :: cs => do
          let d ← d.repeatLast?
          readGroup fuel d (dropLazy cs)
      | '(' :: cs => do
          match ← readOpening d.mode cs with
          | (.switch mode, cs) => readGroup fuel ({ d with mode }.push .switch) cs
          | (.group name mode, cs) =>
              let inner ← d.within? name mode
              match ← readGroup fuel inner cs with
              | (body, names, _ :: cs) => readGroup fuel ({ d with names }.push (.group body)) cs
              | (_, _, []) => none
      | c :: cs => do
          let (part, cs) ← readPart d.mode c cs
          readGroup fuel (d.push part) cs

def ofText? (text : String) : Option Pattern :=
  match readGroup (text.toList.length + 1) {} text.toList with
  | some (pattern, _, []) => some pattern
  | _ => none

end CameraServer.Pattern
