import CameraServer.Pattern.CharSet

/-!
Patterns as trees. Only the form of a pattern matters here, not what it matches, so a repetition
does not say how often and a group does not say what for. `Pattern.height` bounds how deep a
pattern may be, and `Pattern.isSupported` says whether it can be built without tables of characters.
-/

set_option autoImplicit false

namespace CameraServer

open Pattern (Mode Literal CharSet Escape)

inductive Pattern where
  | empty
  | switch
  | literal (mode : Mode) (value : Literal)
  | any (mode : Mode)
  | shorthand (mode : Mode) (negated : Bool)
  | edge
  | wordEdge (mode : Mode)
  | set (mode : Mode) (members : CharSet)
  | repetition (body : Pattern)
  | group (body : Pattern)
  | sequence (parts : List Pattern)
  | choice (branches : List Pattern)
deriving Repr

namespace Pattern

def inSequence : List Pattern → Pattern
  | [] => .empty
  | [part] => part
  | parts => .sequence parts

def ofEscape (mode : Mode) : Escape → Pattern
  | .literal l => .literal mode l
  | .shorthand negated => .shorthand mode negated
  | .edge => .edge
  | .wordEdge => .wordEdge mode

def isRepeatable : Pattern → Bool
  | .empty | .switch => false
  | _ => true

mutual

def height : Pattern → Nat
  | .set _ members => members.height
  | .repetition body | .group body => body.height + 1
  | .sequence parts | .choice parts => heights parts + 1
  | _ => 0

def heights : List Pattern → Nat
  | [] => 0
  | part :: parts => max part.height (heights parts)

end

def takesLiteral (mode : Mode) (l : Literal) : Bool :=
  if mode.unicode then !mode.caseless else !l.byte || l.char.toNat < 128

mutual

def isSupported : Pattern → Bool
  | .empty | .switch | .edge => true
  | .literal mode l => takesLiteral mode l
  | .any mode => mode.unicode
  | .shorthand mode negated => !mode.unicode && !negated
  | .wordEdge mode => !mode.unicode
  | .set mode members => members.isSupported mode
  | .repetition body | .group body => body.isSupported
  | .sequence parts | .choice parts => areSupported parts

def areSupported : List Pattern → Bool
  | [] => true
  | part :: parts => part.isSupported && areSupported parts

end

def maxHeight : Nat := 250

def isUsable (p : Pattern) : Bool :=
  p.height ≤ maxHeight && p.isSupported

end Pattern

end CameraServer
