import CameraServer.Pattern.Escape

/-!
Sets of characters in brackets: single characters, ranges, classes, sets in sets, and the operators
`&&`, `--` and `~~` between them. `CharSet.height` says how deep a set is, and
`CharSet.isSupported` whether it can be built without tables of characters.
-/

set_option autoImplicit false

namespace CameraServer.Pattern

inductive CharSet where
  | empty
  | char (c : Char)
  | range (low high : Char)
  | named (negated : Bool)
  | shorthand (negated : Bool)
  | union (items : List CharSet)
  | operation (left right : CharSet)
  | bracketed (negated : Bool) (body : CharSet)
deriving Repr

namespace CharSet

def join : List CharSet → CharSet
  | [] => .empty
  | [item] => item
  | items => .union items

mutual

def height : CharSet → Nat
  | .union items => heights items + 1
  | .operation left right => max left.height right.height + 1
  | .bracketed _ body => body.height + 1
  | _ => 0

def heights : List CharSet → Nat
  | [] => 0
  | item :: items => max item.height (heights items)

end

/-- The case of a character is a matter of tables, and so is every class of Unicode. In byte mode a
set must keep to ASCII. -/
def takesChar (mode : Mode) (c : Char) : Bool :=
  if mode.unicode then !mode.caseless else c.toNat < 128

mutual

def isSupported (mode : Mode) : CharSet → Bool
  | .empty => true
  | .char c => takesChar mode c
  | .range low high => takesChar mode low && takesChar mode high
  | .named negated => if mode.unicode then !mode.caseless else !negated
  | .shorthand negated => !mode.unicode && !negated
  | .union items => areSupported mode items
  | .operation left right => left.isSupported mode && right.isSupported mode
  | .bracketed negated body => (mode.unicode || !negated) && body.isSupported mode

def areSupported (mode : Mode) : List CharSet → Bool
  | [] => true
  | item :: items => item.isSupported mode && areSupported mode items

end

/-! ### Reading -/

structure Draft where
  front : Bool := true
  left : Option CharSet := none
  items : List CharSet := []
deriving Repr

namespace Draft

def push (d : Draft) (item : CharSet) : Draft :=
  { d with front := false, items := item :: d.items }

def body (d : Draft) : CharSet :=
  let right := join d.items.reverse
  match d.left with
  | some left => .operation left right
  | none => right

def operate (d : Draft) : Draft :=
  { front := false, left := some d.body }

end Draft

def classNames : List String :=
  ["alnum", "alpha", "ascii", "blank", "cntrl", "digit", "graph", "lower", "print", "punct",
    "space", "upper", "word", "xdigit"]

def readNamed? : List Char → Option (Bool × List Char)
  | ':' :: cs =>
      let (negated, cs) :=
        match cs with
        | '^' :: cs => (true, cs)
        | cs => (false, cs)
      match cs.span (· ≠ ':') with
      | (name, ':' :: ']' :: cs) =>
          if classNames.contains (String.ofList name) then some (negated, cs) else none
      | _ => none
  | _ => none

def ofEscape? : Escape → Option CharSet
  | .literal l => some (.char l.char)
  | .shorthand negated => some (.shorthand negated)
  | _ => none

def rangeOf? : Escape → Escape → Option CharSet
  | .literal low, .literal high =>
      if low.char ≤ high.char then some (.range low.char high.char) else none
  | _, _ => none

def readBound (mode : Mode) : List Char → Option (Escape × List Char)
  | [] => none
  | '\\' :: cs => readEscape mode cs
  | c :: cs => some (.literal ⟨c, false⟩, cs)

def readRange (mode : Mode) (cs : List Char) : Option (CharSet × List Char) := do
  let (low, cs) ← readBound mode cs
  match mode.skip cs with
  | '-' :: cs =>
      if [some ']', some '-'].contains (mode.glance cs) then
        (ofEscape? low).map fun item => (item, '-' :: cs)
      else do
        let (high, cs) ← readBound mode (mode.skip cs)
        (rangeOf? low high).map fun item => (item, cs)
  | cs => (ofEscape? low).map fun item => (item, cs)

def readCaret (mode : Mode) (cs : List Char) : Bool × List Char :=
  match mode.skip cs with
  | '^' :: cs => (true, cs)
  | cs => (false, cs)

/-- Reads up to the bracket that closes the set, in at most `fuel` steps. At the front hyphens stand
for themselves, and without any so does the bracket. -/
def readBody (mode : Mode) : Nat → Draft → List Char → Option (CharSet × List Char)
  | 0, _, _ => none
  | fuel + 1, d, cs =>
      match mode.skip cs with
      | [] => none
      | ']' :: cs =>
          if d.front && d.items.isEmpty then readBody mode fuel (d.push (.char ']')) cs
          else some (d.body, cs)
      | '[' :: cs =>
          match readNamed? cs with
          | some (negated, cs) => readBody mode fuel (d.push (.named negated)) cs
          | none => do
              let (negated, cs) := readCaret mode cs
              let (body, cs) ← readBody mode fuel {} cs
              readBody mode fuel (d.push (.bracketed negated body)) cs
      | c :: cs =>
          if d.front && c = '-' then readBody mode fuel { d.push (.char '-') with front := true } cs
          else if ['&', '-', '~'].contains c && cs.head? = some c then
            readBody mode fuel d.operate cs.tail
          else do
            let (item, cs) ← readRange mode (c :: cs)
            readBody mode fuel (d.push item) cs

def read (mode : Mode) (cs : List Char) : Option (CharSet × List Char) := do
  let (negated, cs) := readCaret mode cs
  let (body, cs) ← readBody mode (cs.length + 1) {} cs
  return (.bracketed negated body, cs)

end CharSet

end CameraServer.Pattern
