import CameraServer.Service.FieldValue
import CameraServer.Text.Alphanumeric
import CameraServer.Text.Blank
import CameraServer.Text.Letters
import CameraServer.Text.Numeral
import CameraServer.Text.Split
import CameraServer.Text.Utf8

/-!
Directives of a log filter: `level`, `target`, `target=level`, and with a span and fields
`target[span{field}]=level`. The marks are looked for in the text without the blanks around it, but
the pieces are cut out of the whole text at the same positions. So a blank at the end belongs to the
last piece, and blanks at the front move every cut.
-/

set_option autoImplicit false

namespace CameraServer.Service

open CameraServer.Text (Bytes)

inductive Verbosity where
  | off
  | error
  | warn
  | info
  | debug
  | trace
deriving DecidableEq, Repr

def Verbosity.ofText? (text : String) : Option Verbosity :=
  let byNumber :=
    match Text.unsigned? text.toList with
    | some n => [Verbosity.off, .error, .warn, .info, .debug, .trace][n]?
    | none => none
  let names : List (String × Verbosity) :=
    [("", .error), ("error", .error), ("warn", .warn), ("info", .info), ("debug", .debug),
      ("trace", .trace), ("off", .off)]
  byNumber.or (names.lookup (Text.lower text))

structure FieldFilter where
  name : String
  value : Option String := none
deriving DecidableEq, Repr

structure Directive where
  target : Option String := none
  span : Option String := none
  fields : List FieldFilter := []
  level : Verbosity := .trace
deriving DecidableEq, Repr

inductive DirectiveFault where
  | malformed
  | splitCharacter
deriving DecidableEq, Repr

/-! ### Cutting by position -/

def isBoundary (bytes : Bytes) (position : Nat) : Bool :=
  match bytes[position]? with
  | some b => !Text.isContinuation b
  | none => true

def cutOut (bytes : Bytes) (start stop : Nat) : Except DirectiveFault String :=
  if isBoundary bytes start && isBoundary bytes stop then
    match Text.decodeUtf8? ((bytes.take stop).drop start) with
    | some piece => .ok piece
    | none => .error .splitCharacter
  else .error .splitCharacter

/-! ### Reading -/

def startsDirective (c : Char) : Bool :=
  Text.isAlphanumeric c || c = '-' || c = ':' || c = '_'

inductive DirectivePart where
  | start
  | levelOrTarget
  | span (start : Nat)
  | field (start : Nat)
  | fields
  | target
  | level (start : Nat)
deriving DecidableEq, Repr

def FieldFilter.ofText (text : String) : Except DirectiveFault FieldFilter :=
  match Text.splitAt '=' text.toList with
  | name :: value :: _ =>
      let value := String.ofList value
      if isFieldValue value then .ok ⟨String.ofList name, some value⟩ else .error .malformed
  | _ => .ok ⟨text, none⟩

def Directive.read (bytes : Bytes) (d : Directive) (part : DirectivePart) (position : Nat) (c : Char) :
    Except DirectiveFault (Directive × DirectivePart) :=
  match part with
  | .start =>
      if c = '[' then .ok (d, .span (position + 1))
      else if startsDirective c then .ok (d, .levelOrTarget)
      else .error .malformed
  | .levelOrTarget =>
      if c = '=' then do
        let target ← cutOut bytes 0 position
        return ({ d with target := some target }, .level (position + 1))
      else if c = '[' then do
        let target ← cutOut bytes 0 position
        return ({ d with target := some target }, .span (position + 1))
      else .ok (d, .levelOrTarget)
  | .span start =>
      if c = ']' then do
        let span ← cutOut bytes start position
        return ({ d with span := some span }, .target)
      else if c = '\x7b' then do
        let span ← cutOut bytes start position
        return ({ d with span := if span = "" then none else some span }, .field (position + 1))
      else .ok (d, .span start)
  | .field start =>
      if c = '\x7d' then do
        let field ← cutOut bytes start position
        if field = "" then .error .malformed
        else
          let filter ← FieldFilter.ofText field
          return ({ d with fields := d.fields ++ [filter] }, .fields)
      else .ok (d, .field start)
  | .fields => if c = ']' then .ok (d, .target) else .error .malformed
  | .target => if c = '=' then .ok (d, .level (position + 1)) else .error .malformed
  | .level start => .ok (d, .level start)

def Directive.readAll (bytes : Bytes) :
    List Char → Nat → Directive → DirectivePart → Except DirectiveFault (Directive × DirectivePart)
  | [], _, d, part => .ok (d, part)
  | c :: rest, position, d, part => do
      let (d, part) ← d.read bytes part position c
      readAll bytes rest (position + c.utf8Size) d part

/-- What the end of the text makes of the part it falls into. A name without a level shows
everything under that target. -/
def Directive.finish (bytes : Bytes) (d : Directive) : DirectivePart → Except DirectiveFault Directive
  | .levelOrTarget => do
      let name ← cutOut bytes 0 bytes.length
      match Verbosity.ofText? name with
      | some level => return { d with level }
      | none => return { d with target := some name }
  | .level start => do
      let name ← cutOut bytes start bytes.length
      if name = "" then return d
      else
        match Verbosity.ofText? name with
        | some level => return { d with level }
        | none => .error .malformed
  | .target => .ok d
  | _ => .error .malformed

def Directive.ofText (text : String) : Except DirectiveFault Directive := do
  let bytes := Text.encodeUtf8 text
  let (d, part) ← Directive.readAll bytes (Text.trimChars text.toList) 0 {} .start
  d.finish bytes part

end CameraServer.Service
