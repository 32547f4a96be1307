import CameraServer.Json.Reader
import CameraServer.Lease.Request
import CameraServer.Text.Quoted

/-!
The body of a lease request: an object with four members, or an array of their values. It is read
from left to right and the first fault is reported.
-/

set_option autoImplicit false

namespace CameraServer.Json

open CameraServer.Text (Bytes)

inductive Found where
  | null
  | boolean (b : Bool)
  | integer (n : Int)
  | float (text : String)
  | string (s : String)
  | map
  | sequence
deriving DecidableEq, Repr

def Found.text : Found → String
  | .null => "null"
  | .boolean true => "boolean `true`"
  | .boolean false => "boolean `false`"
  | .integer n => "integer `" ++ Text.decimalInt n ++ "`"
  | .float text => "floating point `" ++ text ++ "`"
  | .string s => "string " ++ Text.quoted s
  | .map => "map"
  | .sequence => "sequence"

inductive Expected where
  | request
  | text
  | integer
deriving DecidableEq, Repr

def Expected.phrase : Expected → String
  | .request => "struct LeaseRequest"
  | .text => "a string"
  | .integer => "i64"

inductive Field where
  | guid
  | address
  | port
  | time
deriving DecidableEq, Repr

def Field.name : Field → String
  | .guid => "lease_guid"
  | .address => "udp_address"
  | .port => "udp_port"
  | .time => "lease_time"

def Field.ofName? (name : String) : Option Field :=
  [Field.guid, .address, .port, .time].find? (·.name = name)

inductive BodyFault where
  | notJson
  | missingField (field : Field)
  | duplicateField (field : Field)
  | invalidType (found : Found) (expected : Expected)
  | integerOutOfRange (n : Nat)
  | tooShort (length : Nat)
deriving DecidableEq, Repr

def BodyFault.message : BodyFault → String
  | .notJson => "<not json>"
  | .missingField field => "missing field `" ++ field.name ++ "`"
  | .duplicateField field => "duplicate field `" ++ field.name ++ "`"
  | .invalidType found expected =>
      "invalid type: " ++ found.text ++ ", expected " ++ expected.phrase
  | .integerOutOfRange n => "invalid value: integer `" ++ Text.decimal n ++ "`, expected i64"
  | .tooShort length =>
      "invalid length " ++ Text.decimal length ++ ", expected struct LeaseRequest with 4 elements"

abbrev Read (α : Type) := Except BodyFault (α × Input)

def orNotJson {α : Type} : Option α → Except BodyFault α
  | some a => .ok a
  | none => .error .notJson

def Number.found : Number → Found
  | .natural n => .integer n
  | .negative n => .integer n
  | .float x => .float (Text.floatText x)

/-- The fault of a value that is not of the expected kind; it has to be readable as far as its kind
is told from it. -/
def unexpected {α : Type} (expected : Expected) (cs : Input) : Except BodyFault α :=
  let fault (found : Option Found) : Except BodyFault α :=
    match found with
    | some found => .error (.invalidType found expected)
    | none => .error .notJson
  match cs with
  | [] => .error .notJson
  | c :: rest =>
      if c = 'n' then fault ((readWord ['u', 'l', 'l'] rest).map fun _ => .null)
      else if c = 't' then fault ((readWord ['r', 'u', 'e'] rest).map fun _ => .boolean true)
      else if c = 'f' then fault ((readWord ['a', 'l', 's', 'e'] rest).map fun _ => .boolean false)
      else if c = '"' then fault ((readString rest).map fun r => .string r.1)
      else if c = '[' then fault (some .sequence)
      else if c = openBrace then fault (some .map)
      else if c = '-' || isDigit c then fault ((readNumber cs).map fun r => r.1.found)
      else .error .notJson

def readText (cs : Input) : Read String :=
  match skipSpace cs with
  | '"' :: rest => orNotJson (readString rest)
  | cs => unexpected .text cs

def maxInteger : Nat := 9223372036854775807

def readInteger (cs : Input) : Read Int :=
  let cs := skipSpace cs
  match cs with
  | [] => .error .notJson
  | c :: _ =>
      if c = '-' || isDigit c then
        match readNumber cs with
        | none => .error .notJson
        | some (.natural n, rest) =>
            if n ≤ maxInteger then .ok (n, rest) else .error (.integerOutOfRange n)
        | some (.negative n, rest) => .ok (n, rest)
        | some (.float x, _) => .error (.invalidType (.float (Text.floatText x)) .integer)
      else unexpected .integer cs

structure Draft where
  guid : Option String := none
  address : Option String := none
  port : Option Int := none
  time : Option Int := none

def Draft.has (d : Draft) : Field → Bool
  | .guid => d.guid.isSome
  | .address => d.address.isSome
  | .port => d.port.isSome
  | .time => d.time.isSome

def Draft.readField (d : Draft) (field : Field) (cs : Input) : Read Draft :=
  match field with
  | .guid => (readText cs).map fun r => ({ d with guid := some r.1 }, r.2)
  | .address => (readText cs).map fun r => ({ d with address := some r.1 }, r.2)
  | .port => (readInteger cs).map fun r => ({ d with port := some r.1 }, r.2)
  | .time => (readInteger cs).map fun r => ({ d with time := some r.1 }, r.2)

def Draft.finish (d : Draft) : Except BodyFault LeaseRequest :=
  match d with
  | ⟨none, _, _, _⟩ => .error (.missingField .guid)
  | ⟨some _, none, _, _⟩ => .error (.missingField .address)
  | ⟨some _, some _, none, _⟩ => .error (.missingField .port)
  | ⟨some _, some _, some _, none⟩ => .error (.missingField .time)
  | ⟨some guid, some address, some port, some time⟩ => .ok ⟨guid, address, port, time⟩

def readMember (d : Draft) (cs : Input) : Except BodyFault (Draft × Input) := do
  let (name, rest) ← orNotJson (readString cs)
  match Field.ofName? name with
  | some field =>
      if d.has field then .error (.duplicateField field)
      else
        let rest ← orNotJson (readMark ':' rest)
        d.readField field rest
  | none =>
      let rest ← orNotJson (readMark ':' rest)
      let rest ← orNotJson (skipValue (2 * rest.length + 2) rest)
      return (d, rest)

/-- The members of an object up to its end. The fuel is at least the length of the input. -/
def readMembers : Nat → Bool → Draft → Input → Read LeaseRequest
  | 0, _, _, _ => .error .notJson
  | fuel + 1, first, d, cs =>
      match skipSpace cs with
      | [] => .error .notJson
      | c :: rest =>
          if c = closeBrace then d.finish.map fun body => (body, rest)
          else
            match (if first then some (c :: rest) else if c = ',' then some rest else none) with
            | none => .error .notJson
            | some rest =>
                match readMark '"' rest with
                | none => .error .notJson
                | some rest =>
                    match readMember d rest with
                    | .error fault => .error fault
                    | .ok (d, rest) => readMembers fuel false d rest

def nextItem (first : Bool) (cs : Input) : Except BodyFault (Option Input) :=
  match skipSpace cs with
  | [] => .error .notJson
  | ']' :: _ => .ok none
  | c :: rest =>
      if first then .ok (some (c :: rest))
      else if c = ',' then
        match skipSpace rest with
        | [] => .error .notJson
        | ']' :: _ => .error .notJson
        | rest => .ok (some rest)
      else .error .notJson

def readItems : List Field → Nat → Draft → Input → Read Draft
  | [], _, d, cs => .ok (d, cs)
  | field :: fields, count, d, cs =>
      match nextItem (count = 0) cs with
      | .error fault => .error fault
      | .ok none => .error (.tooShort count)
      | .ok (some cs) =>
          match d.readField field cs with
          | .error fault => .error fault
          | .ok (d, cs) => readItems fields (count + 1) d cs

def readArray (cs : Input) : Except BodyFault (LeaseRequest × Input) := do
  let (d, rest) ← readItems [.guid, .address, .port, .time] 0 {} cs
  let body ← d.finish
  let rest ← orNotJson (readMark ']' rest)
  return (body, rest)

def readBody (cs : Input) : Read LeaseRequest :=
  match skipSpace cs with
  | [] => .error .notJson
  | c :: rest =>
      if c = '[' then readArray rest
      else if c = openBrace then readMembers (rest.length + 1) true {} rest
      else unexpected .request (c :: rest)

def parseRequest (bytes : Bytes) : Except BodyFault LeaseRequest := do
  let (body, rest) ← readBody (inputOf bytes)
  if (skipSpace rest).isEmpty then return body else .error .notJson

end CameraServer.Json
