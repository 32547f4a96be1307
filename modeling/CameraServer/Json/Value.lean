import CameraServer.Json.Reader

/-!
JSON values as trees, with a reader and a writer.
-/

set_option autoImplicit false

namespace CameraServer.Json

open CameraServer.Text (Bytes)

inductive Value where
  | null
  | boolean (b : Bool)
  | number (n : Number)
  | string (s : String)
  | array (items : List Value)
  | object (members : List (String × Value))

def Number.toFloat : Number → Float
  | .natural n => Float.ofNat n
  | .negative n => Float.ofInt n
  | .float x => x

namespace Value

def ofInt (n : Int) : Value :=
  .number (if n < 0 then .negative n else .natural n.toNat)

def ofFloat (x : Float) : Value :=
  .number (.float x)

def member? (name : String) : Value → Option Value
  | .object members => members.lookup name
  | _ => none

/-! ### Reading -/

def put (name : String) (value : Value) : List (String × Value) → List (String × Value)
  | [] => [(name, value)]
  | member :: members =>
      if member.1 = name then (name, value) :: members else member :: put name value members

mutual

/-- Reads a value. The fuel is at least twice the length of the input. -/
def read : Nat → Input → Option (Value × Input)
  | 0, _ => none
  | fuel + 1, cs =>
      match skipSpace cs with
      | [] => none
      | c :: rest =>
          if c = 'n' then (readWord ['u', 'l', 'l'] rest).map fun rest => (.null, rest)
          else if c = 't' then (readWord ['r', 'u', 'e'] rest).map fun rest => (.boolean true, rest)
          else if c = 'f' then
            (readWord ['a', 'l', 's', 'e'] rest).map fun rest => (.boolean false, rest)
          else if c = '"' then (readString rest).map fun (s, rest) => (.string s, rest)
          else if c = '[' then
            match skipSpace rest with
            | ']' :: rest => some (.array [], rest)
            | _ => (readItems fuel rest).map fun (items, rest) => (.array items, rest)
          else if c = openBrace then
            match skipSpace rest with
            | d :: more =>
                if d = closeBrace then some (.object [], more)
                else (readMembers fuel [] rest).map fun (members, rest) => (.object members, rest)
            | [] => none
          else if c = '-' || isDigit c then
            (readNumber (c :: rest)).map fun (n, rest) => (.number n, rest)
          else none

def readItems : Nat → Input → Option (List Value × Input)
  | 0, _ => none
  | fuel + 1, cs =>
      (read fuel cs).bind fun (item, rest) =>
        match skipSpace rest with
        | ',' :: more => (readItems fuel more).map fun (items, rest) => (item :: items, rest)
        | ']' :: more => some ([item], more)
        | _ => none

def readMembers : Nat → List (String × Value) → Input → Option (List (String × Value) × Input)
  | 0, _, _ => none
  | fuel + 1, members, cs =>
      (readMark '"' cs).bind fun rest =>
      (readString rest).bind fun (name, rest) =>
      (readMark ':' rest).bind fun rest =>
      (read fuel rest).bind fun (value, rest) =>
        let members := put name value members
        match skipSpace rest with
        | ',' :: more => readMembers fuel members more
        | d :: more => if d = closeBrace then some (members, more) else none
        | [] => none

end

def ofBytes? (bytes : Bytes) : Option Value :=
  let cs := inputOf bytes
  (read (2 * cs.length + 1) cs).bind fun (value, rest) =>
    if skipSpace rest = [] then some value else none

/-! ### Writing -/

def escaped (c : Char) : List Char :=
  if c = '"' then ['\\', '"']
  else if c = '\\' then ['\\', '\\']
  else if c.toNat < 32 then
    '\\' :: 'u' :: '0' :: '0' :: Nat.toDigits 16 (c.toNat / 16) ++ Nat.toDigits 16 (c.toNat % 16)
  else [c]

def writeString (s : String) : List Char :=
  '"' :: s.toList.flatMap escaped ++ ['"']

def writeNumber : Number → List Char
  | .natural n => (Text.decimal n).toList
  | .negative n => (Text.decimalInt n).toList
  | .float x => if x.isFinite then (Text.floatText x).toList else ['n', 'u', 'l', 'l']

mutual

def writeChars : Value → List Char
  | .null => ['n', 'u', 'l', 'l']
  | .boolean true => ['t', 'r', 'u', 'e']
  | .boolean false => ['f', 'a', 'l', 's', 'e']
  | .number n => writeNumber n
  | .string s => writeString s
  | .array items => '[' :: writeItems items ++ [']']
  | .object members => openBrace :: writeMembers members ++ [closeBrace]

def writeItems : List Value → List Char
  | [] => []
  | [item] => writeChars item
  | item :: items => writeChars item ++ ',' :: writeItems items

def writeMembers : List (String × Value) → List Char
  | [] => []
  | [(name, value)] => writeString name ++ ':' :: writeChars value
  | (name, value) :: members =>
      writeString name ++ ':' :: writeChars value ++ ',' :: writeMembers members

end

def write (v : Value) : String :=
  String.ofList v.writeChars

theorem lookup_put (name : String) (value : Value) (members : List (String × Value)) :
    (put name value members).lookup name = some value := by
  induction members with
  | nil => simp [put]
  | cons member members ih =>
      obtain ⟨other, held⟩ := member
      by_cases same : other = name
      · simp [put, same]
      · have absent : (name == other) = false := beq_false_of_ne (Ne.symm same)
        simpa [put, same, List.lookup_cons, absent] using ih

theorem lookup_put_other (name wanted : String) (value : Value) (members : List (String × Value))
    (different : wanted ≠ name) : (put name value members).lookup wanted = members.lookup wanted := by
  have absent : (wanted == name) = false := beq_false_of_ne different
  induction members with
  | nil => simp [put, List.lookup_cons, absent]
  | cons member members ih =>
      obtain ⟨other, held⟩ := member
      by_cases same : other = name
      · simp [put, same, List.lookup_cons, absent]
      · simp [put, same, List.lookup_cons, ih]

end Value

end CameraServer.Json
