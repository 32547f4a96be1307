import CameraServer.Text.Blank
import CameraServer.Text.Letters
import CameraServer.Text.Split
import CameraServer.Text.Utf8

/-!
The user table: lines of separated fields. The first line that is neither blank nor a comment names
the columns; the rows below it are read by these names.
-/

set_option autoImplicit false

namespace CameraServer.Accounts

open CameraServer.Text

structure Account where
  username : String
  password : String
  role : String
deriving DecidableEq, Repr

structure Columns where
  username : Nat
  password : Nat
  role : Nat
deriving DecidableEq, Repr

def fields (sep : Char) (line : List Char) : List String :=
  (splitAt sep line).map fun field => String.ofList (trimChars field)

def column? (names : List String) (name : String) : Option Nat :=
  names.findIdx? (sameLetters · name)

def columns? (names : List String) : Option Columns := do
  let username ← column? names "username"
  let password ← column? names "password"
  let role ← column? names "role"
  return ⟨username, password, role⟩

def account? (cols : Columns) (row : List String) : Option Account := do
  let username ← row[cols.username]?
  let password ← row[cols.password]?
  let role ← row[cols.role]?
  return ⟨username, password, role⟩

def isSilent (line : List Char) : Bool :=
  line.isEmpty || line.head? == some '#'

def searchRows (sep : Char) (name : String) (cols : Columns) : List Bytes → Option Account
  | [] => none
  | bytes :: rest =>
      match decodeUtf8? bytes with
      | none => none
      | some text =>
          let line := trimChars text.toList
          if isSilent line then searchRows sep name cols rest
          else
            match account? cols (fields sep line) with
            | none => searchRows sep name cols rest
            | some account =>
                if account.username = name then some account
                else searchRows sep name cols rest

def searchLines (sep : Char) (name : String) : List Bytes → Option Account
  | [] => none
  | bytes :: rest =>
      match decodeUtf8? bytes with
      | none => none
      | some text =>
          let line := trimChars text.toList
          if isSilent line then searchLines sep name rest
          else
            match columns? (fields sep line) with
            | none => none
            | some cols => searchRows sep name cols rest

def lines : Bytes → List Bytes
  | [] => [[]]
  | b :: rest =>
      if b = 10 then [] :: lines rest
      else
        match lines rest with
        | [] => [[b]]
        | line :: more => (b :: line) :: more

/-- The account of `name` in a table of fields separated by `sep`. A line that is not well-formed
UTF-8 ends the search. -/
def lookup (sep : Char) (table : Bytes) (name : String) : Option Account :=
  searchLines sep name (lines table)

end CameraServer.Accounts
