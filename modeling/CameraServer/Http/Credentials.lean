import CameraServer.Accounts.Table
import CameraServer.Http.Base64
import CameraServer.Http.HeaderValue

/-!
Basic authentication against the user table.
-/

set_option autoImplicit false

namespace CameraServer.Http

open CameraServer.Text

structure Credentials where
  username : String
  password : String
deriving DecidableEq, Repr

def Credentials.parse? (value : String) : Option Credentials := do
  guard (isReadable value)
  let (scheme, encoded) ← cut? ' ' (trimChars value.toList)
  guard (sameLetters (String.ofList scheme) "basic")
  let bytes ← Base64.decode? (trimChars encoded)
  let decoded ← decodeUtf8? bytes
  let (username, password) ← cut? ':' decoded.toList
  return ⟨String.ofList username, String.ofList password⟩

def Credentials.ofHeader? (values : List String) : Option Credentials :=
  values.head?.bind Credentials.parse?

inductive AuthError where
  | missingCredentials
  | unauthorized (username : String)
deriving DecidableEq, Repr

def authenticate (lookup : String → Option Accounts.Account) (values : List String) :
    Except AuthError String :=
  match Credentials.ofHeader? values with
  | none => .error .missingCredentials
  | some credentials =>
      if credentials.username = "" then .error .missingCredentials
      else
        match lookup credentials.username with
        | none => .error (.unauthorized credentials.username)
        | some account =>
            if account.password = credentials.password then .ok credentials.username
            else .error (.unauthorized credentials.username)

end CameraServer.Http
