import CameraServer.Net.Address
import CameraServer.Text.Blank
import CameraServer.Text.Split

/-!
Listen addresses of the control plane, such as `https://0.0.0.0:5443`.
-/

set_option autoImplicit false

namespace CameraServer.Net

inductive Scheme where
  | http
  | https
deriving DecidableEq, Repr

def Scheme.name : Scheme → String
  | .http => "http"
  | .https => "https"

structure ListenUrl where
  scheme : Scheme
  address : SocketAddress
deriving DecidableEq, Repr

inductive ListenError where
  | scheme (url : String)
  | address (url : String)
deriving DecidableEq, Repr

def ListenError.message : ListenError → String
  | .scheme url => "listen url " ++ url ++ " must start with http:// or https://"
  | .address url => "listen url " ++ url ++ " has an invalid address: invalid socket address syntax"

namespace ListenUrl

def schemeAndRest? (cs : List Char) : Option (Scheme × List Char) :=
  match Text.afterLead? "https://".toList cs with
  | some rest => some (.https, rest)
  | none => (Text.afterLead? "http://".toList cs).map fun rest => (.http, rest)

def parse (url : String) : Except ListenError ListenUrl :=
  let cs := Text.trimChars url.toList
  match schemeAndRest? cs with
  | none => .error (.scheme (String.ofList cs))
  | some (scheme, rest) =>
      match SocketAddress.parse? (Text.dropWhileEnd (· == '/') rest) with
      | none => .error (.address (String.ofList cs))
      | some address => .ok ⟨scheme, address⟩

def text (url : ListenUrl) : String :=
  String.ofList (url.scheme.name.toList ++ "://".toList ++ url.address.chars)

def isTls (url : ListenUrl) : Bool :=
  url.scheme == .https

def parseAll (urls : List String) : List ListenUrl :=
  urls.filterMap fun url => (parse url).toOption

end ListenUrl

end CameraServer.Net
