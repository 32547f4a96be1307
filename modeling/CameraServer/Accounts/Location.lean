import CameraServer.Accounts.Table
import CameraServer.Disk.Basic

/-!
Where the user table is: a path, or a path behind `file://`. The file is read at each lookup.
-/

set_option autoImplicit false

namespace CameraServer.Accounts

def tablePath? (location : String) : Option FilePath :=
  let path? :=
    match Text.cutAt? "://".toList location.toList with
    | some (scheme, path) => if String.ofList scheme = "file" then some path else none
    | none => some location.toList
  match path? with
  | some (c :: path) => some ⟨String.ofList (c :: path)⟩
  | _ => none

def unsupportedText (location : String) : String :=
  "unsupported user database location " ++ location

def lookupIn (d : Disk) (path : FilePath) (name : String) : Option Account :=
  match d.read path with
  | .ok content => lookup ',' content.all name
  | .error _ => none

end CameraServer.Accounts
