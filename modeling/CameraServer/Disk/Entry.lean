import CameraServer.Disk.Basic

/-!
Putting files, directories and links on a disk, and listing what is there.
-/

set_option autoImplicit false

namespace CameraServer.Disk

def makeAbove (d : Disk) (path : FilePath) : Except OsError Unit × Disk :=
  match path.parent? with
  | some above => d.makeDirAll above
  | none => (.ok (), d)

def placeNode (d : Disk) (path : FilePath) : Node → Except OsError Disk
  | .file content mtime => d.write path content mtime
  | .link target => d.makeLink path target
  | .dir =>
      match d.makeDirAll path with
      | (.ok (), d) => .ok d
      | (.error e, _) => .error e

def place (d : Disk) (path : FilePath) (node : Node) : Except OsError Unit × Disk :=
  match d.makeAbove path with
  | (.error e, d) => (.error e, d)
  | (.ok (), d) =>
      match d.placeNode path node with
      | .ok d => (.ok (), d)
      | .error e => (.error e, d)

structure Listed where
  path : String
  size : Option Nat
deriving DecidableEq, Repr

def listed (top : Location) (loc : Location) (node : Node) : Listed :=
  let path := "/".intercalate (loc.drop top.length)
  match node with
  | .file content _ => ⟨path, some content.size⟩
  | .dir => ⟨path ++ "/", none⟩
  | .link _ => ⟨path, none⟩

def tree (d : Disk) (top within : Location) : List Listed :=
  let below := d.nodes.filter fun entry => within.isPrefixOf entry.1 && entry.1 != within
  (below.map fun entry => listed top entry.1 entry.2).mergeSort fun a b => a.path ≤ b.path

end CameraServer.Disk
