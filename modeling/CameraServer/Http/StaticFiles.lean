import CameraServer.Disk.Basic
import CameraServer.Http.ByteRange
import CameraServer.Http.ContentType
import CameraServer.Http.Date
import CameraServer.Http.HeaderValue
import CameraServer.Http.Message
import CameraServer.Text.Numeral

/-!
Files of the recording directory: whole, in part, or only when they have changed.
-/

set_option autoImplicit false

namespace CameraServer.Http

open CameraServer.Text (Bytes)

def percentDecode : Bytes → Bytes
  | 37 :: a :: b :: rest =>
      match Text.hexValue? (Char.ofNat a.toNat), Text.hexValue? (Char.ofNat b.toNat) with
      | some high, some low => UInt8.ofNat (high * 16 + low) :: percentDecode rest
      | _, _ => 37 :: percentDecode (a :: b :: rest)
  | b :: rest => b :: percentDecode rest
  | [] => []

def namesOf? (path : String) : Option (List String) := do
  let relative := String.ofList (path.toList.dropWhile (· == '/'))
  let decoded ← Text.decodeUtf8? (percentDecode (Text.encodeUtf8 relative))
  let parts := (FilePath.mk decoded).parts
  if parts.contains .root || parts.contains .parent then none
  else
    return parts.filterMap fun part =>
      match part with
      | .name s => some s
      | _ => none

/-! ### What a path leads to -/

def directorySize : Nat := 4096

def sizeOf : Disk.Node → Nat
  | .file content _ => content.size
  | _ => directorySize

def changeSecond? : Disk.Node → Option Int
  | .file _ mtime => some (mtime.fdiv 1000)
  | _ => none

def bytesOf (first count : Nat) : Disk.Node → Bytes
  | .file content _ => content.slice first count
  | _ => []

/-! ### Answers -/

/-- A failed look-up. Nothing there is the client's error, all else the server's; a path with a zero
byte in it is the client's only when its file is to be opened. -/
def lookupFailed (method : String) : Disk.OsError → Response
  | .noEntry | .notDirectory => .notFound
  | .nulInPath => if method = "GET" then .notFound else { status := 500 }
  | _ => { status := 500 }

def Request.date? (r : Request) (name : String) : Option Int :=
  (r.header name).head?.bind dateSecond?

def datesAgainst? (r : Request) (changed : Option Int) : Option Response :=
  let changedAfter (date : Int) := changed.all (date < ·)
  let unchangedSince (date : Int) := changed.any (· ≤ date)
  if (r.date? "if-unmodified-since").any changedAfter then some { status := 412 }
  else if (r.date? "if-modified-since").any unchangedSince then some { status := 304 }
  else none

def Request.range? (r : Request) (size : Nat) : Option RangeChoice :=
  (((r.header "range").head?).filter isReadable).map (RangeChoice.ofText size)

def sendNode (r : Request) (path : FilePath) (node : Disk.Node) : Response :=
  let contentType := some (contentTypeOf path)
  let part (first count : Nat) : Body :=
    if r.method = "HEAD" then .empty else .content (bytesOf first count node)
  match r.range? (sizeOf node) with
  | none => { status := 200, contentType, body := part 0 (sizeOf node) }
  | some (.part first last) =>
      { status := 206, contentType, body := part first (last + 1 - first) }
  | some .several =>
      let reason := "Cannot serve multipart range requests"
      { status := 416, contentType, body := .content (Text.encodeUtf8 reason) }
  | some .unsatisfiable => { status := 416, contentType }

def serveFile (d : Disk) (r : Request) (path : FilePath) : Response :=
  match d.stat path with
  | .error e => lookupFailed r.method e
  | .ok (_, node) => (datesAgainst? r (changeSecond? node)).getD (sendNode r path node)

def redirectToSlash (r : Request) : Response :=
  match (Target.ofText r.target).withSlash? with
  | some location => { status := 307, location := some location }
  | none => { status := 500 }

def serveStatic (d : Disk) (root : FilePath) (r : Request) : Response :=
  if !r.onlyReads then .readOnly
  else
    match namesOf? r.path with
    | none => .notFound
    | some names =>
        let path := names.foldl (fun p name => p.join ⟨name⟩) root
        if d.isDir path then
          if r.path.toList.getLast? = some '/' then serveFile d r (path.join ⟨"index.html"⟩)
          else redirectToSlash r
        else serveFile d r path

end CameraServer.Http
