import CameraServer.Text.Letters
import CameraServer.Text.Split

/-!
File paths. A path keeps the text it was given; two paths are the same when their parts agree, so
repeated and trailing slashes and inner `.` segments do not matter.
-/

set_option autoImplicit false

namespace CameraServer

open Text

structure FilePath where
  text : String
deriving DecidableEq, Repr

inductive PathPart where
  | root
  | current
  | parent
  | name (s : String)
deriving DecidableEq, Repr

namespace FilePath

def isAbsolute (p : FilePath) : Bool :=
  p.text.toList.head? == some '/'

def segments (p : FilePath) : List String :=
  (splitAt '/' p.text.toList).map String.ofList

def ofSegments (segments : List String) : FilePath :=
  ⟨"/".intercalate segments⟩

def part (segment : String) : PathPart :=
  if segment = ".." then .parent else .name segment

def isIdle (segment : String) : Bool :=
  segment = "" || segment = "."

def parts (p : FilePath) : List PathPart :=
  let named := (p.segments.filter fun s => !isIdle s).map part
  if p.isAbsolute then .root :: named
  else if p.segments.head? = some "." then .current :: named
  else named

def same (p q : FilePath) : Bool :=
  p.parts == q.parts

def join (p q : FilePath) : FilePath :=
  if q.isAbsolute || p.text = "" then q
  else if p.text.toList.getLast? = some '/' then ⟨p.text ++ q.text⟩
  else ⟨p.text ++ "/" ++ q.text⟩

def fileName? (p : FilePath) : Option String :=
  match p.parts.getLast? with
  | some (.name s) => some s
  | _ => none

def extensionOf? (name : List Char) : Option (List Char) :=
  match cut? '.' name.reverse with
  | some (after, before) => if before = [] then none else some after.reverse
  | none => none

def extension? (p : FilePath) : Option String :=
  p.fileName?.bind fun name => (extensionOf? name.toList).map String.ofList

def dropIdleEnd : List String → List String
  | [] => []
  | first :: rest => first :: (rest.reverse.dropWhile isIdle).reverse

def parent? (p : FilePath) : Option FilePath :=
  if p.parts = [] ∨ p.parts = [.root] then none
  else
    let kept := dropIdleEnd (dropIdleEnd p.segments).dropLast
    if kept = [""] then some ⟨"/"⟩ else some (ofSegments kept)

end FilePath

end CameraServer
