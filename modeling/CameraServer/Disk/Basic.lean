import CameraServer.Disk.Path
import CameraServer.Text.Blank
import CameraServer.Text.Utf8

/-!
A file system in memory. A location is the list of names from the root; the root itself is always
a directory. Paths are looked up by walking their segments and following symbolic links. Names and
paths have a greatest length in bytes.
-/

set_option autoImplicit false

namespace CameraServer.Disk

open CameraServer.Text (Bytes)

inductive OsError where
  | noEntry
  | entryExists
  | notDirectory
  | isDirectory
  | tooManyOpen
  | nameTooLong
  | tooManyLinks
  | nulInPath
deriving DecidableEq, Repr

def OsError.message : OsError → String
  | .noEntry => "No such file or directory (os error 2)"
  | .entryExists => "File exists (os error 17)"
  | .notDirectory => "Not a directory (os error 20)"
  | .isDirectory => "Is a directory (os error 21)"
  | .tooManyOpen => "Too many open files (os error 24)"
  | .nameTooLong => "File name too long (os error 36)"
  | .tooManyLinks => "Too many levels of symbolic links (os error 40)"
  | .nulInPath => "file name contained an unexpected NUL byte"

structure Content where
  bytes : Bytes := []
  zeros : Nat := 0
deriving DecidableEq, Repr

def Content.size (c : Content) : Nat :=
  c.bytes.length + c.zeros

def Content.all (c : Content) : Bytes :=
  c.bytes ++ List.replicate c.zeros 0

def Content.slice (c : Content) (start count : Nat) : Bytes :=
  let written := (c.bytes.drop start).take count
  let zeros := c.zeros - (start - c.bytes.length)
  written ++ List.replicate (min zeros (count - written.length)) 0

def Content.grow (c : Content) (n : Nat) : Content :=
  { c with zeros := c.zeros + n }

inductive Node where
  | file (content : Content) (mtime : Int)
  | dir
  | link (target : FilePath)
deriving DecidableEq, Repr

abbrev Location := List String

end CameraServer.Disk

namespace CameraServer

open Disk

structure Disk where
  nodes : List (Location × Node) := []
  workDir : Location := []
  time : Int := 0
deriving Repr

namespace Disk

def node? (d : Disk) (loc : Location) : Option Node :=
  if loc = [] then some .dir else (d.nodes.find? (·.1 = loc)).map (·.2)

def isDirAt (d : Disk) (loc : Location) : Bool :=
  d.node? loc == some .dir

def set (d : Disk) (loc : Location) (node : Node) : Disk :=
  if d.nodes.any (·.1 = loc) then
    { d with nodes := d.nodes.map fun entry => if entry.1 = loc then (loc, node) else entry }
  else { d with nodes := d.nodes ++ [(loc, node)] }

def erase (d : Disk) (loc : Location) : Disk :=
  { d with nodes := d.nodes.filter (·.1 ≠ loc) }

def eraseTree (d : Disk) (loc : Location) : Disk :=
  { d with nodes := d.nodes.filter fun entry => !loc.isPrefixOf entry.1 }

/-! ### Walking a path -/

def maxNameBytes : Nat := 255

def maxPathBytes : Nat := 4095

def pathFault? (p : FilePath) : Option OsError :=
  if p.text.toList.contains '\x00' then some .nulInPath
  else if p.text = "" then some .noEntry
  else if maxPathBytes < p.text.utf8ByteSize then some .nameTooLong
  else none

/-- How a walk treats its last segment: whether a link there is followed, and whether nothing may
be there. -/
structure WalkMode where
  followLast : Bool := true
  missingOk : Bool := false

def lookupSteps (p : FilePath) : List String :=
  let named := p.segments.filter (· ≠ "")
  if p.text.toList.getLast? = some '/' then named ++ ["."] else named

def walkFrom (d : Disk) (mode : WalkMode)
    (onLink : Location → List String → Except OsError Location) :
    Location → List String → Except OsError Location
  | here, [] => .ok here
  | here, step :: rest =>
      if !d.isDirAt here then .error .notDirectory
      else if step = "." then walkFrom d mode onLink here rest
      else if step = ".." then walkFrom d mode onLink here.dropLast rest
      else if maxNameBytes < step.utf8ByteSize then .error .nameTooLong
      else
        match d.node? (here ++ [step]) with
        | none => if rest = [] && mode.missingOk then .ok (here ++ [step]) else .error .noEntry
        | some (.link target) =>
            if rest = [] && !mode.followLast then .ok (here ++ [step])
            else
              onLink (if target.isAbsolute then [] else here) (lookupSteps target ++ rest)
        | some _ => walkFrom d mode onLink (here ++ [step]) rest

/-- A walk that crosses fewer than `links` links. -/
def walk (d : Disk) (mode : WalkMode) : Nat → Location → List String → Except OsError Location
  | 0, _, _ => .error .tooManyLinks
  | links + 1, here, steps => walkFrom d mode (walk d mode links) here steps

def maxLinks : Nat := 40

def startOf (d : Disk) (p : FilePath) : Location :=
  if p.isAbsolute then [] else d.workDir

def locate (d : Disk) (mode : WalkMode) (p : FilePath) : Except OsError Location :=
  match pathFault? p with
  | some fault => .error fault
  | none => walk d mode (maxLinks + 1) (d.startOf p) (lookupSteps p)

def stat (d : Disk) (p : FilePath) : Except OsError (Location × Node) :=
  match d.locate {} p with
  | .error e => .error e
  | .ok loc =>
      match d.node? loc with
      | none => .error .noEntry
      | some node => .ok (loc, node)

def has (d : Disk) (p : FilePath) : Bool :=
  (d.stat p).toOption.isSome

def isDir (d : Disk) (p : FilePath) : Bool :=
  match d.stat p with
  | .ok (_, .dir) => true
  | _ => false

def pathOf (loc : Location) : FilePath :=
  ⟨"/" ++ "/".intercalate loc⟩

def canonical (d : Disk) (p : FilePath) : Except OsError FilePath :=
  (d.stat p).map fun found => pathOf found.1

/-! ### Operations -/

def withoutEndSlashes (p : FilePath) : FilePath :=
  ⟨String.ofList (Text.dropWhileEnd (· == '/') p.text.toList)⟩

def makeDir (d : Disk) (p : FilePath) : Except OsError Disk :=
  match pathFault? p with
  | some fault => .error fault
  | none =>
      match d.locate { followLast := false, missingOk := true } (withoutEndSlashes p) with
      | .error e => .error e
      | .ok loc =>
          match d.node? loc with
          | some _ => .error .entryExists
          | none => .ok (d.set loc .dir)

/-- Makes a directory and those above it that are missing. Directories made on the way stay when a
later one cannot be made. -/
def makeDirs (d : Disk) : Nat → FilePath → Except OsError Unit × Disk
  | 0, _ => (.error .noEntry, d)
  | depth + 1, p =>
      if p.text = "" then (.ok (), d)
      else
        match d.makeDir p with
        | .ok d => (.ok (), d)
        | .error .noEntry =>
            match p.parent? with
            | none => (.error .noEntry, d)
            | some above =>
                match d.makeDirs depth above with
                | (.error e, d) => (.error e, d)
                | (.ok (), d) =>
                    match d.makeDir p with
                    | .ok d => (.ok (), d)
                    | .error e => if d.isDir p then (.ok (), d) else (.error e, d)
        | .error e => if d.isDir p then (.ok (), d) else (.error e, d)

def makeDirAll (d : Disk) (p : FilePath) : Except OsError Unit × Disk :=
  d.makeDirs (p.segments.length + 1) p

def children (d : Disk) (loc : Location) : List (String × Node) :=
  d.nodes.filterMap fun entry =>
    match entry.1.getLast? with
    | some name => if entry.1.dropLast = loc then some (name, entry.2) else none
    | none => none

def list (d : Disk) (p : FilePath) : Except OsError (List (String × Node)) :=
  match d.stat p with
  | .error e => .error e
  | .ok (loc, .dir) => .ok (d.children loc)
  | .ok _ => .error .notDirectory

def removeFile (d : Disk) (p : FilePath) : Except OsError Disk :=
  match d.locate { followLast := false } p with
  | .error e => .error e
  | .ok loc =>
      match d.node? loc with
      | none => .error .noEntry
      | some .dir => .error .isDirectory
      | some _ => .ok (d.erase loc)

def openAppend (d : Disk) (p : FilePath) : Except OsError Disk :=
  match d.locate { missingOk := true } p with
  | .error e => .error e
  | .ok loc =>
      match d.node? loc with
      | some .dir => .error .isDirectory
      | some _ => .ok d
      | none => .ok (d.set loc (.file {} d.time))

def appendZeros (d : Disk) (p : FilePath) (count : Nat) : Except OsError Disk :=
  match d.stat p with
  | .error e => .error e
  | .ok (loc, .file content _) => .ok (d.set loc (.file (content.grow count) d.time))
  | .ok _ => .error .isDirectory

def read (d : Disk) (p : FilePath) : Except OsError Content :=
  match d.stat p with
  | .error e => .error e
  | .ok (_, .file content _) => .ok content
  | .ok _ => .error .isDirectory

def write (d : Disk) (p : FilePath) (content : Content) (mtime : Int) : Except OsError Disk :=
  match d.locate { missingOk := true } p with
  | .error e => .error e
  | .ok loc =>
      match d.node? loc with
      | some .dir => .error .isDirectory
      | _ => .ok (d.set loc (.file content mtime))

def makeLink (d : Disk) (p target : FilePath) : Except OsError Disk :=
  match pathFault? target with
  | some fault => .error fault
  | none =>
      match d.locate { followLast := false, missingOk := true } p with
      | .error e => .error e
      | .ok loc =>
          match d.node? loc with
          | some _ => .error .entryExists
          | none => .ok (d.set loc (.link target))

def removeTree (d : Disk) (p : FilePath) : Except OsError Disk :=
  match d.locate { followLast := false } p with
  | .error e => .error e
  | .ok loc =>
      match d.node? loc with
      | none => .error .noEntry
      | some _ => .ok (d.eraseTree loc)

def removeDir (d : Disk) (p : FilePath) : Except OsError Disk :=
  match d.locate { followLast := false } p with
  | .error e => .error e
  | .ok loc =>
      match d.node? loc with
      | none => .error .noEntry
      | some (.file _ _) => .error .notDirectory
      | some _ => .ok (d.eraseTree loc)

def touch (d : Disk) (p : FilePath) (mtime : Int) : Disk :=
  match d.stat p with
  | .ok (loc, .file content _) => d.set loc (.file content mtime)
  | _ => d

end Disk

end CameraServer
