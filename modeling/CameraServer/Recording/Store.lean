import CameraServer.Pipeline.Config
import CameraServer.Recording.Quota

/-!
The recording store: it finds the recording directory and hands out the place of each new fragment
after a quota pass.
-/

set_option autoImplicit false

namespace CameraServer

inductive StorageError where
  | missingDirectory (path : FilePath)
  | notADirectory (path : FilePath)
  | io (path : FilePath) (cause : Disk.OsError)
deriving DecidableEq, Repr

def StorageError.message : StorageError → String
  | .missingDirectory path =>
      "recording directory " ++ path.text ++ " does not exist and creation is disabled"
  | .notADirectory path => "recording directory " ++ path.text ++ " is not a directory"
  | .io path cause => "i/o error on " ++ path.text ++ ": " ++ cause.message

structure RecordingStore where
  path : FilePath
  forceMkdirs : Bool
  maxSizeMb : Int
  resolved : Option FilePath := none
  active : Option FilePath := none
deriving DecidableEq, Repr

namespace RecordingStore

def ofConfig (config : PipelineConfig) : RecordingStore :=
  { path := config.recordingPath
    forceMkdirs := config.forceMkdirs
    maxSizeMb := config.maxSizeMb }

def apply (s : RecordingStore) (config : PipelineConfig) : RecordingStore :=
  { s with
    path := config.recordingPath
    forceMkdirs := config.forceMkdirs
    maxSizeMb := config.maxSizeMb
    resolved := if s.path.same config.recordingPath then s.resolved else none }

def bytesPerMegabyte : Nat := 1048576

def maxBytes (s : RecordingStore) : Option Nat :=
  if s.maxSizeMb ≤ 0 then none
  else some (min (s.maxSizeMb.toNat * bytesPerMegabyte) (Nat.pow 2 64 - 1))

def prepareDir (s : RecordingStore) (d : Disk) : Except StorageError Unit × Disk :=
  if d.has s.path then
    if d.isDir s.path then (.ok (), d) else (.error (.notADirectory s.path), d)
  else if s.forceMkdirs then
    match d.makeDirAll s.path with
    | (.ok (), d) => (.ok (), d)
    | (.error cause, d) => (.error (.io s.path cause), d)
  else (.error (.missingDirectory s.path), d)

def resolveDir (s : RecordingStore) (d : Disk) :
    Except StorageError FilePath × RecordingStore × Disk :=
  match s.prepareDir d with
  | (.error e, d) => (.error e, s, d)
  | (.ok (), d) =>
      let dir :=
        match d.canonical s.path with
        | .ok dir => dir
        | .error _ => s.path
      (.ok dir, { s with resolved := some dir }, d)

/-- The place of fragment `index`, opened at `now`; none when there is no directory for it. The quota pass before it
is cut short at `stop`. -/
def nextFragmentAmid (stop : Recording.Interruption) (s : RecordingStore) (d : Disk) (now : Instant) (index : Nat) :
    Option FilePath × RecordingStore × Disk :=
  match s.resolveDir d with
  | (.error _, s, d) => (none, s, d)
  | (.ok dir, s, d) =>
      let path := dir.join ⟨Recording.fragmentName now index⟩
      let d := (Recording.enforceQuota stop d dir s.maxBytes path).2
      (some path, { s with active := some path }, d)

def nextFragment (s : RecordingStore) (d : Disk) (now : Instant) (index : Nat) :
    Option FilePath × RecordingStore × Disk :=
  s.nextFragmentAmid {} d now index

end RecordingStore

end CameraServer
