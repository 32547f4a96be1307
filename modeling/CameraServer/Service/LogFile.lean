import CameraServer.Calendar
import CameraServer.Settings.Resolve

/-!
The log directory and the file of the day in it. Before that file is opened the oldest log files are
removed, so that no more than a fixed number is left.
-/

set_option autoImplicit false

namespace CameraServer.Service

inductive LogFault where
  | missingDirectory (dir : FilePath)
  | directory (cause : Disk.OsError)
  | noDirectory (dir : FilePath) (cause : Disk.OsError)
  | file (dir : FilePath) (cause : Disk.OsError)
deriving DecidableEq, Repr

def LogFault.message : LogFault → String
  | .missingDirectory dir => "logging setup failed: log directory " ++ dir.text ++ " does not exist"
  | .directory cause => cause.message
  | .noDirectory dir cause =>
      "logging setup failed: log file in " ++ dir.text ++ ": failed to create log directory: "
        ++ cause.message
  | .file dir cause =>
      "logging setup failed: log file in " ++ dir.text
        ++ ": failed to create log file: " ++ cause.message

def logFileName (now : Instant) : String :=
  "pitv." ++ String.ofList (Calendar.dateChars (Calendar.civilTime now)) ++ ".log"

def prepareLogDir (d : Disk) (dir : FilePath) (forceMkdirs : Bool) : Except LogFault Unit × Disk :=
  if d.has dir then (.ok (), d)
  else if forceMkdirs then
    match d.makeDirAll dir with
    | (.ok (), d) => (.ok (), d)
    | (.error cause, d) => (.error (.directory cause), d)
  else (.error (.missingDirectory dir), d)

/-! ### Keeping few files -/

def logFilesKept : Nat := 3

def isLogName (name : String) : Bool :=
  "pitv".toList.isPrefixOf name.toList && "log".toList.isSuffixOf name.toList

def logFileNames (entries : List (String × Disk.Node)) : List String :=
  entries.filterMap fun entry =>
    match entry.2 with
    | .file _ _ => if isLogName entry.1 then some entry.1 else none
    | _ => none

/-- The names to remove, of those given in the order the files were made in: the oldest ones, as
many as leave room for one more. -/
def outdated (names : List String) : List String :=
  names.take (names.length + 1 - logFilesKept)

def pruneLogs (d : Disk) (dir : FilePath) : Except Disk.OsError Unit × Disk :=
  match d.list dir with
  | .error cause => (.error cause, d)
  | .ok entries =>
      let pruned := (outdated (logFileNames entries)).foldl (fun d name =>
        match d.removeFile (dir.join ⟨name⟩) with
        | .ok d => d
        | .error _ => d) d
      (.ok (), pruned)

/-! ### Opening -/

structure LogOpening where
  result : Except LogFault Unit
  notices : List String := []
  disk : Disk

def openFileIn (d : Disk) (dir : FilePath) (now : Instant) : Except LogFault Unit × Disk :=
  let path := dir.join ⟨logFileName now⟩
  match d.openAppend path with
  | .ok d => (.ok (), d)
  | .error _ =>
      match d.makeDirAll dir with
      | (.error cause, d) => (.error (.noDirectory dir cause), d)
      | (.ok (), d) =>
          match d.openAppend path with
          | .ok d => (.ok (), d)
          | .error cause => (.error (.file dir cause), d)

def openDirectory (d : Disk) (dir : FilePath) (now : Instant) : LogOpening :=
  let (pruning, d) := pruneLogs d dir
  let (result, disk) := openFileIn d dir now
  match pruning with
  | .ok () => { result, disk }
  | .error cause =>
      { result, disk, notices := ["Error reading the log directory/files: " ++ cause.message] }

def openLog (d : Disk) (s : LogSettings) (now : Instant) : LogOpening :=
  match s.dir with
  | none => { result := .ok (), disk := d }
  | some dir =>
      match prepareLogDir d dir s.forceMkdirs with
      | (.error fault, disk) => { result := .error fault, disk }
      | (.ok (), d) => openDirectory d dir now

end CameraServer.Service
