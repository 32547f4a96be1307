import CameraServer.Lease.Policy
import CameraServer.Net.ListenUrl
import CameraServer.Settings.CommandLine
import CameraServer.Settings.Document
import CameraServer.Settings.Error

/-!
The settings of a server. A choice on the command line wins over one in the configuration file, and
that over the built-in value. Relative paths in the file are taken from the file's directory.
-/

set_option autoImplicit false

namespace CameraServer

structure ServerSettings where
  listeners : List Net.ListenUrl
  tlsCert : FilePath
  tlsKey : FilePath
  mountPoint : String
  userDb : String
  recordingDir : FilePath
deriving DecidableEq, Repr

def ServerSettings.needsTls (s : ServerSettings) : Bool :=
  s.listeners.any Net.ListenUrl.isTls

structure LogSettings where
  dir : Option FilePath
  level : String
  forceMkdirs : Bool
deriving DecidableEq, Repr

structure Settings where
  pipeline : PipelineConfig
  server : ServerSettings
  lease : LeasePolicy
  logging : LogSettings
  simulateGraph : Bool
  configFile : Option FilePath := none
deriving DecidableEq, Repr

namespace Settings

def rebase (base : Option FilePath) (path : FilePath) : FilePath :=
  match base with
  | some dir => if path.isAbsolute then path else dir.join path
  | none => path

def rebaseLocation (base : Option FilePath) (location : String) : String :=
  if (Text.cutAt? "://".toList location.toList).isSome then location
  else (rebase base ⟨location⟩).text

def reservedPaths : List String :=
  ["/status", "/index.html"]

def isCaptureChar (c : Char) : Bool :=
  c = '\x7b' || c = '\x7d' || c = '*'

def checkMountPoint (path : String) : Except InvalidSetting Unit :=
  if path.toList.head? ≠ some '/' ∨ path = "/" then .error (.mountPointNotBelowRoot path)
  else if path ∈ reservedPaths then .error (.mountPointReserved path)
  else if path.toList.any isCaptureChar then .error (.mountPointCaptures path)
  else .ok ()

def pipelineOf (line file : Choices) (base : Option FilePath) : PipelineConfig :=
  let default : PipelineConfig := {}
  { width := (line.videoWidth.or file.videoWidth).getD default.width
    height := (line.videoHeight.or file.videoHeight).getD default.height
    framerate :=
      ⟨(line.fpsNumerator.or file.fpsNumerator).getD default.framerate.numerator,
        (line.fpsDenominator.or file.fpsDenominator).getD default.framerate.denominator⟩
    source := line.videoSource.or file.videoSource
    recordingPath :=
      (line.recordingPath.or (file.recordingPath.map (rebase base))).getD default.recordingPath
    segment :=
      ((line.segmentDuration.or file.segmentDuration).map (· * 1000)).getD default.segment
    maxSizeMb := (line.recordingMaxSize.or file.recordingMaxSize).getD default.maxSizeMb
    forceMkdirs := (line.forceMkdirs.or file.forceMkdirs).getD default.forceMkdirs }

def checkPipeline (config : PipelineConfig) : Except InvalidSetting Unit :=
  if config.width = 0 ∨ config.height = 0 then .error (.videoSize config.width config.height)
  else if config.framerate.numerator ≤ 0 ∨ config.framerate.denominator ≤ 0 then
    .error (.framerate config.framerate)
  else if config.segment = 0 then .error .segmentDuration
  else .ok ()

def defaultListen : String := "http://0.0.0.0:5000"
def defaultMountPoint : String := "/camera"
def defaultUserDb : String := "usernames.txt"
def defaultTlsCert : FilePath := ⟨"server.crt"⟩
def defaultTlsKey : FilePath := ⟨"server.key"⟩
def defaultLogLevel : String := "info"

def listenersOf (line file : Choices) : Except InvalidSetting (List Net.ListenUrl) :=
  match Net.ListenUrl.parseAll ((line.listen.or file.listen).getD [defaultListen]) with
  | [] => .error .noListener
  | listeners => .ok listeners

def mountPointOf (line file : Choices) : Except InvalidSetting String :=
  let path := (line.mountPoint.or file.mountPoint).getD defaultMountPoint
  (checkMountPoint path).map fun _ => path

def resolve (line : CommandLine) (file : Choices) (base : Option FilePath) :
    Except InvalidSetting Settings := do
  let choices := line.choices
  let pipeline := pipelineOf choices file base
  checkPipeline pipeline
  let listeners ← listenersOf choices file
  let mountPoint ← mountPointOf choices file
  let policy : LeasePolicy := {}
  return {
    pipeline
    server :=
      { listeners
        tlsCert := (choices.tlsCert.or (file.tlsCert.map (rebase base))).getD defaultTlsCert
        tlsKey := (choices.tlsKey.or (file.tlsKey.map (rebase base))).getD defaultTlsKey
        mountPoint
        userDb :=
          (choices.userDb.or (file.userDb.map (rebaseLocation base))).getD defaultUserDb
        recordingDir := pipeline.recordingPath }
    lease :=
      { policy with
        maxLeasesPerUser :=
          (choices.maxLeasesPerUser.or file.maxLeasesPerUser).getD policy.maxLeasesPerUser }
    logging :=
      { dir := choices.logDir.or (file.logDir.map (rebase base))
        level := (choices.logLevel.or file.logLevel).getD defaultLogLevel
        forceMkdirs := pipeline.forceMkdirs }
    simulateGraph := line.simulateGraph }

def readFile (d : Disk) (path : FilePath) : Except ConfigError (Option Choices) :=
  if d.has path then
    match d.read path with
    | .error cause => .error (.read path (.os cause))
    | .ok content =>
        match Text.decodeUtf8? content.all with
        | none => .error (.read path .notText)
        | some text =>
            match Choices.ofText? text with
            | some choices => .ok (some choices)
            | none => .error (.parse path)
  else .ok none

def directoryOf (path : FilePath) : Option FilePath :=
  path.parent?.filter (·.text ≠ "")

def load (d : Disk) (line : CommandLine) : Except ConfigError Settings :=
  match readFile d line.config with
  | .error e => .error e
  | .ok none => (resolve line {} none).mapError .invalid
  | .ok (some file) =>
      ((resolve line file (directoryOf line.config)).mapError .invalid).map fun settings =>
        { settings with configFile := some line.config }

end Settings

end CameraServer
