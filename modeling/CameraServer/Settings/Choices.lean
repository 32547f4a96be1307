import CameraServer.Disk.Path

/-!
What can be set, and what one source sets. The command line and the configuration file know the
same keys; each source may leave any of them open.
-/

set_option autoImplicit false

namespace CameraServer.Settings

inductive Key where
  | userDb
  | tlsCert
  | tlsKey
  | logDir
  | logLevel
  | forceMkdirs
  | listen
  | videoSource
  | videoWidth
  | videoHeight
  | fpsNumerator
  | fpsDenominator
  | recordingPath
  | segmentDuration
  | recordingMaxSize
  | mountPoint
  | maxLeasesPerUser
deriving DecidableEq, Repr

def Key.name : Key → String
  | .userDb => "user-db"
  | .tlsCert => "tls-cert"
  | .tlsKey => "tls-key"
  | .logDir => "log-dir"
  | .logLevel => "log-level"
  | .forceMkdirs => "force-mkdirs"
  | .listen => "listen"
  | .videoSource => "video-source"
  | .videoWidth => "video-width"
  | .videoHeight => "video-height"
  | .fpsNumerator => "video-fps-numerator"
  | .fpsDenominator => "video-fps-denominator"
  | .recordingPath => "recording-path"
  | .segmentDuration => "recording-segment-duration"
  | .recordingMaxSize => "recording-max-size"
  | .mountPoint => "mount-point"
  | .maxLeasesPerUser => "max-leases-per-user"

def Key.all : List Key :=
  [.userDb, .tlsCert, .tlsKey, .logDir, .logLevel, .forceMkdirs, .listen, .videoSource,
    .videoWidth, .videoHeight, .fpsNumerator, .fpsDenominator, .recordingPath, .segmentDuration,
    .recordingMaxSize, .mountPoint, .maxLeasesPerUser]

def Key.ofName? (name : String) : Option Key :=
  Key.all.find? (·.name = name)

inductive Shape where
  | text
  | path
  | flag
  | integer (low high : Int)
  | texts
deriving DecidableEq, Repr

def unsigned32 : Shape := .integer 0 4294967295
def signed32 : Shape := .integer (-2147483648) 2147483647
def unsigned64 : Shape := .integer 0 18446744073709551615
def signed64 : Shape := .integer (-9223372036854775808) 9223372036854775807

def Key.shape : Key → Shape
  | .userDb => .text
  | .tlsCert => .path
  | .tlsKey => .path
  | .logDir => .path
  | .logLevel => .text
  | .forceMkdirs => .flag
  | .listen => .texts
  | .videoSource => .text
  | .videoWidth => unsigned32
  | .videoHeight => unsigned32
  | .fpsNumerator => signed32
  | .fpsDenominator => signed32
  | .recordingPath => .path
  | .segmentDuration => unsigned64
  | .recordingMaxSize => signed64
  | .mountPoint => .text
  | .maxLeasesPerUser => unsigned64

inductive Given where
  | text (s : String)
  | flag (b : Bool)
  | integer (n : Int)
  | texts (list : List String)
deriving DecidableEq, Repr

def Shape.admits : Shape → Given → Bool
  | .text, .text _ => true
  | .path, .text _ => true
  | .flag, .flag _ => true
  | .integer low high, .integer n => low ≤ n && n ≤ high
  | .texts, .texts _ => true
  | _, _ => false

structure Choices where
  userDb : Option String := none
  tlsCert : Option FilePath := none
  tlsKey : Option FilePath := none
  logDir : Option FilePath := none
  logLevel : Option String := none
  forceMkdirs : Option Bool := none
  listen : Option (List String) := none
  videoSource : Option String := none
  videoWidth : Option Nat := none
  videoHeight : Option Nat := none
  fpsNumerator : Option Int := none
  fpsDenominator : Option Int := none
  recordingPath : Option FilePath := none
  /-- In seconds. -/
  segmentDuration : Option Nat := none
  /-- In megabytes. -/
  recordingMaxSize : Option Int := none
  mountPoint : Option String := none
  maxLeasesPerUser : Option Nat := none
deriving DecidableEq, Repr

namespace Choices

def putText (c : Choices) (s : String) : Key → Choices
  | .userDb => { c with userDb := some s }
  | .tlsCert => { c with tlsCert := some ⟨s⟩ }
  | .tlsKey => { c with tlsKey := some ⟨s⟩ }
  | .logDir => { c with logDir := some ⟨s⟩ }
  | .logLevel => { c with logLevel := some s }
  | .videoSource => { c with videoSource := some s }
  | .recordingPath => { c with recordingPath := some ⟨s⟩ }
  | .mountPoint => { c with mountPoint := some s }
  | _ => c

def putInteger (c : Choices) (n : Int) : Key → Choices
  | .videoWidth => { c with videoWidth := some n.toNat }
  | .videoHeight => { c with videoHeight := some n.toNat }
  | .fpsNumerator => { c with fpsNumerator := some n }
  | .fpsDenominator => { c with fpsDenominator := some n }
  | .segmentDuration => { c with segmentDuration := some n.toNat }
  | .recordingMaxSize => { c with recordingMaxSize := some n }
  | .maxLeasesPerUser => { c with maxLeasesPerUser := some n.toNat }
  | _ => c

def put (c : Choices) (key : Key) : Given → Choices
  | .text s => c.putText s key
  | .integer n => c.putInteger n key
  | .flag b => { c with forceMkdirs := some b }
  | .texts list => { c with listen := some (c.listen.getD [] ++ list) }

def ofEntries? : List (String × Given) → Choices → Option Choices
  | [], c => some c
  | (name, value) :: rest, c =>
      match Key.ofName? name with
      | some key => if key.shape.admits value then ofEntries? rest (c.put key value) else none
      | none => none

end Choices

end CameraServer.Settings
