import Mathlib.Data.List.Infix
import CameraServer.Settings.Resolve
import CameraServer.Proofs.Text.Split

/-!
Where a setting comes from. Main statement: a command line and a configuration file make the settings, or the
error, that the command line makes by itself when all that it leaves open is taken from the file; so what the
file says of an option on the command line does not matter.
-/

set_option autoImplicit false

namespace CameraServer

namespace Settings

/-! ### What a source says -/

def Given.ofPath (path : FilePath) : Given := .text path.text

def Given.ofNat (n : Nat) : Given := .integer n

def Choices.given? (c : Choices) : Key → Option Given
  | .userDb => c.userDb.map .text
  | .tlsCert => c.tlsCert.map .ofPath
  | .tlsKey => c.tlsKey.map .ofPath
  | .logDir => c.logDir.map .ofPath
  | .logLevel => c.logLevel.map .text
  | .forceMkdirs => c.forceMkdirs.map .flag
  | .listen => c.listen.map .texts
  | .videoSource => c.videoSource.map .text
  | .videoWidth => c.videoWidth.map .ofNat
  | .videoHeight => c.videoHeight.map .ofNat
  | .fpsNumerator => c.fpsNumerator.map .integer
  | .fpsDenominator => c.fpsDenominator.map .integer
  | .recordingPath => c.recordingPath.map .ofPath
  | .segmentDuration => c.segmentDuration.map .ofNat
  | .recordingMaxSize => c.recordingMaxSize.map .integer
  | .mountPoint => c.mountPoint.map .text
  | .maxLeasesPerUser => c.maxLeasesPerUser.map .ofNat

theorem choices_ext (c d : Choices) (same : ∀ key, c.given? key = d.given? key) : c = d := by
  have text : Function.Injective Given.text := fun _ _ eq => Given.text.inj eq
  have path : Function.Injective Given.ofPath := fun _ _ eq => congrArg FilePath.mk (Given.text.inj eq)
  have flag : Function.Injective Given.flag := fun _ _ eq => Given.flag.inj eq
  have integer : Function.Injective Given.integer := fun _ _ eq => Given.integer.inj eq
  have natural : Function.Injective Given.ofNat := fun _ _ eq => Int.ofNat.inj (Given.integer.inj eq)
  have texts : Function.Injective Given.texts := fun _ _ eq => Given.texts.inj eq
  cases c
  cases d
  simp only [Choices.mk.injEq]
  exact ⟨Option.map_injective text (same .userDb), Option.map_injective path (same .tlsCert),
    Option.map_injective path (same .tlsKey), Option.map_injective path (same .logDir),
    Option.map_injective text (same .logLevel), Option.map_injective flag (same .forceMkdirs),
    Option.map_injective texts (same .listen), Option.map_injective text (same .videoSource),
    Option.map_injective natural (same .videoWidth), Option.map_injective natural (same .videoHeight),
    Option.map_injective integer (same .fpsNumerator), Option.map_injective integer (same .fpsDenominator),
    Option.map_injective path (same .recordingPath), Option.map_injective natural (same .segmentDuration),
    Option.map_injective integer (same .recordingMaxSize), Option.map_injective text (same .mountPoint),
    Option.map_injective natural (same .maxLeasesPerUser)⟩

/-! ### The file behind the command line -/

def Choices.rebased (base : Option FilePath) (file : Choices) : Choices :=
  { file with
    userDb := file.userDb.map (rebaseLocation base)
    tlsCert := file.tlsCert.map (rebase base)
    tlsKey := file.tlsKey.map (rebase base)
    logDir := file.logDir.map (rebase base)
    recordingPath := file.recordingPath.map (rebase base) }

def Choices.over (first second : Choices) : Choices where
  userDb := first.userDb.or second.userDb
  tlsCert := first.tlsCert.or second.tlsCert
  tlsKey := first.tlsKey.or second.tlsKey
  logDir := first.logDir.or second.logDir
  logLevel := first.logLevel.or second.logLevel
  forceMkdirs := first.forceMkdirs.or second.forceMkdirs
  listen := first.listen.or second.listen
  videoSource := first.videoSource.or second.videoSource
  videoWidth := first.videoWidth.or second.videoWidth
  videoHeight := first.videoHeight.or second.videoHeight
  fpsNumerator := first.fpsNumerator.or second.fpsNumerator
  fpsDenominator := first.fpsDenominator.or second.fpsDenominator
  recordingPath := first.recordingPath.or second.recordingPath
  segmentDuration := first.segmentDuration.or second.segmentDuration
  recordingMaxSize := first.recordingMaxSize.or second.recordingMaxSize
  mountPoint := first.mountPoint.or second.mountPoint
  maxLeasesPerUser := first.maxLeasesPerUser.or second.maxLeasesPerUser

def CommandLine.filled (line : CommandLine) (file : Choices) (base : Option FilePath) : CommandLine :=
  { line with choices := line.choices.over (file.rebased base) }

-- What a value of the file stands for on the command line: a path is taken from the directory of the file,
-- and so is the user table unless it has a scheme.
def fromFile (base : Option FilePath) (key : Key) : Given → Given
  | .text s =>
      match base with
      | some dir =>
          if key.shape = .path ∨ key = .userDb ∧ ¬ "://".toList <:+: s.toList then .ofPath (dir.join ⟨s⟩)
          else .text s
      | none => .text s
  | value => value

theorem given_over (first second : Choices) (key : Key) :
    (first.over second).given? key = (first.given? key).or (second.given? key) := by
  cases key <;> exact Option.map_or

theorem rebase_joins (dir path : FilePath) : rebase (some dir) path = dir.join path := by
  rw [rebase]
  split
  · next absolute => simp [FilePath.join, absolute]
  · rfl

section Rebased

variable (base : Option FilePath)

theorem from_file_path (key : Key) (shape : key.shape = .path) (path : FilePath) :
    Given.ofPath (rebase base path) = fromFile base key (.ofPath path) := by
  cases base with
  | none => rfl
  | some dir =>
      rw [rebase_joins, Given.ofPath, Given.ofPath, fromFile, if_pos (.inl shape)]
      rfl

theorem from_file_location (location : String) :
    Given.text (rebaseLocation base location) = fromFile base .userDb (.text location) := by
  cases base with
  | none =>
      rw [rebaseLocation]
      split <;> rfl
  | some dir =>
      rw [rebaseLocation, fromFile, rebase_joins]
      by_cases scheme : "://".toList <:+: location.toList
      · rw [if_pos ((Text.cut_at_found_iff _ _).mpr scheme), if_neg]
        rintro (path | ⟨_, plain⟩)
        · cases path
        · exact plain scheme
      · rw [if_neg (mt (Text.cut_at_found_iff _ _).mp scheme), if_pos (.inr ⟨rfl, scheme⟩)]
        rfl

theorem from_file_other (key : Key) (shape : key.shape ≠ .path) (other : key ≠ .userDb) :
    fromFile base key = id := by
  funext value
  cases value with
  | text s =>
      cases base with
      | none => rfl
      | some dir => exact if_neg fun place => place.elim shape fun both => other both.1
  | flag b => rfl
  | integer n => rfl
  | texts list => rfl

theorem given_rebased (file : Choices) (key : Key) :
    (file.rebased base).given? key = (file.given? key).map (fromFile base key) := by
  have paths (path : Option FilePath) (shape : key.shape = .path) :
      (path.map (rebase base)).map .ofPath = (path.map .ofPath).map (fromFile base key) := by
    rw [Option.map_map, Option.map_map]
    exact congrArg (path.map ·) (funext (from_file_path base key shape))
  cases key with
  | userDb =>
      change (file.userDb.map (rebaseLocation base)).map Given.text = (file.userDb.map Given.text).map _
      rw [Option.map_map, Option.map_map]
      exact congrArg (file.userDb.map ·) (funext (from_file_location base))
  | tlsCert => exact paths file.tlsCert rfl
  | tlsKey => exact paths file.tlsKey rfl
  | logDir => exact paths file.logDir rfl
  | recordingPath => exact paths file.recordingPath rfl
  | _ =>
      rw [from_file_other base _ (by decide) (by decide), Option.map_id]
      rfl

end Rebased

theorem resolve_filled (line : CommandLine) (file : Choices) (base : Option FilePath) :
    resolve line file base = resolve (line.filled file base) {} none := by
  simp [resolve, pipelineOf, listenersOf, mountPointOf, CommandLine.filled, Choices.over, Choices.rebased]

/-! ### Lists of addresses -/

def Choices.Listed (c : Choices) : Prop := c.listen ≠ some []

theorem read_listed (shape : Shape) (s : String) (value : Given) (read : shape.read s = .ok value) :
    value ≠ .texts [] := by
  rintro rfl
  cases shape with
  | texts => cases read
  | text => cases read
  | path =>
      rw [Shape.read] at read
      split at read <;> cases read
  | flag =>
      rw [Shape.read] at read
      split at read
      · cases read
      · split at read <;> cases read
  | integer low high =>
      simp only [Shape.read] at read
      split at read
      · split at read <;> cases read
      · cases read

theorem put_listed (c : Choices) (key : Key) (value : Given) (full : value ≠ .texts []) (listed : c.Listed) :
    (c.put key value).Listed := by
  cases value with
  | text s => cases key <;> exact listed
  | integer n => cases key <;> exact listed
  | flag b => exact listed
  | texts list =>
      intro empty
      have none : c.listen.getD [] ++ list = [] := Option.some.inj empty
      exact full (congrArg Given.texts (List.append_eq_nil_iff.mp none).2)

namespace CommandLine

theorem set_option_listed (line next : CommandLine) (o : OptionName) (value : String) (listed : line.choices.Listed)
    (done : setOption line o value = .ok next) : next.choices.Listed := by
  cases o with
  | config =>
      rw [setOption] at done
      cases read : Shape.read .path value with
      | error e =>
          rw [read] at done
          cases done
      | ok given =>
          rw [read] at done
          cases done
          exact listed
  | key k =>
      rw [setOption] at done
      cases read : k.shape.read value with
      | error e =>
          rw [read] at done
          cases done
      | ok given =>
          rw [read] at done
          cases done
          exact put_listed line.choices k given (read_listed k.shape value given read) listed
  | simulateGraph =>
      cases done
      exact listed
  | help =>
      cases done
      exact listed
  | version =>
      cases done
      exact listed

def Stays (r : Except Stop Reading) : Prop := ∀ next, r = .ok next → next.line.choices.Listed

theorem stays_error (stop : Stop) : Stays (.error stop) := fun _ failed => nomatch failed

theorem stays_bind (r : Except Stop Reading) (f : Reading → Except Stop Reading) (first : Stays r)
    (second : ∀ next, next.line.choices.Listed → Stays (f next)) : Stays (r.bind f) := by
  cases r with
  | error stop => exact stays_error stop
  | ok next => exact second next (first next rfl)

section Stays

variable (r : Reading) (listed : r.line.choices.Listed)

include listed

theorem take_stays (o : OptionName) (value : String) : Stays (r.take o value) := by
  rw [Reading.take]
  split
  · exact stays_error _
  · cases done : setOption r.line o value with
    | error e => exact stays_error _
    | ok line =>
        rintro _ ⟨⟩
        exact set_option_listed r.line line o value listed done

theorem settle_stays : Stays r.settle := by
  rw [Reading.settle]
  split
  · rintro _ ⟨⟩
    exact listed
  · exact stays_error _
  · exact take_stays _ listed _ _

theorem switch_stays (o : OptionName) : Stays (r.switch o) := by
  unfold Reading.switch
  split
  · exact stays_error _
  · exact stays_error _
  · split
    · exact stays_error _
    · rintro _ ⟨⟩
      exact listed

theorem long_stays (arg : List Char) : Stays (r.long arg) := by
  have settled := settle_stays r listed
  rw [Reading.long]
  split
  split
  · exact stays_error _
  · split
    · split
      · exact stays_bind _ _ settled fun next listed => take_stays next listed _ _
      · exact stays_bind _ (fun r => .ok { r with waiting := _ }) settled fun next listed _ eq => by
          cases eq
          exact listed
    · split
      · exact stays_error _
      · exact stays_bind _ _ settled fun next listed => switch_stays next listed _

theorem short_stays (arg : List Char) : Stays (r.short arg) := by
  rw [Reading.short]
  split
  · exact stays_bind _ _ (settle_stays r listed) fun next listed => switch_stays next listed _
  · exact stays_error _

theorem value_stays (arg : String) : Stays (r.value arg) := by
  rw [Reading.value]
  split
  · rintro _ ⟨⟩
    exact listed
  · exact stays_error _

theorem argument_stays (arg : String) : Stays (r.argument arg) := by
  rw [Reading.argument]
  split
  · exact long_stays r listed _
  · exact value_stays r listed arg
  · split
    · exact value_stays r listed arg
    · exact short_stays r listed _
  · exact value_stays r listed arg

omit listed in
theorem arguments_stay (args : List String) (r : Reading) (listed : r.line.choices.Listed) :
    Stays (Reading.arguments args r) := by
  induction args generalizing r with
  | nil => exact settle_stays r listed
  | cons arg rest ih =>
      rw [Reading.arguments]
      split
      · split
        · exact settle_stays r listed
        · exact stays_error _
      · exact stays_bind _ _ (argument_stays r listed arg) ih

end Stays

theorem parse_listed (args : List String) (line : CommandLine) (parsed : parse args = .ok line) :
    line.choices.Listed := by
  rw [parse] at parsed
  cases read : Reading.arguments args {} with
  | error stop =>
      rw [read] at parsed
      cases parsed
  | ok last =>
      rw [read] at parsed
      cases parsed
      exact arguments_stay args {} (by simp [Choices.Listed]) last read

end CommandLine

/-! ### Precedence -/

theorem over_listed (first second : Choices) (listed : first.Listed) (others : second.Listed) :
    (first.over second).Listed := by
  intro empty
  rcases Option.or_eq_some_iff.mp empty with here | ⟨_, there⟩
  · exact listed here
  · exact others there

theorem command_line_over_file (args : List String) (line : CommandLine) (parsed : CommandLine.parse args = .ok line)
    (file : Choices) (listed : file.Listed) (base : Option FilePath) :
    resolve line file base = resolve (line.filled file base) {} none ∧
      (line.filled file base).choices.Listed ∧
      (∀ key, (line.filled file base).choices.given? key =
        (line.choices.given? key).or ((file.given? key).map (fromFile base key))) ∧
      ∀ other : Choices, (∀ key, line.choices.given? key = none → other.given? key = file.given? key) →
        resolve line other base = resolve line file base := by
  have filled (file : Choices) (key : Key) : (line.filled file base).choices.given? key =
      (line.choices.given? key).or ((file.given? key).map (fromFile base key)) := by
    rw [← given_rebased]
    exact given_over line.choices (file.rebased base) key
  refine ⟨resolve_filled line file base, ?_, filled file, ?_⟩
  · exact over_listed _ _ (CommandLine.parse_listed args line parsed) listed
  · intro other agree
    -- A key of the line decides alone, and on the others the files agree.
    have same : (line.filled other base).choices = (line.filled file base).choices := by
      apply choices_ext
      intro key
      rw [filled, filled]
      cases unset : line.choices.given? key with
      | none => rw [agree key unset]
      | some value => rfl
    rw [resolve_filled line other, resolve_filled line file]
    exact congrArg (fun choices => resolve { line with choices } {} none) same

-- The camera finds its users and its certificate beside the file, but records where the command line says.
def overriding : CommandLine where
  config := ⟨"/etc/camera.toml"⟩
  choices := { videoWidth := some 1280, recordingPath := some ⟨"clips"⟩ }

def overridden : Choices where
  userDb := some "users.csv"
  tlsCert := some ⟨"server.pem"⟩
  listen := some ["https://0.0.0.0:5443"]
  videoWidth := some 0
  recordingPath := some ⟨"/var/clips"⟩

theorem command_line_over_file_overriding :
    CommandLine.parse ["--config=/etc/camera.toml", "--video-width", "1280", "--recording-path", "clips"] =
        .ok overriding ∧ overridden.Listed ∧
      resolve overriding overridden (some ⟨"/etc"⟩) =
        resolve
          { overriding with
            choices :=
              { userDb := some "/etc/users.csv"
                tlsCert := some ⟨"/etc/server.pem"⟩
                listen := some ["https://0.0.0.0:5443"]
                videoWidth := some 1280
                recordingPath := some ⟨"clips"⟩ } } {} none := by
  have parsed : CommandLine.parse
      ["--config=/etc/camera.toml", "--video-width", "1280", "--recording-path", "clips"] = .ok overriding := rfl
  have listed : overridden.Listed := by simp [Choices.Listed, overridden]
  obtain ⟨same, _⟩ := command_line_over_file _ overriding parsed overridden listed (some ⟨"/etc"⟩)
  have filled : (overriding.filled overridden (some ⟨"/etc"⟩)).choices =
      { userDb := some "/etc/users.csv"
        tlsCert := some ⟨"/etc/server.pem"⟩
        listen := some ["https://0.0.0.0:5443"]
        videoWidth := some 1280
        recordingPath := some ⟨"clips"⟩ } := by decide
  exact ⟨parsed, listed, same.trans (congrArg (fun choices => resolve { overriding with choices } {} none) filled)⟩

end Settings

end CameraServer
