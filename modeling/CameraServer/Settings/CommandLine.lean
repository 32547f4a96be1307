import CameraServer.Settings.Choices
import CameraServer.Text.Numeral
import CameraServer.Text.Split

/-!
The command line. Every key is an option `--key value` or `--key=value`; beside them there are the
place of the configuration file, the switch to the graph in memory, help and version.

An option without an attached value waits for the next argument. Its value is checked when another
option begins or the line ends, so an argument that is unknown is reported before a bad value that
stands in front of it.
-/

set_option autoImplicit false

namespace CameraServer.Settings

structure CommandLine where
  config : FilePath := ⟨"pitv-config.toml"⟩
  simulateGraph : Bool := false
  choices : Choices := {}
deriving DecidableEq, Repr

inductive OptionName where
  | config
  | simulateGraph
  | help
  | version
  | key (k : Key)
deriving DecidableEq, Repr

def OptionName.ofLong? (name : String) : Option OptionName :=
  if name = "config" then some .config
  else if name = "simulate-graph" then some .simulateGraph
  else if name = "help" then some .help
  else if name = "version" then some .version
  else (Key.ofName? name).map .key

def OptionName.ofShort? (c : Char) : Option OptionName :=
  if c = 'h' then some .help else if c = 'V' then some .version else none

inductive UsageError where
  | unknownArgument
  | invalidValue
  | valueValidation
  | argumentConflict
  | tooManyValues
deriving DecidableEq, Repr

inductive Stop where
  | help
  | version
  | usage (e : UsageError)
deriving DecidableEq, Repr

def Shape.read : Shape → String → Except UsageError Given
  | .text, s => .ok (.text s)
  | .path, s => if s = "" then .error .invalidValue else .ok (.text s)
  | .flag, s =>
      if s = "true" then .ok (.flag true)
      else if s = "false" then .ok (.flag false)
      else .error .invalidValue
  | .integer low high, s =>
      -- A range that only unsigned words cover takes no minus sign.
      let n := if high ≤ 9223372036854775807 then Text.integer? s.toList
        else (Text.unsigned? s.toList).map fun n => (n : Int)
      match n with
      | some n => if low ≤ n ∧ n ≤ high then .ok (.integer n) else .error .valueValidation
      | none => .error .valueValidation
  | .texts, s => .ok (.texts [s])

namespace CommandLine

structure Reading where
  line : CommandLine := {}
  seen : List OptionName := []
  waiting : Option (OptionName × Option String) := none

def Reading.isRepeated (r : Reading) (o : OptionName) : Bool :=
  r.seen.contains o && o != .key .listen

def setOption (line : CommandLine) (o : OptionName) (value : String) :
    Except UsageError CommandLine :=
  match o with
  | .config =>
      (Shape.read .path value).map fun _ => { line with config := ⟨value⟩ }
  | .key k =>
      (k.shape.read value).map fun given => { line with choices := line.choices.put k given }
  | _ => .ok line

def Reading.take (r : Reading) (o : OptionName) (value : String) : Except Stop Reading :=
  if r.isRepeated o then .error (.usage .argumentConflict)
  else
    match setOption r.line o value with
    | .error e => .error (.usage e)
    | .ok line => .ok { line, seen := o :: r.seen }

def Reading.settle (r : Reading) : Except Stop Reading :=
  match r.waiting with
  | none => .ok r
  | some (_, none) => .error (.usage .invalidValue)
  | some (o, some value) => r.take o value

def Reading.switch (r : Reading) (o : OptionName) : Except Stop Reading :=
  match o with
  | .help => .error .help
  | .version => .error .version
  | _ =>
      if r.isRepeated o then .error (.usage .argumentConflict)
      else .ok { r with line := { r.line with simulateGraph := true }, seen := o :: r.seen }

def OptionName.takesValue : OptionName → Bool
  | .config => true
  | .key _ => true
  | _ => false

def unknown {α : Type} : Except Stop α :=
  .error (.usage .unknownArgument)

def Reading.long (r : Reading) (arg : List Char) : Except Stop Reading :=
  let (name, attached) :=
    match Text.cut? '=' arg with
    | some (name, value) => (name, some (String.ofList value))
    | none => (arg, none)
  match OptionName.ofLong? (String.ofList name) with
  | none => unknown
  | some o =>
      if OptionName.takesValue o then
        match attached with
        | some value => r.settle.bind fun r => r.take o value
        | none => r.settle.map fun r => { r with waiting := some (o, none) }
      else if attached.isSome then .error (.usage .tooManyValues)
      else r.settle.bind fun r => r.switch o

def Reading.short (r : Reading) (arg : List Char) : Except Stop Reading :=
  match arg.head?.bind OptionName.ofShort? with
  | some o => r.settle.bind fun r => r.switch o
  | none => unknown

def Reading.value (r : Reading) (arg : String) : Except Stop Reading :=
  match r.waiting with
  | some (o, none) => .ok { r with waiting := some (o, some arg) }
  | _ => unknown

def isNumber : Nat → Bool → Bool → List Char → Bool
  | _, _, _, [] => true
  | place, point, exponent, c :: rest =>
      if Text.isDigitIn 10 c then isNumber (place + 1) point exponent rest
      else if c = '.' && !point && !exponent && decide (0 < place) then
        isNumber (place + 1) true exponent rest
      else if c = 'e' && !exponent && decide (0 < place) && !rest.isEmpty then
        isNumber (place + 1) point true rest
      else false

/-- Only the quota takes a negative number as an argument of its own. -/
def Reading.awaitsNegative (r : Reading) : Bool :=
  match r.waiting with
  | some (.key .recordingMaxSize, none) => true
  | _ => false

def Reading.argument (r : Reading) (arg : String) : Except Stop Reading :=
  match arg.toList with
  | '-' :: '-' :: rest => r.long rest
  | ['-'] => r.value arg
  | '-' :: rest =>
      if r.awaitsNegative && isNumber 0 false false rest then r.value arg else r.short rest
  | _ => r.value arg

def Reading.arguments : List String → Reading → Except Stop Reading
  | [], r => r.settle
  | arg :: rest, r =>
      if arg = "--" then if rest = [] then r.settle else unknown
      else (r.argument arg).bind fun r => arguments rest r

def parse (args : List String) : Except Stop CommandLine :=
  (Reading.arguments args {}).map (·.line)

end CommandLine

end CameraServer.Settings
