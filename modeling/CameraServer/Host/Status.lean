import CameraServer.Text.Blank
import CameraServer.Text.Numeral
import CameraServer.Text.Utf8

/-!
Host load and temperature. Each metric carries its own availability flag.
-/

set_option autoImplicit false

namespace CameraServer.Host

structure Metric where
  available : Bool
  value : Float

def Metric.of (reading : Option Float) : Metric :=
  ⟨reading.isSome, reading.getD 0⟩

structure Status where
  temperature : Metric
  processLoad : Metric
  totalLoad : Metric

structure Readings where
  temperature : Option Float := none
  processLoad : Option Float := none
  totalLoad : Option Float := none

def Readings.status (r : Readings) : Status :=
  ⟨.of r.temperature, .of r.processLoad, .of r.totalLoad⟩

/-! ### Readings of a host -/

structure Sensor where
  name : String
  label : String
  milli : String

def Sensor.title (s : Sensor) : String :=
  s.name ++ " " ++ (if s.label = "" then "temp1" else s.label)

def thermalWords : List String :=
  ["CPU", "Core", "cpu_thermal", "soc"]

def contains (text word : List Char) : Bool :=
  match text with
  | [] => word.isEmpty
  | _ :: rest => word.isPrefixOf text || contains rest word

def Sensor.isThermal (s : Sensor) : Bool :=
  thermalWords.any fun word => contains s.title.toList word.toList

def readingLength : Nat := 32

/-- Degrees in single precision; a text that is no number of thousandths gives none. What does not
fit into the first bytes is cut off, and a character cut in two makes the reading void. -/
def Sensor.degrees? (s : Sensor) : Option Float := do
  let text ← Text.decodeUtf8? ((Text.encodeUtf8 s.milli).take readingLength)
  let milli ← Text.integer? (Text.trimChars text.toList)
  guard (-2147483648 ≤ milli ∧ milli ≤ 2147483647)
  return (Float32.ofInt milli / 1000).toFloat

/-- The first thermal sensor decides, also when it cannot be read. -/
def temperature (sensors : List Sensor) : Option Float :=
  (sensors.find? Sensor.isThermal).bind Sensor.degrees?

def usage (busy : Float32) : Float32 :=
  busy / 100 * 100

def meanLoad (loads : List Float32) : Option Float :=
  if loads.isEmpty then none
  else some (loads.foldl (· + ·) 0 / Float32.ofNat loads.length).toFloat

def readings (sensors : List Sensor) (cpus : Option (List Float32)) (processKnown : Bool) :
    Readings :=
  { temperature := temperature sensors
    processLoad := if processKnown then some 0 else none
    totalLoad := cpus.bind fun busy => meanLoad (busy.map usage) }

end CameraServer.Host
