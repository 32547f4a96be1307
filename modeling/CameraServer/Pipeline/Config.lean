import CameraServer.Disk.Path
import CameraServer.Text.Numeral

/-!
Capture and recording settings of the pipeline.
-/

set_option autoImplicit false

namespace CameraServer

structure Framerate where
  numerator : Int
  denominator : Int
deriving DecidableEq, Repr

def Framerate.text (f : Framerate) : String :=
  Text.decimalInt f.numerator ++ "/" ++ Text.decimalInt f.denominator

structure PipelineConfig where
  width : Nat := 640
  height : Nat := 640
  framerate : Framerate := ⟨20, 1⟩
  source : Option String := none
  recordingPath : FilePath := ⟨"recordings"⟩
  /-- Length of a fragment in milliseconds. -/
  segment : Nat := 3600000
  /-- Quota in megabytes; none when zero or negative. -/
  maxSizeMb : Int := 32768
  forceMkdirs : Bool := true
deriving DecidableEq, Repr

namespace PipelineConfig

def requiresRebuild (a b : PipelineConfig) : Bool :=
  a.width != b.width || a.height != b.height || a.framerate != b.framerate
    || a.source != b.source || a.segment != b.segment

def same (a b : PipelineConfig) : Bool :=
  !a.requiresRebuild b && a.recordingPath.same b.recordingPath && a.maxSizeMb == b.maxSizeMb
    && a.forceMkdirs == b.forceMkdirs

theorem requires_rebuild_self (a : PipelineConfig) : a.requiresRebuild a = false := by
  simp [requiresRebuild]

theorem requires_rebuild_comm (a b : PipelineConfig) :
    a.requiresRebuild b = b.requiresRebuild a := by
  simp only [requiresRebuild, bne_comm]

end PipelineConfig

end CameraServer
