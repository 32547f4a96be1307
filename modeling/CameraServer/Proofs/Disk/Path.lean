import CameraServer.Disk.Path
import CameraServer.Proofs.Text.Split

/-!
The last part of a path. Main statement: a path below a directory ends in the name it was given, so two
such paths are the same only if their names are.
-/

set_option autoImplicit false

namespace CameraServer

open Text

namespace FilePath

structure Plain (name : String) : Prop where
  whole : '/' ∉ name.toList
  busy : isIdle name = false
  below : name ≠ ".."

theorem file_name_of_segments (p : FilePath) (name : String) (plain : Plain name) (front : List String)
    (segments : p.segments = front ++ [name]) : p.fileName? = some name := by
  have last : ((p.segments.filter fun s => !isIdle s).map part).getLast? = some (.name name) := by
    simp [segments, plain.busy, part, plain.below]
  have ends : p.parts.getLast? = some (.name name) := by
    rw [parts]
    split
    · rw [List.getLast?_cons, last]
      rfl
    · split
      · rw [List.getLast?_cons, last]
        rfl
      · exact last
  rw [fileName?, ends]

theorem file_name_join (dir : FilePath) (name : String) (plain : Plain name) :
    (dir.join ⟨name⟩).fileName? = some name := by
  have single : splitAt '/' name.toList = [name.toList] := split_at_absent _ _ plain.whole
  have behind (text : String) (front : List Char) (whole : text.toList = front ++ '/' :: name.toList) :
      fileName? ⟨text⟩ = some name := by
    apply file_name_of_segments _ name plain ((splitAt '/' front).map String.ofList)
    rw [segments, whole, split_at_append, single]
    simp
  rw [join]
  split
  · apply file_name_of_segments _ name plain []
    rw [segments, single]
    simp
  · split
    · next ends =>
      obtain ⟨front, slash⟩ := List.getLast?_eq_some_iff.mp ends
      exact behind _ front (by simp [slash])
    · exact behind _ dir.text.toList (by simp)

theorem same_file_name (p q : FilePath) (same : p.same q = true) : p.fileName? = q.fileName? := by
  rw [FilePath.same, beq_iff_eq] at same
  rw [fileName?, fileName?, same]

end FilePath

end CameraServer
