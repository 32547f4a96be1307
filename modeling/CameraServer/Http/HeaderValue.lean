/-!
Which texts can be the value of a header, and which values can be read as text.
-/

set_option autoImplicit false

namespace CameraServer.Http

def isSendable (value : String) : Bool :=
  value.toList.all fun c => (32 ≤ c.toNat || c == '\t') && c.toNat != 127

def isReadable (value : String) : Bool :=
  value.toList.all fun c => (32 ≤ c.toNat && c.toNat < 127) || c == '\t'

theorem isSendable_of_isReadable (value : String) (readable : isReadable value = true) :
    isSendable value = true := by
  rw [isReadable, List.all_eq_true] at readable
  rw [isSendable, List.all_eq_true]
  intro c member
  have own := readable c member
  simp only [Bool.or_eq_true, Bool.and_eq_true, decide_eq_true_eq, beq_iff_eq, bne_iff_ne] at own ⊢
  rcases own with printable | rfl
  · omega
  · decide

end CameraServer.Http
