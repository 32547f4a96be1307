import CameraServer.Proofs.Pipeline.Sound

/-!
What becomes of the viewers when a change of the configuration rebuilds the graph. Main statement: a
change that ends well keeps the destinations just when each of them can be added back; one that
cannot is given up in silence.
-/

set_option autoImplicit false

namespace CameraServer.Engine

open Media

theorem set_config_kept (config : PipelineConfig) (e : Engine) (done : (e.setConfig config).1 = .ok ()) :
    (e.setConfig config).2.destinations.Sublist e.destinations ∧
      ((e.setConfig config).2.destinations = e.destinations ↔ e.ReaddsAll config) := by
  have roster := set_config_roster config e
  have all := set_config_destinations config e
  rcases eq : e.setConfig config with ⟨x | u, next⟩
  · rw [eq] at done
    cases done
  · rw [eq] at roster all
    rcases roster with ⟨calm, kept⟩ | ⟨start, begun, rebuilt⟩
    · have same : next.destinations = e.destinations := congrArg Roster.destinations kept
      refine ⟨by rw [same], fun _ start begun => ?_, all⟩
      rw [readding?, if_neg (by simp [calm])] at begun
      cases begun
    · have listed : next.destinations = restored e.destinations start :=
        congrArg Roster.destinations rebuilt
      refine ⟨by rw [listed]; exact restored_sublist e.destinations start, ?_, all⟩
      intro same start' begun'
      have unique : start = start' := Option.some.inj (begun.symm.trans begun')
      rw [← unique]
      exact (restored_all_iff e.destinations start).mp (listed.symm.trans same)

theorem set_config_keeps_viewers_iff (allowed : Engine → Step → Prop) (config : PipelineConfig)
    (e : Engine) (reached : Reachable allowed e) (built : e.constructed = true)
    (done : (e.setConfig config).1 = .ok ()) :
    (e.setConfig config).2.destinations.Subperm (e.setConfig config).2.graph.sink ∧
      (e.setConfig config).2.destinations.Sublist e.destinations ∧
      ((e.setConfig config).2.destinations.Perm e.destinations ∧
        e.destinations.Subperm (e.setConfig config).2.graph.sink ↔ e.ReaddsAll config) := by
  obtain ⟨shorter, whole⟩ := set_config_kept config e done
  have ended := set_config_ends config e (reachable_sound allowed e reached)
  have carried : (e.setConfig config).2.destinations.Subperm (e.setConfig config).2.graph.sink := by
    rcases eq : e.setConfig config with ⟨x | u, next⟩
    · rw [eq] at done
      cases done
    · rw [eq] at ended
      exact subperm_of_balance _ _ _ (ended.2 built).2
  refine ⟨carried, shorter, ?_, ?_⟩
  · rintro ⟨same, _⟩
    exact whole.mp (shorter.eq_of_length same.length_eq)
  · intro all
    have same := whole.mpr all
    rw [same] at carried ⊢
    exact ⟨List.Perm.refl _, carried⟩

def oneViewer : Engine := run [.addEndpoint ⟨"10.0.0.1", 5000⟩] fresh

theorem set_config_keeps_viewers_iff_one :
    Reachable Orderly oneViewer ∧ oneViewer.destinations = [⟨"10.0.0.1", 5000⟩] ∧
      oneViewer.ReaddsAll { width := 1280 } := by
  have reached : Reachable Orderly oneViewer := orderly_run _ fresh fresh_reachable (by simp)
  obtain ⟨_, _, whole⟩ := set_config_keeps_viewers_iff Orderly { width := 1280 } oneViewer reached
    (by decide) (by decide)
  exact ⟨reached, by decide, whole.mp ⟨by decide, by decide⟩⟩

-- The same viewer, who cannot be added back at the first attempt.
def unluckyViewer : Engine := run [.inject (.failOnce (.signal "add"))] oneViewer

theorem set_config_forgets_viewer :
    Reachable Orderly unluckyViewer ∧ unluckyViewer.constructed = true ∧
      (unluckyViewer.setConfig { width := 1280 }).1 = .ok () ∧
      unluckyViewer.destinations = [⟨"10.0.0.1", 5000⟩] ∧
      (unluckyViewer.setConfig { width := 1280 }).2.destinations = [] ∧
      (unluckyViewer.setConfig { width := 1280 }).2.graph.sink = [] := by
  have reached : Reachable Orderly oneViewer := orderly_run _ fresh fresh_reachable (by simp)
  exact ⟨orderly_run _ oneViewer reached (by simp), by decide, by decide, by decide, by decide, by decide⟩

end CameraServer.Engine
