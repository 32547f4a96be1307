import CameraServer.Proofs.Pipeline.Calm
import CameraServer.Proofs.Pipeline.Wiring

/-!
The signals that the sink has got. Main statement: when nothing fails and no orphan is about, taking a
destination out sends one signal if there is an egress stage, and does nothing at all if there is none.
-/

set_option autoImplicit false

namespace CameraServer.Engine

open Media

/-! ### Taking a destination out -/

def removal (endpoint : Endpoint) : Target × Signal := (.stage egressName, .removeDestination endpoint)

section Remove

variable (endpoint : Endpoint) (e : Engine) (quiet : ∀ p, e.graph.fails p = false)

include quiet

theorem emit_remove_heard (stands : e.graph.hasStage egressName = true) :
    ∃ next, e.emitRemove endpoint = (.ok (), next) ∧
      next.graph.signals = e.graph.signals ++ [removal endpoint] ∧ next.graph.hasStage egressName = true := by
  obtain ⟨stage, read⟩ := Option.isSome_iff_exists.mp stands
  have kept := Graph.stage_modify e.graph egressName fun _ =>
    { stage with destinations := stage.destinations.erase endpoint }
  rw [read] at kept
  refine ⟨{ e with
    graph := (e.graph.changeDestinations egressName stage (stage.destinations.erase endpoint)).logSignal
      (.stage egressName) (.removeDestination endpoint) }, ?_, rfl, congrArg Option.isSome kept⟩
  rw [emitRemove, emit, if_neg (by simp), Graph.emit, quiet, if_neg Bool.false_ne_true]
  dsimp only
  rw [read]
  rfl

theorem emit_remove_unheard (missing : e.graph.hasStage egressName = false) :
    ∃ x, e.emitRemove endpoint = (.error x, e) := by
  have absent : e.graph.stage? egressName = none := by simpa [Graph.hasStage] using missing
  refine ⟨.graph (.stageNotFound egressName), ?_⟩
  rw [emitRemove, emit, if_neg (by simp), Graph.emit, quiet, if_neg Bool.false_ne_true]
  dsimp only
  rw [absent]
  rfl

variable (built : e.constructed = true) (quit : e.orphans = [])

include built quit

theorem remove_endpoint_heard (listed : endpoint ∈ e.destinations) (stands : e.graph.hasStage egressName = true) :
    ∃ next, e.removeEndpoint endpoint = (.ok (), next) ∧
      next.ledger = { e.ledger with destinations := e.destinations.erase endpoint } ∧
      next.graph.signals = e.graph.signals ++ [removal endpoint] ∧
      (next.destinations ≠ [] → next.graph.hasStage egressName = true) := by
  have ledger := emit_ledger (.stage egressName) (.removeDestination endpoint) e
  obtain ⟨next, eq, signals, still⟩ := emit_remove_heard endpoint e quiet stands
  rw [show e.emit _ _ = _ from eq] at ledger
  have same : next.destinations = e.destinations := congrArg (·.destinations) ledger
  refine ⟨detachIfIdle { next with destinations := next.destinations.erase endpoint }, ?_, ?_, ?_, ?_⟩
  · rw [removeEndpoint, if_pos (by simpa using listed), if_pos built, reap_orphans_none e quit, eq]
    rfl
  · rw [detach_if_idle_ledger, ← same, ← ledger]
    rfl
  · exact (detach_if_idle_rewired _).graph.signals.trans signals
  · intro busy
    have left : next.destinations.erase endpoint ≠ [] := by
      have same' := congrArg (·.destinations) (detach_if_idle_ledger { next with
        destinations := next.destinations.erase endpoint })
      exact fun none => busy (same'.trans none)
    rw [detachIfIdle, if_neg (by simp [left])]
    exact still

theorem remove_endpoint_refused (listed : endpoint ∈ e.destinations) (missing : e.graph.hasStage egressName = false) :
    ∃ x, e.removeEndpoint endpoint = (.error x, e) := by
  obtain ⟨x, eq⟩ := emit_remove_unheard endpoint e quiet missing
  refine ⟨x, ?_⟩
  rw [removeEndpoint, if_pos (by simpa using listed), if_pos built, reap_orphans_none e quit, eq]
  rfl

theorem remove_endpoint_unheard (missing : e.graph.hasStage egressName = false) :
    (e.removeEndpoint endpoint).2 = e := by
  by_cases listed : endpoint ∈ e.destinations
  · obtain ⟨x, eq⟩ := remove_endpoint_refused endpoint e quiet built quit listed missing
    rw [eq]
  · rw [removeEndpoint, if_neg (by simpa using listed)]

end Remove

end CameraServer.Engine
