import CameraServer.Proofs.Media.Wiring
import CameraServer.Proofs.Pipeline.Frame

/-!
What attaching and detaching a branch leaves alone. Main statement: it is all work on stages and links;
the state of the graph, its events and records, the ledger and the playing flag stay as they are.
-/

set_option autoImplicit false

namespace CameraServer.Engine

open Media

structure Rewired (e next : Engine) : Prop where
  graph : Graph.Wires e.graph next.graph
  ledger : next.ledger = e.ledger
  playing : next.playing = e.playing

theorem rewired_refl (e : Engine) : Rewired e e := ⟨Graph.wires_refl e.graph, rfl, rfl⟩

theorem rewired_trans (e middle next : Engine) (first : Rewired e middle) (second : Rewired middle next) :
    Rewired e next where
  graph := Graph.wires_trans _ _ _ first.graph second.graph
  ledger := second.ledger.trans first.ledger
  playing := second.playing.trans first.playing

theorem rewired_stage (spec : StageSpec) : StageFrame spec Rewired where
  refl := rewired_refl
  trans := rewired_trans
  build := fun e => ⟨e.graph.build_wires spec, rfl, rfl⟩
  add := fun e => ⟨e.graph.add_wires spec.name, rfl, rfl⟩
  remove := fun e => ⟨e.graph.remove_wires spec.name, rfl, rfl⟩
  release := fun e => by
    rw [releaseStage]
    split
    · exact rewired_refl e
    · exact ⟨e.graph.release_wires spec.name, rfl, rfl⟩
  link := fun e => ⟨e.graph.link_wires fanOutName spec.name, rfl, rfl⟩
  unlink := fun e => ⟨e.graph.unlink_wires fanOutName spec.name, rfl, rfl⟩
  setStage := fun state e => by
    rw [setStageState]
    split
    · exact rewired_refl e
    · exact ⟨e.graph.set_stage_state_wires spec.name state, rfl, rfl⟩
  sync := fun e => ⟨Graph.sync_wires Site.sink spec.name e.graph e.site, rfl, rfl⟩
  dump := fun _ e => ⟨⟨rfl, rfl, rfl, rfl, rfl, List.Sublist.refl _⟩, rfl, rfl⟩

theorem detach_if_idle_rewired (e : Engine) : Rewired e e.detachIfIdle := by
  rw [detachIfIdle]
  split
  · exact (rewired_stage .egress).detach_branch e
  · exact rewired_refl e

end CameraServer.Engine
