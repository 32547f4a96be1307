import CameraServer.Pipeline.Reconfigure
import CameraServer.Proofs.Media.Outline

/-!
The ledger of the engine: what it remembers apart from the graph and the recording. Main statements:
calls on the graph, attaching and detaching branches included, leave the ledger alone.
-/

set_option autoImplicit false

namespace CameraServer

open Media

structure Roster where
  config : PipelineConfig
  constructed : Bool
  pending : Option Bool
  refusals : Refusals
  destinations : List Endpoint

structure Ledger extends Roster where
  orphans : List Endpoint

structure Books where
  ledger : Ledger
  outline : Outline

namespace Outcome

variable {α : Type}

theorem next_ends (r : Outcome Unit) (f : Engine → Outcome α) (middle good bad : Engine → Prop)
    (first : Ends r middle bad) (second : ∀ e, middle e → Ends (f e) good bad) :
    Ends (r.next f) good bad := by
  obtain ⟨result, e⟩ := r
  cases result with
  | ok u => exact second e first
  | error x => exact first

theorem next_keeps (r : Outcome Unit) (f : Engine → Outcome α) (keep : Engine → Prop) (first : keep r.2)
    (second : ∀ e, keep e → keep (f e).2) : keep (r.next f).2 := by
  obtain ⟨result, e⟩ := r
  cases result with
  | ok u => exact second e first
  | error x => exact first

end Outcome

namespace Engine

def roster (e : Engine) : Roster :=
  ⟨e.config, e.constructed, e.pending, e.refusals, e.destinations⟩

def ledger (e : Engine) : Ledger := ⟨e.roster, e.orphans⟩

def books (e : Engine) : Books := ⟨e.ledger, e.graph.outline⟩

theorem books_cases {α : Type} (r : Outcome α) (e : Engine) (same : r.2.books = e.books) :
    (∃ a next, r = (.ok a, next) ∧ next.books = e.books) ∨
      ∃ x next, r = (.error x, next) ∧ next.books = e.books :=
  keeps_cases r (fun next => next.books = e.books) same

theorem if_constructed_ends {α : Type} (e : Engine) (operation : PipelineOperation) (r : Outcome α)
    (good bad : Engine → Prop) (idle : e.constructed = false → bad e)
    (built : e.constructed = true → Ends r good bad) : Ends (e.ifConstructed operation r) good bad := by
  rw [ifConstructed]
  cases here : e.constructed with
  | true => exact built here
  | false => exact idle here

theorem if_constructed_keeps {α : Type} (e : Engine) (operation : PipelineOperation) (r : Outcome α)
    (keep : Engine → Prop) (before : keep e) (after : keep r.2) :
    keep (e.ifConstructed operation r).2 := by
  rw [ifConstructed]
  split
  · exact after
  · exact before

/-! ### Calls on the graph -/

theorem release_stage_ledger (name : String) (e : Engine) : (e.releaseStage name).2.ledger = e.ledger := by
  rw [releaseStage]
  split <;> rfl

theorem set_stage_state_ledger (name : String) (state : PlayState) (e : Engine) :
    (e.setStageState name state).2.ledger = e.ledger := by
  rw [setStageState]
  split <;> rfl

theorem set_graph_state_books (state : PlayState) (e : Engine) :
    (e.setGraphState state).2.books = e.books := by
  rw [setGraphState]
  split
  · rfl
  · exact congrArg (Books.mk e.ledger) (Graph.set_state_outline Site.sink state e.graph e.site)

theorem sync_stage_books (name : String) (e : Engine) : (e.syncStage name).2.books = e.books :=
  congrArg (Books.mk e.ledger) (Graph.sync_outline Site.sink name e.graph e.site)

theorem query_state_books (e : Engine) : e.queryState.2.books = e.books :=
  congrArg (Books.mk e.ledger) (Graph.query_outline e.graph)

theorem emit_ledger (target : Target) (signal : Signal) (e : Engine) :
    (e.emit target signal).2.ledger = e.ledger := by
  rw [emit]
  split <;> rfl

theorem emit_split_books (target : Target) (e : Engine) : (e.emit target .splitAfter).2.books = e.books := by
  have lost : ¬ (e.refusals.endOfStreamLost = true ∧ Signal.splitAfter = .endOfStream) := by simp
  simp only [emit, if_neg lost]
  exact congrArg (Books.mk e.ledger) (Graph.emit_split_outline Site.sink target e.graph e.site)

theorem emit_end_books (target : Target) (e : Engine) : (e.emit target .endOfStream).2.books = e.books := by
  rw [emit]
  split
  · rfl
  · exact congrArg (Books.mk e.ledger) (Graph.emit_end_outline Site.sink target e.graph e.site)

theorem reset_graph_ledger (e : Engine) : e.resetGraph.ledger = e.ledger := by
  rw [resetGraph]
  split <;> rfl

/-! ### Branches -/

theorem discard_floating_ledger (name : String) (e : Engine) :
    (e.discardFloating name).ledger = e.ledger :=
  release_stage_ledger name e

theorem discard_parented_ledger (name : String) (e : Engine) :
    (e.discardParented name).ledger = e.ledger := by
  have removed : (e.removeStage name).2.ledger = e.ledger := rfl
  rw [discardParented]
  split
  · rename_i next eq
    rw [eq] at removed
    rw [discard_floating_ledger, removed]
  · rename_i next eq
    rw [eq] at removed
    exact removed

theorem clear_name_ledger (name : String) (e : Engine) : (e.clearName name).2.ledger = e.ledger := by
  rw [clearName]
  split
  · exact release_stage_ledger name e
  · rfl

theorem join_branch_ledger (name : String) (e : Engine) : (e.joinBranch name).2.ledger = e.ledger := by
  have added : (e.addStage name).2.ledger = e.ledger := rfl
  rw [joinBranch]
  rcases eq : e.addStage name with ⟨x | u, one⟩
  · rw [eq] at added
    rw [discard_floating_ledger, added]
  · rw [eq] at added
    have linked : (one.link fanOutName name).2.ledger = one.ledger := rfl
    dsimp only
    rcases eq : one.link fanOutName name with ⟨x | u, two⟩
    · rw [eq] at linked
      rw [discard_parented_ledger, linked, added]
    · rw [eq] at linked
      have synced := congrArg Books.ledger (sync_stage_books name two)
      dsimp only
      rcases eq : two.syncStage name with ⟨x | u, three⟩
      · rw [eq] at synced
        have unlinked : (three.unlink fanOutName name).2.ledger = three.ledger := rfl
        rw [discard_parented_ledger, unlinked]
        exact synced.trans (linked.trans added)
      · rw [eq] at synced
        exact synced.trans (linked.trans added)

theorem attach_branch_ledger (spec : StageSpec) (e : Engine) :
    (e.attachBranch spec).2.ledger = e.ledger := by
  apply if_constructed_keeps e _ _ (·.ledger = e.ledger) rfl
  split
  · rfl
  · split
    · rfl
    · apply Outcome.next_keeps _ _ (·.ledger = e.ledger)
      · apply Outcome.next_keeps _ _ (·.ledger = e.ledger) (clear_name_ledger spec.name e)
        exact fun _ kept => kept
      · exact fun next kept => (join_branch_ledger spec.name next).trans kept

theorem retire_branch_ledger (name : String) (e : Engine) : (e.retireBranch name).ledger = e.ledger := by
  have released := release_stage_ledger name (e.setStageState name .null).2
  exact released.trans (set_stage_state_ledger name .null e)

theorem detach_branch_ledger (name : String) (e : Engine) :
    (e.detachBranch name).2.ledger = e.ledger := by
  apply if_constructed_keeps e _ _ (·.ledger = e.ledger) rfl
  split
  · apply Outcome.next_keeps _ _ (·.ledger = e.ledger) rfl
    intro next kept
    have removed : (next.removeStage name).2.ledger = next.ledger := rfl
    rcases eq : next.removeStage name with ⟨x | u, bare⟩
    · rw [eq] at removed
      exact removed.trans kept
    · rw [eq] at removed
      rw [retire_branch_ledger, removed, kept]
  · rfl

end Engine

end CameraServer
