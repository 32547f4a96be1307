import CameraServer.Proofs.Pipeline.Sound

/-!
Moving a destination. Main statement: a move never leaves the viewer without either side, nobody else
notices it, and it either takes place or leaves the destinations as they were.
-/

set_option autoImplicit false

namespace CameraServer.Engine

open Media

section Lists

variable (list : List Endpoint) (old new : Endpoint)

theorem erase_moved (member : old ∈ list) : (list ++ [new]).erase old = list.erase old ++ [new] :=
  List.erase_append_left [new] member

theorem moving_covers (e : Engine) (member : old ∈ e.destinations) (moving : e.Moving old new list) :
    (old ∈ list ∨ new ∈ list) ∧ (e.destinations.erase old).Subperm list := by
  rcases moving with before | after
  · exact ⟨.inl (before.subset member), List.erase_sublist.subperm.trans before⟩
  · rw [erase_moved e.destinations old new member] at after
    have others := List.sublist_append_left (e.destinations.erase old) [new]
    exact ⟨.inr (after.subset (by simp)), others.subperm.trans after⟩

end Lists

theorem change_endpoint_without_gap (old new : Endpoint) (e : Engine) (reached : Reachable Orderly e)
    (built : e.constructed = true) (member : old ∈ e.destinations) (different : old ≠ new) :
    Records (fun list => (old ∈ list ∨ new ∈ list) ∧ (e.destinations.erase old).Subperm list) e
        (e.changeEndpoint old new).2 ∧
      e.graph.hasParent egressName = true ∧
      Ends (e.changeEndpoint old new)
        (fun next => next.graph.hasParent egressName = true ∧
          next.destinations.Perm (e.destinations.erase old ++ [new]))
        (fun next => next.graph.hasParent egressName = true ∧
          next.destinations.Perm e.destinations ∧ old ∈ next.graph.sink) := by
  obtain ⟨⟨egress, served⟩, balanced⟩ := reachable_settled e reached built
  have fair := change_endpoint_fair old new e egress served
  have recorded := records_mono _ _ _ _ (fun list => moving_covers list old new e member)
    (fair.records balanced)
  have settled := fair.balanced balanced
  obtain ⟨after, here⟩ := fair.served
  have moved := change_endpoint_roster old new e different
  have attached := balanced_has_egress e egress served balanced (List.ne_nil_of_mem member)
  refine ⟨recorded, attached, ?_⟩
  -- A balanced engine with destinations has its egress stage, so only the destinations matter.
  rcases eq : e.changeEndpoint old new with ⟨x | u, next⟩
  · rw [eq] at settled here moved
    obtain ⟨list, same, kept⟩ := moved
    have listed : next.destinations = list := congrArg Roster.destinations kept
    rw [← listed] at same
    have still : old ∈ next.destinations := same.symm.subset member
    refine ⟨balanced_has_egress next after here settled (List.ne_nil_of_mem still), same, ?_⟩
    exact settled.symm.subset (List.mem_append_left _ still)
  · rw [eq] at settled here moved
    have listed : next.destinations = (e.destinations ++ [new]).erase old :=
      congrArg Roster.destinations moved
    rw [erase_moved e.destinations old new member] at listed
    refine ⟨balanced_has_egress next after here settled (by simp [listed]), ?_⟩
    rw [listed]

-- A viewer whose destination cannot be removed.
def stuckViewer : Engine :=
  run [.addEndpoint ⟨"10.0.0.1", 5000⟩, .inject (.failOn (.signal "remove"))] fresh

theorem change_endpoint_without_gap_stuck :
    Reachable Orderly stuckViewer ∧
      Records (fun list => ((⟨"10.0.0.1", 5000⟩ : Endpoint) ∈ list ∨ ⟨"10.0.0.2", 6000⟩ ∈ list) ∧
          (stuckViewer.destinations.erase ⟨"10.0.0.1", 5000⟩).Subperm list) stuckViewer
        (stuckViewer.changeEndpoint ⟨"10.0.0.1", 5000⟩ ⟨"10.0.0.2", 6000⟩).2 ∧
      (⟨"10.0.0.1", 5000⟩ : Endpoint) ∈
        (stuckViewer.changeEndpoint ⟨"10.0.0.1", 5000⟩ ⟨"10.0.0.2", 6000⟩).2.graph.sink := by
  have reached : Reachable Orderly stuckViewer := orderly_run _ fresh fresh_reachable (by simp)
  obtain ⟨recorded, _, ended⟩ := change_endpoint_without_gap ⟨"10.0.0.1", 5000⟩ ⟨"10.0.0.2", 6000⟩ stuckViewer
    reached (by decide) (by decide) (by decide)
  exact ⟨reached, recorded, ended.2.2⟩

end CameraServer.Engine
