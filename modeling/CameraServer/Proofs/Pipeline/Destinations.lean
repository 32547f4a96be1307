import CameraServer.Proofs.Pipeline.Ledger
import Mathlib.Data.List.Perm.Basic

/-!
What the endpoint operations do to the roster, whatever state the graph is in. Adding appends the
destination and removing erases its first occurrence, or they fail and the destinations stay. A
failed move gives the destinations back up to their order.
-/

set_option autoImplicit false

namespace CameraServer.Engine

open Media

theorem detach_if_idle_ledger (e : Engine) : e.detachIfIdle.ledger = e.ledger := by
  rw [detachIfIdle]
  split
  · exact detach_branch_ledger egressName e
  · rfl

theorem reap_each_roster (list : List Endpoint) (e : Engine) : (reapEach list e).roster = e.roster := by
  induction list generalizing e with
  | nil => rfl
  | cons endpoint rest ih =>
      have emitted := congrArg Ledger.toRoster (emit_ledger (.stage egressName) (.removeDestination endpoint) e)
      unfold reapEach emitRemove
      rcases eq : e.emit (.stage egressName) (.removeDestination endpoint) with ⟨x | u, next⟩
      · rw [eq] at emitted
        exact (ih _).trans emitted
      · rw [eq] at emitted
        exact (ih _).trans emitted

theorem reap_orphans_roster (e : Engine) : e.reapOrphans.roster = e.roster := by
  rw [reapOrphans]
  split
  · rfl
  · have detached := congrArg Ledger.toRoster (detach_if_idle_ledger (reapEach e.orphans { e with orphans := [] }))
    exact detached.trans (reap_each_roster e.orphans { e with orphans := [] })

theorem add_endpoint_roster (endpoint : Endpoint) (e : Engine) :
    Ends (e.addEndpoint endpoint)
      (fun next => next.roster = { e.roster with destinations := e.destinations ++ [endpoint] })
      (fun next => next.roster = e.roster) := by
  have reaped := reap_orphans_roster e
  apply if_constructed_ends e
  · exact fun _ => rfl
  intro _
  -- Whatever becomes of the branch, the roster stays until the signal has been carried out.
  apply Outcome.next_ends _ _ (fun next => next.roster = e.roster)
  · refine (ends_alike _ _).mpr ?_
    split
    · exact (congrArg Ledger.toRoster (attach_branch_ledger .egress e.reapOrphans)).trans reaped
    · exact reaped
  · intro next kept
    have emitted := congrArg Ledger.toRoster (emit_ledger (.stage egressName) (.addDestination endpoint) next)
    rw [emitAdd]
    rcases eq : next.emit (.stage egressName) (.addDestination endpoint) with ⟨x | u, last⟩
    · rw [eq] at emitted
      change Engine.roster (if _ then _ else _) = e.roster
      split
      · exact (congrArg Ledger.toRoster (detach_branch_ledger egressName last)).trans (emitted.trans kept)
      · exact emitted.trans kept
    · rw [eq] at emitted
      have same : last.roster = e.roster := emitted.trans kept
      change { last.roster with destinations := last.roster.destinations ++ [endpoint] } = _
      rw [same]
      rfl

theorem remove_endpoint_roster (endpoint : Endpoint) (e : Engine) :
    Ends (e.removeEndpoint endpoint)
      (fun next => next.roster = { e.roster with destinations := e.destinations.erase endpoint })
      (fun next => next.roster = e.roster) := by
  have reaped := reap_orphans_roster e
  rw [removeEndpoint]
  by_cases listed : e.destinations.contains endpoint = true
  · rw [if_pos listed]
    split
    · apply Outcome.next_ends _ _ (fun next => next.roster = e.roster)
      · refine (ends_alike _ _).mpr ?_
        exact (congrArg Ledger.toRoster (emit_ledger _ _ e.reapOrphans)).trans reaped
      · intro next kept
        have same : next.destinations = e.destinations := congrArg Roster.destinations kept
        change Engine.roster (detachIfIdle _) = _
        rw [← same, ← kept]
        exact congrArg Ledger.toRoster (detach_if_idle_ledger _)
    · rfl
  · rw [if_neg listed]
    have absent : endpoint ∉ e.destinations := by simpa using listed
    change e.roster = { e.roster with destinations := e.roster.destinations.erase endpoint }
    rw [show e.roster.destinations.erase endpoint = e.roster.destinations from List.erase_of_not_mem absent]

theorem erase_last_append (list : List Endpoint) (endpoint : Endpoint) :
    eraseLast (list ++ [endpoint]) endpoint = list := by
  simp [eraseLast]

theorem orphan_roster (list : List Endpoint) (endpoint : Endpoint) (e : Engine)
    (listed : e.destinations = list ++ [endpoint]) :
    (e.orphan endpoint).roster = { e.roster with destinations := list } := by
  have member : e.destinations.contains endpoint = true := by simp [listed]
  rw [orphan, if_pos member, listed, erase_last_append]
  rfl

theorem change_endpoint_roster (old new : Endpoint) (e : Engine) (different : old ≠ new) :
    Ends (e.changeEndpoint old new)
      (fun next => next.roster = { e.roster with destinations := (e.destinations ++ [new]).erase old })
      (fun next => ∃ list, list.Perm e.destinations ∧ next.roster = { e.roster with destinations := list }) := by
  rw [changeEndpoint, if_neg different]
  apply Outcome.next_ends _ _ _ _ _ (ends_mono _ _ _ _ _ (add_endpoint_roster new e) (fun _ added => added) _)
  · intro added kept
    have grown : added.destinations = e.destinations ++ [new] := congrArg Roster.destinations kept
    rcases ends_cases _ _ _ (remove_endpoint_roster old added) with ⟨next, eq, moved⟩ | ⟨x, next, eq, back⟩
    · rw [eq]
      change next.roster = _
      rw [moved, kept, grown]
    · rw [eq]
      have held : next.destinations = e.destinations ++ [new] :=
        (congrArg Roster.destinations back).trans grown
      dsimp only
      rcases ends_cases _ _ _ (remove_endpoint_roster new next) with ⟨last, eq, withdrawn⟩ | ⟨y, last, eq, stuck⟩
      · rw [eq]
        refine ⟨(e.destinations ++ [new]).erase new, ?_, ?_⟩
        · exact (List.perm_append_singleton new e.destinations).erase new |>.trans (by simp)
        · rw [withdrawn, back, kept, held]
      · rw [eq]
        have left : last.destinations = e.destinations ++ [new] :=
          (congrArg Roster.destinations stuck).trans held
        refine ⟨e.destinations, List.Perm.refl _, ?_⟩
        rw [orphan_roster e.destinations new last left, stuck, back, kept]
  · intro next kept
    exact ⟨e.destinations, List.Perm.refl _, kept⟩

end CameraServer.Engine
