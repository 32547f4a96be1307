import CameraServer.Proofs.Pipeline.Rebuild
import CameraServer.Proofs.Pipeline.Run

/-!
What holds in every run of the engine. Main statement: whatever happens, the sink of a constructed
engine holds the destinations and the orphans, and an engine that is not constructed has neither
stages nor orphans.
-/

set_option autoImplicit false

namespace CameraServer.Engine

open Media

-- The balance is lost for a while when the pipeline is constructed by hand before a pending rebuild:
-- the destinations are then still waiting to be added back.
inductive Sound (e : Engine) : Prop where
  | down (down : e.Down) (fresh : e.pending = none → e.destinations = [])
  | up (egress : Option Egress) (served : e.Served egress) (balanced : e.pending = none → e.Balanced)

theorem sound_served (e : Engine) (sound : e.Sound) (built : e.constructed = true) :
    ∃ egress, e.Served egress ∧ (e.pending = none → e.Balanced) := by
  cases sound with
  | down down _ => cases built.symm.trans down.idle
  | up egress served balanced => exact ⟨egress, served, balanced⟩

theorem sound_down (e : Engine) (sound : e.Sound) (idle : e.constructed = false) : e.Down := by
  cases sound with
  | down down _ => exact down
  | up egress served _ => cases served.built.symm.trans idle

theorem down_of_books (e next : Engine) (same : next.books = e.books) (down : e.Down) : next.Down where
  idle := (congrArg (·.ledger.constructed) same).trans down.idle
  tolerant := (congrArg (·.ledger.refusals) same).trans down.tolerant
  quit := (congrArg (·.ledger.orphans) same).trans down.quit
  bare := by
    have outlined : next.graph.outline = e.graph.outline := congrArg Books.outline same
    have listed : next.graph.history = e.graph.history := congrArg Outline.history outlined
    rw [Graph.Bare, listed]
    exact outlined.trans down.bare

theorem sound_of_fair (p : List Endpoint → Prop) (e next : Engine) (fair : Fair p e next)
    (relisted : Relisted e next) (balanced : e.pending = none → e.Balanced) : next.Sound := by
  obtain ⟨egress, served⟩ := fair.served
  refine .up egress served fun none => ?_
  rw [relisted_pending e next relisted] at none
  exact fair.balanced (balanced none)

theorem sound_of_books (e next : Engine) (same : next.books = e.books) (sound : e.Sound) : next.Sound := by
  cases sound with
  | down down fresh =>
      refine .down (down_of_books e next same down) fun none => ?_
      rw [relisted_pending e next (relisted_of_books e next same)] at none
      exact (congrArg (·.ledger.destinations) same).trans (fresh none)
  | up egress served balanced =>
      exact sound_of_fair (fun _ => True) e next (fair_of_books e next egress _ same served)
        (relisted_of_books e next same) balanced

theorem construct_sound (e : Engine) (sound : e.Sound) : e.construct.2.Sound := by
  cases sound with
  | down down fresh =>
      apply state_of_ends _ _ _ Sound (construct_ends e down)
      · rintro next ⟨served, ledger⟩
        refine .up none served fun none => ?_
        have pending : next.pending = e.pending := congrArg (·.pending) ledger
        have listed : next.destinations = [] :=
          (congrArg (·.destinations) ledger).trans (fresh (pending.symm.trans none))
        have quit : next.orphans = [] := (congrArg (·.orphans) ledger).trans down.quit
        rw [Balanced, served_sink next _ served, listed, quit]
        exact List.Perm.refl []
      · rintro next ⟨down, ledger⟩
        refine .down down fun none => ?_
        have pending : next.pending = e.pending := congrArg (·.pending) ledger
        exact (congrArg (·.destinations) ledger).trans (fresh (pending.symm.trans none))
  | up egress served balanced =>
      have same : e.construct.2 = e := by simp [construct, served.built]
      rw [same]
      exact .up egress served balanced

theorem dismantle_ends (e : Engine) (sound : e.Sound) : Ends e.dismantle Down Sound := by
  rw [dismantle]
  cases sound with
  | down down fresh =>
      rw [if_neg (by simp [down.idle])]
      exact down
  | up egress served balanced =>
      rw [if_pos served.built]
      have same := shutdown_books true e
      apply Outcome.next_ends _ _ (·.books = e.books)
      · apply ends_of_state _ (fun next : Engine => next.books = e.books) _ _ same (fun _ kept => kept)
        exact fun next kept => sound_of_books e next kept (.up egress served balanced)
      · exact fun next kept => teardown_down next ((congrArg (·.ledger.refusals) kept).trans served.tolerant)

theorem retry_rebuild_ends (config : PipelineConfig) (resume : Bool) (e : Engine) (down : e.Down) :
    Ends (e.retryRebuild config resume) Settled (fun next => next.Down ∧ next.pending ≠ none) := by
  have begun := adopt_down config resume e down
  have roster := retry_rebuild_roster config resume e down.idle
  have rebuilt := rebuild_ends resume _ begun
  rw [retryRebuild] at roster ⊢
  rcases ends_cases _ _ _ rebuilt with ⟨next, eq, settled⟩ | ⟨x, next, eq, fallen⟩
  · rw [eq]
    obtain ⟨⟨egress, served⟩, balanced⟩ := settled
    exact ⟨⟨egress, served.built, served.tolerant, served.outline, served.placed, served.held⟩, balanced⟩
  · dsimp only at roster ⊢
    rw [eq] at roster ⊢
    refine ⟨⟨fallen.idle, fallen.tolerant, fallen.quit, fallen.bare⟩, ?_⟩
    have pending : next.pending = some resume := congrArg Roster.pending roster
    intro none
    cases pending.symm.trans none

theorem set_config_ends (config : PipelineConfig) (e : Engine) (sound : e.Sound) :
    Ends (e.setConfig config) (fun next => next.Sound ∧ (e.constructed = true → next.Settled)) Sound := by
  rw [set_config_stages]
  cases needed : e.needsRebuild config with
  | false =>
      have waiting : e.pending = none := by
        simp only [needsRebuild, Bool.or_eq_false_iff] at needed
        simpa [rebuildPending] using needed.1
      cases sound with
      | down down fresh =>
          refine ⟨.down ⟨down.idle, down.tolerant, down.quit, down.bare⟩ fresh, ?_⟩
          intro built
          cases built.symm.trans down.idle
      | up egress served balanced =>
          have kept : (e.adopt config).Served egress :=
            ⟨served.built, served.tolerant, served.outline, served.placed, served.held⟩
          exact ⟨.up egress kept balanced, fun _ => ⟨⟨egress, kept⟩, balanced waiting⟩⟩
  | true =>
      have asked := sound_of_books e e.resumes.2 (resumes_books e) sound
      apply Outcome.next_ends _ _ _ _ _ (dismantle_ends e.resumes.2 asked)
      intro next down
      apply ends_mono _ _ _ _ _ (retry_rebuild_ends config e.resumes.1 next down)
      · intro last settled
        obtain ⟨⟨egress, served⟩, balanced⟩ := settled
        exact ⟨.up egress served fun _ => balanced, fun _ => ⟨⟨egress, served⟩, balanced⟩⟩
      · rintro last ⟨fallen, pending⟩
        exact .down fallen fun none => absurd none pending

theorem add_endpoint_sound (endpoint : Endpoint) (e : Engine) (sound : e.Sound) :
    (e.addEndpoint endpoint).2.Sound := by
  cases sound with
  | down down fresh =>
      have same : (e.addEndpoint endpoint).2 = e := by simp [addEndpoint, ifConstructed, down.idle]
      rw [same]
      exact .down down fresh
  | up egress served balanced =>
      have fair : Fair (e.destinations.Subperm ·) e (e.addEndpoint endpoint).2 := by
        apply state_of_ends _ _ _ (Fair (e.destinations.Subperm ·) e) (add_endpoint_fair endpoint e egress served)
        · exact fun _ added => added.2
        · exact fun _ kept => kept
      exact sound_of_fair _ e _ fair (add_endpoint_relists endpoint e) balanced

theorem remove_endpoint_sound (endpoint : Endpoint) (e : Engine) (sound : e.Sound) :
    (e.removeEndpoint endpoint).2.Sound := by
  cases sound with
  | down down fresh =>
      rw [removeEndpoint]
      split
      · rw [if_neg (by simp [down.idle])]
        refine .down ⟨down.idle, down.tolerant, down.quit, down.bare⟩ fun none => ?_
        change e.destinations.erase endpoint = []
        rw [fresh none]
        rfl
      · exact .down down fresh
  | up egress served balanced =>
      have fair : Fair (fun _ => True) e (e.removeEndpoint endpoint).2 := by
        apply state_of_ends _ _ _ (Fair (fun _ => True) e) (remove_endpoint_fair endpoint e egress served)
        · exact fun _ removed => fair_mono _ _ _ _ (fun _ _ => trivial) removed
        · exact fun _ kept => fair_mono _ _ _ _ (fun _ _ => trivial) kept.2
      exact sound_of_fair _ e _ fair (remove_endpoint_relists endpoint e) balanced

theorem change_endpoint_sound (old new : Endpoint) (e : Engine) (sound : e.Sound) :
    (e.changeEndpoint old new).2.Sound := by
  cases sound with
  | down down fresh =>
      have same : (e.changeEndpoint old new).2 = e := by
        rw [changeEndpoint]
        split
        · rfl
        · simp [addEndpoint, ifConstructed, down.idle, Outcome.next]
      rw [same]
      exact .down down fresh
  | up egress served balanced =>
      exact sound_of_fair _ e _ (change_endpoint_fair old new e egress served)
        (change_endpoint_relists old new e) balanced

theorem reap_orphans_sound (e : Engine) (sound : e.Sound) : e.reapOrphans.Sound := by
  cases sound with
  | down down fresh =>
      have same : e.reapOrphans = e := by simp [reapOrphans, down.idle]
      rw [same]
      exact .down down fresh
  | up egress served balanced =>
      exact sound_of_fair _ e _ (reap_orphans_fair e egress served).1
        (relisted_of_roster e _ (reap_orphans_roster e)) balanced

theorem step_sound (s : Step) (e : Engine) (sound : e.Sound) : (s.apply e).Sound := by
  rcases step_cases s e with
    same | rfl | ⟨config, rfl⟩ | ⟨endpoint, rfl⟩ | ⟨endpoint, rfl⟩ | ⟨old, new, rfl⟩ | rfl
  · exact sound_of_books e _ same sound
  · exact construct_sound e sound
  · exact state_of_ends _ _ _ Sound (set_config_ends config e sound) (fun _ done => done.1) (fun _ kept => kept)
  · exact add_endpoint_sound endpoint e sound
  · exact remove_endpoint_sound endpoint e sound
  · exact change_endpoint_sound old new e sound
  · exact reap_orphans_sound e sound

theorem reachable_sound (allowed : Engine → Step → Prop) (e : Engine) (reached : Reachable allowed e) :
    e.Sound := by
  induction reached with
  | new config disk now => exact .down ⟨rfl, rfl, rfl, rfl⟩ fun _ => rfl
  | step e s _ _ ih => exact step_sound s e ih

theorem reachable_settled (e : Engine) (reached : Reachable Orderly e) (built : e.constructed = true) :
    e.Settled := by
  obtain ⟨egress, served, balanced⟩ := sound_served e (reachable_sound Orderly e reached) built
  exact ⟨⟨egress, served⟩, balanced (reachable_prompt e reached built)⟩

/-! ### The sink -/

theorem sink_matches_ledger (e : Engine) (reached : Reachable Orderly e) :
    (e.constructed = true → e.graph.sink.Perm (e.destinations ++ e.orphans)) ∧
      (e.constructed = false → e.orphans = [] ∧ e.graph.stages = []) := by
  constructor
  · intro built
    exact (reachable_settled e reached built).2
  · intro idle
    cases reachable_sound Orderly e reached with
    | down down _ => exact ⟨down.quit, e.graph.bare_stages down.bare⟩
    | up egress served _ => cases served.built.symm.trans idle

-- A move that could neither be finished nor taken back.
def stuckMove : Engine :=
  run [.addEndpoint ⟨"10.0.0.1", 5000⟩, .inject (.failOn (.signal "remove")),
    .changeEndpoint ⟨"10.0.0.1", 5000⟩ ⟨"10.0.0.2", 6000⟩] fresh

theorem sink_matches_ledger_stuck_move :
    Reachable Orderly stuckMove ∧ stuckMove.orphans = [⟨"10.0.0.2", 6000⟩] ∧
      stuckMove.graph.sink.Perm (stuckMove.destinations ++ stuckMove.orphans) := by
  have reached : Reachable Orderly stuckMove := orderly_run _ fresh fresh_reachable (by simp)
  exact ⟨reached, by decide, (sink_matches_ledger stuckMove reached).1 (by decide)⟩

end CameraServer.Engine
