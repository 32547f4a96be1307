import CameraServer.Proofs.Pipeline.Destinations
import CameraServer.Proofs.Pipeline.Lifecycle

/-!
What a change of the configuration does to the roster. Main statements: a change that rebuilds the
graph ends well with just the destinations that could be added back, and in an error with all of
them.
-/

set_option autoImplicit false

namespace CameraServer.Engine

open Media

/-! ### Construction and teardown -/

theorem run_steps_keeps (keep : Engine → Prop) (steps : List (Engine → Outcome Unit))
    (each : ∀ step ∈ steps, ∀ e, keep e → keep (step e).2) (e : Engine) (before : keep e) :
    keep (runSteps steps e).2 := by
  induction steps generalizing e with
  | nil => exact before
  | cons step rest ih =>
      apply Outcome.next_keeps _ _ keep (each step (by simp) e before)
      exact fun next kept => ih (fun other member => each other (by simp [member])) next kept

theorem fixed_stages_ledger (e : Engine) : (runSteps fixedStages e).2.ledger = e.ledger := by
  apply run_steps_keeps (·.ledger = e.ledger) fixedStages _ e rfl
  intro step member next kept
  simp only [fixedStages, List.mem_cons, List.not_mem_nil, or_false] at member
  rcases member with rfl | rfl | rfl | rfl | rfl | rfl | rfl | rfl | rfl
  -- Only the last step moves the graph; the others are calls that cannot reach the ledger.
  iterate 8 exact kept
  exact (congrArg Books.ledger (set_graph_state_books .ready next)).trans kept

theorem construct_ledger (e : Engine) :
    Ends e.construct (fun next => next.ledger = { e.ledger with constructed := true })
      (fun next => next.ledger = e.ledger) := by
  have built := fixed_stages_ledger e
  rw [construct]
  cases here : e.constructed with
  | true =>
      change e.ledger = { e.ledger with constructed := true }
      rw [← here]
      rfl
  | false =>
      dsimp only
      rcases eq : runSteps fixedStages e with ⟨x | u, next⟩
      · rw [eq] at built
        exact (reset_graph_ledger next).trans built
      · rw [eq] at built
        exact congrArg (fun l : Ledger => { l with constructed := true }) built

theorem teardown_ledger (e : Engine) :
    e.teardown.ledger = { e.ledger with constructed := false, orphans := [] } := by
  have reset := reset_graph_ledger e
  exact congrArg (fun l : Ledger => { l with constructed := false, orphans := [] }) reset

/-! ### Adding destinations back -/

def Readds : List Endpoint → Engine → Prop
  | [], _ => True
  | endpoint :: rest, e =>
      (e.addEndpoint endpoint).1 = .ok () ∧ Readds rest (e.addEndpoint endpoint).2

def restored : List Endpoint → Engine → List Endpoint
  | [], _ => []
  | endpoint :: rest, e =>
      match e.addEndpoint endpoint with
      | (.ok (), e) => endpoint :: restored rest e
      | (.error _, e) => restored rest e

theorem restored_sublist (list : List Endpoint) (e : Engine) : (restored list e).Sublist list := by
  induction list generalizing e with
  | nil => exact List.Sublist.refl []
  | cons endpoint rest ih =>
      rw [restored]
      split
      · exact (ih _).cons_cons endpoint
      · exact (ih _).cons endpoint

theorem restored_all_iff (list : List Endpoint) (e : Engine) : restored list e = list ↔ Readds list e := by
  induction list generalizing e with
  | nil => simp [restored, Readds]
  | cons endpoint rest ih =>
      unfold restored Readds
      rcases eq : e.addEndpoint endpoint with ⟨x | u, next⟩
      · have short := (restored_sublist rest next).length_le
        constructor
        · intro all
          have long : (restored rest next).length = rest.length + 1 := by
            simpa using congrArg List.length all
          omega
        · intro all
          cases all.1
      · simpa using ih next

theorem restore_roster (list : List Endpoint) (e : Engine) :
    (restore list e).roster = { e.roster with destinations := e.destinations ++ restored list e } := by
  induction list generalizing e with
  | nil => simp [restore, restored, roster]
  | cons endpoint rest ih =>
      have added := add_endpoint_roster endpoint e
      unfold restore restored
      rcases eq : e.addEndpoint endpoint with ⟨x | u, next⟩
      · rw [eq] at added
        have same : next.roster = e.roster := added
        have listed : next.destinations = e.destinations := congrArg Roster.destinations same
        rw [ih, same, listed]
      · rw [eq] at added
        have grown : next.roster = { e.roster with destinations := e.destinations ++ [endpoint] } := added
        have listed : next.destinations = e.destinations ++ [endpoint] := congrArg Roster.destinations grown
        rw [ih, grown, listed, List.append_assoc]
        rfl

/-! ### The stages of a change -/

def needsRebuild (config : PipelineConfig) (e : Engine) : Bool :=
  e.rebuildPending || (e.constructed && e.config.requiresRebuild config)

def dismantle (e : Engine) : Outcome Unit :=
  if e.constructed then (e.shutdown true).next fun e => (.ok (), e.teardown) else (.ok (), e)

def reconstruct (config : PipelineConfig) (resume : Bool) (e : Engine) : Outcome Unit :=
  (adopt config { e with pending := some resume }).construct

-- The engine at the point where a change of the configuration begins to add destinations back;
-- none when the change does not come to that.
def readding? (config : PipelineConfig) (e : Engine) : Option Engine :=
  if e.needsRebuild config then
    match e.resumes.2.dismantle.next (reconstruct config e.resumes.1) with
    | (.ok (), start) => some { start with destinations := [] }
    | (.error _, _) => none
  else none

def ReaddsAll (config : PipelineConfig) (e : Engine) : Prop :=
  ∀ start, e.readding? config = some start → Readds e.destinations start

theorem set_config_stages (config : PipelineConfig) (e : Engine) :
    e.setConfig config =
      if e.needsRebuild config then e.resumes.2.dismantle.next (retryRebuild config e.resumes.1)
      else (.ok (), e.adopt config) := by
  unfold setConfig needsRebuild
  split
  · dsimp only
    rw [dismantle]
    cases e.resumes.2.constructed with
    | false => rfl
    | true =>
        simp only [if_true]
        rcases e.resumes.2.shutdown true with ⟨x | u, next⟩ <;> rfl
  · rfl

theorem resumes_books (e : Engine) : e.resumes.2.books = e.books := by
  rw [resumes]
  split
  · rfl
  · exact runs_books e

theorem dismantle_roster (e : Engine) :
    Ends e.dismantle (fun next => next.roster = { e.roster with constructed := false })
      (fun next => next.roster = e.roster) := by
  rw [dismantle]
  cases here : e.constructed with
  | true =>
      have down := congrArg (·.ledger.toRoster) (shutdown_books true e)
      simp only [if_true]
      apply Outcome.next_ends _ _ (fun next => next.roster = e.roster)
      · exact (ends_alike _ _).mpr down
      · intro next kept
        have gone := congrArg Ledger.toRoster (teardown_ledger next)
        rw [← kept]
        exact gone
  | false =>
      change e.roster = { e.roster with constructed := false }
      rw [← here]
      rfl

theorem rebuild_roster (resume : Bool) (e : Engine) (idle : e.constructed = false) :
    Ends (e.rebuild resume)
      (fun next => ∃ start, e.construct = (.ok (), start) ∧ next.roster =
        { e.roster with
          constructed := true
          destinations := restored e.destinations { start with destinations := [] } })
      (fun next => next.roster = e.roster) := by
  have built := construct_ledger e
  rw [rebuild]
  rcases eq : e.construct with ⟨x | u, start⟩
  · rw [eq] at built
    exact congrArg Ledger.toRoster built
  · rw [eq] at built
    have begun : start.roster = { e.roster with constructed := true } := congrArg Ledger.toRoster built
    have listed : start.destinations = e.destinations := congrArg Roster.destinations begun
    have filled := restore_roster start.destinations { start with destinations := [] }
    generalize held : restore start.destinations { start with destinations := [] } = full at filled
    have done : full.roster = { e.roster with
        constructed := true
        destinations := restored e.destinations { start with destinations := [] } } := by
      rw [filled, listed]
      exact congrArg (fun r : Roster => { r with
        destinations := restored e.destinations { start with destinations := [] } }) begun
    simp only [Outcome.next, held]
    cases resume with
    | false => exact ⟨start, rfl, done⟩
    | true =>
        have started := congrArg (·.ledger.toRoster) (start_books full)
        rcases eq : full.start with ⟨x | u, last⟩
        · rw [eq] at started
          have same : last.roster = full.roster := started
          have gone := congrArg Ledger.toRoster (teardown_ledger last)
          change { last.teardown.roster with destinations := start.destinations } = _
          have bare : last.teardown.roster = { last.roster with constructed := false } := gone
          rw [bare, same, done, listed]
          rw [← idle]
          rfl
        · rw [eq] at started
          exact ⟨start, rfl, Eq.trans started done⟩

theorem retry_rebuild_roster (config : PipelineConfig) (resume : Bool) (e : Engine)
    (idle : e.constructed = false) :
    Ends (e.retryRebuild config resume)
      (fun next => ∃ start, e.reconstruct config resume = (.ok (), start) ∧ next.roster =
        ⟨config, true, none, e.refusals, restored e.destinations { start with destinations := [] }⟩)
      (fun next => next.roster = { e.roster with pending := some resume }) := by
  have rebuilt := rebuild_roster resume (adopt config { e with pending := some resume }) idle
  rw [retryRebuild]
  dsimp only
  rcases ends_cases _ _ _ rebuilt with ⟨next, eq, start, built, done⟩ | ⟨x, next, eq, kept⟩
  · rw [eq]
    refine ⟨start, built, ?_⟩
    exact congrArg (fun r : Roster => { r with pending := none }) done
  · rw [eq]
    exact congrArg (fun r : Roster => { r with config := e.config }) kept

theorem set_config_roster (config : PipelineConfig) (e : Engine) :
    Ends (e.setConfig config)
      (fun next =>
        (e.needsRebuild config = false ∧ next.roster = { e.roster with config := config }) ∨
        ∃ start, e.readding? config = some start ∧ next.roster =
          ⟨config, true, none, e.refusals, restored e.destinations start⟩)
      (fun next => next.roster = e.roster ∨
        next.roster = { e.roster with constructed := false, pending := some e.resumes.1 }) := by
  have asked : e.resumes.2.roster = e.roster := congrArg (·.ledger.toRoster) (resumes_books e)
  rw [set_config_stages]
  cases needed : e.needsRebuild config with
  | false => exact .inl ⟨rfl, rfl⟩
  | true =>
      simp only [if_true]
      rcases ends_cases _ _ _ (dismantle_roster e.resumes.2) with ⟨gone, eq, bare⟩ | ⟨x, next, eq, kept⟩
      · rw [asked] at bare
        have idle : gone.constructed = false := congrArg Roster.constructed bare
        have listed : gone.destinations = e.destinations := congrArg Roster.destinations bare
        have tolerated : gone.refusals = e.refusals := congrArg Roster.refusals bare
        rw [eq]
        apply ends_mono _ _ _ _ _ (retry_rebuild_roster config e.resumes.1 gone idle)
        · rintro next ⟨start, built, done⟩
          refine .inr ⟨{ start with destinations := [] }, ?_, ?_⟩
          · rw [readding?, if_pos needed, eq]
            simp only [Outcome.next, built]
          · rw [done, listed, tolerated]
        · intro next failed
          rw [failed, bare]
          exact .inr rfl
      · rw [eq]
        exact .inl (kept.trans asked)

theorem set_config_destinations (config : PipelineConfig) (e : Engine) (all : e.ReaddsAll config) :
    (e.setConfig config).2.destinations = e.destinations := by
  rcases ends_cases _ _ _ (set_config_roster config e) with ⟨next, eq, done⟩ | ⟨x, next, eq, failed⟩
  · rw [eq]
    rcases done with ⟨_, kept⟩ | ⟨start, begun, rebuilt⟩
    · exact congrArg Roster.destinations kept
    · have back := (restored_all_iff e.destinations start).mpr (all start begun)
      exact (congrArg Roster.destinations rebuilt).trans back
  · rw [eq]
    rcases failed with same | idle
    · exact congrArg Roster.destinations same
    · exact congrArg Roster.destinations idle

end CameraServer.Engine
