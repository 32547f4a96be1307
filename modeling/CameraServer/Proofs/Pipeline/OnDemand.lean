import CameraServer.Proofs.Pipeline.Calm
import CameraServer.Proofs.Pipeline.Connection

/-!
The egress branch on demand. Main statements: as long as no call on the graph is made to fail, every
stage is in the state of the graph, and the egress stage exists just while there are destinations, with
the list of them as its sink.
-/

set_option autoImplicit false

namespace CameraServer.Engine

open Media

/-! ### Runs without failures -/

def calmed (e : Engine) : Engine := { e with graph := e.graph.clearFailures }

def Unhindered (e : Engine) (s : Step) : Prop := (s.apply e).calmed = (s.apply e.calmed).calmed

def Plain (e : Engine) (s : Step) : Prop := Orderly e s ∧ ∀ injection, s ≠ .inject injection

theorem calmed_of_quiet (e : Engine) (quiet : ∀ p, e.graph.fails p = false) : e.calmed = e := by
  have none : ∀ p, p ∉ e.graph.failures ∧ p ∉ e.graph.oneShot := by
    intro p
    simpa [Graph.fails] using quiet p
  have lasting : e.graph.failures = [] := List.eq_nil_iff_forall_not_mem.mpr fun p => (none p).1
  have once : e.graph.oneShot = [] := List.eq_nil_iff_forall_not_mem.mpr fun p => (none p).2
  have clean : e.graph.clearFailures = { e.graph with failures := e.graph.failures, oneShot := e.graph.oneShot } := by
    rw [lasting, once]
    rfl
  rw [calmed, clean]

theorem unhindered_of_quiet (e : Engine) (s : Step) (quiet : ∀ p, e.graph.fails p = false) : Unhindered e s := by
  rw [Unhindered, calmed_of_quiet e quiet]

theorem inject_calmed (injection : Injection) (e : Engine) : (Step.apply (.inject injection) e).calmed = e.calmed := by
  obtain ⟨lasting, once, same⟩ := injection.apply_points e.graph
  rw [Step.apply, same]
  rfl

theorem step_spends (s : Step) (e : Engine) (plain : ∀ injection, s ≠ .inject injection) :
    Graph.Spends e.graph (s.apply e).graph := by
  rcases spends_frame.step set_graph_state_spends construct_spends s e with
    ⟨config, rfl⟩ | ⟨injection, rfl⟩ | ⟨disk, now, rfl⟩ | spent
  · exact set_config_spends config e
  · exact absurd rfl (plain injection)
  · exact fun _ fails => fails
  · exact spent

theorem plain_quiet (e : Engine) (reached : Reachable Plain e) (p : FailPoint) : e.graph.fails p = false := by
  induction reached with
  | new config disk now => rfl
  | step e s _ may ih => exact Graph.spends_calm _ _ p (step_spends s e may.2) ih

-- Without the failures that nothing came of, the run is one in which none are set.
theorem unhindered_plain (e : Engine) (reached : Reachable (fun e s => Orderly e s ∧ Unhindered e s) e) :
    Reachable Plain e.calmed := by
  induction reached with
  | new config disk now => exact .new config disk now
  | step e s _ may ih =>
      by_cases injects : ∃ injection, s = .inject injection
      · obtain ⟨injection, rfl⟩ := injects
        rw [inject_calmed]
        exact ih
      · have plain : ∀ injection, s ≠ .inject injection := fun injection same => injects ⟨injection, same⟩
        have next : Reachable Plain (s.apply e.calmed) := .step e.calmed s ih ⟨may.1, plain⟩
        rw [show (s.apply e).calmed = (s.apply e.calmed).calmed from may.2,
          calmed_of_quiet _ (plain_quiet _ next)]
        exact next

theorem plain_unhindered (e : Engine) (reached : Reachable Plain e) :
    Reachable (fun e s => Orderly e s ∧ Unhindered e s) e :=
  reachable_mono Plain _ e (fun e s before may => ⟨may.1, unhindered_of_quiet e s (plain_quiet e before)⟩) reached

/-! ### Stages in step with the graph -/

theorem others_in_step : GraphFrame (· = egressName) fun g next =>
    Graph.InStep (· ≠ egressName) g → Graph.InStep (· ≠ egressName) next where
  refl := fun _ before => before
  trans := fun _ _ _ first second before => second (first before)
  build := fun g spec => Graph.build_in_step _ g spec
  add := fun g name mine => Graph.add_aside_in_step _ name g fun other => other mine
  remove := fun g name => Graph.remove_in_step _ name g
  release := fun g name => Graph.release_in_step _ name g
  link := fun g up down =>
    Graph.in_step_of_stages _ g _ (Graph.link_stages g up down) (Graph.link_steady g up down).state
  unlink := fun g up down =>
    Graph.in_step_of_stages _ g _ (Graph.unlink_stages g up down) (Graph.unlink_steady g up down).state
  setStage := fun g name state mine => Graph.set_stage_state_aside_in_step _ name g state fun other => other mine
  sync := fun name g s mine before => by
    have synced := Graph.sync_in_step (· ≠ egressName) name g Site.sink s
      fun entry member counted => before entry member counted.1
    apply state_of_ends _ _ _ (fun next : Graph × Site => Graph.InStep (· ≠ egressName) next.1) synced
    · exact fun _ level => level
    · exact fun _ level entry member other => level entry member ⟨other, mine ▸ other⟩
  query := fun g => Graph.in_step_of_stages _ g _ (Graph.query_stages g) (Graph.query_steady g).state
  emit := fun target signal g s => Graph.emit_in_step _ g Site.sink s target signal
  dump := fun _ _ before => before
  pop := fun g => Graph.in_step_of_stages _ g _ (Graph.pop_event_stages g) (Graph.pop_event_steady g).state

def Level (e : Engine) : Prop := e.Sturdy ∧ e.graph.InStep (· ≠ egressName)

theorem level_frame : BranchFrame fun e next => e.Level → next.Level :=
  branch_frame_and _ _ sturdy_frame ((graph_frame _ _ others_in_step).branches rfl)

theorem set_graph_state_in_step (counts : String → Prop) (state : PlayState) (e : Engine)
    (before : e.graph.InStep counts) : (e.setGraphState state).2.graph.InStep counts := by
  rw [setGraphState]
  split
  · exact before
  · exact Graph.set_state_in_step counts e.graph Site.sink e.site state before

theorem set_graph_state_gathers (counts : String → Prop) (state : PlayState) (e : Engine) (moves : state ≠ .null) :
    Ends (e.setGraphState state) (·.graph.InStep counts) (fun _ => True) := by
  have gathered := Graph.set_state_gathers counts e.graph Site.sink e.site state
  rw [setGraphState, if_neg (fun both => moves both.2)]
  rcases eq : Graph.setState Site.sink state e.graph e.site with ⟨x | u, g, s⟩
  · trivial
  · rw [eq] at gathered
    exact gathered

theorem construct_in_step (counts : String → Prop) (e : Engine) (idle : e.constructed = false) :
    Ends e.construct (·.graph.InStep counts) (fun _ => True) := by
  have moved := run_fixed_stages e _ fun next => set_graph_state_gathers counts .ready next (by simp)
  rw [construct, idle, if_neg (by simp)]
  rcases eq : runSteps fixedStages e with ⟨x | u, next⟩
  · trivial
  · rw [eq] at moved
    exact moved

theorem construct_level (e : Engine) (level : e.Level) : e.construct.2.Level := by
  obtain ⟨sturdy, others⟩ := level
  refine ⟨construct_sturdy e sturdy, ?_⟩
  cases here : e.constructed with
  | true =>
      rw [construct, if_pos here]
      exact others
  | false =>
      have gathered := construct_in_step (· ≠ egressName) e here
      have outlined := construct_outline e here sturdy.tolerant (sturdy.idle here)
      rcases eq : e.construct with ⟨x | u, next⟩
      · rw [eq] at outlined
        exact Graph.in_step_of_bare _ next.graph outlined
      · rw [eq] at gathered
        exact gathered

theorem teardown_level (e : Engine) (level : e.Level) : e.teardown.Level :=
  ⟨teardown_sturdy e level.1, Graph.in_step_of_bare _ _ (teardown_down e level.1.tolerant).bare⟩

theorem step_level (s : Step) (e : Engine) (may : Plain e s) (level : e.Level) : (s.apply e).Level := by
  have move : ∀ state (e : Engine), e.Level → (e.setGraphState state).2.Level := fun state e level =>
    ⟨set_graph_state_sturdy state e level.1, set_graph_state_in_step _ state e level.2⟩
  rcases level_frame.step move construct_level s e with
    ⟨config, rfl⟩ | ⟨injection, rfl⟩ | ⟨disk, now, rfl⟩ | still
  · apply level_frame.set_config move construct_level teardown_level _ config e level
    exact fun _ _ level => ⟨⟨level.1.tolerant, level.1.idle, level.1.built, level.1.inStep, level.1.single⟩, level.2⟩
  · exact absurd rfl (may.2 injection)
  · exact ⟨⟨level.1.tolerant, level.1.idle, level.1.built, level.1.inStep, level.1.single⟩, level.2⟩
  · exact still level

theorem plain_level (e : Engine) (reached : Reachable Plain e) : e.graph.InStep (fun _ => True) := by
  have level : e.Level := by
    induction reached with
    | new config disk now =>
        exact ⟨reachable_sturdy _ (.new config disk now), Graph.in_step_of_bare _ _ rfl⟩
    | step e s _ may ih => exact step_level s e may ih
  intro entry member _
  by_cases egress : entry.1 = egressName
  · exact level.1.inStep entry member egress
  · exact level.2 entry member egress

/-! ### A branch for the destinations -/

def branchFor : List Endpoint → Option Egress
  | [] => none
  | endpoint :: rest => some ⟨true, true, endpoint :: rest⟩

theorem branch_for_some (list : List Endpoint) (busy : list ≠ []) : branchFor list = some ⟨true, true, list⟩ := by
  cases list with
  | nil => exact absurd rfl busy
  | cons endpoint rest => rfl

theorem joined_branch_for (list : List Endpoint) (endpoint : Endpoint) :
    some (joined (branchFor list) endpoint) = branchFor (list ++ [endpoint]) := by
  rw [branch_for_some (list ++ [endpoint]) (by simp)]
  cases list with
  | nil => rfl
  | cons first rest => rfl

structure OnDemand (e : Engine) : Prop where
  served : e.Served (branchFor e.destinations)
  quit : e.orphans = []
  quiet : ∀ p, e.graph.fails p = false

theorem on_demand_of_stands (e : Engine) (l : Ledger) (history : List (List Endpoint)) (built : l.constructed = true)
    (tolerant : l.refusals = {}) (quit : l.orphans = []) (quiet : ∀ p, e.graph.fails p = false)
    (stands : e.Stands l (branchFor l.destinations) history) : e.OnDemand := by
  have placed : ∀ list, ∀ b ∈ branchFor list, b.parented = true := by
    intro list
    cases list <;> simp [branchFor]
  have listed : e.destinations = l.destinations := congrArg (·.destinations) stands.ledger
  refine ⟨?_, (congrArg (·.orphans) stands.ledger).trans quit, quiet⟩
  rw [listed]
  exact served_of_stands e _ history l built tolerant (placed _) (fun some => absurd quit some) stands

theorem on_demand_of_books (e next : Engine) (same : next.books = e.books)
    (spends : Graph.Spends e.graph next.graph) (onDemand : e.OnDemand) : next.OnDemand := by
  apply on_demand_of_stands next e.ledger e.graph.history onDemand.served.built onDemand.served.tolerant onDemand.quit
  · exact Graph.spends_quiet _ _ spends onDemand.quiet
  · exact stands_of_books e _ _ _ next same (served_stands e _ onDemand.served)

theorem on_demand_of_parts (e next : Engine) (graph : next.graph = e.graph)
    (constructed : next.constructed = e.constructed) (refusals : next.refusals = e.refusals)
    (destinations : next.destinations = e.destinations) (orphans : next.orphans = e.orphans)
    (onDemand : e.OnDemand) : next.OnDemand := by
  have served := onDemand.served
  refine ⟨⟨constructed.trans served.built, refusals.trans served.tolerant, ?_, ?_, ?_⟩, orphans.trans onDemand.quit, ?_⟩
  · rw [graph, destinations]
    exact served.outline
  · rw [destinations]
    exact served.placed
  · rw [orphans, destinations]
    exact served.held
  · rw [graph]
    exact onDemand.quiet

theorem on_demand_reaps_nothing (e : Engine) (onDemand : e.OnDemand) : e.reapOrphans = e :=
  reap_orphans_none e onDemand.quit

theorem add_endpoint_on_demand (endpoint : Endpoint) (e : Engine) (onDemand : e.OnDemand) :
    ∃ next, e.addEndpoint endpoint = (.ok (), next) ∧ next.OnDemand := by
  have spent := spends_frame.flag.add_endpoint endpoint e
  have same := on_demand_reaps_nothing e onDemand
  have added := add_endpoint_succeeds endpoint e (branchFor e.destinations) onDemand.served.built
  rw [same] at added
  obtain ⟨next, history, eq, stands⟩ := added onDemand.served onDemand.quiet
  rw [joined_branch_for] at stands
  rw [eq] at spent
  refine ⟨next, eq, on_demand_of_stands next _ history ?_ ?_ ?_ ?_ stands⟩
  · exact onDemand.served.built
  · exact onDemand.served.tolerant
  · exact onDemand.quit
  · exact Graph.spends_quiet _ _ spent onDemand.quiet

theorem detach_if_idle_on_demand (e : Engine) (l : Ledger) (history : List (List Endpoint))
    (built : l.constructed = true) (tolerant : l.refusals = {}) (quit : l.orphans = [])
    (quiet : ∀ p, e.graph.fails p = false) (stands : e.Stands l (some ⟨true, true, l.destinations⟩) history) :
    e.detachIfIdle.Stands l (branchFor l.destinations) history := by
  have left : e.orphans = [] := (congrArg (·.orphans) stands.ledger).trans quit
  have listed : e.destinations = l.destinations := congrArg (·.destinations) stands.ledger
  have present : e.graph.hasParent egressName = true := stands_has_egress e l _ history stands
  rw [detachIfIdle, left, listed, present]
  cases named : l.destinations with
  | nil => exact detach_egress_calm e l _ history quiet built tolerant rfl stands
  | cons endpoint rest =>
      rw [named] at stands
      exact stands

theorem remove_endpoint_on_demand (endpoint : Endpoint) (e : Engine) (onDemand : e.OnDemand) :
    ∃ next, e.removeEndpoint endpoint = (.ok (), next) ∧ next.OnDemand := by
  have spent := spends_frame.flag.remove_endpoint endpoint e
  by_cases member : e.destinations.contains endpoint = true
  · have served := onDemand.served
    have same := on_demand_reaps_nothing e onDemand
    have removing := remove_endpoint_succeeds endpoint e ⟨true, true, e.destinations⟩ member
    rw [branch_for_some e.destinations (List.ne_nil_of_mem (by simpa using member))] at served
    rw [same] at removing
    obtain ⟨last, history, eq, removed, quiet⟩ := removing served served.built onDemand.quiet
    have idle := detach_if_idle_on_demand last _ history onDemand.served.built onDemand.served.tolerant onDemand.quit
      quiet removed
    rw [eq] at spent
    refine ⟨_, eq, on_demand_of_stands _ _ _ ?_ ?_ ?_ ?_ idle⟩
    · exact onDemand.served.built
    · exact onDemand.served.tolerant
    · exact onDemand.quit
    · exact Graph.spends_quiet _ _ spent onDemand.quiet
  · exact ⟨e, by rw [removeEndpoint, if_neg member], onDemand⟩

theorem change_endpoint_on_demand (old new : Endpoint) (e : Engine) (onDemand : e.OnDemand) :
    (e.changeEndpoint old new).2.OnDemand := by
  rw [changeEndpoint]
  split
  · exact onDemand
  · obtain ⟨middle, added, still⟩ := add_endpoint_on_demand new e onDemand
    obtain ⟨next, removed, ended⟩ := remove_endpoint_on_demand old middle still
    rw [added]
    dsimp only [Outcome.next]
    rw [removed]
    exact ended

/-! ### Rebuilding -/

theorem restore_on_demand (list : List Endpoint) (e : Engine) (onDemand : e.OnDemand) : (restore list e).OnDemand := by
  induction list generalizing e with
  | nil => exact onDemand
  | cons endpoint rest ih =>
      obtain ⟨next, eq, added⟩ := add_endpoint_on_demand endpoint e onDemand
      rw [restore, eq]
      exact ih next added

theorem readds_on_demand (list : List Endpoint) (e : Engine) (onDemand : e.OnDemand) : Readds list e := by
  induction list generalizing e with
  | nil => trivial
  | cons endpoint rest ih =>
      obtain ⟨next, eq, added⟩ := add_endpoint_on_demand endpoint e onDemand
      rw [Readds, eq]
      exact ⟨rfl, ih next added⟩

theorem construct_on_demand (e : Engine) (down : e.Down) (quiet : ∀ p, e.graph.fails p = false) :
    Ends e.construct (fun next => OnDemand { next with destinations := [] }) Down := by
  have spent := construct_spends e
  rcases ends_cases _ _ _ (construct_ends e down) with ⟨begun, eq, served, ledger⟩ | ⟨x, next, eq, fallen, _⟩
  · rw [eq] at spent ⊢
    have quit : begun.orphans = [] := (congrArg (·.orphans) ledger).trans down.quit
    exact ⟨⟨served.built, served.tolerant, served.outline, served.placed, served.held⟩, quit,
      Graph.spends_quiet _ _ spent quiet⟩
  · rw [eq]
    exact fallen

def Attentive (e : Engine) : Prop := e.constructed = true → e.OnDemand

theorem attentive_of_down (e : Engine) (idle : e.constructed = false) : e.Attentive := by
  intro built
  cases built.symm.trans idle

theorem attentive_of_relisted (e next : Engine) (relisted : Relisted e next) (serves : e.OnDemand → next.OnDemand)
    (attentive : e.Attentive) : next.Attentive := by
  intro built
  rw [relisted_constructed e next relisted] at built
  exact serves (attentive built)

theorem attentive_of_books (e next : Engine) (same : next.books = e.books)
    (spends : Graph.Spends e.graph next.graph) (attentive : e.Attentive) : next.Attentive :=
  attentive_of_relisted e next (relisted_of_books e next same) (on_demand_of_books e next same spends) attentive

-- Only the recordings can keep a rebuild from playing; then the graph is gone again.
theorem rebuild_attentive (resume : Bool) (e : Engine) (down : e.Down) (quiet : ∀ p, e.graph.fails p = false) :
    (e.rebuild resume).2.Attentive := by
  rw [rebuild]
  rcases ends_cases _ _ _ (construct_on_demand e down quiet) with ⟨begun, eq, empty⟩ | ⟨x, next, eq, fallen⟩
  · rw [eq]
    have restored := restore_on_demand begun.destinations _ empty
    generalize held : restore begun.destinations { begun with destinations := [] } = full at restored
    simp only [Outcome.next, held]
    cases resume with
    | false => exact fun _ => restored
    | true =>
        have same := start_books full
        have starting := spends_frame.flag.start spends_frame.wraps (set_graph_state_spends .playing) full
        rcases eq : full.start with ⟨x | u, last⟩
        · exact attentive_of_down _ rfl
        · rw [eq] at same starting
          exact fun _ => on_demand_of_books full last same starting restored
  · rw [eq]
    exact attentive_of_down next fallen.idle

theorem retry_rebuild_attentive (config : PipelineConfig) (resume : Bool) (e : Engine) (down : e.Down)
    (quiet : ∀ p, e.graph.fails p = false) : (e.retryRebuild config resume).2.Attentive := by
  have begun := adopt_down config resume e down
  have rebuilt := rebuild_attentive resume _ begun quiet
  have ended := rebuild_ends resume _ begun
  rw [retryRebuild]
  rcases eq : (adopt config { e with pending := some resume }).rebuild resume with ⟨x | u, next⟩
  · rw [eq] at ended
    exact attentive_of_down _ ended.idle
  · rw [eq] at rebuilt
    exact fun built => on_demand_of_parts next _ rfl rfl rfl rfl rfl (rebuilt built)

theorem dismantle_refused_books (e : Engine) : Ends e.dismantle (fun _ => True) (·.books = e.books) := by
  rw [dismantle]
  split
  · apply Outcome.next_ends _ _ (fun _ => True)
    · exact ends_of_state _ (·.books = e.books) _ _ (shutdown_books true e) (fun _ _ => trivial) (fun _ kept => kept)
    · exact fun _ _ => trivial
  · trivial

theorem resumes_dismantles (e : Engine) (sound : e.Sound) (quiet : ∀ p, e.graph.fails p = false) :
    Ends e.resumes.2.dismantle (fun gone => gone.Down ∧ ∀ p, gone.graph.fails p = false)
      (fun next => next.books = e.books ∧ Graph.Spends e.graph next.graph) := by
  have asked := resumes_books e
  have asking := spends_frame.flag.resumes e
  have leaving := spends_frame.dismantle set_graph_state_spends teardown_spends e.resumes.2
  have spent := Graph.spends_trans _ _ _ asking leaving
  have gone := dismantle_ends e.resumes.2 (sound_of_books e _ asked sound)
  have kept := dismantle_refused_books e.resumes.2
  rcases eq : e.resumes.2.dismantle with ⟨x | u, next⟩
  · rw [eq] at spent kept
    exact ⟨Eq.trans kept asked, spent⟩
  · rw [eq] at gone spent
    exact ⟨gone, Graph.spends_quiet _ _ spent quiet⟩

theorem set_config_attentive (config : PipelineConfig) (e : Engine) (sound : e.Sound)
    (quiet : ∀ p, e.graph.fails p = false) (attentive : e.Attentive) : (e.setConfig config).2.Attentive := by
  rw [set_config_stages]
  cases needed : e.needsRebuild config with
  | false => exact fun built => on_demand_of_parts e _ rfl rfl rfl rfl rfl (attentive built)
  | true =>
      simp only [if_true]
      rcases ends_cases _ _ _ (resumes_dismantles e sound quiet) with
        ⟨gone, eq, down, still⟩ | ⟨x, next, eq, kept, spent⟩
      · rw [eq]
        exact retry_rebuild_attentive config _ gone down still
      · rw [eq]
        exact attentive_of_books e next kept spent attentive

theorem readds_all_on_demand (config : PipelineConfig) (e : Engine) (sound : e.Sound)
    (quiet : ∀ p, e.graph.fails p = false) : e.ReaddsAll config := by
  intro start begun
  apply readds_on_demand
  rw [readding?] at begun
  split at begun
  · rcases ends_cases _ _ _ (resumes_dismantles e sound quiet) with ⟨gone, eq, down, still⟩ | ⟨x, next, eq, _⟩
    · have built := construct_on_demand _ (adopt_down config e.resumes.1 gone down) still
      rw [eq] at begun
      simp only [Outcome.next, reconstruct] at begun
      rcases eq : (adopt config { gone with pending := some e.resumes.1 }).construct with ⟨x | u, last⟩
      · rw [eq] at begun
        cases begun
      · rw [eq] at begun built
        cases begun
        exact built
    · rw [eq] at begun
      cases begun
  · cases begun

/-! ### Every step -/

theorem construct_attentive (e : Engine) (orderly : e.pending = none) (sound : e.Sound)
    (quiet : ∀ p, e.graph.fails p = false) (attentive : e.Attentive) : e.construct.2.Attentive := by
  have spent := construct_spends e
  cases sound with
  | down down fresh =>
      rcases ends_cases _ _ _ (construct_ends e down) with ⟨next, eq, served, ledger⟩ | ⟨x, next, eq, fallen, _⟩
      · rw [eq] at spent ⊢
        have none : next.destinations = [] := (congrArg (·.destinations) ledger).trans (fresh orderly)
        have quit : next.orphans = [] := (congrArg (·.orphans) ledger).trans down.quit
        refine fun _ => ⟨?_, quit, Graph.spends_quiet _ _ spent quiet⟩
        rw [none]
        exact served
      · rw [eq]
        exact attentive_of_down next fallen.idle
  | up egress served _ =>
      rw [construct, if_pos served.built]
      exact attentive

theorem step_attentive (s : Step) (e : Engine) (may : Plain e s) (sound : e.Sound)
    (quiet : ∀ p, e.graph.fails p = false) (attentive : e.Attentive) : (s.apply e).Attentive := by
  have spent := step_spends s e may.2
  rcases step_cases s e with
    same | rfl | ⟨config, rfl⟩ | ⟨endpoint, rfl⟩ | ⟨endpoint, rfl⟩ | ⟨old, new, rfl⟩ | rfl
  · exact attentive_of_books e _ same spent attentive
  · exact construct_attentive e (may.1 rfl) sound quiet attentive
  · exact set_config_attentive config e sound quiet attentive
  · apply attentive_of_relisted e _ (add_endpoint_relists endpoint e) _ attentive
    intro onDemand
    obtain ⟨next, eq, added⟩ := add_endpoint_on_demand endpoint e onDemand
    rw [eq]
    exact added
  · apply attentive_of_relisted e _ (remove_endpoint_relists endpoint e) _ attentive
    intro onDemand
    obtain ⟨next, eq, removed⟩ := remove_endpoint_on_demand endpoint e onDemand
    rw [eq]
    exact removed
  · exact attentive_of_relisted e _ (change_endpoint_relists old new e) (change_endpoint_on_demand old new e) attentive
  · apply attentive_of_relisted e _ (relisted_of_roster e _ (reap_orphans_roster e)) _ attentive
    intro onDemand
    rw [on_demand_reaps_nothing e onDemand]
    exact onDemand

theorem plain_attentive (e : Engine) (reached : Reachable Plain e) : e.Attentive := by
  induction reached with
  | new config disk now => exact attentive_of_down _ rfl
  | step e s before may ih => exact step_attentive s e may (reachable_sound Plain e before) (plain_quiet e before) ih

/-! ### Runs on which nothing fails -/

theorem links_for (list : List Endpoint) (busy : list ≠ []) (history : List (List Endpoint)) :
    (Outline.fixed (branchFor list) history).links.count (fanOutName, egressName) = 1 := by
  rw [branch_for_some list busy]
  rfl

theorem egress_on_demand (e : Engine) (reached : Reachable (fun e s => Orderly e s ∧ Unhindered e s) e)
    (built : e.constructed = true) :
    (e.graph.hasStage egressName = true ↔ e.destinations ≠ []) ∧
      (e.destinations ≠ [] → e.graph.hasParent egressName = true ∧
        e.graph.links.count (fanOutName, egressName) = 1) ∧
      e.graph.sink = e.destinations ∧ e.orphans = [] ∧
      ∀ entry ∈ e.graph.stages, entry.2.parented = true → entry.2.state = e.graph.state := by
  -- The failures that are set and do not strike are all that the engine could have too many.
  have plain := unhindered_plain e reached
  have onDemand := plain_attentive e.calmed plain built
  have stands : e.Stands e.calmed.ledger (branchFor e.destinations) e.graph.history :=
    ⟨rfl, onDemand.served.outline⟩
  refine ⟨?_, ?_, ?_, onDemand.quit, fun entry member => plain_level e.calmed plain entry member trivial⟩
  · rw [stands_has_egress_stage e _ _ _ stands]
    cases e.destinations <;> simp [branchFor]
  · intro busy
    constructor
    · rw [stands_has_egress e _ _ _ stands, branch_for_some _ busy]
      rfl
    · rw [show e.graph.links = _ from congrArg Outline.links stands.outline]
      exact links_for _ busy _
  · rw [stands_sink e _ _ _ stands]
    cases e.destinations <;> rfl

-- Viewers come, move and go. That the branch cannot be linked does not matter as long as it is linked.
def spared : List Step :=
  [.addEndpoint ⟨"10.0.0.1", 5000⟩, .inject (.failOn (.link egressName)), .addEndpoint ⟨"10.0.0.2", 6000⟩,
    .addEndpoint ⟨"10.0.0.1", 5000⟩, .changeEndpoint ⟨"10.0.0.1", 5000⟩ ⟨"10.0.0.3", 7000⟩,
    .removeEndpoint ⟨"10.0.0.2", 6000⟩]

theorem egress_on_demand_spared :
    Reachable (fun e s => Orderly e s ∧ Unhindered e s) (run spared fresh) ∧ (run spared fresh).constructed = true ∧
      (run spared fresh).graph.fails (.link egressName) = true ∧
      (run spared fresh).graph.sink = [⟨"10.0.0.1", 5000⟩, ⟨"10.0.0.3", 7000⟩] := by
  have begun : Reachable (fun e s => Orderly e s ∧ Unhindered e s) fresh :=
    plain_unhindered fresh (.step _ .construct (.new {} {} 0) ⟨fun _ => rfl, by simp⟩)
  have reached : Reachable (fun e s => Orderly e s ∧ Unhindered e s) (run spared fresh) := by
    apply reachable_run _ _ _ begun
    refine ⟨⟨?_, rfl⟩, ⟨?_, rfl⟩, ⟨?_, rfl⟩, ⟨?_, rfl⟩, ⟨?_, rfl⟩, ⟨?_, rfl⟩, trivial⟩
    all_goals exact fun builds => nomatch builds
  have built : (run spared fresh).constructed = true := by decide
  obtain ⟨_, _, sink, _⟩ := egress_on_demand (run spared fresh) reached built
  exact ⟨reached, built, by decide, sink.trans (by decide)⟩

end CameraServer.Engine
