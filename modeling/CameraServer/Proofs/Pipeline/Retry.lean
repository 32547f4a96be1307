import CameraServer.Proofs.Pipeline.Readding
import CameraServer.Proofs.Pipeline.Resume
import CameraServer.Proofs.Pipeline.Settings

/-!
Retrying a rebuild. Main statement: however many changes of the configuration fail one after another,
nothing is lost, and the first one that gets the graph rebuilt serves everybody again and plays just
when the graph had played.
-/

set_option autoImplicit false

namespace CameraServer

open Media

namespace Engine

/-! ### The sink after a rebuild -/

theorem add_endpoint_appends (endpoint : Endpoint) (e : Engine) (egress : Option Egress)
    (served : e.Served egress) (quit : e.orphans = []) :
    Ends (e.addEndpoint endpoint)
      (fun next => next.graph.sink = e.graph.sink ++ [endpoint] ∧ next.orphans = [] ∧ ∃ after, next.Served after)
      (fun _ => True) := by
  simp only [addEndpoint, ifConstructed, served.built, if_true, reap_orphans_none e quit]
  rw [served_has_egress e egress served]
  apply Outcome.next_ends _ _ (fun next => ∃ b, b.parented = true ∧ b.sink = e.graph.sink ∧
    next.Stands e.ledger (some b) e.graph.history)
  · cases egress with
    | none =>
        apply ends_mono _ _ _ _ _ (attach_egress_ends e e.ledger e.graph.history served.built served.tolerant
          (served_stands e none served))
        · exact fun next attached => ⟨_, rfl, (served_sink e none served).symm, attached⟩
        · exact fun _ _ => trivial
    | some b =>
        exact ⟨b, served.placed b rfl, (served_sink e (some b) served).symm, served_stands e (some b) served⟩
  · rintro ready ⟨b, placed, sink, stands⟩
    rcases ends_cases _ _ _ (emit_add_egress_ends ready _ _ _ endpoint stands) with
      ⟨next, eq, c, found, added⟩ | ⟨x, next, eq, _⟩
    · rw [eq]
      obtain rfl : b = c := Option.some.inj found
      have stood := stands_relisted next _ _ _ (next.destinations ++ [endpoint]) added
      refine ⟨?_, (congrArg (·.orphans) added.ledger).trans quit, some { b with sink := b.sink ++ [endpoint] }, ?_⟩
      · rw [← sink]
        exact stands_sink _ _ _ _ stood
      · exact served_of_stands _ _ _ _ served.built served.tolerant (by simpa using placed) (fun _ => rfl) stood
    · rw [eq]
      trivial

theorem restore_appends (list : List Endpoint) (e : Engine) (egress : Option Egress) (served : e.Served egress)
    (quit : e.orphans = []) (all : Readds list e) : (restore list e).graph.sink = e.graph.sink ++ list := by
  induction list generalizing e egress with
  | nil => simp [restore]
  | cons endpoint rest ih =>
      have added := add_endpoint_appends endpoint e egress served quit
      obtain ⟨first, later⟩ := all
      rw [restore]
      rcases eq : e.addEndpoint endpoint with ⟨x | u, next⟩
      · rw [eq] at first
        cases first
      · rw [eq] at added later
        obtain ⟨sink, quit, after, served⟩ := added
        rw [ih next after served quit later, sink, List.append_assoc]
        rfl

theorem rebuild_sink (resume : Bool) (e : Engine) (down : e.Down)
    (all : ∀ begun, e.construct = (.ok (), begun) → Readds e.destinations { begun with destinations := [] }) :
    Ends (e.rebuild resume) (·.graph.sink = e.destinations) (fun _ => True) := by
  have built := construct_ends e down
  rw [rebuild]
  rcases eq : e.construct with ⟨x | u, begun⟩
  · trivial
  · rw [eq] at built
    obtain ⟨served, ledger⟩ := built
    have listed : begun.destinations = e.destinations := congrArg (·.destinations) ledger
    have quit : begun.orphans = [] := (congrArg (·.orphans) ledger).trans down.quit
    have empty : Served { begun with destinations := [] } none :=
      ⟨served.built, served.tolerant, served.outline, served.placed, served.held⟩
    have filled := restore_appends e.destinations _ none empty quit (all begun eq)
    rw [served_sink _ none empty] at filled
    rw [← listed] at filled ⊢
    generalize held : restore begun.destinations { begun with destinations := [] } = full at filled
    simp only [Outcome.next, held]
    cases resume with
    | false => exact filled
    | true =>
        have started := congrArg Books.outline (start_books full)
        rcases eq : full.start with ⟨x | u, last⟩
        · trivial
        · rw [eq] at started
          rw [Graph.sink_layout] at filled
          change last.graph.sink = _
          rw [Graph.sink_layout, show last.graph.layout = full.graph.layout from congrArg Outline.layout started]
          exact filled

theorem set_config_sink (config : PipelineConfig) (e : Engine) (sound : e.Sound)
    (needed : e.needsRebuild config = true) (all : e.ReaddsAll config) :
    Ends (e.setConfig config) (·.graph.sink = e.destinations) (fun _ => True) := by
  have asked := sound_of_books e e.resumes.2 (resumes_books e) sound
  have same : e.resumes.2.destinations = e.destinations := congrArg (·.ledger.destinations) (resumes_books e)
  have roster := dismantle_roster e.resumes.2
  rw [ReaddsAll, readding?, if_pos needed] at all
  rw [set_config_stages, if_pos needed]
  rcases ends_cases _ _ _ (dismantle_ends e.resumes.2 asked) with ⟨gone, eq, down⟩ | ⟨x, next, eq, _⟩
  · rw [eq] at all roster ⊢
    have listed : gone.destinations = e.destinations := (congrArg Roster.destinations roster).trans same
    have begun := adopt_down config e.resumes.1 gone down
    have filled := rebuild_sink e.resumes.1 _ begun fun start built => by
      refine listed ▸ all { start with destinations := [] } ?_
      simp only [Outcome.next, reconstruct, built]
    dsimp only [Outcome.next]
    rw [retryRebuild]
    rcases ends_cases _ _ _ filled with ⟨last, eq, sink⟩ | ⟨x, last, eq, _⟩
    · rw [eq]
      exact sink.trans listed
    · rw [eq]
      trivial
  · rw [eq]
    trivial

/-! ### A change that fails -/

structure Waiting (e : Engine) : Prop where
  idle : e.constructed = false
  bare : e.graph.stages = [] ∧ e.graph.links = []
  down : e.graph.state = .null
  pending : e.rebuildPending = true

theorem set_config_failed (config : PipelineConfig) (e next : Engine) (x : PipelineError) (sound : e.Sound)
    (follows : e.Follows) (failed : e.setConfig config = (.error x, next)) :
    next.config = e.config ∧ next.recordingSettings = e.recordingSettings ∧
      next.destinations = e.destinations ∧
      (next.constructed = true ∧ x = .graph (.stateChange .graph .null) ∨ next.Waiting) := by
  have settings := set_config_settings config e follows
  have roster := set_config_roster config e
  have state := set_config_state config e sound
  rw [failed] at settings roster state
  have kept : next.config = e.config ∧ next.destinations = e.destinations := by
    rcases roster with same | idle
    · exact ⟨congrArg Roster.config same, congrArg Roster.destinations same⟩
    · exact ⟨congrArg Roster.config idle, congrArg Roster.destinations idle⟩
  refine ⟨kept.1, settings, kept.2, ?_⟩
  have asked := sound_of_books e e.resumes.2 (resumes_books e) sound
  rw [set_config_stages] at failed
  split at failed
  · rcases ends_cases _ _ _ (dismantle_ends e.resumes.2 asked) with ⟨gone, eq, down⟩ | ⟨y, last, eq, _⟩
    · rw [eq] at failed
      have fallen := retry_rebuild_ends config e.resumes.1 gone down
      rw [show gone.retryRebuild config e.resumes.1 = (.error x, next) from failed] at fallen
      obtain ⟨down, pending⟩ := fallen
      have null : next.graph.state = if next.constructed then e.graph.state else .null := state
      rw [down.idle] at null
      refine .inr ⟨down.idle, ⟨next.graph.bare_stages down.bare, ?_⟩, null, ?_⟩
      · exact congrArg Outline.links down.bare
      · exact Option.isSome_iff_ne_none.mpr pending
    · rw [eq] at failed
      cases failed
      obtain ⟨cause, here, _⟩ := dismantle_refused _ next x eq
      exact .inl ⟨here, cause⟩
  · cases failed

/-! ### One attempt after another -/

inductive Leads (allowed : Engine → Step → Prop) (start : Engine) : Engine → Prop where
  | refl : Leads allowed start start
  | step (e : Engine) (s : Step) (before : Leads allowed start e) (may : allowed e s) :
      Leads allowed start (s.apply e)

theorem leads_run (allowed : Engine → Step → Prop) (steps : List Step) (start e : Engine)
    (led : Leads allowed start e) (may : AllAllowed allowed steps e) : Leads allowed start (run steps e) := by
  induction steps generalizing e with
  | nil => exact led
  | cons s rest ih => exact ih _ (.step e s led may.1) may.2

def Rebuilds (config : PipelineConfig) (e : Engine) : Prop :=
  e.needsRebuild config = true ∧ (e.setConfig config).1 = .ok ()

-- What can happen until a rebuild succeeds: changes that fail or need none, removals, and anything
-- from outside that lets the question for the state be answered.
def Attempt (e : Engine) : Step → Prop
  | .setConfig config => ¬ e.Rebuilds config
  | .removeEndpoint _ => True
  | .inject injection => (injection.apply e.graph).fails .stateQuery = false
  | .surroundings _ _ => True
  | _ => False

structure OnHold (start e : Engine) : Prop where
  sound : e.Sound
  follows : e.Follows
  answered : e.graph.fails .stateQuery = false
  live : e.constructed = true → e.pending = none ∧ (e.graph.state = .playing ↔ start.graph.state = .playing)
  lost : e.constructed = false → e.pending = some (decide (start.graph.state = .playing))

theorem on_hold_resumes (start e : Engine) (hold : OnHold start e) :
    e.resumes.1 = decide (start.graph.state = .playing) := by
  rw [resumes]
  cases built : e.constructed with
  | true =>
      obtain ⟨waiting, plays⟩ := hold.live built
      rw [waiting]
      dsimp only
      rw [runs_answered e built, hold.answered]
      simp [plays]
  | false => rw [hold.lost built]

theorem on_hold_of_relisted (start e next : Engine) (sound : next.Sound) (follows : next.Follows)
    (relisted : Relisted e next) (state : next.graph.state = e.graph.state)
    (answered : next.graph.fails .stateQuery = false) (hold : OnHold start e) : OnHold start next := by
  have built := relisted_constructed e next relisted
  have pending := relisted_pending e next relisted
  refine ⟨sound, follows, answered, ?_, ?_⟩
  · rw [built, pending, state]
    exact hold.live
  · rw [built, pending]
    exact hold.lost

theorem set_config_on_hold (config : PipelineConfig) (start e : Engine) (still : ¬ e.Rebuilds config)
    (hold : OnHold start e) : OnHold start (e.setConfig config).2 := by
  have sound := step_sound (.setConfig config) e hold.sound
  have follows := set_config_follows config e hold.follows
  have answered := Graph.spends_calm _ _ .stateQuery (set_config_spends config e) hold.answered
  have state := set_config_state config e hold.sound
  have roster := set_config_roster config e
  have resumed := on_hold_resumes start e hold
  change (e.setConfig config).2.Sound at sound
  rcases eq : e.setConfig config with ⟨x | u, next⟩
  · rw [eq] at sound follows answered state roster
    rw [resumed] at roster
    have at_ : next.graph.state = if next.constructed then e.graph.state else .null := state
    refine ⟨sound, follows, answered, ?_, ?_⟩
    · intro built
      rw [built] at at_
      rcases roster with same | idle
      · have here : next.constructed = e.constructed := congrArg Roster.constructed same
        have pending : next.pending = e.pending := congrArg Roster.pending same
        rw [pending, at_]
        exact hold.live (here.symm.trans built)
      · cases (congrArg Roster.constructed idle).symm.trans built
    · intro gone
      rcases roster with same | idle
      · have here : next.constructed = e.constructed := congrArg Roster.constructed same
        exact (congrArg Roster.pending same).trans (hold.lost (here.symm.trans gone))
      · exact congrArg Roster.pending idle
  · have calm : e.needsRebuild config = false := by
      by_contra needed
      exact still ⟨by simpa using needed, congrArg Prod.fst eq⟩
    rw [set_config_stages, if_neg (by simp [calm])] at eq
    cases eq
    rw [set_config_stages, if_neg (by simp [calm])] at sound follows answered
    exact ⟨sound, follows, answered, hold.live, hold.lost⟩

theorem attempt_on_hold (start e : Engine) (s : Step) (may : Attempt e s) (hold : OnHold start e) :
    OnHold start (s.apply e) := by
  have sound := step_sound s e hold.sound
  have follows := step_follows s e hold.follows
  cases s with
  | setConfig config => exact set_config_on_hold config start e may hold
  | removeEndpoint endpoint =>
      have steady := steady_frame.flag.remove_endpoint endpoint e
      have answered := Graph.spends_calm _ _ .stateQuery steady.spends hold.answered
      exact on_hold_of_relisted start e _ sound follows (remove_endpoint_relists endpoint e) steady.state
        answered hold
  | inject injection =>
      exact on_hold_of_relisted start e _ sound follows (relisted_of_roster e _ rfl)
        (injection.apply_state e.graph) may hold
  | surroundings disk now =>
      exact on_hold_of_relisted start e _ sound follows (relisted_of_roster e _ rfl) rfl hold.answered hold
  | _ => exact may.elim

theorem attempts_on_hold (start e : Engine) (hold : OnHold start start) (led : Leads Attempt start e) :
    OnHold start e := by
  induction led with
  | refl => exact hold
  | step e s _ may ih => exact attempt_on_hold start e s may ih

theorem failed_rebuilds_lose_nothing (allowed : Engine → Step → Prop) (start e : Engine)
    (config : PipelineConfig) (reached : Reachable allowed start) (built : start.constructed = true)
    (waiting : start.pending = none) (answered : start.graph.fails .stateQuery = false)
    (led : Leads Attempt start e) :
    (∀ x next, e.setConfig config = (.error x, next) →
      next.config = e.config ∧ next.recordingSettings = e.recordingSettings ∧
        next.destinations = e.destinations ∧
        (next.constructed = true ∧ x = .graph (.stateChange .graph .null) ∨ next.Waiting)) ∧
      (e.constructed = true → (e.graph.state = .playing ↔ start.graph.state = .playing)) ∧
      (∀ next, e.setConfig config = (.ok (), next) → e.needsRebuild config = true → e.ReaddsAll config →
        next.constructed = true ∧ next.config = config ∧ next.rebuildPending = false ∧
          next.destinations = e.destinations ∧ next.graph.sink = e.destinations ∧
          (next.graph.state = .playing ↔ start.graph.state = .playing)) := by
  have sound := reachable_sound allowed start reached
  have follows := reachable_follows allowed start reached
  have opened : OnHold start start := by
    refine ⟨sound, follows, answered, fun _ => ⟨waiting, Iff.rfl⟩, fun idle => ?_⟩
    cases built.symm.trans idle
  have hold := attempts_on_hold start e opened led
  refine ⟨fun x next => set_config_failed config e next x hold.sound hold.follows,
    fun built => (hold.live built).2, ?_⟩
  intro next done needed all
  have roster := set_config_roster config e
  have sink := set_config_sink config e hold.sound needed all
  have state := set_config_state config e hold.sound
  have kept := set_config_destinations config e all
  rw [done] at roster sink state kept
  rcases roster with ⟨calm, _⟩ | ⟨begun, _, rebuilt⟩
  · cases calm.symm.trans needed
  have at_ : next.graph.state = if e.resumes.1 then .playing else .ready := by
    rw [needed, if_pos rfl] at state
    exact state
  have pending : next.pending = none := congrArg Roster.pending rebuilt
  refine ⟨congrArg Roster.constructed rebuilt, congrArg Roster.config rebuilt, ?_, kept, sink, ?_⟩
  · rw [rebuildPending, pending]
    rfl
  · rw [at_, on_hold_resumes start e hold]
    by_cases plays : start.graph.state = .playing <;> simp [plays]

def watched : Engine := run [.addEndpoint ⟨"10.0.0.2", 6000⟩] recording

-- It cannot be built, one viewer leaves, and then it cannot play.
def battered : Engine :=
  run [.inject (.failOn (.build captureName)), .setConfig { width := 1280 },
    .removeEndpoint ⟨"10.0.0.1", 5000⟩, .inject .clearAll, .inject (.failOnce (.setState .playing)),
    .setConfig { width := 1280 }] watched

theorem failed_rebuilds_lose_nothing_battered :
    Reachable Orderly watched ∧ Leads Attempt watched battered ∧ battered.constructed = false ∧
      ∃ next, battered.setConfig { width := 1280 } = (.ok (), next) ∧
        next.graph.sink = [⟨"10.0.0.2", 6000⟩] ∧ next.graph.state = .playing := by
  have reached : Reachable Orderly watched := orderly_run _ recording recording_reachable (by simp)
  refine ⟨reached, ?_⟩
  have led : Leads Attempt watched battered := by
    apply leads_run Attempt _ watched watched .refl
    refine ⟨?_, fun rebuilt => absurd rebuilt.2 ?_, trivial, ?_, ?_, fun rebuilt => absurd rebuilt.2 ?_, trivial⟩
    · change Graph.fails _ _ = _
      decide +kernel
    · decide +kernel
    · change Graph.fails _ _ = _
      decide +kernel
    · change Graph.fails _ _ = _
      decide +kernel
    · decide +kernel
  have idle : battered.constructed = false := by decide +kernel
  have needed : battered.needsRebuild { width := 1280 } = true := by decide +kernel
  have done : (battered.setConfig { width := 1280 }).1 = .ok () := by decide +kernel
  have kept : (battered.setConfig { width := 1280 }).2.destinations = battered.destinations := by
    decide +kernel
  have listed : battered.destinations = [⟨"10.0.0.2", 6000⟩] := by decide +kernel
  have nothing_lost := failed_rebuilds_lose_nothing Orderly watched battered { width := 1280 } reached
    (by decide +kernel) (by decide +kernel) (by decide +kernel) led
  -- What is known of the engine is enough; nobody is to compute it again.
  generalize battered = e at *
  obtain ⟨next, eq⟩ := ok_state _ done
  have all := (set_config_kept { width := 1280 } e done).2.mp kept
  obtain ⟨_, _, _, _, sink, plays⟩ := nothing_lost.2.2 next eq needed all
  exact ⟨led, idle, next, eq, sink.trans listed, plays.mpr (by decide +kernel)⟩

end Engine

end CameraServer
