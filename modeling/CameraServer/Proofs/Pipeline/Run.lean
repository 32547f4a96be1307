import CameraServer.Proofs.Media.Steps
import CameraServer.Proofs.Pipeline.Lifecycle
import CameraServer.Proofs.Pipeline.Reconfigure

/-!
Runs of the engine from a new one, with failures of the graph set and cleared on the way. Main
statements: most steps leave the books alone, only construction and a new configuration change the
flags, and in an orderly run no rebuild is pending on a constructed engine.
-/

set_option autoImplicit false

namespace CameraServer

open Media

namespace Engine

inductive Step where
  | construct
  | start
  | pause
  | stop
  | splitNow
  | shutdown (patient : Bool)
  | isRunning
  | state
  | poll
  | setConfig (config : PipelineConfig)
  | addEndpoint (endpoint : Endpoint)
  | removeEndpoint (endpoint : Endpoint)
  | changeEndpoint (old new : Endpoint)
  | reapOrphans
  | inject (injection : Injection)
  | surroundings (disk : Disk) (now : Instant)

def Step.apply : Step → Engine → Engine
  | .construct, e => e.construct.2
  | .start, e => e.start.2
  | .pause, e => e.pause.2
  | .stop, e => e.stop.2
  | .splitNow, e => e.splitNow.2
  | .shutdown patient, e => (e.shutdown patient).2
  | .isRunning, e => e.isRunning.2
  | .state, e => e.state.2
  | .poll, e => e.poll.2
  | .setConfig config, e => (e.setConfig config).2
  | .addEndpoint endpoint, e => (e.addEndpoint endpoint).2
  | .removeEndpoint endpoint, e => (e.removeEndpoint endpoint).2
  | .changeEndpoint old new, e => (e.changeEndpoint old new).2
  | .reapOrphans, e => e.reapOrphans
  | .inject injection, e => { e with graph := injection.apply e.graph }
  | .surroundings disk now, e => { e with site := { e.site with disk, now } }

inductive Reachable (allowed : Engine → Step → Prop) : Engine → Prop where
  | new (config : PipelineConfig) (disk : Disk) (now : Instant) :
      Reachable allowed (Engine.new config disk now)
  | step (e : Engine) (s : Step) (before : Reachable allowed e) (may : allowed e s) :
      Reachable allowed (s.apply e)

theorem reachable_mono (allowed other : Engine → Step → Prop) (e : Engine)
    (weaker : ∀ e s, Reachable allowed e → allowed e s → other e s) (reached : Reachable allowed e) :
    Reachable other e := by
  induction reached with
  | new config disk now => exact .new config disk now
  | step e s before may ih => exact .step e s ih (weaker e s before may)

-- While a rebuild is pending nobody constructs the pipeline by hand.
def Orderly (e : Engine) (s : Step) : Prop := s = .construct → e.pending = none

def run : List Step → Engine → Engine
  | [], e => e
  | s :: rest, e => run rest (s.apply e)

def AllAllowed (allowed : Engine → Step → Prop) : List Step → Engine → Prop
  | [], _ => True
  | s :: rest, e => allowed e s ∧ AllAllowed allowed rest (s.apply e)

theorem reachable_run (allowed : Engine → Step → Prop) (steps : List Step) (e : Engine)
    (reached : Reachable allowed e) (may : AllAllowed allowed steps e) : Reachable allowed (run steps e) := by
  induction steps generalizing e with
  | nil => exact reached
  | cons s rest ih => exact ih _ (.step e s reached may.1) may.2

theorem orderly_run (steps : List Step) (e : Engine) (reached : Reachable Orderly e)
    (other : Step.construct ∉ steps) : Reachable Orderly (run steps e) := by
  induction steps generalizing e with
  | nil => exact reached
  | cons s rest ih =>
      have first : Step.construct ≠ s := fun same => other (same ▸ List.mem_cons_self)
      have later : Step.construct ∉ rest := fun member => other (List.mem_cons_of_mem s member)
      exact ih _ (.step e s reached fun same => absurd same.symm first) later

def fresh : Engine := Step.apply .construct (Engine.new {} {} 0)

theorem fresh_reachable : Reachable Orderly fresh := .step _ .construct (.new {} {} 0) fun _ => rfl

/-! ### What the steps do to the flags -/

def Relisted (e next : Engine) : Prop :=
  ∃ list, next.roster = { e.roster with destinations := list }

theorem relisted_of_roster (e next : Engine) (same : next.roster = e.roster) : Relisted e next :=
  ⟨e.destinations, same⟩

theorem relisted_of_books (e next : Engine) (same : next.books = e.books) : Relisted e next :=
  relisted_of_roster e next (congrArg (·.ledger.toRoster) same)

theorem relisted_pending (e next : Engine) (relisted : Relisted e next) : next.pending = e.pending := by
  obtain ⟨list, same⟩ := relisted
  exact congrArg Roster.pending same

theorem relisted_constructed (e next : Engine) (relisted : Relisted e next) :
    next.constructed = e.constructed := by
  obtain ⟨list, same⟩ := relisted
  exact congrArg Roster.constructed same

theorem add_endpoint_relists (endpoint : Endpoint) (e : Engine) : Relisted e (e.addEndpoint endpoint).2 :=
  state_of_ends _ _ _ (Relisted e) (add_endpoint_roster endpoint e) (fun _ added => ⟨_, added⟩)
    (relisted_of_roster e)

theorem remove_endpoint_relists (endpoint : Endpoint) (e : Engine) :
    Relisted e (e.removeEndpoint endpoint).2 :=
  state_of_ends _ _ _ (Relisted e) (remove_endpoint_roster endpoint e) (fun _ removed => ⟨_, removed⟩)
    (relisted_of_roster e)

theorem change_endpoint_relists (old new : Endpoint) (e : Engine) :
    Relisted e (e.changeEndpoint old new).2 := by
  by_cases same : old = new
  · rw [changeEndpoint, if_pos same]
    exact relisted_of_roster e e rfl
  · apply state_of_ends _ _ _ (Relisted e) (change_endpoint_roster old new e same)
    · exact fun _ moved => ⟨_, moved⟩
    · rintro next ⟨list, _, kept⟩
      exact ⟨list, kept⟩

-- Six steps may change the books; every other one leaves them alone.
theorem step_cases (s : Step) (e : Engine) :
    (s.apply e).books = e.books ∨ s = .construct ∨ (∃ config, s = .setConfig config) ∨
      (∃ endpoint, s = .addEndpoint endpoint) ∨ (∃ endpoint, s = .removeEndpoint endpoint) ∨
      (∃ old new, s = .changeEndpoint old new) ∨ s = .reapOrphans := by
  cases s with
  | construct => simp
  | start => exact .inl (start_books e)
  | pause => exact .inl (pause_books e)
  | stop => exact .inl (stop_books e)
  | splitNow => exact .inl (split_now_books e)
  | shutdown patient => exact .inl (shutdown_books patient e)
  | isRunning => exact .inl (is_running_books e)
  | state => exact .inl (state_books e)
  | poll => exact .inl (poll_books e)
  | setConfig config => simp
  | addEndpoint endpoint => simp
  | removeEndpoint endpoint => simp
  | changeEndpoint old new => simp
  | reapOrphans => simp
  | inject injection => exact .inl (congrArg (Books.mk e.ledger) (injection.apply_outline e.graph))
  | surroundings disk now => exact .inl rfl

theorem step_relists (s : Step) (e : Engine) (builds : s ≠ .construct) (changes : ∀ config, s ≠ .setConfig config) :
    Relisted e (s.apply e) := by
  rcases step_cases s e with
    same | rfl | ⟨config, rfl⟩ | ⟨endpoint, rfl⟩ | ⟨endpoint, rfl⟩ | ⟨old, new, rfl⟩ | rfl
  · exact relisted_of_books e _ same
  · exact absurd rfl builds
  · exact absurd rfl (changes config)
  · exact add_endpoint_relists endpoint e
  · exact remove_endpoint_relists endpoint e
  · exact change_endpoint_relists old new e
  · exact relisted_of_roster e _ (reap_orphans_roster e)

/-! ### Orderly runs -/

def Prompt (e : Engine) : Prop := e.constructed = true → e.pending = none

theorem prompt_of_relisted (e next : Engine) (relisted : Relisted e next) (prompt : e.Prompt) :
    next.Prompt := by
  rw [Prompt, relisted_constructed e next relisted, relisted_pending e next relisted]
  exact prompt

theorem set_config_prompt (config : PipelineConfig) (e : Engine) (prompt : e.Prompt) :
    (e.setConfig config).2.Prompt := by
  apply state_of_ends _ _ _ Prompt (set_config_roster config e)
  · intro next done
    rcases done with ⟨_, kept⟩ | ⟨start, _, rebuilt⟩
    · rw [Prompt, show next.constructed = e.constructed from congrArg Roster.constructed kept,
        show next.pending = e.pending from congrArg Roster.pending kept]
      exact prompt
    · exact fun _ => congrArg Roster.pending rebuilt
  · intro next failed
    rcases failed with same | idle
    · exact prompt_of_relisted e next (relisted_of_roster e next same) prompt
    · have down : next.constructed = false := congrArg Roster.constructed idle
      intro built
      cases built.symm.trans down

theorem construct_prompt (e : Engine) (waiting : e.pending = none) : e.construct.2.Prompt := by
  have pending : ∀ next : Engine, next.pending = e.pending → next.Prompt :=
    fun next same _ => same.trans waiting
  apply state_of_ends _ _ _ Prompt (construct_ledger e)
  · exact fun next built => pending next (congrArg (·.pending) built)
  · exact fun next kept => pending next (congrArg (·.pending) kept)

theorem step_prompt (s : Step) (e : Engine) (orderly : Orderly e s) (prompt : e.Prompt) :
    (s.apply e).Prompt := by
  by_cases builds : s = .construct
  · rw [builds]
    exact construct_prompt e (orderly builds)
  · by_cases changes : ∃ config, s = .setConfig config
    · obtain ⟨config, rfl⟩ := changes
      exact set_config_prompt config e prompt
    · have relisted := step_relists s e builds fun config same => changes ⟨config, same⟩
      exact prompt_of_relisted e _ relisted prompt

theorem reachable_prompt (e : Engine) (reached : Reachable Orderly e) : e.Prompt := by
  induction reached with
  | new config disk now =>
      intro built
      cases built
  | step e s _ may ih => exact step_prompt s e may ih

end Engine

end CameraServer
