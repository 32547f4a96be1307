import CameraServer.Proofs.Media.Outline
import CameraServer.Proofs.Media.Wiring

/-!
Failure points over time. Main statements: an operation spends failures and never sets one, it leaves
the state of the graph alone unless it is the one that moves it, and a call on stages that are where it
needs them fails just when its failure point does.
-/

set_option autoImplicit false

namespace CameraServer.Media.Graph

def Spends (g next : Graph) : Prop := ∀ p, next.fails p = true → g.fails p = true

structure Steady (g next : Graph) : Prop where
  state : next.state = g.state
  spends : Spends g next

theorem spends_trans (g middle next : Graph) (first : Spends g middle) (second : Spends middle next) :
    Spends g next :=
  fun p fails => first p (second p fails)

theorem spends_calm (g next : Graph) (p : FailPoint) (spends : Spends g next) (calm : g.fails p = false) :
    next.fails p = false := by
  have spent := spends p
  rw [calm] at spent
  simpa using spent

theorem spends_quiet (g next : Graph) (spends : Spends g next) (quiet : ∀ p, g.fails p = false) :
    ∀ p, next.fails p = false :=
  fun p => spends_calm g next p spends (quiet p)

theorem steady_refl (g : Graph) : Steady g g := ⟨rfl, fun _ fails => fails⟩

theorem steady_trans (g middle next : Graph) (first : Steady g middle) (second : Steady middle next) :
    Steady g next :=
  ⟨second.state.trans first.state, spends_trans g middle next first.spends second.spends⟩

theorem spends_of_points (g next : Graph) (lasting : next.failures = g.failures)
    (once : next.oneShot = g.oneShot) : Spends g next := by
  intro p fails
  rwa [Graph.fails, lasting, once] at fails

theorem steady_of_points (g next : Graph) (state : next.state = g.state)
    (lasting : next.failures = g.failures) (once : next.oneShot = g.oneShot) : Steady g next :=
  ⟨state, spends_of_points g next lasting once⟩

theorem steady_of_wires (g next : Graph) (wires : Wires g next) : Steady g next := by
  refine ⟨wires.state, ?_⟩
  intro p fails
  simp only [Graph.fails, wires.failures, Bool.or_eq_true, decide_eq_true_eq] at fails ⊢
  cases fails with
  | inl lasting => exact .inl lasting
  | inr once => exact .inr (wires.once.subset once)

theorem refused_steady (g : Graph) (p : FailPoint) (next : Graph) (refused : g.Refused p next) : Steady g next :=
  steady_of_wires g next (g.refused_wires p next refused)

/-! ### What the operations leave alone -/

theorem build_steady (g : Graph) (spec : StageSpec) : Steady g (g.build spec).2 :=
  steady_of_wires g _ (g.build_wires spec)

theorem add_steady (g : Graph) (name : String) : Steady g (g.add name).2 :=
  steady_of_wires g _ (g.add_wires name)

theorem remove_steady (g : Graph) (name : String) : Steady g (g.remove name).2 :=
  steady_of_wires g _ (g.remove_wires name)

theorem release_steady (g : Graph) (name : String) : Steady g (g.release name).2 :=
  steady_of_wires g _ (g.release_wires name)

theorem link_steady (g : Graph) (up down : String) : Steady g (g.link up down).2 :=
  steady_of_wires g _ (g.link_wires up down)

theorem unlink_steady (g : Graph) (up down : String) : Steady g (g.unlink up down).2 :=
  steady_of_wires g _ (g.unlink_wires up down)

theorem set_stage_state_steady (g : Graph) (name : String) (state : PlayState) :
    Steady g (g.setStageState name state).2 :=
  steady_of_wires g _ (g.set_stage_state_wires name state)

theorem query_steady (g : Graph) : Steady g g.query.2 := steady_of_wires g _ g.query_wires

theorem pop_event_steady (g : Graph) : Steady g g.popEvent.2 := by
  obtain ⟨events, popped⟩ := g.pop_event_changes
  rw [popped]
  exact steady_of_points g _ rfl rfl rfl

section Sink

variable {σ : Type} (sink : FragmentSink σ)

theorem sync_steady (name : String) (g : Graph) (s : σ) : Steady g (sync sink name g s).2.1 :=
  steady_of_wires g _ (sync_wires sink name g s)

theorem emit_steady (target : Target) (signal : Signal) (g : Graph) (s : σ) :
    Steady g (emit sink target signal g s).2.1 := by
  apply state_of_ends _ _ _ (Steady g ·.1) (g.emit_changes sink s target signal)
  · rintro next (⟨_, changed⟩ | ⟨_, _, _, _, _, _, changed⟩ | ⟨name, _, _, changed⟩)
    · rw [changed]
      exact steady_of_points g _ rfl rfl rfl
    · rw [changed]
      exact steady_of_points g _ rfl rfl rfl
    · rw [changed]
      have opened := steady_of_wires g _ (open_fragment_wires sink name g s)
      exact ⟨opened.state, opened.spends⟩
  · exact fun next refused => refused_steady g _ next.1 refused.1

theorem set_state_ends (state : PlayState) (g : Graph) (s : σ) :
    Ends (setState sink state g s) (fun next => next.1.state = state ∧ Spends g next.1)
      (fun next => Steady g next.1) := by
  apply ends_mono _ _ _ _ _ (g.set_state_changes sink s state)
  · rintro _ (rfl | ⟨_, rfl⟩)
    · exact ⟨rfl, spends_of_points g _ rfl rfl⟩
    · have opened := steady_of_wires _ _ (open_each_wires sink (g.moved state).recordingStages (g.moved state, s))
      exact ⟨opened.state, opened.spends⟩
  · exact fun next refused => refused_steady g _ next.1 refused.1

theorem set_state_refused (state : PlayState) (g : Graph) (s : σ) (x : GraphError) (next : Graph × σ)
    (refused : setState sink state g s = (.error x, next)) :
    x = .stateChange .graph state ∧ Steady g next.1 := by
  have ended := set_state_ends sink state g s
  rw [refused] at ended
  refine ⟨?_, ended⟩
  rw [setState] at refused
  split at refused
  · cases refused
    rfl
  · dsimp only at refused
    split at refused <;> cases refused

end Sink

/-! ### What makes a call fail -/

def Answers {ε α τ : Type} (r : Except ε α × τ) (g : Graph) (p : FailPoint) : Prop :=
  Ends r (fun _ => g.fails p = false) (fun _ => g.fails p = true)

theorem parented_stage (g : Graph) (name : String) (placed : g.hasParent name = true) :
    ∃ stage, g.stage? name = some stage ∧ stage.parented = true := by
  rw [hasParent] at placed
  cases read : g.stage? name with
  | none => simp [read] at placed
  | some stage => exact ⟨stage, rfl, by simpa [read] using placed⟩

theorem build_answers (g : Graph) (spec : StageSpec) (vacant : g.hasStage spec.name = false) :
    Answers (g.build spec) g (.build spec.name) := by
  rw [build]
  cases fails : g.fails (.build spec.name) with
  | true => exact fails
  | false =>
      simp only [vacant]
      exact fails

theorem add_answers (g : Graph) (name : String) (here : g.hasStage name = true) (floats : g.hasParent name = false) :
    Answers (g.add name) g (.add name) := by
  obtain ⟨stage, read⟩ := Option.isSome_iff_exists.mp here
  have loose : stage.parented = false := by simpa [hasParent, read] using floats
  rw [add]
  cases fails : g.fails (.add name) with
  | true => exact fails
  | false =>
      simp only [read, loose]
      exact fails

theorem remove_answers (g : Graph) (name : String) (placed : g.hasParent name = true) :
    Answers (g.remove name) g (.remove name) := by
  obtain ⟨stage, read, parented⟩ := parented_stage g name placed
  rw [remove]
  cases fails : g.fails (.remove name) with
  | true => exact fails
  | false =>
      simp only [read, parented]
      exact fails

theorem link_answers (g : Graph) (up down : String) (above : g.hasParent up = true)
    (below : g.hasParent down = true) (loose : g.isLinked up down = false) :
    Answers (g.link up down) g (.link down) := by
  obtain ⟨upper, readUpper, placedUpper⟩ := parented_stage g up above
  obtain ⟨lower, readLower, placedLower⟩ := parented_stage g down below
  rw [link]
  cases fails : g.fails (.link down) with
  | true => exact fails
  | false =>
      simp only [readUpper, readLower, placedUpper, placedLower, loose]
      exact fails

theorem unlink_answers (g : Graph) (up down : String) (linked : g.isLinked up down = true) :
    Answers (g.unlink up down) g (.unlink down) := by
  rw [unlink]
  cases fails : g.fails (.unlink down) with
  | true => exact fails
  | false =>
      simp only [linked]
      exact fails

theorem sync_answers {σ : Type} (sink : FragmentSink σ) (name : String) (g : Graph) (s : σ)
    (placed : g.hasParent name = true) : Answers (sync sink name g s) g (.sync name) := by
  obtain ⟨stage, read, parented⟩ := parented_stage g name placed
  rw [sync]
  cases fails : g.fails (.sync name) with
  | true => exact fails
  | false =>
      simp only [read, parented, Bool.not_true, Bool.false_eq_true, if_false]
      split
      · exact fails
      · exact fails

theorem emit_answers {σ : Type} (sink : FragmentSink σ) (name : String) (signal : Signal) (g : Graph) (s : σ)
    (placed : g.hasParent name = true) :
    Answers (emit sink (.stage name) signal g s) g (.signal signal.name) := by
  obtain ⟨stage, read, _⟩ := parented_stage g name placed
  unfold emit
  cases fails : g.fails (.signal signal.name) with
  | true => exact fails
  | false =>
      cases signal with
      | addDestination endpoint =>
          simp only [read]
          exact fails
      | removeDestination endpoint =>
          simp only [read]
          exact fails
      | splitAfter =>
          simp only [read]
          exact fails
      | endOfStream => exact fails

end CameraServer.Media.Graph
