import CameraServer.Proofs.Media.Outline
import CameraServer.Proofs.Media.Wiring

/-!
The records of a graph: its signals and the destination lists it has had. Main statements: no call looks
at them, so on graphs that are alike but for the order of their records a call has the same answer and
leaves graphs that are alike; and destinations can be taken off the sink in any order.
-/

set_option autoImplicit false

namespace CameraServer.Media.Graph

def relog (g : Graph) (history : List (List Endpoint)) (signals : List (Target × Signal)) : Graph :=
  { g with history := history, signals := signals }

inductive Reordered (g : Graph) : Graph → Prop where
  | relog (history : List (List Endpoint)) (signals : List (Target × Signal)) (sent : signals.Perm g.signals) :
      Reordered g (g.relog history signals)

theorem reordered_refl (g : Graph) : Reordered g g := .relog g.history g.signals (List.Perm.refl _)

theorem reordered_trans (g middle h : Graph) (first : Reordered g middle) (second : Reordered middle h) : Reordered g h := by
  cases first with
  | relog _ signals sent =>
      cases second with
      | relog history others more => exact .relog history others (more.trans sent)

section Relog

variable (g : Graph) (history : List (List Endpoint)) (signals : List (Target × Signal))

def relogged (r : Except GraphError Unit × Graph) : Except GraphError Unit × Graph :=
  (r.1, r.2.relog history signals)

theorem relog_fails (p : FailPoint) : (g.relog history signals).fails p = g.fails p := rfl

theorem relog_stage (name : String) : (g.relog history signals).stage? name = g.stage? name := rfl

theorem relog_linked (up down : String) : (g.relog history signals).isLinked up down = g.isLinked up down := rfl

theorem spend_relog (p : FailPoint) : (g.relog history signals).spend p = (g.spend p).relog history signals := by
  rw [spend, spend, show (g.relog history signals).failures = g.failures from rfl]
  split <;> rfl

theorem unlink_relog (up down : String) :
    (g.relog history signals).unlink up down = relogged history signals (g.unlink up down) := by
  rw [unlink, unlink, spend_relog, relog_fails, relog_linked]
  split
  · rfl
  · split <;> rfl

theorem link_relog (up down : String) :
    (g.relog history signals).link up down = relogged history signals (g.link up down) := by
  rw [link, link, spend_relog, relog_fails, relog_stage, relog_stage, relog_linked]
  split
  · rfl
  · cases g.stage? up with
    | none => rfl
    | some upper =>
        dsimp only
        split
        · rfl
        · cases g.stage? down with
          | none => rfl
          | some lower =>
              dsimp only
              split <;> rfl

theorem remove_relog (name : String) :
    (g.relog history signals).remove name = relogged history signals (g.remove name) := by
  rw [remove, remove, spend_relog, relog_fails, relog_stage]
  split
  · rfl
  · cases g.stage? name with
    | none => rfl
    | some stage =>
        dsimp only
        split <;> rfl

theorem release_relog (name : String) :
    (g.relog history signals).release name = relogged history signals (g.release name) := by
  rw [release, release, relog_stage]
  cases g.stage? name with
  | none => rfl
  | some stage =>
      dsimp only
      split <;> rfl

theorem set_stage_state_relog (name : String) (state : PlayState) :
    (g.relog history signals).setStageState name state = relogged history signals (g.setStageState name state) := by
  rw [setStageState, setStageState, relog_stage]
  cases g.stage? name <;> rfl

end Relog

/-! ### Taking destinations off the sink -/

def withdraw (endpoint : Endpoint) (g : Graph) : Graph :=
  match g.stage? egressName with
  | none => g
  | some stage =>
      (g.changeDestinations egressName stage (stage.destinations.erase endpoint)).logSignal (.stage egressName)
        (.removeDestination endpoint)

-- Whether removals are carried out. One that is not leaves the graph alone, unless it was to fail once.
def Hears (g : Graph) : Prop := g.fails (.signal "remove") = false ∧ g.hasStage egressName = true

section Withdraw

variable (g : Graph) (endpoint : Endpoint)

theorem emit_remove_eq {σ : Type} (sink : FragmentSink σ) (s : σ) :
    emit sink (.stage egressName) (.removeDestination endpoint) g s =
      if g.fails (.signal "remove") then
        (.error (.signal (.stage egressName) "remove" .injected), g.spend (.signal "remove"), s)
      else if g.hasStage egressName then (.ok (), g.withdraw endpoint, s)
      else (.error (.stageNotFound egressName), g, s) := by
  rw [emit, withdraw, hasStage]
  change (if g.fails (.signal "remove") then _ else _) = _
  split
  · rfl
  · cases g.stage? egressName <;> rfl

theorem emit_withdraws {σ : Type} (sink : FragmentSink σ) (s : σ) (hears : g.Hears) :
    emit sink (.stage egressName) (.removeDestination endpoint) g s = (.ok (), g.withdraw endpoint, s) := by
  rw [emit_remove_eq, hears.1, hears.2, if_neg Bool.false_ne_true, if_pos rfl]

theorem emit_unheard {σ : Type} (sink : FragmentSink σ) (s : σ) (once : g.oneShot = []) (deaf : ¬ g.Hears) :
    ∃ x, emit sink (.stage egressName) (.removeDestination endpoint) g s = (.error x, g, s) := by
  rw [emit_remove_eq]
  cases fails : g.fails (.signal "remove") with
  | true =>
      have lasting : FailPoint.signal "remove" ∈ g.failures := by simpa [Graph.fails, once] using fails
      exact ⟨_, by rw [if_pos rfl, spend, if_pos lasting]⟩
  | false =>
      have missing : ¬ g.hasStage egressName = true := fun here => deaf ⟨fails, here⟩
      exact ⟨_, by rw [if_neg Bool.false_ne_true, if_neg missing]⟩

theorem withdraw_stage (stage : Stage) (read : g.stage? egressName = some stage) :
    (g.withdraw endpoint).stage? egressName =
      some { stage with destinations := stage.destinations.erase endpoint } := by
  have kept := stage_modify g egressName fun _ => { stage with destinations := stage.destinations.erase endpoint }
  rw [read] at kept
  rw [withdraw, read]
  exact kept

theorem withdraw_hears (hears : g.Hears) : (g.withdraw endpoint).Hears := by
  obtain ⟨quiet, here⟩ := hears
  obtain ⟨stage, read⟩ := Option.isSome_iff_exists.mp here
  refine ⟨?_, by rw [hasStage, withdraw_stage g endpoint stage read]; rfl⟩
  rw [withdraw, read]
  exact quiet

theorem withdraw_reordered (h : Graph) (alike : Reordered g h) : Reordered (g.withdraw endpoint) (h.withdraw endpoint) := by
  cases alike with
  | relog history signals sent =>
      rw [withdraw, withdraw, relog_stage]
      cases g.stage? egressName with
      | none => exact .relog history signals sent
      | some stage => exact .relog _ _ (sent.append_right _)

theorem spend_reordered (p : FailPoint) (h : Graph) (alike : Reordered g h) : Reordered (g.spend p) (h.spend p) := by
  cases alike with
  | relog history signals sent =>
      rw [spend_relog]
      refine .relog history signals ?_
      rw [(g.refused_wires p _ (.inr rfl)).signals]
      exact sent

theorem withdraw_twice (other : Endpoint) (stage : Stage) (read : g.stage? egressName = some stage) :
    (g.withdraw endpoint).withdraw other =
      { g.modifyStage egressName fun _ =>
          { stage with destinations := (stage.destinations.erase endpoint).erase other } with
        history :=
          g.history ++ [stage.destinations.erase endpoint] ++ [(stage.destinations.erase endpoint).erase other]
        signals :=
          g.signals ++ [(.stage egressName, .removeDestination endpoint)] ++
            [(.stage egressName, .removeDestination other)] } := by
  have first : g.withdraw endpoint =
      (g.changeDestinations egressName stage (stage.destinations.erase endpoint)).logSignal (.stage egressName)
        (.removeDestination endpoint) := by
    rw [withdraw, read]
  rw [withdraw, withdraw_stage g endpoint stage read, first]
  simp only [changeDestinations, logSignal, modifyStage, List.map_map]
  congr 1
  apply List.map_congr_left
  intro entry _
  by_cases same : entry.1 = egressName <;> simp [same]

theorem withdraw_swap (other : Endpoint) :
    Reordered ((g.withdraw endpoint).withdraw other) ((g.withdraw other).withdraw endpoint) := by
  cases read : g.stage? egressName with
  | none =>
      have same : ∀ x, g.withdraw x = g := fun x => by rw [withdraw, read]
      rw [same, same, same]
      exact reordered_refl g
  | some stage =>
      rw [withdraw_twice g endpoint other stage read, withdraw_twice g other endpoint stage read,
        List.erase_comm other endpoint]
      apply Reordered.relog
      rw [List.append_assoc, List.append_assoc]
      exact (List.Perm.swap _ _ _).append_left _

end Withdraw

end CameraServer.Media.Graph
