import CameraServer.Proofs.Media.Wiring
import CameraServer.Proofs.Media.Outline

/-!
Calls on a graph among failures that are set and cleared from outside, and runs of them. Main statement: a
call that fails leaves everything as it was, in the graph and outside of it, but for a failure that fires
once and has now fired.
-/

set_option autoImplicit false

namespace CameraServer

open Media

inductive Injection where
  | failOn (point : FailPoint)
  | failOnce (point : FailPoint)
  | clear (point : FailPoint)
  | clearAll
deriving DecidableEq, Repr

def Injection.apply : Injection → Graph → Graph
  | .failOn point, g => g.failOn point
  | .failOnce point, g => g.failOnce point
  | .clear point, g => g.clearFailure point
  | .clearAll, g => g.clearFailures

theorem Injection.apply_points (i : Injection) (g : Graph) :
    ∃ lasting once, i.apply g = { g with failures := lasting, oneShot := once } := by
  cases i with
  | failOn point =>
      change ∃ lasting once, g.failOn point = _
      rw [Graph.failOn]
      split
      · exact ⟨_, _, rfl⟩
      · exact ⟨_, _, rfl⟩
  | failOnce point =>
      change ∃ lasting once, g.failOnce point = _
      rw [Graph.failOnce]
      split
      · exact ⟨_, _, rfl⟩
      · exact ⟨_, _, rfl⟩
  | clear point => exact ⟨_, _, rfl⟩
  | clearAll => exact ⟨_, _, rfl⟩

theorem Injection.apply_outline (i : Injection) (g : Graph) : (i.apply g).outline = g.outline := by
  obtain ⟨lasting, once, same⟩ := i.apply_points g
  rw [same]
  rfl

theorem Injection.apply_state (i : Injection) (g : Graph) : (i.apply g).state = g.state := by
  obtain ⟨lasting, once, same⟩ := i.apply_points g
  rw [same]

namespace Media.Graph

inductive Call where
  | build (spec : StageSpec)
  | add (name : String)
  | remove (name : String)
  | release (name : String)
  | link (up down : String)
  | unlink (up down : String)
  | setState (target : Target) (state : PlayState)
  | sync (name : String)
  | query
  | emit (target : Target) (signal : Signal)
deriving DecidableEq, Repr

variable {σ : Type} (sink : FragmentSink σ)

def within (r : Except GraphError Unit × Graph) (s : σ) : Except GraphError Unit × Graph × σ := (r.1, r.2, s)

namespace Call

def perform : Call → Graph × σ → Except GraphError Unit × Graph × σ
  | .build spec, gs => within (gs.1.build spec) gs.2
  | .add name, gs => within (gs.1.add name) gs.2
  | .remove name, gs => within (gs.1.remove name) gs.2
  | .release name, gs => within (gs.1.release name) gs.2
  | .link up down, gs => within (gs.1.link up down) gs.2
  | .unlink up down, gs => within (gs.1.unlink up down) gs.2
  | .setState .graph state, gs => Graph.setState sink state gs.1 gs.2
  | .setState (.stage name) state, gs => within (gs.1.setStageState name state) gs.2
  | .sync name, gs => Graph.sync sink name gs.1 gs.2
  | .query, gs => within (gs.1.query.1.map fun _ => (), gs.1.query.2) gs.2
  | .emit target signal, gs => Graph.emit sink target signal gs.1 gs.2

def fault? : Call → Option (FailPoint × GraphError)
  | .build spec => some (.build spec.name, .buildFailed spec.name (.build spec.name))
  | .add name => some (.add name, .backend (.injected (.add name)))
  | .remove name => some (.remove name, .backend (.injected (.remove name)))
  | .release _ => none
  | .link up down => some (.link down, .linkFailed up down)
  | .unlink up down => some (.unlink down, .unlinkFailed up down)
  | .setState .graph state => some (.setState state, .stateChange .graph state)
  | .setState (.stage _) _ => none
  | .sync name => some (.sync name, .backend (.injected (.sync name)))
  | .query => some (.stateQuery, .stateQuery)
  | .emit target signal => some (.signal signal.name, .signal target signal.name .injected)

end Call

/-! ### Calls that fail -/

section Ends

variable (s : σ) (good bad : Graph → Prop)

theorem within_ends (r : Except GraphError Unit × Graph) (ended : Ends r good bad) :
    Ends (within r s) (fun next => good next.1 ∧ next.2 = s) (fun next => bad next.1 ∧ next.2 = s) := by
  obtain ⟨result, next⟩ := r
  cases result with
  | ok u => exact ⟨ended, rfl⟩
  | error x => exact ⟨ended, rfl⟩

theorem answer_ends {α : Type} (r : Except GraphError α × Graph) (ended : Ends r good bad) :
    Ends (r.1.map fun _ => (), r.2) good bad := by
  obtain ⟨result, next⟩ := r
  cases result with
  | ok a => exact ended
  | error x => exact ended

end Ends

section Failed

variable (call : Call) (g : Graph) (s : σ)

def Call.Spends (next : Graph) : Prop := next = g ∨ ∃ p x, call.fault? = some (p, x) ∧ next = g.spend p

theorem refused_spends (p : FailPoint) (x : GraphError) (fault : call.fault? = some (p, x))
    (r : Except GraphError Unit × Graph × σ) (good : Graph × σ → Prop)
    (ended : Ends r good fun next => g.Refused p next.1 ∧ next.2 = s) :
    Ends r (fun _ => True) fun next => call.Spends g next.1 ∧ next.2 = s := by
  apply ends_mono r _ _ _ _ ended fun _ _ => trivial
  rintro next ⟨refused, outside⟩
  cases refused with
  | inl same => exact ⟨.inl same, outside⟩
  | inr spent => exact ⟨.inr ⟨p, x, fault, spent⟩, outside⟩

theorem kept_spends (r : Except GraphError Unit × Graph × σ) (good : Graph × σ → Prop)
    (ended : Ends r good fun next => next.1 = g ∧ next.2 = s) :
    Ends r (fun _ => True) fun next => call.Spends g next.1 ∧ next.2 = s :=
  ends_mono r _ _ _ _ ended (fun _ _ => trivial) fun _ kept => ⟨.inl kept.1, kept.2⟩

theorem perform_refused :
    Ends (call.perform sink (g, s)) (fun _ => True) fun next => call.Spends g next.1 ∧ next.2 = s := by
  cases call with
  | build spec => exact refused_spends _ g s _ _ rfl _ _ (within_ends s _ _ _ (g.build_changes spec))
  | add name => exact refused_spends _ g s _ _ rfl _ _ (within_ends s _ _ _ (g.add_changes name))
  | remove name => exact refused_spends _ g s _ _ rfl _ _ (within_ends s _ _ _ (g.remove_changes name))
  | release name => exact kept_spends _ g s _ _ (within_ends s _ _ _ (g.release_changes name))
  | link up down => exact refused_spends _ g s _ _ rfl _ _ (within_ends s _ _ _ (g.link_changes up down))
  | unlink up down => exact refused_spends _ g s _ _ rfl _ _ (within_ends s _ _ _ (g.unlink_changes up down))
  | setState target state =>
      cases target with
      | graph => exact refused_spends _ g s _ _ rfl _ _ (g.set_state_changes sink s state)
      | stage name => exact kept_spends _ g s _ _ (within_ends s _ _ _ (g.set_stage_state_changes name state))
  | sync name => exact refused_spends _ g s _ _ rfl _ _ (g.sync_changes name sink s)
  | query => exact refused_spends _ g s _ _ rfl _ _ (within_ends s _ _ _ (answer_ends _ _ _ g.query_changes))
  | emit target signal => exact refused_spends _ g s _ _ rfl _ _ (g.emit_changes sink s target signal)

theorem perform_injected (p : FailPoint) (x : GraphError) (fault : call.fault? = some (p, x))
    (fails : g.fails p = true) : call.perform sink (g, s) = (.error x, g.spend p, s) := by
  cases call with
  | build spec =>
      cases fault
      simp only [Call.perform, build, fails, if_true, within]
  | add name =>
      cases fault
      simp only [Call.perform, add, fails, if_true, within]
  | remove name =>
      cases fault
      simp only [Call.perform, remove, fails, if_true, within]
  | release name => cases fault
  | link up down =>
      cases fault
      simp only [Call.perform, link, fails, if_true, within]
  | unlink up down =>
      cases fault
      simp only [Call.perform, unlink, fails, if_true, within]
  | setState target state =>
      cases target with
      | graph =>
          cases fault
          simp only [Call.perform, setState, fails, if_true]
      | stage name => cases fault
  | sync name =>
      cases fault
      simp only [Call.perform, sync, fails, if_true]
  | query =>
      cases fault
      simp only [Call.perform, query, fails, if_true, within, Except.map]
  | emit target signal =>
      cases fault
      simp only [Call.perform, emit, fails, if_true]

theorem spend_calm (p : FailPoint) (calm : g.fails p = false) : g.spend p = g := by
  have quiet : p ∉ g.failures ∧ p ∉ g.oneShot := by simpa [Graph.fails] using calm
  have kept : g.oneShot.filter (· ≠ p) = g.oneShot := by
    apply List.filter_eq_self.mpr
    intro other member
    simpa using fun same : other = p => quiet.2 (same ▸ member)
  rw [spend, if_neg quiet.1, kept]

theorem failed_call_changes_nothing (x : GraphError) (after : Graph × σ)
    (failed : call.perform sink (g, s) = (.error x, after)) :
    (after = (g, s) ∧ ∀ p y, call.fault? = some (p, y) → p ∈ g.oneShot → p ∈ g.failures) ∨
      ∃ p, call.fault? = some (p, x) ∧ p ∈ g.oneShot ∧ p ∉ g.failures ∧
        after = ({ g with oneShot := g.oneShot.filter (· ≠ p) }, s) := by
  by_cases fires : ∃ p y, call.fault? = some (p, y) ∧ g.fails p = true
  · obtain ⟨p, y, fault, fails⟩ := fires
    rw [perform_injected sink call g s p y fault fails, spend] at failed
    cases failed
    by_cases lasting : p ∈ g.failures
    · rw [if_pos lasting]
      refine .inl ⟨rfl, ?_⟩
      intro other z same _
      cases fault.symm.trans same
      exact lasting
    · rw [if_neg lasting]
      have once : p ∈ g.oneShot := by simpa [Graph.fails, lasting] using fails
      exact .inr ⟨p, fault, once, lasting, rfl⟩
  · have calm (p : FailPoint) (y : GraphError) (fault : call.fault? = some (p, y)) : g.fails p = false := by
      simpa using fun fails => fires ⟨p, y, fault, fails⟩
    have ended := perform_refused sink call g s
    rw [failed] at ended
    obtain ⟨spends, outside⟩ := ended
    refine .inl ⟨Prod.ext ?_ outside, ?_⟩
    · cases spends with
      | inl same => exact same
      | inr spent =>
          obtain ⟨p, y, fault, left⟩ := spent
          exact left.trans (spend_calm g p (calm p y fault))
    · intro p y fault once
      have fails : g.fails p = true := by simp [Graph.fails, once]
      cases fails.symm.trans (calm p y fault)

end Failed

def nowhere : FragmentSink Unit where
  locate _ _ s := (none, s)
  openFile _ s := s

-- The next destination will be refused, but a query of the state each time.
def wary : Graph where
  stages := [(egressName, { kind := .egress, parented := true })]
  failures := [.stateQuery]
  oneShot := [.stateQuery, .signal "add"]

theorem failed_call_changes_nothing_wary :
    (Call.emit (.stage egressName) (.addDestination ⟨"10.0.0.1", 5000⟩)).perform nowhere (wary, ()) =
        (.error (.signal (.stage egressName) "add" .injected), { wary with oneShot := [.stateQuery] }, ()) ∧
      FailPoint.signal "add" ∈ wary.oneShot ∧ FailPoint.signal "add" ∉ wary.failures := by
  have failed : (Call.emit (.stage egressName) (.addDestination ⟨"10.0.0.1", 5000⟩)).perform nowhere (wary, ()) =
      (.error (.signal (.stage egressName) "add" .injected), { wary with oneShot := [.stateQuery] }, ()) := by
    rfl
  rcases failed_call_changes_nothing nowhere _ wary () _ _ failed with ⟨_, lasting⟩ | ⟨p, fault, once, fresh, _⟩
  · exact absurd (lasting _ _ rfl (by decide)) (by decide)
  · cases fault
    exact ⟨failed, once, fresh⟩

/-! ### Runs -/

inductive Step where
  | call (call : Call)
  | inject (injection : Injection)
  | post (event : Event)
  | poll
  | dump (tag : String)
  | reset
deriving DecidableEq, Repr

namespace Step

def apply : Step → Graph × σ → Graph × σ
  | .call c, gs => (c.perform sink gs).2
  | .inject injection, gs => (injection.apply gs.1, gs.2)
  | .post event, gs => (gs.1.pushEvent event, gs.2)
  | .poll, gs => (gs.1.popEvent.2, gs.2)
  | .dump tag, gs => (gs.1.dump tag, gs.2)
  | .reset, gs => (gs.1.reset, gs.2)

def frees (name : String) : Step → Graph → Bool
  | .call (.release other), g => other = name && (g.release name).1.isOk
  | .reset, _ => true
  | _, _ => false

end Step

def run : List Step → Graph × σ → Graph × σ
  | [], gs => gs
  | step :: rest, gs => run rest (step.apply sink gs)

def lasts (name : String) : List Step → Graph × σ → Bool
  | [], _ => true
  | step :: rest, gs => !step.frees name gs.1 && lasts name rest (step.apply sink gs)

theorem run_append (before after : List Step) (gs : Graph × σ) :
    run sink (before ++ after) gs = run sink after (run sink before gs) := by
  induction before generalizing gs with
  | nil => rfl
  | cons step rest ih => exact ih _

end Media.Graph

end CameraServer
