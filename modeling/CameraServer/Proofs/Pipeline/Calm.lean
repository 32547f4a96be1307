import CameraServer.Proofs.Pipeline.Sound
import CameraServer.Proofs.Pipeline.Undo

/-!
The engine when nothing fails any more. Main statements: whatever older failures have left behind,
adding, moving and removing a destination succeed, and reaping leaves no orphan; a branch that nobody
uses goes away with its last destination, unless it was unlinked or idle before.
-/

set_option autoImplicit false

namespace CameraServer.Engine

open Media

structure Calm (e : Engine) : Prop where
  settled : e.Settled
  quiet : ∀ p, e.graph.fails p = false

-- An egress branch that no removal takes away: it cannot be unlinked, or nobody is left to remove.
def Leftover (e : Engine) : Prop :=
  e.graph.hasParent egressName = true ∧
    (e.graph.isLinked fanOutName egressName = false ∨ e.destinations = [] ∧ e.orphans = [])

theorem calm_of_fair (p : List Endpoint → Prop) (e next : Engine) (fair : Fair p e next)
    (spends : Graph.Spends e.graph next.graph) (calm : e.Calm) : next.Calm :=
  ⟨⟨fair.served, fair.balanced calm.settled.2⟩, Graph.spends_quiet _ _ spends calm.quiet⟩

section Stands

variable (e : Engine) (l : Ledger) (b : Egress) (history : List (List Endpoint))
variable (quiet : ∀ p, e.graph.fails p = false)

include quiet

omit quiet in
theorem succeeds_of_answers (r : Outcome Unit) (good bad : Engine → Prop) (p : FailPoint)
    (quiet : e.graph.fails p = false) (ended : Ends r good bad)
    (answers : Ends r (fun _ => e.graph.fails p = false) (fun _ => e.graph.fails p = true)) :
    ∃ next, r = (.ok (), next) ∧ good next := by
  rcases ends_cases _ _ _ ended with ⟨next, rfl, done⟩ | ⟨x, next, rfl, _⟩
  · exact ⟨next, rfl, done⟩
  · cases quiet.symm.trans answers

theorem emit_egress_succeeds (signal : Signal) (change : List Endpoint → List Endpoint)
    (plain : signal ≠ .endOfStream) (placed : b.parented = true)
    (emitted : Ends (Graph.emit Site.sink (.stage egressName) signal e.graph e.site)
      (fun next => ∃ f, e.graph.layout.get? egressName = some f ∧
        next.1.outline = e.graph.outline.changeList egressName f (change f.destinations))
      (fun next => next.1.outline = e.graph.outline))
    (stands : e.Stands l (some b) history) :
    ∃ next, e.emit (.stage egressName) signal = (.ok (), next) ∧
      next.Stands l (some { b with sink := change b.sink }) (history ++ [change b.sink]) := by
  have heard : ¬ (e.refusals.endOfStreamLost = true ∧ signal = .endOfStream) := fun both => plain both.2
  have answers := Graph.emit_answers Site.sink egressName signal e.graph e.site
    ((stands_has_egress e l _ history stands).trans placed)
  have answered : Ends (e.emit (.stage egressName) signal)
      (fun _ => e.graph.fails (.signal signal.name) = false)
      (fun _ => e.graph.fails (.signal signal.name) = true) := by
    rw [emit, if_neg heard]
    rcases eq : Graph.emit Site.sink (.stage egressName) signal e.graph e.site with ⟨x | u, g, s⟩
    · rw [eq] at answers
      exact answers
    · rw [eq] at answers
      exact answers
  have ended := emit_egress_ends e l _ history signal change plain emitted stands
  obtain ⟨next, eq, c, found, changed⟩ := succeeds_of_answers e _ _ _ _ (quiet _) ended answered
  cases found
  exact ⟨next, eq, changed⟩

theorem emit_add_succeeds (endpoint : Endpoint) (placed : b.parented = true)
    (stands : e.Stands l (some b) history) :
    ∃ next, e.emitAdd endpoint = (.ok (), next) ∧
      next.Stands l (some { b with sink := b.sink ++ [endpoint] }) (history ++ [b.sink ++ [endpoint]]) :=
  emit_egress_succeeds e l b history quiet _ (· ++ [endpoint]) (by simp) placed
    (Graph.emit_add_ends Site.sink egressName endpoint e.graph e.site) stands

theorem emit_remove_succeeds (endpoint : Endpoint) (placed : b.parented = true)
    (stands : e.Stands l (some b) history) :
    ∃ next, e.emitRemove endpoint = (.ok (), next) ∧
      next.Stands l (some { b with sink := b.sink.erase endpoint }) (history ++ [b.sink.erase endpoint]) :=
  emit_egress_succeeds e l b history quiet _ (·.erase endpoint) (by simp) placed
    (Graph.emit_remove_ends Site.sink egressName endpoint e.graph e.site) stands

theorem reap_each_succeeds (list : List Endpoint) (placed : b.parented = true)
    (stands : e.Stands l (some b) history) :
    ∃ sink after, (reapEach list e).Stands l (some { b with sink := sink }) after := by
  induction list generalizing e b history with
  | nil => exact ⟨b.sink, history, stands⟩
  | cons endpoint rest ih =>
      have spent := spends_frame.emitRemove endpoint e
      obtain ⟨next, eq, removed⟩ := emit_remove_succeeds e l b history quiet endpoint placed stands
      rw [eq] at spent
      rw [reapEach, eq]
      have still := Graph.spends_quiet _ _ spent quiet
      exact ih next { b with sink := b.sink.erase endpoint } _ still placed removed

theorem join_egress_succeeds (stands : e.Stands l (some ⟨false, false, []⟩) history) :
    ∃ next, e.joinBranch egressName = (.ok (), next) ∧ next.Stands l (some ⟨true, true, []⟩) history := by
  have adding := spends_calls.add egressName e trivial
  have addAnswers := with_graph_answers e _ _ _ <|
    Graph.add_answers e.graph egressName (stands_has_egress_stage e l _ history stands)
      (stands_has_egress e l _ history stands)
  obtain ⟨one, added, placed⟩ :=
    succeeds_of_answers e _ _ _ _ (quiet _) (add_egress_ends e l _ history stands) addAnswers
  rw [added] at adding
  have still := Graph.spends_quiet _ _ adding quiet
  have linking := spends_calls.link fanOutName egressName one
  obtain ⟨two, linked, joined⟩ :=
    succeeds_of_answers one _ _ _ _ (still _) (link_egress_ends one l _ history rfl placed)
      (link_egress_answers one l _ history rfl rfl placed)
  rw [linked] at linking
  have synced := stands_of_books two l _ history _ (sync_stage_books egressName two) joined
  obtain ⟨three, level, ended⟩ :=
    succeeds_of_answers two _ _ _ _ (Graph.spends_calm _ _ _ linking (still _))
      ((ends_alike _ (·.Stands l (some ⟨true, true, []⟩) history)).mpr synced)
      (sync_egress_answers two l _ history rfl joined)
  refine ⟨three.dump "pipeline-attached", ?_, ended.ledger, ended.outline⟩
  rw [joinBranch, added]
  dsimp only
  rw [linked]
  dsimp only
  rw [level]

theorem attach_egress_calm (built : l.constructed = true) (stands : e.Stands l none history) :
    ∃ next, e.attachBranch .egress = (.ok (), next) ∧ next.Stands l (some ⟨true, true, []⟩) history := by
  have here : e.constructed = true := (congrArg (·.constructed) stands.ledger).trans built
  have absent : e.graph.hasParent StageSpec.egress.name = false := stands_has_egress e l none history stands
  have vacant : e.graph.hasStage StageSpec.egress.name = false := stands_has_egress_stage e l none history stands
  have junction := stands_has_fan_out e l none history stands
  have building := spends_calls.build .egress e
  obtain ⟨one, floating, stood⟩ :=
    succeeds_of_answers e _ _ _ _ (quiet _) (build_egress_ends e l history stands)
      (with_graph_answers e _ _ _ (Graph.build_answers e.graph .egress vacant))
  rw [floating] at building
  obtain ⟨next, joined, ended⟩ :=
    join_egress_succeeds one l history (Graph.spends_quiet _ _ building quiet) stood
  refine ⟨next, ?_, ended⟩
  simp only [attachBranch, ifConstructed, here, if_true, absent, Bool.false_eq_true, if_false, junction,
    Bool.not_true, clearName, vacant, Outcome.next, floating]
  exact joined

-- Only a branch that is not linked stays.
theorem detach_egress_calm (built : l.constructed = true) (tolerant : l.refusals = {}) (placed : b.parented = true)
    (stands : e.Stands l (some b) history) :
    (e.detachBranch egressName).2.Stands l (if b.linked then none else some b) history := by
  have here : e.constructed = true := (congrArg (·.constructed) stands.ledger).trans built
  have present : e.graph.hasParent egressName = true := (stands_has_egress e l _ history stands).trans placed
  have unlinked := stands_linked e l _ history stands
  have spent := spends_calls.unlink fanOutName egressName e
  simp only [detachBranch, ifConstructed, here, if_true, present]
  cases linked : b.linked with
  | false =>
      have missing : e.graph.isLinked fanOutName egressName = false := unlinked.trans linked
      have same : e.unlink fanOutName egressName = (.error (.graph (.unlinkFailed fanOutName egressName)), e) := by
        rw [unlink, Graph.unlink, quiet, missing]
        rfl
      rw [same]
      exact stands
  | true =>
      have answers := with_graph_answers e _ _ _ (Graph.unlink_answers e.graph fanOutName egressName
        (unlinked.trans linked))
      obtain ⟨one, eq, loose⟩ :=
        succeeds_of_answers e _ _ _ _ (quiet _) (unlink_egress_ends e l b history stands) answers
      rw [show e.unlink fanOutName egressName = (.ok (), one) from eq] at spent ⊢
      obtain ⟨two, gone, removed⟩ :=
        succeeds_of_answers one _ _ _ _ (Graph.spends_calm _ _ _ spent (quiet _))
          (remove_egress_ends one l _ history loose)
          (remove_egress_answers one l { b with linked := false } history placed loose)
      dsimp only [Outcome.next]
      rw [gone]
      exact retire_egress two l _ history tolerant rfl rfl removed

end Stands

/-! ### What is left over -/

section Leftover

variable (e : Engine) (egress : Option Egress) (served : e.Served egress)

include served

theorem served_linked : e.graph.isLinked fanOutName egressName = egress.any (·.linked) :=
  stands_linked e e.ledger egress e.graph.history (served_stands e egress served)

theorem detach_if_idle_leftover (quiet : ∀ p, e.graph.fails p = false) :
    e.detachIfIdle.Leftover ↔
      e.graph.hasParent egressName = true ∧ e.graph.isLinked fanOutName egressName = false := by
  have has := served_has_egress e egress served
  have linked := served_linked e egress served
  rw [detachIfIdle]
  split
  · rename_i idle
    simp only [Bool.and_eq_true, List.isEmpty_iff] at idle
    obtain ⟨⟨none, quit⟩, present⟩ := idle
    cases egress with
    | none => cases has.symm.trans present
    | some b =>
        have detached := detach_egress_calm e e.ledger b e.graph.history quiet served.built served.tolerant
          (served.placed b rfl) (served_stands e _ served)
        generalize (e.detachBranch egressName).2 = next at detached
        have has' := stands_has_egress next _ _ _ detached
        have linked' := stands_linked next _ _ _ detached
        rw [Leftover, has', linked', has, linked]
        cases loose : b.linked <;> simp [loose, served.placed b rfl]
  · rename_i busy
    rw [Leftover]
    constructor
    · rintro ⟨present, loose | ⟨none, quit⟩⟩
      · exact ⟨present, loose⟩
      · exact absurd (by simp [none, quit, present]) busy
    · exact fun left => ⟨left.1, .inl left.2⟩

end Leftover

/-! ### Reaping and removing -/

theorem reap_orphans_calm (e : Engine) (calm : e.Calm) :
    e.reapOrphans.Calm ∧ e.reapOrphans.orphans = [] ∧ (e.reapOrphans.Leftover ↔ e.Leftover) := by
  obtain ⟨egress, served⟩ := calm.settled.1
  have fair := (reap_orphans_fair e egress served).1
  have still := calm_of_fair _ e _ fair (spends_frame.flag.reap_orphans e) calm
  refine ⟨still, ?_⟩
  by_cases quit : e.orphans = []
  · rw [reap_orphans_none e quit]
    exact ⟨quit, Iff.rfl⟩
  · obtain ⟨b, rfl⟩ := Option.isSome_iff_exists.mp (served.held quit)
    have stands := served_stands e (some b) served
    have begun : Stands { e with orphans := [] } ⟨e.roster, []⟩ (some b) e.graph.history := ⟨rfl, stands.outline⟩
    have spent := spends_frame.flag.reap_each e.orphans { e with orphans := [] }
    obtain ⟨sink, after, stood⟩ := reap_each_succeeds { e with orphans := [] } _ b _ calm.quiet e.orphans
      (served.placed b rfl) begun
    generalize reaped : reapEach e.orphans { e with orphans := [] } = next at spent stood
    have whole : e.reapOrphans = next.detachIfIdle := by
      rw [reapOrphans, if_neg (by simp [quit, served.built]), reaped]
    have here : next.Served (some { b with sink := sink }) := by
      apply served_of_stands next _ _ _ served.built served.tolerant _ (fun _ => rfl) stood
      simpa using served.placed b rfl
    have quiet := Graph.spends_quiet _ _ spent calm.quiet
    have left : next.orphans = [] := congrArg (·.orphans) stood.ledger
    rw [whole]
    refine ⟨(congrArg (·.orphans) (detach_if_idle_ledger next)).trans left, ?_⟩
    rw [detach_if_idle_leftover next _ here quiet, Leftover, served_has_egress next _ here,
      served_linked next _ here, served_has_egress e _ served, served_linked e _ served]
    simp [quit]

theorem remove_endpoint_succeeds (endpoint : Endpoint) (e : Engine) (b : Egress)
    (member : e.destinations.contains endpoint = true) (served : e.reapOrphans.Served (some b))
    (built : e.constructed = true) (quiet : ∀ p, e.reapOrphans.graph.fails p = false) :
    ∃ (last : Engine) (history : List (List Endpoint)), e.removeEndpoint endpoint = (.ok (), last.detachIfIdle) ∧
      last.Stands { e.reapOrphans.ledger with destinations := e.reapOrphans.destinations.erase endpoint }
        (some { b with sink := b.sink.erase endpoint }) history ∧
      ∀ p, last.graph.fails p = false := by
  have emitting := spends_frame.emitRemove endpoint e.reapOrphans
  obtain ⟨last, eq, removed⟩ := emit_remove_succeeds e.reapOrphans _ b _ quiet endpoint (served.placed b rfl)
    (served_stands _ _ served)
  rw [eq] at emitting
  have listed : last.destinations = e.reapOrphans.destinations := congrArg (·.destinations) removed.ledger
  refine ⟨_, _, ?_, stands_relisted last _ _ _ (e.reapOrphans.destinations.erase endpoint) removed,
    Graph.spends_quiet _ _ emitting quiet⟩
  rw [removeEndpoint, if_pos member, if_pos built, eq, ← listed]
  rfl

theorem remove_endpoint_calm (endpoint : Endpoint) (e : Engine) (calm : e.Calm) :
    ∃ next, e.removeEndpoint endpoint = (.ok (), next) ∧ next.Calm ∧ (next.Leftover ↔ e.Leftover) := by
  by_cases member : e.destinations.contains endpoint = true
  · obtain ⟨egress, served⟩ := calm.settled.1
    have fair := remove_endpoint_fair endpoint e egress served
    have spent := spends_frame.flag.remove_endpoint endpoint e
    obtain ⟨reaped, quit, leftover⟩ := reap_orphans_calm e calm
    have listed : e.reapOrphans.destinations = e.destinations := congrArg Roster.destinations (reap_orphans_roster e)
    have busy : e.destinations ≠ [] := List.ne_nil_of_mem (by simpa using member)
    obtain ⟨after, here⟩ := reaped.settled.1
    have present := balanced_has_egress _ after here reaped.settled.2 (by rwa [listed])
    cases after with
    | none => cases (served_has_egress _ none here).symm.trans present
    | some b =>
        obtain ⟨last, history, done, removed, quiet⟩ :=
          remove_endpoint_succeeds endpoint e b member here served.built reaped.quiet
        rw [done] at fair spent
        have stood : last.Served (some { b with sink := b.sink.erase endpoint }) := by
          apply served_of_stands _ _ _ _ here.built here.tolerant _ (fun _ => rfl) removed
          simpa using here.placed b rfl
        refine ⟨_, done, calm_of_fair _ e _ fair spent calm, ?_⟩
        -- Somebody was there before, so only a branch that is not linked can have been left over.
        rw [detach_if_idle_leftover _ _ stood quiet, ← leftover, Leftover, served_has_egress _ _ stood,
          served_linked _ _ stood, served_has_egress _ _ here, served_linked _ _ here, listed]
        simp [busy]
  · exact ⟨e, by rw [removeEndpoint, if_neg member], calm, Iff.rfl⟩

/-! ### Adding and moving -/

def joined (egress : Option Egress) (endpoint : Endpoint) : Egress :=
  let b := egress.getD ⟨true, true, []⟩
  { b with sink := b.sink ++ [endpoint] }

theorem add_endpoint_succeeds (endpoint : Endpoint) (e : Engine) (egress : Option Egress)
    (built : e.constructed = true) (served : e.reapOrphans.Served egress)
    (quiet : ∀ p, e.reapOrphans.graph.fails p = false) :
    ∃ next history, e.addEndpoint endpoint = (.ok (), next) ∧
      next.Stands { e.reapOrphans.ledger with destinations := e.reapOrphans.destinations ++ [endpoint] }
        (some (joined egress endpoint)) history := by
  have stands := served_stands _ egress served
  have ready : ∃ next, (if !e.reapOrphans.graph.hasParent egressName then e.reapOrphans.attachBranch .egress
        else (.ok (), e.reapOrphans)) = (.ok (), next) ∧
      next.Stands e.reapOrphans.ledger (some (egress.getD ⟨true, true, []⟩)) e.reapOrphans.graph.history ∧
      ∀ p, next.graph.fails p = false := by
    rw [served_has_egress _ egress served]
    cases egress with
    | none =>
        have attaching := spends_frame.attach e.reapOrphans
        obtain ⟨next, eq, attached⟩ := attach_egress_calm _ _ _ quiet served.built stands
        rw [eq] at attaching
        exact ⟨next, eq, attached, Graph.spends_quiet _ _ attaching quiet⟩
    | some b => exact ⟨e.reapOrphans, rfl, stands, quiet⟩
  have placed : (egress.getD ⟨true, true, []⟩).parented = true := by
    cases egress with
    | none => rfl
    | some b => exact served.placed b rfl
  obtain ⟨middle, eq, stood, still⟩ := ready
  obtain ⟨next, done, added⟩ := emit_add_succeeds middle _ _ _ still endpoint placed stood
  have listed : next.destinations = e.reapOrphans.destinations := congrArg (·.destinations) added.ledger
  refine ⟨_, _, ?_, stands_relisted next _ _ _ (e.reapOrphans.destinations ++ [endpoint]) added⟩
  simp only [addEndpoint, ifConstructed, built, if_true, eq, Outcome.next, done, listed]

theorem add_endpoint_calm (endpoint : Endpoint) (e : Engine) (calm : e.Calm) :
    ∃ next, e.addEndpoint endpoint = (.ok (), next) ∧ next.Calm := by
  obtain ⟨egress, served⟩ := calm.settled.1
  have fair := add_endpoint_fair endpoint e egress served
  have spent := spends_frame.flag.add_endpoint endpoint e
  obtain ⟨reaped, _⟩ := reap_orphans_calm e calm
  obtain ⟨after, here⟩ := reaped.settled.1
  obtain ⟨next, history, eq, _⟩ := add_endpoint_succeeds endpoint e after served.built here reaped.quiet
  rw [eq] at fair spent
  exact ⟨next, eq, calm_of_fair _ e next fair.2 spent calm⟩

theorem change_endpoint_calm (old new : Endpoint) (e : Engine) (calm : e.Calm) :
    ∃ next, e.changeEndpoint old new = (.ok (), next) ∧ next.Calm := by
  rw [changeEndpoint]
  split
  · exact ⟨e, rfl, calm⟩
  · obtain ⟨middle, added, still⟩ := add_endpoint_calm new e calm
    obtain ⟨next, removed, ended, _⟩ := remove_endpoint_calm old middle still
    refine ⟨next, ?_, ended⟩
    rw [added]
    dsimp only [Outcome.next]
    rw [removed]

theorem calm_has_egress (e : Engine) (calm : e.Calm) (quit : e.orphans = []) :
    e.graph.hasStage egressName = true ↔ e.destinations ≠ [] ∨ e.Leftover := by
  obtain ⟨⟨egress, served⟩, balanced⟩ := calm.settled
  have here := stands_has_egress_stage e _ egress _ (served_stands e egress served)
  rw [here, ← served_has_egress e egress served]
  constructor
  · intro present
    by_cases none : e.destinations = []
    · exact .inr ⟨present, .inr ⟨none, quit⟩⟩
    · exact .inl none
  · rintro (busy | leftover)
    · exact balanced_has_egress e egress served balanced busy
    · exact leftover.1

end CameraServer.Engine
