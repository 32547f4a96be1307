import CameraServer.Proofs.Pipeline.Undo

/-!
Whether a destination that is accepted is really connected. Main statements: it is, unless a branch was
left half attached before; and as long as the graph never refuses to take the egress stage out together
with linking or synchronising it, no branch is.
-/

set_option autoImplicit false

namespace CameraServer

open Media

namespace Media.Graph

structure Connected (g : Graph) : Prop where
  placed : g.hasParent egressName = true
  linked : g.isLinked fanOutName egressName = true
  level : (g.stage? egressName).map (·.state) = some g.state

def Whole (g : Graph) : Prop := g.hasParent egressName = true → g.Connected

theorem connected_of_in_step (g : Graph) (placed : g.hasParent egressName = true)
    (linked : g.isLinked fanOutName egressName = true) (inStep : g.EgressInStep) : g.Connected := by
  obtain ⟨stage, read, parented⟩ := parented_stage g egressName placed
  refine ⟨placed, linked, ?_⟩
  rw [read]
  exact congrArg some (inStep (egressName, stage) (stage_member egressName g stage read) rfl parented)

theorem change_destinations_connected (g : Graph) (stage : Stage) (list : List Endpoint)
    (read : g.stage? egressName = some stage) :
    (g.changeDestinations egressName stage list).Connected ↔ g.Connected := by
  have after := stage_modify g egressName fun _ => { stage with destinations := list }
  rw [read] at after
  have parent : (g.changeDestinations egressName stage list).hasParent egressName = g.hasParent egressName := by
    rw [hasParent, hasParent, read]
    exact congrArg (Option.any (·.parented)) after
  have level : ((g.changeDestinations egressName stage list).stage? egressName).map (·.state) =
      (g.stage? egressName).map (·.state) := by
    rw [read]
    exact congrArg (Option.map (·.state)) after
  constructor
  · exact fun c => ⟨parent.symm.trans c.placed, c.linked, level.symm.trans c.level⟩
  · exact fun c => ⟨parent.trans c.placed, c.linked, level.trans c.level⟩

theorem emit_add_connected {σ : Type} (sink : FragmentSink σ) (endpoint : Endpoint) (g : Graph) (s : σ) :
    Ends (emit sink (.stage egressName) (.addDestination endpoint) g s)
      (fun next => next.1.Connected ↔ g.Connected) (fun _ => True) := by
  rw [emit]
  split
  · trivial
  · dsimp only
    cases read : g.stage? egressName with
    | none => trivial
    | some stage =>
        have kept := change_destinations_connected g stage (stage.destinations ++ [endpoint]) read
        -- The signal itself is recorded outside the stages and links.
        constructor
        · exact fun c => kept.mp ⟨c.placed, c.linked, c.level⟩
        · exact fun c => ⟨(kept.mpr c).placed, (kept.mpr c).linked, (kept.mpr c).level⟩

theorem in_step_of_bare (counts : String → Prop) (g : Graph) (bare : g.Bare) : g.InStep counts := by
  intro entry member
  rw [g.bare_stages bare] at member
  cases member

end Media.Graph

namespace Engine

/-! ### Runs with single faults -/

structure Sturdy (e : Engine) : Prop where
  tolerant : e.refusals = {}
  idle : e.constructed = false → e.graph.Bare
  built : e.constructed = true →
    ∃ egress, e.graph.outline = .fixed egress e.graph.history ∧ ∀ b ∈ egress, b.parented = true ∧ b.linked = true
  inStep : e.graph.EgressInStep
  single : ¬ e.graph.DoubleFault

theorem sturdy_stands (e : Engine) (sturdy : e.Sturdy) (built : e.constructed = true) :
    ∃ egress, e.Stands e.ledger egress e.graph.history ∧ ∀ b ∈ egress, b.parented = true ∧ b.linked = true := by
  obtain ⟨egress, outline, whole⟩ := sturdy.built built
  exact ⟨egress, ⟨rfl, outline⟩, whole⟩

theorem sturdy_whole (e : Engine) (sturdy : e.Sturdy) : e.graph.Whole := by
  intro placed
  cases here : e.constructed with
  | false =>
      have layout := congrArg Outline.layout (sturdy.idle here)
      rw [Graph.has_parent_layout, show e.graph.layout = [] from layout] at placed
      cases placed
  | true =>
      obtain ⟨egress, stands, whole⟩ := sturdy_stands e sturdy here
      rw [stands_has_egress e _ egress _ stands] at placed
      cases egress with
      | none => cases placed
      | some b =>
          obtain ⟨parented, linked⟩ := whole b rfl
          have has := (stands_has_egress e _ _ _ stands).trans parented
          have isLinked := (stands_linked e _ _ _ stands).trans linked
          exact Graph.connected_of_in_step e.graph has isLinked sturdy.inStep

theorem sturdy_of_stands (e next : Engine) (egress : Option Egress) (history : List (List Endpoint))
    (sturdy : e.Sturdy) (here : e.constructed = true) (stands : next.Stands e.ledger egress history)
    (whole : ∀ b ∈ egress, b.parented = true ∧ b.linked = true) (inStep : next.graph.EgressInStep)
    (spends : Graph.Spends e.graph next.graph) : next.Sturdy where
  tolerant := (congrArg (·.refusals) stands.ledger).trans sturdy.tolerant
  idle := fun idle => by
    cases (((congrArg (·.constructed) stands.ledger).trans here).symm.trans idle : true = false)
  built := fun _ => by
    have recorded : next.graph.history = history := congrArg Outline.history stands.outline
    exact ⟨egress, by rw [recorded]; exact stands.outline, whole⟩
  inStep := inStep
  single := fun fault => sturdy.single (Graph.double_fault_spends _ _ spends fault)

theorem sturdy_of_books (e next : Engine) (same : next.books = e.books) (inStep : next.graph.EgressInStep)
    (spends : Graph.Spends e.graph next.graph) (sturdy : e.Sturdy) : next.Sturdy := by
  have constructed : next.constructed = e.constructed := congrArg (·.ledger.constructed) same
  cases here : e.constructed with
  | true =>
      obtain ⟨egress, stands, whole⟩ := sturdy_stands e sturdy here
      exact sturdy_of_stands e next egress _ sturdy here (stands_of_books e _ _ _ next same stands) whole inStep spends
  | false =>
      have bare : next.graph.Bare := by
        have outlined : next.graph.outline = e.graph.outline := congrArg Books.outline same
        have recorded : next.graph.history = e.graph.history := congrArg Outline.history outlined
        rw [Graph.Bare, recorded]
        exact outlined.trans (sturdy.idle here)
      refine ⟨(congrArg (·.ledger.refusals) same).trans sturdy.tolerant, fun _ => bare, ?_, inStep, ?_⟩
      · intro built
        cases (constructed.trans here).symm.trans built
      · exact fun fault => sturdy.single (Graph.double_fault_spends _ _ spends fault)

theorem attach_sturdy (e : Engine) (sturdy : e.Sturdy) : (e.attachBranch .egress).2.Sturdy := by
  cases here : e.constructed with
  | false => simpa [attachBranch, ifConstructed, here] using sturdy
  | true =>
      obtain ⟨egress, stands, whole⟩ := sturdy_stands e sturdy here
      have has := stands_has_egress e _ egress _ stands
      cases egress with
      | some b =>
          have placed : e.graph.hasParent StageSpec.egress.name = true := has.trans (whole b rfl).1
          simpa [attachBranch, ifConstructed, here, placed] using sturdy
      | none =>
          have spent := spends_frame.attach e
          have inStep := attach_egress_in_step e
          have ended := attach_egress_undone e e.ledger e.graph.history here sturdy.tolerant sturdy.single stands
          rcases eq : e.attachBranch .egress with ⟨x | u, next⟩
          · rw [eq] at spent ended
            exact sturdy_of_stands e next none _ sturdy here ended (by simp)
              (Graph.in_step_of_none next.graph _ ended.outline) spent
          · rw [eq] at spent inStep ended
            exact sturdy_of_stands e next _ _ sturdy here ended (by simp) inStep spent

theorem detach_sturdy (e : Engine) (sturdy : e.Sturdy) : (e.detachBranch egressName).2.Sturdy := by
  cases here : e.constructed with
  | false => simpa [detachBranch, ifConstructed, here] using sturdy
  | true =>
      obtain ⟨egress, stands, whole⟩ := sturdy_stands e sturdy here
      have has := stands_has_egress e _ egress _ stands
      cases egress with
      | none =>
          have absent : e.graph.hasParent egressName = false := has
          simpa [detachBranch, ifConstructed, here, absent] using sturdy
      | some b =>
          obtain ⟨placed, linked⟩ := whole b rfl
          have spent := spends_frame.detach e
          have ended := detach_egress_refused e e.ledger b e.graph.history here sturdy.tolerant placed linked
            sturdy.single sturdy.inStep stands
          rcases eq : e.detachBranch egressName with ⟨x | u, next⟩
          · rw [eq] at spent ended
            exact sturdy_of_stands e next _ _ sturdy here ended.1 whole ended.2 spent
          · rw [eq] at spent ended
            exact sturdy_of_stands e next none _ sturdy here ended (by simp)
              (Graph.in_step_of_none next.graph _ ended.outline) spent

theorem emit_in_step (target : Target) (signal : Signal) (e : Engine) (before : e.graph.EgressInStep) :
    (e.emit target signal).2.graph.EgressInStep := by
  rw [emit]
  split
  · exact before
  · exact Graph.emit_in_step _ e.graph Site.sink e.site target signal before

theorem emit_sturdy (signal : Signal) (change : List Endpoint → List Endpoint) (e : Engine)
    (plain : signal ≠ .endOfStream)
    (emitted : Ends (Graph.emit Site.sink (.stage egressName) signal e.graph e.site)
      (fun next => ∃ f, e.graph.layout.get? egressName = some f ∧
        next.1.outline = e.graph.outline.changeList egressName f (change f.destinations))
      (fun next => next.1.outline = e.graph.outline))
    (sturdy : e.Sturdy) : (e.emit (.stage egressName) signal).2.Sturdy := by
  have spent := spends_calls.emit (.stage egressName) signal e
  have inStep := emit_in_step (.stage egressName) signal e sturdy.inStep
  cases here : e.constructed with
  | true =>
      obtain ⟨egress, stands, whole⟩ := sturdy_stands e sturdy here
      rcases ends_cases _ _ _ (emit_egress_ends e _ egress _ signal change plain emitted stands) with
        ⟨next, eq, b, found, changed⟩ | ⟨x, next, eq, kept⟩
      · rw [eq] at spent inStep ⊢
        exact sturdy_of_stands e next _ _ sturdy here changed (by simpa using whole b found) inStep spent
      · rw [eq] at spent inStep ⊢
        exact sturdy_of_stands e next egress _ sturdy here kept whole inStep spent
  | false =>
      have heard : ¬ (e.refusals.endOfStreamLost = true ∧ signal = .endOfStream) := fun both => plain both.2
      apply sturdy_of_books e _ _ inStep spent sturdy
      rw [emit, if_neg heard]
      rcases eq : Graph.emit Site.sink (.stage egressName) signal e.graph e.site with ⟨x | u, g, s⟩
      · rw [eq] at emitted
        exact congrArg (Books.mk e.ledger) emitted
      · rw [eq] at emitted
        obtain ⟨f, found, _⟩ := emitted
        rw [show e.graph.layout = [] from congrArg Outline.layout (sturdy.idle here)] at found
        cases found

theorem set_graph_state_sturdy (state : PlayState) (e : Engine) (sturdy : e.Sturdy) :
    (e.setGraphState state).2.Sturdy := by
  apply sturdy_of_books e _ (set_graph_state_books state e) _ (set_graph_state_spends state e) sturdy
  rw [setGraphState]
  split
  · exact sturdy.inStep
  · exact Graph.set_state_in_step _ e.graph Site.sink e.site state sturdy.inStep

theorem construct_sturdy (e : Engine) (sturdy : e.Sturdy) : e.construct.2.Sturdy := by
  cases here : e.constructed with
  | true => simpa [construct, here] using sturdy
  | false =>
      have bare := sturdy.idle here
      have spent := construct_spends e
      have outlined := construct_outline e here sturdy.tolerant bare
      have ledger := construct_ledger e
      rcases eq : e.construct with ⟨x | u, next⟩
      · rw [eq] at spent outlined ledger
        have kept : next.ledger = e.ledger := ledger
        have down : next.constructed = false := (congrArg (·.constructed) kept).trans here
        refine ⟨(congrArg (·.refusals) kept).trans sturdy.tolerant, fun _ => outlined, ?_,
          Graph.in_step_of_bare _ next.graph outlined, ?_⟩
        · intro built
          cases down.symm.trans built
        · exact fun fault => sturdy.single (Graph.double_fault_spends _ _ spent fault)
      · rw [eq] at spent outlined ledger
        have built : next.ledger = { e.ledger with constructed := true } := ledger
        have up : next.constructed = true := congrArg (·.constructed) built
        have recorded : next.graph.history = e.graph.history := congrArg Outline.history outlined
        refine ⟨(congrArg (·.refusals) built).trans sturdy.tolerant, ?_,
          fun _ => ⟨none, by rw [recorded]; exact outlined, by simp⟩,
          Graph.in_step_of_none next.graph _ outlined, ?_⟩
        · intro idle
          cases up.symm.trans idle
        · exact fun fault => sturdy.single (Graph.double_fault_spends _ _ spent fault)

theorem teardown_sturdy (e : Engine) (sturdy : e.Sturdy) : e.teardown.Sturdy := by
  have down := teardown_down e sturdy.tolerant
  refine ⟨down.tolerant, fun _ => down.bare, ?_, Graph.in_step_of_bare _ _ down.bare, ?_⟩
  · intro built
    cases down.idle.symm.trans built
  · exact fun fault => sturdy.single (Graph.double_fault_spends _ _ (teardown_spends e) fault)

theorem sturdy_frame : BranchFrame fun e next => e.Sturdy → next.Sturdy where
  refl := fun _ sturdy => sturdy
  ledger := fun e next graph _ constructed refusals sturdy => by
    refine ⟨refusals.trans sturdy.tolerant, ?_, ?_, ?_, ?_⟩
    · rw [constructed, graph]
      exact sturdy.idle
    · rw [constructed, graph]
      exact sturdy.built
    · rw [graph]
      exact sturdy.inStep
    · rw [graph]
      exact sturdy.single
  trans := fun _ _ _ first second sturdy => second (first sturdy)
  attach := attach_sturdy
  detach := detach_sturdy
  emitAdd := fun endpoint e => emit_sturdy (.addDestination endpoint) (· ++ [endpoint]) e (by simp)
    (Graph.emit_add_ends Site.sink egressName endpoint e.graph e.site)
  emitRemove := fun endpoint e => emit_sturdy (.removeDestination endpoint) (·.erase endpoint) e (by simp)
    (Graph.emit_remove_ends Site.sink egressName endpoint e.graph e.site)
  emitSplit := fun e sturdy => sturdy_of_books e _ (emit_split_books _ e) (emit_in_step _ _ e sturdy.inStep)
    (spends_calls.emit _ _ e) sturdy
  emitEnd := fun e sturdy => sturdy_of_books e _ (emit_end_books _ e) (emit_in_step _ _ e sturdy.inStep)
    (spends_calls.emit _ _ e) sturdy
  query := fun e sturdy => sturdy_of_books e _ (query_state_books e)
    (Graph.in_step_of_stages _ e.graph _ (Graph.query_stages e.graph) (Graph.query_steady e.graph).state sturdy.inStep)
    (spends_frame.query e) sturdy
  resolve := fun e sturdy => by
    refine sturdy_of_books e _ (resolve_recordings_books e) ?_ (spends_frame.resolve e) sturdy
    rw [resolve_recordings_graph]
    exact sturdy.inStep
  dump := fun tag e sturdy => sturdy_of_books e (e.dump tag) rfl sturdy.inStep (spends_frame.dump tag e) sturdy
  pop := fun e sturdy => by
    refine sturdy_of_books e _ ?_ ?_ (spends_frame.pop e) sturdy
    · exact congrArg (Books.mk e.ledger) (Graph.pop_event_outline e.graph)
    · exact Graph.in_step_of_stages _ e.graph _ (Graph.pop_event_stages e.graph)
        (Graph.pop_event_steady e.graph).state sturdy.inStep

-- After no step can an attachment or a detachment fail so that it cannot be undone.
def Singly (e : Engine) (s : Step) : Prop := ¬ (s.apply e).graph.DoubleFault

theorem step_sturdy (s : Step) (e : Engine) (singly : Singly e s) (sturdy : e.Sturdy) :
    (s.apply e).Sturdy := by
  rcases sturdy_frame.step set_graph_state_sturdy construct_sturdy s e with
    ⟨config, rfl⟩ | ⟨injection, rfl⟩ | ⟨disk, now, rfl⟩ | still
  · exact sturdy_frame.set_config set_graph_state_sturdy construct_sturdy teardown_sturdy
      (fun _ e sturdy => ⟨sturdy.tolerant, sturdy.idle, sturdy.built, sturdy.inStep, sturdy.single⟩) config e sturdy
  · obtain ⟨lasting, once, same⟩ := injection.apply_points e.graph
    rw [Singly, Step.apply, same] at singly
    rw [Step.apply, same]
    exact ⟨sturdy.tolerant, sturdy.idle, sturdy.built, sturdy.inStep, singly⟩
  · exact ⟨sturdy.tolerant, sturdy.idle, sturdy.built, sturdy.inStep, sturdy.single⟩
  · exact still sturdy

theorem reachable_sturdy (e : Engine) (reached : Reachable Singly e) : e.Sturdy := by
  induction reached with
  | new config disk now =>
      refine ⟨rfl, fun _ => rfl, ?_, ?_, ?_⟩
      · intro built
        cases built
      · exact Graph.in_step_of_bare _ _ rfl
      · intro fault
        cases fault.1
  | step e s _ may ih => exact step_sturdy s e may ih

/-! ### An accepted destination -/

theorem emit_add_connected (endpoint : Endpoint) (e next : Engine)
    (added : e.emitAdd endpoint = (.ok (), next)) : next.graph.Connected ↔ e.graph.Connected := by
  have heard : ¬ (e.refusals.endOfStreamLost = true ∧ Signal.addDestination endpoint = .endOfStream) := by simp
  have emitted := Graph.emit_add_connected Site.sink endpoint e.graph e.site
  rw [emitAdd, emit, if_neg heard] at added
  rcases eq : Graph.emit Site.sink (.stage egressName) (.addDestination endpoint) e.graph e.site with ⟨x | u, g, s⟩
  · rw [eq] at added
    cases added
  · rw [eq] at added emitted
    cases added
    exact emitted

theorem add_endpoint_done (endpoint : Endpoint) (e next : Engine)
    (done : e.addEndpoint endpoint = (.ok (), next)) :
    e.constructed = true ∧ ∃ ready last,
      (if (!e.reapOrphans.graph.hasParent egressName) then e.reapOrphans.attachBranch .egress
        else (.ok (), e.reapOrphans)) = (.ok (), ready) ∧
      ready.emitAdd endpoint = (.ok (), last) ∧ next.graph = last.graph := by
  rw [addEndpoint, ifConstructed] at done
  split at done
  · rename_i built
    dsimp only at done
    generalize prepared : (if (!e.reapOrphans.graph.hasParent egressName) then e.reapOrphans.attachBranch .egress
        else (.ok (), e.reapOrphans)) = r at done
    obtain ⟨x | u, ready⟩ := r
    · cases done
    · rw [Outcome.next] at done
      rcases eq : ready.emitAdd endpoint with ⟨x | u, last⟩
      · rw [eq] at done
        cases done
      · rw [eq] at done
        cases done
        exact ⟨built, ready, last, rfl, eq, rfl⟩
  · cases done

theorem attach_egress_connected (e ready : Engine) (served : e.Served none)
    (attached : e.attachBranch .egress = (.ok (), ready)) : ready.graph.Connected := by
  have ended := attach_egress_ends e e.ledger e.graph.history served.built served.tolerant
    (served_stands e none served)
  have inStep := attach_egress_in_step e
  rw [attached] at ended inStep
  have has := stands_has_egress ready _ _ _ ended
  have linked := stands_linked ready _ _ _ ended
  exact Graph.connected_of_in_step ready.graph has linked inStep

theorem add_endpoint_connects_iff (allowed : Engine → Step → Prop) (endpoint : Endpoint) (e next : Engine)
    (reached : Reachable allowed e) (done : e.addEndpoint endpoint = (.ok (), next)) :
    next.graph.hasParent egressName = true ∧ (next.graph.Connected ↔ e.reapOrphans.graph.Whole) ∧
      (Reachable Singly e → next.graph.Connected) := by
  obtain ⟨built, ready, last, prepared, added, same⟩ := add_endpoint_done endpoint e next done
  cases reachable_sound allowed e reached with
  | down down _ => cases built.symm.trans down.idle
  | up egress served _ =>
    have present := add_endpoint_fair endpoint e egress served
    rw [done] at present
    obtain ⟨after, here⟩ := (reap_orphans_fair e egress served).1.served
    have has := served_has_egress e.reapOrphans after here
    have connects : next.graph.Connected ↔ e.reapOrphans.graph.Whole := by
      rw [same, emit_add_connected endpoint ready last added]
      cases after with
      | none =>
          rw [has] at prepared
          have connected := attach_egress_connected e.reapOrphans ready here prepared
          refine ⟨fun _ placed => ?_, fun _ => connected⟩
          cases has.symm.trans placed
      | some b =>
          rw [has] at prepared
          cases prepared
          exact ⟨fun connected _ => connected, fun whole => whole has⟩
    refine ⟨present.1, connects, fun singly => connects.mpr ?_⟩
    exact sturdy_whole _ (sturdy_frame.flag.reap_orphans e (reachable_sturdy e singly))

-- The first attempt to link the branch fails, and the next viewer comes all the same.
def unlinkedOnce : Engine :=
  run [.inject (.failOnce (.link egressName)), .addEndpoint ⟨"10.0.0.1", 5000⟩] fresh

theorem add_endpoint_connects_iff_second :
    Reachable Singly unlinkedOnce ∧ unlinkedOnce.destinations = [] ∧
      ∃ next, unlinkedOnce.addEndpoint ⟨"10.0.0.2", 6000⟩ = (.ok (), next) ∧ next.graph.Connected := by
  have reached : Reachable Singly unlinkedOnce := by
    apply reachable_run Singly
    · refine .step _ .construct (.new {} {} 0) fun fault => ?_
      cases fault.1
    · refine ⟨fun fault => ?_, fun fault => ?_, trivial⟩
      · cases fault.1
      · cases fault.1
  obtain ⟨next, done⟩ := ok_state (unlinkedOnce.addEndpoint ⟨"10.0.0.2", 6000⟩) (by decide)
  obtain ⟨_, _, connected⟩ := add_endpoint_connects_iff Singly ⟨"10.0.0.2", 6000⟩ unlinkedOnce next reached done
  exact ⟨reached, by decide, next, done, connected reached⟩

-- The branch can neither be linked nor taken out again, once. Nothing is wrong with the graph any more.
def halfAttached : Engine :=
  run [.inject (.failOnce (.link egressName)), .inject (.failOnce (.remove egressName)),
    .addEndpoint ⟨"10.0.0.1", 5000⟩] fresh

theorem add_endpoint_accepts_unconnected :
    Reachable Orderly halfAttached ∧ halfAttached.graph.failures = [] ∧ halfAttached.graph.oneShot = [] ∧
      (halfAttached.addEndpoint ⟨"10.0.0.1", 5000⟩).1 = .ok () ∧
      (halfAttached.addEndpoint ⟨"10.0.0.1", 5000⟩).2.graph.sink = [⟨"10.0.0.1", 5000⟩] ∧
      (halfAttached.addEndpoint ⟨"10.0.0.1", 5000⟩).2.graph.isLinked fanOutName egressName = false ∧
      ((halfAttached.addEndpoint ⟨"10.0.0.1", 5000⟩).2.graph.stage? egressName).map (·.state) = some .null ∧
      (halfAttached.addEndpoint ⟨"10.0.0.1", 5000⟩).2.graph.state = .ready :=
  ⟨orderly_run _ fresh fresh_reachable (by simp), by decide, by decide, by decide, by decide, by decide,
    by decide, by decide⟩

end Engine

end CameraServer
