import CameraServer.Proofs.Pipeline.Serving
import CameraServer.Proofs.Pipeline.Reconfigure

/-!
Construction, teardown and the rebuild, on the graph as well as on the ledger. Main statements: a
construction ends with the fixed stages in place or with no stage at all, and a rebuild ends with a
balanced engine or with an engine that is down.
-/

set_option autoImplicit false

namespace CameraServer

open Media

namespace Media

def Outline.bare (history : List (List Endpoint)) : Outline := ⟨[], [], history⟩

def Graph.Bare (g : Graph) : Prop := g.outline = .bare g.history

theorem Graph.bare_stages (g : Graph) (bare : g.Bare) : g.stages = [] :=
  g.stages_of_layout (congrArg Outline.layout bare)

def Outline.after : List (Outline → Outline) → Outline → Outline
  | [], o => o
  | change :: rest, o => after rest (change o)

def fixedChanges : List (Outline → Outline) :=
  [.build ⟨captureName, .capture⟩, .add captureName,
    .build ⟨fanOutName, .fanOut⟩, .add fanOutName,
    .build ⟨recordingName, .recording⟩, .add recordingName,
    .link captureName fanOutName, .link fanOutName recordingName, id]

theorem fixed_changes_bare (history : List (List Endpoint)) :
    Outline.after fixedChanges (.bare history) = .fixed none history := by
  simp [fixedChanges, Outline.after, Outline.bare, Outline.build, Outline.add, Outline.link, Outline.fixed,
    Layout.adjust, fixedLayout, fixedLinks, egressLayout, egressLinks, captureName, fanOutName, recordingName]

end Media

namespace Engine

structure Down (e : Engine) : Prop where
  idle : e.constructed = false
  tolerant : e.refusals = {}
  quit : e.orphans = []
  bare : e.graph.Bare

/-! ### Construction and teardown -/

def Changes (step : Engine → Outcome Unit) (change : Outline → Outline) : Prop :=
  ∀ e, Ends (step e) (fun next => next.graph.outline = change e.graph.outline) fun _ => True

theorem run_steps_change (steps : List (Engine → Outcome Unit)) (changes : List (Outline → Outline))
    (each : List.Forall₂ Changes steps changes) :
    Changes (runSteps steps) (.after changes) := by
  induction each with
  | nil => exact fun e => rfl
  | cons first _ ih =>
      intro e
      apply Outcome.next_ends _ _ _ _ _ (first e)
      intro next changed
      rw [Outline.after, ← changed]
      exact ih next

theorem with_graph_change (e : Engine) (r : Except GraphError Unit × Graph) (change : Outline → Outline)
    (ended : Ends r (fun g => g.outline = change e.graph.outline) (fun g => g.outline = e.graph.outline)) :
    Ends (e.withGraph r) (fun next => next.graph.outline = change e.graph.outline) fun _ => True := by
  obtain ⟨result, g⟩ := r
  cases result with
  | ok u => exact ended
  | error x => trivial

theorem fixed_stages_change : List.Forall₂ Changes fixedStages fixedChanges := by
  have build : ∀ spec, Changes (buildStage spec) (.build spec) := fun spec e =>
    with_graph_change e _ _ (Graph.build_ends e.graph spec)
  have add : ∀ name, Changes (addStage name) (.add name) := fun name e =>
    with_graph_change e _ _ (Graph.add_ends e.graph name)
  have link : ∀ up down, Changes (Engine.link up down) (.link up down) := fun up down e =>
    with_graph_change e _ _ (Graph.link_ends e.graph up down)
  have ready : Changes (setGraphState .ready) id := by
    intro e
    have same := congrArg Books.outline (set_graph_state_books .ready e)
    exact ends_of_state _ (·.graph.outline = e.graph.outline) _ _ same (fun _ kept => kept)
      (fun _ _ => trivial)
  exact .cons (build _) <| .cons (add _) <| .cons (build _) <| .cons (add _) <| .cons (build _) <|
    .cons (add _) <| .cons (link _ _) <| .cons (link _ _) <| .cons ready .nil

theorem reset_graph_bare (e : Engine) (tolerant : e.refusals = {}) : e.resetGraph.graph.Bare := by
  simp only [resetGraph, tolerant, Bool.false_eq_true, if_false]
  rfl

theorem teardown_down (e : Engine) (tolerant : e.refusals = {}) : e.teardown.Down := by
  have ledger := teardown_ledger e
  refine ⟨rfl, ?_, rfl, reset_graph_bare e tolerant⟩
  exact (congrArg (·.refusals) ledger).trans tolerant

theorem construct_outline (e : Engine) (idle : e.constructed = false) (tolerant : e.refusals = {})
    (bare : e.graph.Bare) :
    Ends e.construct (·.graph.outline = .fixed none e.graph.history) (·.graph.Bare) := by
  have kept := fixed_stages_ledger e
  have built := run_steps_change fixedStages fixedChanges fixed_stages_change e
  rw [construct, idle, if_neg (by simp)]
  rcases ends_cases _ _ _ built with ⟨next, eq, outlined⟩ | ⟨x, next, eq, _⟩
  · rw [eq]
    rw [bare, fixed_changes_bare] at outlined
    exact outlined
  · rw [eq] at kept ⊢
    exact reset_graph_bare next ((congrArg (·.refusals) kept).trans tolerant)

theorem construct_ends (e : Engine) (down : e.Down) :
    Ends e.construct
      (fun next => next.Served none ∧ next.ledger = { e.ledger with constructed := true })
      (fun next => next.Down ∧ next.ledger = e.ledger) := by
  have kept := construct_ledger e
  have outlined := construct_outline e down.idle down.tolerant down.bare
  rcases eq : e.construct with ⟨x | u, next⟩
  · rw [eq] at kept outlined
    have ledger : next.ledger = e.ledger := kept
    refine ⟨⟨?_, ?_, ?_, outlined⟩, ledger⟩
    · exact (congrArg (·.constructed) ledger).trans down.idle
    · exact (congrArg (·.refusals) ledger).trans down.tolerant
    · exact (congrArg (·.orphans) ledger).trans down.quit
  · rw [eq] at kept outlined
    have ledger : next.ledger = { e.ledger with constructed := true } := kept
    refine ⟨?_, ledger⟩
    exact served_of_stands _ none e.graph.history { e.ledger with constructed := true } rfl down.tolerant
      (by simp) (fun some => absurd down.quit some) ⟨ledger, outlined⟩

/-! ### The rebuild -/

theorem adopt_down (config : PipelineConfig) (resume : Bool) (e : Engine) (down : e.Down) :
    (adopt config { e with pending := some resume }).Down :=
  ⟨down.idle, down.tolerant, down.quit, down.bare⟩

def Settled (e : Engine) : Prop := (∃ egress, e.Served egress) ∧ e.Balanced

theorem restore_settled (list : List Endpoint) (e : Engine) (settled : e.Settled) :
    (restore list e).Settled := by
  induction list generalizing e with
  | nil => exact settled
  | cons endpoint rest ih =>
      obtain ⟨⟨egress, served⟩, balanced⟩ := settled
      have added : (e.addEndpoint endpoint).2.Settled := by
        apply state_of_ends _ _ _ Settled (add_endpoint_fair endpoint e egress served)
        · rintro next ⟨_, fair⟩
          exact ⟨fair.served, fair.balanced balanced⟩
        · exact fun next fair => ⟨fair.served, fair.balanced balanced⟩
      exact ih _ added

theorem settled_of_books (e next : Engine) (same : next.books = e.books) (settled : e.Settled) :
    next.Settled := by
  obtain ⟨⟨egress, served⟩, balanced⟩ := settled
  have fair := fair_of_books e next egress (fun _ => True) same served
  exact ⟨fair.served, fair.balanced balanced⟩

theorem rebuild_ends (resume : Bool) (e : Engine) (down : e.Down) :
    Ends (e.rebuild resume) Settled Down := by
  rw [rebuild]
  rcases ends_cases _ _ _ (construct_ends e down) with ⟨start, eq, served, ledger⟩ | ⟨x, next, eq, fallen, _⟩
  · rw [eq]
    have quit : start.orphans = [] := (congrArg (·.orphans) ledger).trans down.quit
    -- Nobody is on the sink yet, and for the moment nobody is to be.
    have begun : Settled { start with destinations := [] } := by
      have empty : Served { start with destinations := [] } none :=
        ⟨served.built, served.tolerant, served.outline, served.placed, served.held⟩
      refine ⟨⟨none, empty⟩, ?_⟩
      rw [Balanced, served_sink _ none empty]
      simp [quit]
    have full := restore_settled start.destinations _ begun
    dsimp only [Outcome.next]
    cases resume with
    | false => exact full
    | true =>
        have same := start_books (restore start.destinations { start with destinations := [] })
        have settled := settled_of_books _ _ same full
        rcases eq : (restore start.destinations { start with destinations := [] }).start with ⟨x | u, last⟩
        · rw [eq] at settled
          obtain ⟨⟨egress, held⟩, _⟩ := settled
          have gone := teardown_down last held.tolerant
          exact ⟨gone.idle, gone.tolerant, gone.quit, gone.bare⟩
        · rw [eq] at settled
          exact settled
  · rw [eq]
    exact fallen

end Engine

end CameraServer
