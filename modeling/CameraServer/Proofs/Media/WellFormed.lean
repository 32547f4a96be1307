import CameraServer.Proofs.Media.Numbering
import CameraServer.Proofs.Media.Rewiring

/-!
The structure of a graph that began empty. Main statements: whatever is done to it, its links join distinct
pairs of stages that are in it, its history keeps up with the signals that change destination lists, the last
list in the history is that of the stage that was told last, as long as this stage lasts, and its recording
stages ask for their places in a row.
-/

set_option autoImplicit false

namespace CameraServer.Media.Graph

/-! ### What a step does -/

def listings (g : Graph) : List (Target × Signal) := g.signals.filter (·.2.changesList)

variable {σ : Type} (sink : FragmentSink σ)

structure Tells (name : String) (signal : Signal) (gs next : Graph × σ) : Prop where
  changes : signal.changesList = true
  done : (Call.emit (.stage name) signal).perform sink gs = (.ok (), next)

inductive Step.Moves (step : Step) (gs next : Graph × σ) : Prop where
  | quiet (outline : gs.1.outline.Rewires (fun name => step.frees name gs.1 = true) next.1.outline)
      (listings : next.1.listings = gs.1.listings)
  | listed (name : String) (signal : Signal) (call : step = .call (.emit (.stage name) signal))
      (told : Tells sink name signal gs next)

theorem listings_of_signals (g next : Graph) (same : next.signals = g.signals) : next.listings = g.listings := by
  rw [listings, same, listings]

section Moves

variable (gs : Graph × σ)

theorem within_moves (call : Call) (r : Except GraphError Unit × Graph) (wires : Wires gs.1 r.2)
    (outline : gs.1.outline.Rewires (fun name => (Step.call call).frees name gs.1 = true) r.2.outline) :
    (Step.call call).Moves sink gs (within r gs.2).2 :=
  .quiet outline (listings_of_signals _ _ wires.signals)

theorem set_state_signals (state : PlayState) : (setState sink state gs.1 gs.2).2.1.signals = gs.1.signals := by
  apply state_of_ends _ _ _ (·.1.signals = gs.1.signals) (gs.1.set_state_changes sink gs.2 state)
  · rintro _ (rfl | ⟨_, rfl⟩)
    · rfl
    · exact (open_each_wires sink _ (gs.1.moved state, gs.2)).signals
  · exact fun next refused => (gs.1.refused_wires _ next.1 refused.1).signals

theorem tells_lists (name : String) (signal : Signal) (next : Graph × σ) (told : Tells sink name signal gs next) :
    ∃ f list, gs.1.layout.get? name = some f ∧ next.1.outline = gs.1.outline.changeList name f list ∧
      next.1.listings = gs.1.listings ++ [(.stage name, signal)] := by
  obtain ⟨changes, done⟩ := told
  have ended := gs.1.emit_changes sink gs.2 (.stage name) signal
  rw [show emit sink (.stage name) signal gs.1 gs.2 = (.ok (), next) from done] at ended
  rcases ended with ⟨rfl, _⟩ | ⟨other, stage, list, here, _, read, rfl⟩ | ⟨_, _, rfl, _⟩
  · cases changes
  · cases here
    refine ⟨stage.fitting, list, by rw [layout_get, read, Option.map_some], ?_, ?_⟩
    · exact change_destinations_outline gs.1 name stage list
    · simp [listings, logSignal, changeDestinations, modifyStage, changes]
  · cases changes

theorem emit_moves (target : Target) (signal : Signal) :
    (Step.call (.emit target signal)).Moves sink gs (emit sink target signal gs.1 gs.2).2 := by
  have changes := gs.1.emit_changes sink gs.2 target signal
  rcases ends_cases _ _ _ changes with ⟨next, eq, good⟩ | ⟨x, next, eq, refused, _⟩
  · rw [eq]
    rcases good with ⟨rfl, rfl⟩ | ⟨name, stage, list, rfl, lists, _, rfl⟩ | ⟨name, rfl, rfl, rfl⟩
    · exact .quiet .still (by simp [listings, logSignal, pushEvent, Signal.changesList])
    · exact .listed name signal rfl ⟨lists, eq⟩
    · refine .quiet (rewires_same _ _ _ (open_fragment_outline sink name gs.1 gs.2)) ?_
      have same := (open_fragment_wires sink name gs.1 gs.2).signals
      simp [listings, logSignal, same, Signal.changesList]
  · rw [eq]
    refine .quiet (rewires_same _ _ _ (refused_outline gs.1 _ next.1 refused)) ?_
    exact listings_of_signals _ _ (gs.1.refused_wires _ next.1 refused).signals

theorem perform_moves (call : Call) : (Step.call call).Moves sink gs (call.perform sink gs).2 := by
  cases call with
  | build spec => exact within_moves sink gs _ _ (gs.1.build_wires spec) (build_rewires _ gs.1 spec)
  | add name => exact within_moves sink gs _ _ (gs.1.add_wires name) (add_rewires _ gs.1 name)
  | remove name => exact within_moves sink gs _ _ (gs.1.remove_wires name) (remove_rewires _ gs.1 name)
  | release name =>
      apply within_moves sink gs _ _ (gs.1.release_wires name) (release_rewires _ gs.1 name _)
      intro released
      simp [Step.frees, released]
  | link up down => exact within_moves sink gs _ _ (gs.1.link_wires up down) (link_rewires _ gs.1 up down)
  | unlink up down => exact within_moves sink gs _ _ (gs.1.unlink_wires up down) (unlink_rewires _ gs.1 up down)
  | setState target state =>
      cases target with
      | graph =>
          have same := set_state_outline sink state gs.1 gs.2
          exact .quiet (rewires_same _ _ _ same) (listings_of_signals _ _ (set_state_signals sink gs state))
      | stage name =>
          have same := set_stage_state_outline gs.1 name state
          exact within_moves sink gs _ _ (gs.1.set_stage_state_wires name state) (rewires_same _ _ _ same)
  | sync name =>
      have same := sync_outline sink name gs.1 gs.2
      exact .quiet (rewires_same _ _ _ same) (listings_of_signals _ _ (sync_wires sink name gs.1 gs.2).signals)
  | query => exact within_moves sink gs _ _ gs.1.query_wires (rewires_same _ _ _ gs.1.query_outline)
  | emit target signal => exact emit_moves sink gs target signal

theorem step_moves (step : Step) : step.Moves sink gs (step.apply sink gs) := by
  cases step with
  | call call => exact perform_moves sink gs call
  | inject injection =>
      refine .quiet (rewires_same _ _ _ (injection.apply_outline gs.1)) (listings_of_signals _ _ ?_)
      obtain ⟨lasting, once, same⟩ := injection.apply_points gs.1
      rw [Step.apply, same]
  | post event => exact .quiet .still rfl
  | poll =>
      refine .quiet (rewires_same _ _ _ gs.1.pop_event_outline) (listings_of_signals _ _ ?_)
      obtain ⟨events, popped⟩ := gs.1.pop_event_changes
      rw [Step.apply, popped]
  | dump tag => exact .quiet .still rfl
  | reset => exact .quiet (.clear fun _ => rfl) rfl

end Moves

/-! ### What a run keeps -/

structure WellFormed (g : Graph) : Prop where
  names : (g.stages.map (·.1)).Nodup
  joined : ∀ l ∈ g.links, g.hasParent l.1 = true ∧ g.hasParent l.2 = true
  once : g.links.Nodup
  loose : ∀ entry ∈ g.stages, entry.2.parented = false → ∀ l ∈ g.links, l.1 ≠ entry.1 ∧ l.2 ≠ entry.1
  recorded : g.history.length = g.listings.length

structure Kept (g : Graph) : Prop where
  neat : g.outline.Neat
  recorded : g.outline.history.length = g.listings.length

theorem well_formed_of_kept (g : Graph) (kept : g.Kept) : g.WellFormed := by
  have names : (g.stages.map (·.1)).Nodup := by simpa [outline, layout, Function.comp_def] using kept.neat.names
  have joined (l : String × String) (member : l ∈ g.links) (name : String) (touches : l.1 = name ∨ l.2 = name) :
      g.hasParent name = true := by
    rw [has_parent_layout]
    exact kept.neat.joined name ⟨l, member, touches⟩
  refine ⟨names, fun l member => ⟨joined l member _ (.inl rfl), joined l member _ (.inr rfl)⟩, kept.neat.once, ?_,
    kept.recorded⟩
  intro entry member floats l linked
  have read : g.stage? entry.1 = some entry.2 := under_of_member g.stages entry.1 names entry.2 member
  have outside : g.hasParent entry.1 = false := by rw [hasParent, read, Option.any_some, floats]
  constructor
  · exact fun same => Bool.false_ne_true (outside.symm.trans (joined l linked _ (.inl same)))
  · exact fun same => Bool.false_ne_true (outside.symm.trans (joined l linked _ (.inr same)))

theorem moves_kept (step : Step) (gs next : Graph × σ) (moves : step.Moves sink gs next) (kept : gs.1.Kept) :
    next.1.Kept := by
  cases moves with
  | quiet outline listings =>
      refine ⟨Outline.rewires_neat _ _ _ outline kept.neat, ?_⟩
      rw [Outline.rewires_history _ _ _ outline, listings, kept.recorded]
  | listed name signal _ told =>
      obtain ⟨f, list, found, outline, listings⟩ := tells_lists sink gs name signal next told
      constructor
      · rw [outline]
        exact Outline.change_list_neat gs.1.outline name f list found kept.neat
      · rw [outline, listings, Outline.changeList, List.length_append, List.length_append, kept.recorded]
        rfl

theorem run_kept (steps : List Step) (gs : Graph × σ) (kept : gs.1.Kept) : (run sink steps gs).1.Kept := by
  induction steps generalizing gs with
  | nil => exact kept
  | cons step rest ih => exact ih _ (moves_kept sink step gs _ (step_moves sink gs step) kept)

/-! ### The last list in the history -/

theorem run_listings (steps : List Step) (gs : Graph × σ) :
    ∃ more, (run sink steps gs).1.listings = gs.1.listings ++ more := by
  induction steps generalizing gs with
  | nil => exact ⟨[], (List.append_nil _).symm⟩
  | cons step rest ih =>
      obtain ⟨more, later⟩ := ih (step.apply sink gs)
      cases step_moves sink gs step with
      | quiet outline listings => exact ⟨more, by rw [run, later, listings]⟩
      | listed name signal _ told =>
          obtain ⟨_, _, _, _, listings⟩ := tells_lists sink gs name signal _ told
          exact ⟨[(.stage name, signal)] ++ more, by rw [run, later, listings, List.append_assoc]⟩

-- As long as no stage is told to change its list, a stage that lasts stays the one with the last list.
theorem run_current (name : String) (steps : List Step) (gs : Graph × σ) (stays : lasts sink name steps gs = true)
    (untold : (run sink steps gs).1.listings = gs.1.listings) (current : gs.1.outline.Current name) :
    (run sink steps gs).1.outline.Current name := by
  induction steps generalizing gs with
  | nil => exact current
  | cons step rest ih =>
      rw [lasts, Bool.and_eq_true, Bool.not_eq_true'] at stays
      cases step_moves sink gs step with
      | quiet outline listings =>
          have first := Outline.rewires_current _ _ _ name outline (by simp [stays.1]) current
          exact ih _ stays.2 (untold.trans listings.symm) first
      | listed other signal _ told =>
          obtain ⟨_, _, _, _, listings⟩ := tells_lists sink gs other signal _ told
          obtain ⟨more, later⟩ := run_listings sink rest (step.apply sink gs)
          rw [run, later, listings] at untold
          simp at untold

structure ToldLast (steps : List Step) (gs : Graph × σ) (name : String) (signal : Signal) (before later : List Step)
    (told : Graph × σ) : Prop where
  split : steps = before ++ .call (.emit (.stage name) signal) :: later
  tells : Tells sink name signal (run sink before gs) told
  last : (run sink steps gs).1.listings = told.1.listings

theorem run_told (steps : List Step) (gs : Graph × σ) :
    (run sink steps gs).1.listings = gs.1.listings ∨
      ∃ name signal before later told, ToldLast sink steps gs name signal before later told := by
  induction steps generalizing gs with
  | nil => exact .inl rfl
  | cons step rest ih =>
      rcases ih (step.apply sink gs) with untold | ⟨name, signal, before, later, told, last⟩
      · cases step_moves sink gs step with
        | quiet outline listings => exact .inl (untold.trans listings)
        | listed name signal call told => exact .inr ⟨name, signal, [], rest, _, by rw [call]; rfl, told, untold⟩
      · exact .inr ⟨name, signal, step :: before, later, told, by rw [last.split]; rfl, last.tells, last.last⟩

theorem told_last_entry (steps : List Step) (gs : Graph × σ) (name : String) (signal : Signal) (before later : List Step)
    (told : Graph × σ) (last : ToldLast sink steps gs name signal before later told) :
    (run sink steps gs).1.listings.getLast? = some (.stage name, signal) := by
  obtain ⟨_, _, _, _, listings⟩ := tells_lists sink _ name signal told last.tells
  rw [last.last, listings, List.getLast?_concat]

theorem told_last_current (steps : List Step) (gs : Graph × σ) (name : String) (signal : Signal)
    (before later : List Step) (told : Graph × σ) (last : ToldLast sink steps gs name signal before later told)
    (stays : lasts sink name later told = true) : (run sink steps gs).1.outline.Current name := by
  obtain ⟨f, list, found, outline, _⟩ := tells_lists sink _ name signal told last.tells
  have current : told.1.outline.Current name := by
    rw [outline]
    exact Outline.change_list_current _ name f list found
  have whole : run sink steps gs = run sink later told := by
    rw [last.split, run_append, run, Step.apply, last.tells.done]
  rw [whole]
  exact run_current sink name later told stays (whole ▸ last.last) current

theorem built_counter (g next : Graph) (name : String) (built : g.build ⟨name, .recording⟩ = (.ok (), next)) :
    next.counter? name = some 0 := by
  have changes := g.build_changes ⟨name, .recording⟩
  rw [built] at changes
  obtain ⟨vacant, rfl⟩ := changes
  have absent : g.stages.find? (·.1 = name) = none := by simpa [hasStage, stage?] using vacant
  simp [counter?, stage?, List.find?_append, absent]

/-! ### Graphs that began empty -/

def reached (steps : List Step) (s : σ) : Graph × σ := run sink steps ({}, s)

theorem reached_well_formed (steps : List Step) (s : σ) :
    (reached sink steps s).1.WellFormed ∧
      (∀ target signal, (reached sink steps s).1.listings.getLast? = some (target, signal) →
        ∃ name before later told, target = .stage name ∧ ToldLast sink steps ({}, s) name signal before later told) ∧
      (∀ name signal before later told, ToldLast sink steps ({}, s) name signal before later told →
        lasts sink name later told = true →
        ∃ stage, (reached sink steps s).1.stage? name = some stage ∧
          (reached sink steps s).1.history.getLast? = some stage.destinations) ∧
      ∀ before name life born, steps = before ++ .call (.build ⟨name, .recording⟩) :: life →
        (Call.build ⟨name, .recording⟩).perform sink (reached sink before s) = (.ok (), born) →
        lasts sink name life born = true → (asked sink name life born).length < UInt32.size →
        (asked sink name life born).map UInt32.toNat = List.range (asked sink name life born).length := by
  have loose (name : String) (joins : (outline {}).Joins name) : (outline {}).layout.parented name = true := by
    obtain ⟨l, member, _⟩ := joins
    cases member
  have empty : Kept {} := ⟨⟨List.nodup_nil, loose, List.nodup_nil⟩, rfl⟩
  refine ⟨well_formed_of_kept _ (run_kept sink steps _ empty), ?_, ?_, ?_⟩
  · intro target signal entry
    rcases run_told sink steps ({}, s) with untold | ⟨name, other, before, later, told, last⟩
    · rw [reached, untold] at entry
      cases entry
    · cases entry.symm.trans (told_last_entry sink steps _ name other before later told last)
      exact ⟨name, before, later, told, rfl, last⟩
  · intro name signal before later told last stays
    obtain ⟨f, found, latest⟩ := told_last_current sink steps _ name signal before later told last stays
    obtain ⟨stage, read, rfl⟩ := Option.map_eq_some_iff.mp ((layout_get _ name).symm.trans found)
    exact ⟨stage, read, latest⟩
  · intro before name life born _ built stays few
    have one := congrArg (fun r => (r.1, r.2.1)) built
    exact asked_from_zero sink name life born (built_counter _ _ name one) stays few

-- A recording is joined to the fan-out, plays and is split; the sink gets two destinations and loses one, and
-- failures come and go.
def session : List Step :=
  [ .call (.build ⟨fanOutName, .fanOut⟩),
    .call (.add fanOutName),
    .call (.build ⟨egressName, .egress⟩),
    .call (.emit (.stage egressName) (.addDestination ⟨"10.0.0.1", 5000⟩)),
    .inject (.failOnce (.signal "add")),
    .call (.emit (.stage egressName) (.addDestination ⟨"10.0.0.2", 5000⟩)),
    .call (.emit (.stage egressName) (.addDestination ⟨"10.0.0.2", 5000⟩)),
    .call (.build ⟨recordingName, .recording⟩),
    .call (.add recordingName),
    .call (.link fanOutName recordingName),
    .call (.link fanOutName recordingName),
    .call (.setState .graph .playing),
    .call (.emit (.stage egressName) (.removeDestination ⟨"10.0.0.1", 5000⟩)),
    .call (.emit (.stage recordingName) .splitAfter),
    .call (.release fanOutName) ]

theorem session_well_formed :
    (reached nowhere session ()).1.WellFormed ∧
      (∃ name before later told, Target.stage egressName = .stage name ∧
        ToldLast nowhere session ({}, ()) name (.removeDestination ⟨"10.0.0.1", 5000⟩) before later told) ∧
      (∃ stage, (reached nowhere session ()).1.stage? egressName = some stage ∧
        (reached nowhere session ()).1.history.getLast? = some stage.destinations ∧
        stage.destinations = [⟨"10.0.0.2", 5000⟩]) ∧
      (asked nowhere recordingName (session.drop 8) (reached nowhere (session.take 8) ())).map UInt32.toNat = [0, 1] := by
  obtain ⟨formed, somewhere, current, row⟩ := reached_well_formed nowhere session ()
  have last : ToldLast nowhere session ({}, ()) egressName (.removeDestination ⟨"10.0.0.1", 5000⟩) (session.take 12)
      (session.drop 13) (reached nowhere (session.take 13) ()) := ⟨rfl, ⟨rfl, rfl⟩, rfl⟩
  obtain ⟨stage, read, latest⟩ := current _ _ _ _ _ last (by decide)
  refine ⟨formed, somewhere _ _ rfl, ⟨stage, read, latest, ?_⟩, ?_⟩
  · cases read.symm.trans (by rfl : (reached nowhere session ()).1.stage? egressName = some _)
    rfl
  · refine (row (session.take 7) recordingName (session.drop 8) _ rfl rfl ?_ ?_).trans ?_
    · decide
    · decide
    · decide

end CameraServer.Media.Graph
