import CameraServer.Proofs.Pipeline.Ledger

/-!
The egress branch of a constructed graph. The fixed stages and their links stay as they are; what
changes is whether there is an egress stage, whether it is linked, and what its sink holds. Main
statements: a failed attachment leaves no floating stage and an empty sink, a failed detachment
leaves the sink as it was.
-/

set_option autoImplicit false

namespace CameraServer

open Media

namespace Media

structure Egress where
  parented : Bool
  linked : Bool
  sink : List Endpoint
deriving DecidableEq, Repr

def Egress.fitting (b : Egress) : Fitting := ⟨.egress, b.parented, b.sink⟩

def fixedLayout : Layout :=
  [(captureName, ⟨.capture, true, []⟩), (fanOutName, ⟨.fanOut, true, []⟩),
    (recordingName, ⟨.recording, true, []⟩)]

def fixedLinks : List (String × String) :=
  [(captureName, fanOutName), (fanOutName, recordingName)]

def egressLayout : Option Egress → Layout
  | none => []
  | some b => [(egressName, b.fitting)]

def egressLinks : Option Egress → List (String × String)
  | none => []
  | some b => if b.linked then [(fanOutName, egressName)] else []

namespace Outline

def fixed (egress : Option Egress) (history : List (List Endpoint)) : Outline :=
  ⟨fixedLayout ++ egressLayout egress, fixedLinks ++ egressLinks egress, history⟩

variable (b : Egress) (history : List (List Endpoint))

theorem fixed_build : (fixed none history).build .egress = fixed (some ⟨false, false, []⟩) history := rfl

theorem fixed_add :
    (fixed (some b) history).add egressName = fixed (some { b with parented := true }) history := by
  simp [fixed, add, Layout.adjust, fixedLayout, egressLayout, egressLinks, Egress.fitting, captureName,
    fanOutName, recordingName, egressName]

theorem fixed_remove :
    (fixed (some b) history).remove egressName =
      fixed (some { b with parented := false, linked := false }) history := by
  cases linked : b.linked <;>
    simp [fixed, remove, Layout.adjust, fixedLayout, fixedLinks, egressLayout, egressLinks,
      Egress.fitting, captureName, fanOutName, recordingName, egressName, linked]

theorem fixed_release (loose : b.linked = false) :
    (fixed (some b) history).release egressName = fixed none history := by
  simp [fixed, release, fixedLayout, egressLayout, egressLinks, captureName, fanOutName,
    recordingName, egressName, loose]

theorem fixed_link (loose : b.linked = false) :
    (fixed (some b) history).link fanOutName egressName =
      fixed (some { b with linked := true }) history := by
  simp [fixed, link, egressLayout, egressLinks, Egress.fitting, loose]

theorem fixed_unlink :
    (fixed (some b) history).unlink fanOutName egressName =
      fixed (some { b with linked := false }) history := by
  cases linked : b.linked <;>
    simp [fixed, unlink, fixedLinks, egressLayout, egressLinks, Egress.fitting, captureName,
      fanOutName, recordingName, egressName, linked]

theorem fixed_change_list (list : List Endpoint) :
    (fixed (some b) history).changeList egressName b.fitting list =
      fixed (some { b with sink := list }) (history ++ [list]) := by
  simp [fixed, changeList, Layout.adjust, fixedLayout, egressLayout, egressLinks, Egress.fitting,
    captureName, fanOutName, recordingName, egressName]

theorem fixed_get_egress (egress : Option Egress) :
    (fixed egress history).layout.get? egressName = egress.map Egress.fitting := by
  cases egress <;>
    simp [fixed, Layout.get?, fixedLayout, egressLayout, captureName, fanOutName, recordingName,
      egressName]

theorem fixed_get_fan_out (egress : Option Egress) :
    (fixed egress history).layout.get? fanOutName = some ⟨.fanOut, true, []⟩ := by
  simp [fixed, Layout.get?, fixedLayout, captureName, fanOutName]

end Outline

end Media

namespace Engine

structure Stands (e : Engine) (l : Ledger) (egress : Option Egress) (history : List (List Endpoint)) :
    Prop where
  ledger : e.ledger = l
  outline : e.graph.outline = .fixed egress history

section Stands

variable (e : Engine) (l : Ledger) (egress : Option Egress) (b : Egress)
variable (history : List (List Endpoint))

theorem stands_of_books (next : Engine) (same : next.books = e.books) (stands : e.Stands l egress history) :
    next.Stands l egress history :=
  ⟨(congrArg Books.ledger same).trans stands.ledger, (congrArg Books.outline same).trans stands.outline⟩

theorem stands_relisted (list : List Endpoint) (stands : e.Stands l egress history) :
    Stands { e with destinations := list } { l with destinations := list } egress history :=
  ⟨congrArg (fun l : Ledger => { l with destinations := list }) stands.ledger, stands.outline⟩

theorem stands_get_egress (stands : e.Stands l egress history) :
    e.graph.layout.get? egressName = egress.map Egress.fitting := by
  rw [show e.graph.layout = _ from congrArg Outline.layout stands.outline]
  exact Outline.fixed_get_egress history egress

theorem stands_has_egress (stands : e.Stands l egress history) :
    e.graph.hasParent egressName = egress.any (·.parented) := by
  rw [Graph.has_parent_layout, stands_get_egress e l egress history stands]
  cases egress <;> rfl

theorem stands_has_egress_stage (stands : e.Stands l egress history) :
    e.graph.hasStage egressName = egress.isSome := by
  rw [Graph.has_stage_layout, stands_get_egress e l egress history stands]
  cases egress <;> rfl

theorem stands_sink (stands : e.Stands l egress history) :
    e.graph.sink = (egress.map (·.sink)).getD [] := by
  rw [Graph.sink_layout, stands_get_egress e l egress history stands]
  cases egress <;> rfl

theorem stands_has_fan_out (stands : e.Stands l egress history) :
    e.graph.hasParent fanOutName = true := by
  rw [Graph.has_parent_layout, show e.graph.layout = _ from congrArg Outline.layout stands.outline,
    Outline.fixed_get_fan_out]
  rfl

/-! ### Calls on the egress stage -/

theorem with_graph_ends (r : Except GraphError Unit × Graph) (change : Outline → Outline)
    (after : Option Egress)
    (ended : Ends r (fun g => g.outline = change e.graph.outline) (fun g => g.outline = e.graph.outline))
    (changed : change (.fixed egress history) = .fixed after history)
    (stands : e.Stands l egress history) :
    Ends (e.withGraph r) (·.Stands l after history) (·.Stands l egress history) := by
  obtain ⟨result, g⟩ := r
  cases result with
  | ok u =>
      have outlined : g.outline = change e.graph.outline := ended
      exact ⟨stands.ledger, by rw [← changed, ← stands.outline]; exact outlined⟩
  | error x =>
      have outlined : g.outline = e.graph.outline := ended
      exact ⟨stands.ledger, outlined.trans stands.outline⟩

theorem build_egress_ends (stands : e.Stands l none history) :
    Ends (e.buildStage .egress) (·.Stands l (some ⟨false, false, []⟩) history)
      (·.Stands l none history) :=
  with_graph_ends e l none history _ _ _ (Graph.build_ends e.graph .egress)
    (Outline.fixed_build history) stands

theorem add_egress_ends (stands : e.Stands l (some b) history) :
    Ends (e.addStage egressName) (·.Stands l (some { b with parented := true }) history)
      (·.Stands l (some b) history) :=
  with_graph_ends e l (some b) history _ _ _ (Graph.add_ends e.graph egressName)
    (Outline.fixed_add b history) stands

theorem remove_egress_ends (stands : e.Stands l (some b) history) :
    Ends (e.removeStage egressName)
      (·.Stands l (some { b with parented := false, linked := false }) history)
      (·.Stands l (some b) history) :=
  with_graph_ends e l (some b) history _ _ _ (Graph.remove_ends e.graph egressName)
    (Outline.fixed_remove b history) stands

theorem link_egress_ends (loose : b.linked = false) (stands : e.Stands l (some b) history) :
    Ends (e.link fanOutName egressName) (·.Stands l (some { b with linked := true }) history)
      (·.Stands l (some b) history) :=
  with_graph_ends e l (some b) history _ _ _ (Graph.link_ends e.graph fanOutName egressName)
    (Outline.fixed_link b history loose) stands

theorem unlink_egress_ends (stands : e.Stands l (some b) history) :
    Ends (e.unlink fanOutName egressName) (·.Stands l (some { b with linked := false }) history)
      (·.Stands l (some b) history) :=
  with_graph_ends e l (some b) history _ _ _ (Graph.unlink_ends e.graph fanOutName egressName)
    (Outline.fixed_unlink b history) stands

theorem release_egress (tolerant : l.refusals = {}) (floating : b.parented = false)
    (loose : b.linked = false) (stands : e.Stands l (some b) history) :
    (e.releaseStage egressName).2.Stands l none history := by
  have willing : e.refusals.release = false := by
    rw [show e.refusals = {} from (congrArg (·.refusals) stands.ledger).trans tolerant]
  have read := stands_get_egress e l (some b) history stands
  have released := Graph.release_floating e.graph egressName b.fitting read floating
  rw [stands.outline, Outline.fixed_release b history loose] at released
  simp only [releaseStage, willing, Bool.false_eq_true, if_false]
  exact ⟨stands.ledger, released⟩

theorem set_egress_state (state : PlayState) (stands : e.Stands l egress history) :
    (e.setStageState egressName state).2.Stands l egress history := by
  rw [setStageState]
  split
  · exact stands
  · exact ⟨stands.ledger, (Graph.set_stage_state_outline e.graph egressName state).trans stands.outline⟩

theorem emit_egress_ends (signal : Signal) (change : List Endpoint → List Endpoint)
    (plain : signal ≠ .endOfStream)
    (emitted : Ends (Graph.emit Site.sink (.stage egressName) signal e.graph e.site)
      (fun next => ∃ f, e.graph.layout.get? egressName = some f ∧
        next.1.outline = e.graph.outline.changeList egressName f (change f.destinations))
      (fun next => next.1.outline = e.graph.outline))
    (stands : e.Stands l egress history) :
    Ends (e.emit (.stage egressName) signal)
      (fun next => ∃ b, egress = some b ∧
        next.Stands l (some { b with sink := change b.sink }) (history ++ [change b.sink]))
      (·.Stands l egress history) := by
  have read := stands_get_egress e l egress history stands
  have heard : ¬ (e.refusals.endOfStreamLost = true ∧ signal = .endOfStream) := fun both => plain both.2
  rw [emit, if_neg heard]
  rcases eq : Graph.emit Site.sink (.stage egressName) signal e.graph e.site with ⟨x | u, g, s⟩
  · rw [eq] at emitted
    have outlined : g.outline = e.graph.outline := emitted
    exact ⟨stands.ledger, outlined.trans stands.outline⟩
  · rw [eq] at emitted
    obtain ⟨f, found, outlined⟩ := emitted
    cases egress with
    | none => cases found.symm.trans read
    | some b =>
        have fit : f = b.fitting := Option.some.inj (found.symm.trans read)
        rw [fit, stands.outline, Outline.fixed_change_list] at outlined
        exact ⟨b, rfl, stands.ledger, outlined⟩

theorem emit_add_egress_ends (endpoint : Endpoint) (stands : e.Stands l egress history) :
    Ends (e.emitAdd endpoint)
      (fun next => ∃ b, egress = some b ∧ next.Stands l (some { b with sink := b.sink ++ [endpoint] })
        (history ++ [b.sink ++ [endpoint]]))
      (·.Stands l egress history) :=
  emit_egress_ends e l egress history _ (· ++ [endpoint]) (by simp)
    (Graph.emit_add_ends Site.sink egressName endpoint e.graph e.site) stands

theorem emit_remove_egress_ends (endpoint : Endpoint) (stands : e.Stands l egress history) :
    Ends (e.emitRemove endpoint)
      (fun next => ∃ b, egress = some b ∧ next.Stands l (some { b with sink := b.sink.erase endpoint })
        (history ++ [b.sink.erase endpoint]))
      (·.Stands l egress history) :=
  emit_egress_ends e l egress history _ (·.erase endpoint) (by simp)
    (Graph.emit_remove_ends Site.sink egressName endpoint e.graph e.site) stands

/-! ### Attaching and detaching -/

-- What a failed attachment may leave: a stage in the graph, linked or not, but nobody on its sink.
def Quiet (egress : Option Egress) : Prop := ∀ b ∈ egress, b.parented = true ∧ b.sink = []

theorem discard_parented_quiet (tolerant : l.refusals = {}) (placed : b.parented = true)
    (empty : b.sink = []) (stands : e.Stands l (some b) history) :
    ∃ egress, Quiet egress ∧ (e.discardParented egressName).Stands l egress history := by
  rw [discardParented]
  rcases ends_cases _ _ _ (remove_egress_ends e l b history stands) with
    ⟨next, eq, removed⟩ | ⟨x, next, eq, kept⟩
  · rw [eq]
    exact ⟨none, by simp [Quiet], release_egress next l _ history tolerant rfl rfl removed⟩
  · rw [eq]
    exact ⟨some b, by simp [Quiet, placed, empty], kept⟩

theorem join_egress_ends (tolerant : l.refusals = {}) (stands : e.Stands l (some ⟨false, false, []⟩) history) :
    Ends (e.joinBranch egressName) (·.Stands l (some ⟨true, true, []⟩) history)
      (fun next => ∃ egress, Quiet egress ∧ next.Stands l egress history) := by
  rw [joinBranch]
  rcases ends_cases _ _ _ (add_egress_ends e l _ history stands) with ⟨one, eq, added⟩ | ⟨x, one, eq, kept⟩
  · rw [eq]
    dsimp only at added ⊢
    rcases ends_cases _ _ _ (link_egress_ends one l _ history rfl added) with
      ⟨two, eq, linked⟩ | ⟨x, two, eq, loose⟩
    · rw [eq]
      dsimp only at linked ⊢
      have synced := stands_of_books two l _ history _ (sync_stage_books egressName two) linked
      rcases eq : two.syncStage egressName with ⟨x | u, three⟩
      · rw [eq] at synced
        -- The unlinking may fail as well; then the stage is removed together with its link, or stays.
        rcases ends_cases _ _ _ (unlink_egress_ends three l _ history synced) with
          ⟨four, eq, unlinked⟩ | ⟨y, four, eq, held⟩
        · dsimp only
          rw [eq]
          exact discard_parented_quiet four l _ history tolerant rfl rfl unlinked
        · dsimp only
          rw [eq]
          exact discard_parented_quiet four l _ history tolerant rfl rfl held
      · rw [eq] at synced
        exact ⟨synced.ledger, synced.outline⟩
    · rw [eq]
      exact discard_parented_quiet two l _ history tolerant rfl rfl loose
  · rw [eq]
    exact ⟨none, by simp [Quiet], release_egress one l _ history tolerant rfl rfl kept⟩

theorem attach_egress_ends (built : l.constructed = true) (tolerant : l.refusals = {})
    (stands : e.Stands l none history) :
    Ends (e.attachBranch .egress) (·.Stands l (some ⟨true, true, []⟩) history)
      (fun next => ∃ egress, Quiet egress ∧ next.Stands l egress history) := by
  have here : e.constructed = true := (congrArg (·.constructed) stands.ledger).trans built
  have absent := stands_has_egress e l none history stands
  have vacant := stands_has_egress_stage e l none history stands
  have junction := stands_has_fan_out e l none history stands
  change e.graph.hasParent StageSpec.egress.name = false at absent
  change e.graph.hasStage StageSpec.egress.name = false at vacant
  simp only [attachBranch, ifConstructed, here, if_true, absent, Bool.false_eq_true, if_false, junction,
    Bool.not_true, clearName, vacant, Outcome.next]
  apply Outcome.next_ends _ _ (·.Stands l (some ⟨false, false, []⟩) history)
  · apply ends_mono _ _ _ _ _ (build_egress_ends e l history stands) (fun _ built => built)
    exact fun next kept => ⟨none, by simp [Quiet], kept⟩
  · exact fun next floating => join_egress_ends next l history tolerant floating

theorem retire_egress (tolerant : l.refusals = {}) (floating : b.parented = false)
    (loose : b.linked = false) (stands : e.Stands l (some b) history) :
    (e.retireBranch egressName).Stands l none history := by
  have stopped := set_egress_state e l (some b) history .null stands
  have released := release_egress _ l b history tolerant floating loose stopped
  exact ⟨released.ledger, released.outline⟩

theorem detach_egress_ends (built : l.constructed = true) (tolerant : l.refusals = {})
    (placed : b.parented = true) (stands : e.Stands l (some b) history) :
    Ends (e.detachBranch egressName) (·.Stands l none history)
      (fun next => ∃ linked, next.Stands l (some { b with linked := linked }) history) := by
  have here : e.constructed = true := (congrArg (·.constructed) stands.ledger).trans built
  have present : e.graph.hasParent egressName = true := by
    rw [stands_has_egress e l (some b) history stands]
    exact placed
  simp only [detachBranch, ifConstructed, here, if_true, present]
  apply Outcome.next_ends _ _ (·.Stands l (some { b with linked := false }) history)
  · apply ends_mono _ _ _ _ _ (unlink_egress_ends e l b history stands) (fun _ unlinked => unlinked)
    exact fun next kept => ⟨b.linked, kept⟩
  · intro next unlinked
    rcases ends_cases _ _ _ (remove_egress_ends next l _ history unlinked) with
      ⟨bare, eq, removed⟩ | ⟨x, last, eq, held⟩
    · rw [eq]
      exact retire_egress bare l _ history tolerant rfl rfl removed
    · rw [eq]
      have relinked := link_egress_ends last l _ history rfl held
      rcases ends_cases _ _ _ relinked with ⟨again, eq, linked⟩ | ⟨y, again, eq, loose⟩
      · dsimp only
        rw [eq]
        exact ⟨true, linked⟩
      · dsimp only
        rw [eq]
        exact ⟨false, loose⟩

end Stands

end Engine

end CameraServer
