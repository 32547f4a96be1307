import CameraServer.Proofs.Media.InStep
import CameraServer.Proofs.Pipeline.Resume

/-!
Attaching and detaching the egress branch when calls fail. Main statements: a call on the egress stage
fails just when its failure point does; a failed attachment is undone, and a failed detachment leaves
the branch as it was, unless taking the stage out fails together with linking or synchronising it.
-/

set_option autoImplicit false

namespace CameraServer

open Media

namespace Media.Graph

abbrev EgressInStep : Graph → Prop := InStep (· = egressName)

def DoubleFault (g : Graph) : Prop :=
  g.fails (.remove egressName) = true ∧
    (g.fails (.link egressName) = true ∨ g.fails (.sync egressName) = true)

theorem double_fault_spends (g next : Graph) (spends : Spends g next) (fault : next.DoubleFault) :
    g.DoubleFault :=
  ⟨spends _ fault.1, fault.2.imp (spends _) (spends _)⟩

theorem in_step_of_none (g : Graph) (history : List (List Endpoint)) (bare : g.outline = .fixed none history) :
    g.EgressInStep := by
  intro entry member named _
  have listed : (entry.1, entry.2.fitting) ∈ g.layout := List.mem_map_of_mem member
  rw [show g.layout = fixedLayout ++ [] from congrArg Outline.layout bare] at listed
  simp [fixedLayout, named, captureName, fanOutName, recordingName, egressName] at listed

end Media.Graph

namespace Engine

/-! ### Attaching in step -/

theorem sync_stage_in_step (e : Engine) :
    Ends (e.syncStage egressName) (·.graph.EgressInStep) (fun _ => True) := by
  have synced := Graph.sync_in_step (· = egressName) egressName e.graph Site.sink e.site
    fun _ _ both => absurd both.1 both.2
  rw [syncStage]
  rcases eq : Graph.sync Site.sink egressName e.graph e.site with ⟨x | u, g, s⟩
  · trivial
  · rw [eq] at synced
    exact synced

theorem attach_egress_in_step (e : Engine) :
    Ends (e.attachBranch .egress) (·.graph.EgressInStep) (fun _ => True) := by
  have joined : ∀ next : Engine, Ends (next.joinBranch egressName) (·.graph.EgressInStep) (fun _ => True) := by
    intro next
    rw [joinBranch]
    rcases next.addStage egressName with ⟨x | u, one⟩
    · trivial
    · dsimp only
      rcases one.link fanOutName egressName with ⟨x | u, two⟩
      · trivial
      · dsimp only
        have synced := sync_stage_in_step two
        rcases eq : two.syncStage egressName with ⟨x | u, three⟩
        · trivial
        · rw [eq] at synced
          exact synced
  apply if_constructed_ends e
  · exact fun _ => trivial
  · intro _
    split
    · trivial
    · split
      · trivial
      · apply Outcome.next_ends _ _ (fun _ => True)
        · exact ends_of_state _ (fun _ => True) _ _ trivial (fun _ _ => trivial) (fun _ _ => trivial)
        · exact fun next _ => joined next

section Stands

variable (e : Engine) (l : Ledger) (egress : Option Egress) (b : Egress) (history : List (List Endpoint))

theorem stands_linked (stands : e.Stands l egress history) :
    e.graph.isLinked fanOutName egressName = egress.any (·.linked) := by
  rw [Graph.isLinked, show e.graph.links = _ from congrArg Outline.links stands.outline]
  cases egress with
  | none => simp [Outline.fixed, fixedLinks, egressLinks, captureName, fanOutName, recordingName, egressName]
  | some b =>
      cases linked : b.linked <;>
        simp [Outline.fixed, fixedLinks, egressLinks, linked, captureName, fanOutName, recordingName, egressName]

/-! ### What makes a call on the egress stage fail -/

theorem with_graph_answers (r : Except GraphError Unit × Graph) (g : Graph) (p : FailPoint)
    (answers : Graph.Answers r g p) :
    Ends (e.withGraph r) (fun _ => g.fails p = false) (fun _ => g.fails p = true) := by
  obtain ⟨result, next⟩ := r
  cases result with
  | ok u => exact answers
  | error x => exact answers

theorem link_egress_answers (placed : b.parented = true) (loose : b.linked = false)
    (stands : e.Stands l (some b) history) :
    Ends (e.link fanOutName egressName) (fun _ => e.graph.fails (.link egressName) = false)
      (fun _ => e.graph.fails (.link egressName) = true) := by
  apply with_graph_answers
  apply Graph.link_answers
  · exact stands_has_fan_out e l _ history stands
  · exact (stands_has_egress e l _ history stands).trans placed
  · exact (stands_linked e l _ history stands).trans loose

theorem remove_egress_answers (placed : b.parented = true) (stands : e.Stands l (some b) history) :
    Ends (e.removeStage egressName) (fun _ => e.graph.fails (.remove egressName) = false)
      (fun _ => e.graph.fails (.remove egressName) = true) :=
  with_graph_answers e _ _ _ <|
    Graph.remove_answers e.graph egressName ((stands_has_egress e l _ history stands).trans placed)

theorem sync_egress_answers (placed : b.parented = true) (stands : e.Stands l (some b) history) :
    Ends (e.syncStage egressName) (fun _ => e.graph.fails (.sync egressName) = false)
      (fun _ => e.graph.fails (.sync egressName) = true) := by
  have answers := Graph.sync_answers Site.sink egressName e.graph e.site
    ((stands_has_egress e l _ history stands).trans placed)
  rw [syncStage]
  rcases eq : Graph.sync Site.sink egressName e.graph e.site with ⟨x | u, g, s⟩
  · rw [eq] at answers
    exact answers
  · rw [eq] at answers
    exact answers

/-! ### Undoing -/

theorem discard_parented_gone (tolerant : l.refusals = {}) (placed : b.parented = true)
    (willing : e.graph.fails (.remove egressName) = false) (stands : e.Stands l (some b) history) :
    (e.discardParented egressName).Stands l none history := by
  have answers := remove_egress_answers e l b history placed stands
  rw [discardParented]
  rcases ends_cases _ _ _ (remove_egress_ends e l b history stands) with
    ⟨next, eq, removed⟩ | ⟨x, next, eq, _⟩
  · rw [eq]
    exact release_egress next l _ history tolerant rfl rfl removed
  · rw [eq] at answers
    cases willing.symm.trans answers

theorem join_egress_undone (tolerant : l.refusals = {}) (single : ¬ e.graph.DoubleFault)
    (stands : e.Stands l (some ⟨false, false, []⟩) history) :
    Ends (e.joinBranch egressName) (fun _ => True) (·.Stands l none history) := by
  have willing : ∀ next : Engine, Graph.Spends e.graph next.graph →
      e.graph.fails (.link egressName) = true ∨ e.graph.fails (.sync egressName) = true →
      next.graph.fails (.remove egressName) = false := by
    intro next spends other
    apply Graph.spends_calm e.graph next.graph _ spends
    by_contra fails
    exact single ⟨by simpa using fails, other⟩
  have begun := spends_calls.add egressName e trivial
  rw [joinBranch]
  rcases ends_cases _ _ _ (add_egress_ends e l _ history stands) with ⟨one, eq, added⟩ | ⟨x, one, eq, kept⟩
  · rw [eq] at begun ⊢
    have linking := spends_calls.link fanOutName egressName one
    have answers := link_egress_answers one l _ history rfl rfl added
    dsimp only at added ⊢
    rcases ends_cases _ _ _ (link_egress_ends one l _ history rfl added) with
      ⟨two, eq, linked⟩ | ⟨x, two, eq, loose⟩
    · rw [eq] at linking ⊢
      have spent := Graph.spends_trans _ _ _ begun linking
      have syncing := spends_calls.sync egressName two trivial
      have synced := stands_of_books two l _ history _ (sync_stage_books egressName two) linked
      have answers := sync_egress_answers two l _ history rfl linked
      dsimp only
      rcases eq : two.syncStage egressName with ⟨x | u, three⟩
      · rw [eq] at syncing synced answers
        have spent' := Graph.spends_trans _ _ _ spent syncing
        have unlinking := spends_calls.unlink fanOutName egressName three
        have able := willing (three.unlink fanOutName egressName).2 (Graph.spends_trans _ _ _ spent' unlinking)
          (.inr (spent _ answers))
        -- With its link or without, the stage can be taken out.
        rcases ends_cases _ _ _ (unlink_egress_ends three l _ history synced) with
          ⟨four, eq, unlinked⟩ | ⟨y, four, eq, held⟩
        · dsimp only
          rw [eq] at able ⊢
          exact discard_parented_gone four l _ history tolerant rfl able unlinked
        · dsimp only
          rw [eq] at able ⊢
          exact discard_parented_gone four l _ history tolerant rfl able held
      · trivial
    · rw [eq] at linking answers ⊢
      have able := willing two (Graph.spends_trans _ _ _ begun linking) (.inl (begun _ answers))
      exact discard_parented_gone two l _ history tolerant rfl able loose
  · rw [eq]
    exact release_egress one l _ history tolerant rfl rfl kept

theorem attach_egress_undone (built : l.constructed = true) (tolerant : l.refusals = {})
    (single : ¬ e.graph.DoubleFault) (stands : e.Stands l none history) :
    Ends (e.attachBranch .egress) (·.Stands l (some ⟨true, true, []⟩) history) (·.Stands l none history) := by
  have here : e.constructed = true := (congrArg (·.constructed) stands.ledger).trans built
  have attached := attach_egress_ends e l history built tolerant stands
  have absent := stands_has_egress e l none history stands
  have vacant := stands_has_egress_stage e l none history stands
  have junction := stands_has_fan_out e l none history stands
  change e.graph.hasParent StageSpec.egress.name = false at absent
  change e.graph.hasStage StageSpec.egress.name = false at vacant
  have undone : Ends (e.attachBranch .egress) (fun _ => True) (·.Stands l none history) := by
    simp only [attachBranch, ifConstructed, here, if_true, absent, Bool.false_eq_true, if_false, junction,
      Bool.not_true, clearName, vacant, Outcome.next]
    have building := spends_calls.build .egress e
    rcases ends_cases _ _ _ (build_egress_ends e l history stands) with ⟨next, eq, floating⟩ | ⟨x, next, eq, kept⟩
    · rw [eq] at building ⊢
      have still : ¬ next.graph.DoubleFault := fun fault => single (Graph.double_fault_spends _ _ building fault)
      exact join_egress_undone next l history tolerant still floating
    · rw [eq]
      exact kept
  rcases eq : e.attachBranch .egress with ⟨x | u, next⟩
  · rw [eq] at undone
    exact undone
  · rw [eq] at attached
    exact attached

theorem detach_egress_refused (built : l.constructed = true) (tolerant : l.refusals = {})
    (placed : b.parented = true) (linked : b.linked = true) (single : ¬ e.graph.DoubleFault)
    (inStep : e.graph.EgressInStep) (stands : e.Stands l (some b) history) :
    Ends (e.detachBranch egressName) (·.Stands l none history)
      (fun next => next.Stands l (some b) history ∧ next.graph.EgressInStep) := by
  have here : e.constructed = true := (congrArg (·.constructed) stands.ledger).trans built
  have present : e.graph.hasParent egressName = true := (stands_has_egress e l _ history stands).trans placed
  have unlinking := Graph.unlink_steady e.graph fanOutName egressName
  have level : (e.unlink fanOutName egressName).2.graph.EgressInStep :=
    Graph.in_step_of_stages _ e.graph _ (Graph.unlink_stages e.graph fanOutName egressName) unlinking.state inStep
  have begun := spends_calls.unlink fanOutName egressName e
  simp only [detachBranch, ifConstructed, here, if_true, present]
  rcases ends_cases _ _ _ (unlink_egress_ends e l b history stands) with ⟨one, eq, loose⟩ | ⟨x, one, eq, kept⟩
  · rw [eq] at level begun ⊢
    have removing := spends_calls.remove egressName one
    have level := Graph.remove_in_step _ egressName one.graph level
    change (one.removeStage egressName).2.graph.EgressInStep at level
    have answers := remove_egress_answers one l { b with linked := false } history placed loose
    dsimp only [Outcome.next]
    rcases ends_cases _ _ _ (remove_egress_ends one l _ history loose) with ⟨two, eq, removed⟩ | ⟨x, two, eq, held⟩
    · rw [eq]
      exact retire_egress two l _ history tolerant rfl rfl removed
    · rw [eq] at removing level answers ⊢
      have linking := Graph.link_steady two.graph fanOutName egressName
      have relinked := link_egress_answers two l { b with linked := false } history placed rfl held
      have level : (two.link fanOutName egressName).2.graph.EgressInStep :=
        Graph.in_step_of_stages _ two.graph _ (Graph.link_stages two.graph fanOutName egressName) linking.state level
      dsimp only
      rcases ends_cases _ _ _ (link_egress_ends two l _ history rfl held) with ⟨three, eq, back⟩ | ⟨y, three, eq, _⟩
      · rw [eq] at level ⊢
        have same : ({ parented := b.parented, linked := true, sink := b.sink } : Egress) = b := by rw [← linked]
        exact ⟨same ▸ back, level⟩
      · rw [eq] at relinked
        exact absurd ⟨begun _ answers, .inl (begun _ (removing _ relinked))⟩ single
  · rw [eq] at level ⊢
    exact ⟨kept, level⟩

end Stands

end Engine

end CameraServer
