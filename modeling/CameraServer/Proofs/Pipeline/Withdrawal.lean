import CameraServer.Proofs.Media.Records
import CameraServer.Proofs.Pipeline.Destinations
import CameraServer.Proofs.Pipeline.Wiring

/-!
Taking destinations out one after another. Main statements: engines that are alike but for the order of
the records of their graphs stay so, whatever is removed from both; and when no failure is to fire once,
two destinations can be taken out in either order.
-/

set_option autoImplicit false

namespace CameraServer.Engine

open Media

inductive Reordered (e : Engine) : Engine → Prop where
  | graph (g : Graph) (alike : e.graph.Reordered g) : Reordered e { e with graph := g }

structure Agree (r s : Outcome Unit) : Prop where
  answer : s.1 = r.1
  alike : Reordered r.2 s.2

theorem reordered_refl (e : Engine) : Reordered e e := .graph e.graph (Graph.reordered_refl e.graph)

theorem reordered_trans (e middle f : Engine) (first : Reordered e middle) (second : Reordered middle f) : Reordered e f := by
  cases first with
  | graph g alike =>
      cases second with
      | graph h more => exact .graph h (Graph.reordered_trans _ _ _ alike more)

theorem agree_cases (r s : Outcome Unit) (agree : Agree r s) :
    (∃ e f, r = (.ok (), e) ∧ s = (.ok (), f) ∧ Reordered e f) ∨
      ∃ x e f, r = (.error x, e) ∧ s = (.error x, f) ∧ Reordered e f := by
  obtain ⟨result, e⟩ := r
  obtain ⟨other, f⟩ := s
  obtain ⟨answer, alike⟩ := agree
  cases answer
  cases result with
  | ok u => exact .inl ⟨e, f, rfl, rfl, alike⟩
  | error x => exact .inr ⟨x, e, f, rfl, rfl, alike⟩

theorem agree_next (r s : Outcome Unit) (step : Engine → Outcome Unit) (first : Agree r s)
    (second : ∀ e f, Reordered e f → Agree (step e) (step f)) : Agree (r.next step) (s.next step) := by
  rcases agree_cases r s first with ⟨e, f, rfl, rfl, alike⟩ | ⟨x, e, f, rfl, rfl, alike⟩
  · exact second e f alike
  · exact ⟨rfl, alike⟩

section Congruence

variable (e f : Engine) (alike : Reordered e f)

include alike

theorem reordered_parent (name : String) : f.graph.hasParent name = e.graph.hasParent name := by
  cases alike with
  | graph g alike => cases alike; rfl

theorem reordered_ledger : f.ledger = e.ledger := by
  cases alike
  rfl

/-! ### Detaching -/

theorem with_graph_agree (call : Graph → Except GraphError Unit × Graph)
    (relogged : ∀ g history signals, call (g.relog history signals) = Graph.relogged history signals (call g))
    (wires : ∀ g, Graph.Wires g (call g).2) :
    Agree (e.withGraph (call e.graph)) (f.withGraph (call f.graph)) := by
  cases alike with
  | graph g alike =>
      cases alike with
      | relog history signals sent =>
          dsimp only
          rw [relogged]
          refine ⟨rfl, .graph _ (.relog history signals ?_)⟩
          change signals.Perm (call e.graph).2.signals
          rw [(wires e.graph).signals]
          exact sent

theorem unlink_agree (up down : String) : Agree (e.unlink up down) (f.unlink up down) :=
  with_graph_agree e f alike (·.unlink up down) (fun g _ _ => g.unlink_relog _ _ up down)
    fun g => g.unlink_wires up down

theorem link_agree (up down : String) : Agree (e.link up down) (f.link up down) :=
  with_graph_agree e f alike (·.link up down) (fun g _ _ => g.link_relog _ _ up down) fun g => g.link_wires up down

theorem remove_stage_agree (name : String) : Agree (e.removeStage name) (f.removeStage name) :=
  with_graph_agree e f alike (·.remove name) (fun g _ _ => g.remove_relog _ _ name) fun g => g.remove_wires name

theorem release_stage_agree (name : String) : Agree (e.releaseStage name) (f.releaseStage name) := by
  have refusals : f.refusals = e.refusals := congrArg (·.refusals) (reordered_ledger e f alike)
  rw [releaseStage, releaseStage, refusals]
  split
  · exact ⟨rfl, alike⟩
  · exact with_graph_agree e f alike (·.release name) (fun g _ _ => g.release_relog _ _ name)
      fun g => g.release_wires name

theorem set_stage_state_agree (name : String) (state : PlayState) :
    Agree (e.setStageState name state) (f.setStageState name state) := by
  have refusals : f.refusals = e.refusals := congrArg (·.refusals) (reordered_ledger e f alike)
  rw [setStageState, setStageState, refusals]
  split
  · exact ⟨rfl, alike⟩
  · exact with_graph_agree e f alike (·.setStageState name state)
      (fun g _ _ => g.set_stage_state_relog _ _ name state) fun g => g.set_stage_state_wires name state

theorem dump_reordered (tag : String) : Reordered (e.dump tag) (f.dump tag) := by
  cases alike with
  | graph g alike =>
      cases alike with
      | relog history signals sent => exact .graph _ (.relog history signals sent)

theorem retire_branch_reordered (name : String) : Reordered (e.retireBranch name) (f.retireBranch name) := by
  have stopped := (set_stage_state_agree e f alike name .null).alike
  have released := (release_stage_agree _ _ stopped name).alike
  exact dump_reordered _ _ released "pipeline-detached"

theorem detach_branch_agree (name : String) : Agree (e.detachBranch name) (f.detachBranch name) := by
  have built : f.constructed = e.constructed := congrArg (·.constructed) (reordered_ledger e f alike)
  rw [detachBranch, detachBranch, ifConstructed, ifConstructed, built, reordered_parent e f alike]
  split
  · split
    · apply agree_next _ _ _ (unlink_agree e f alike fanOutName name)
      intro e f alike
      rcases agree_cases _ _ (remove_stage_agree e f alike name) with
        ⟨e, f, one, two, alike⟩ | ⟨x, e, f, one, two, alike⟩
      · rw [one, two]
        exact ⟨rfl, retire_branch_reordered e f alike name⟩
      · rw [one, two]
        exact ⟨rfl, (link_agree e f alike fanOutName name).alike⟩
    · exact ⟨rfl, alike⟩
  · exact ⟨rfl, alike⟩

theorem detach_if_idle_reordered : Reordered e.detachIfIdle f.detachIfIdle := by
  have destinations : f.destinations = e.destinations := congrArg (·.destinations) (reordered_ledger e f alike)
  have orphans : f.orphans = e.orphans := congrArg Ledger.orphans (reordered_ledger e f alike)
  rw [detachIfIdle, detachIfIdle, destinations, orphans, reordered_parent e f alike]
  split
  · exact (detach_branch_agree e f alike egressName).alike
  · exact alike

/-! ### Removing and reaping -/

theorem emit_remove_agree (endpoint : Endpoint) : Agree (e.emitRemove endpoint) (f.emitRemove endpoint) := by
  rw [emitRemove, emitRemove, emit, emit, if_neg (by simp), if_neg (by simp), Graph.emit_remove_eq,
    Graph.emit_remove_eq]
  cases alike with
  | graph g alike =>
      have fails : g.fails (.signal "remove") = e.graph.fails (.signal "remove") := by cases alike; rfl
      have here : g.hasStage egressName = e.graph.hasStage egressName := by cases alike; rfl
      dsimp only
      rw [fails, here]
      split
      · exact ⟨rfl, .graph _ (Graph.spend_reordered e.graph _ g alike)⟩
      · split
        · exact ⟨rfl, .graph _ (Graph.withdraw_reordered e.graph endpoint g alike)⟩
        · exact ⟨rfl, .graph _ alike⟩

end Congruence

theorem reap_each_reordered (list : List Endpoint) (e f : Engine) (alike : Reordered e f) :
    Reordered (reapEach list e) (reapEach list f) := by
  induction list generalizing e f with
  | nil => exact alike
  | cons endpoint rest ih =>
      rw [reapEach, reapEach]
      rcases agree_cases _ _ (emit_remove_agree e f alike endpoint) with
        ⟨e, f, one, two, alike⟩ | ⟨x, e, f, one, two, alike⟩
      · rw [one, two]
        exact ih e f alike
      · rw [one, two]
        apply ih
        cases alike with
        | graph g alike => exact .graph g alike

theorem reap_orphans_reordered (e f : Engine) (alike : Reordered e f) : Reordered e.reapOrphans f.reapOrphans := by
  cases alike with
  | graph g alike =>
      rw [reapOrphans, reapOrphans]
      dsimp only
      split
      · exact .graph g alike
      · exact detach_if_idle_reordered _ _ (reap_each_reordered e.orphans { e with orphans := [] } _ (.graph g alike))

theorem remove_endpoint_reordered (endpoint : Endpoint) (e f : Engine) (alike : Reordered e f) :
    Reordered (e.removeEndpoint endpoint).2 (f.removeEndpoint endpoint).2 := by
  have ledger := reordered_ledger e f alike
  have destinations : f.destinations = e.destinations := congrArg (·.destinations) ledger
  have built : f.constructed = e.constructed := congrArg (·.constructed) ledger
  rw [removeEndpoint, removeEndpoint, destinations, built]
  split
  · split
    · have reaped := reap_orphans_reordered e f alike
      rcases agree_cases _ _ (emit_remove_agree _ _ reaped endpoint) with
        ⟨e, f, one, two, alike⟩ | ⟨x, e, f, one, two, alike⟩
      · rw [one, two]
        apply detach_if_idle_reordered
        cases alike with
        | graph g alike => exact .graph g alike
      · rw [one, two]
        exact alike
    · cases alike with
      | graph g alike => exact .graph g alike
  · exact alike

/-! ### What becomes of a removal -/

theorem once_calls : GraphFrame (fun _ => True) fun g next => next.oneShot.Sublist g.oneShot where
  refl := fun g => List.Sublist.refl _
  trans := fun _ _ _ first second => second.trans first
  build := fun g spec => (g.build_wires spec).once
  add := fun g name _ => (g.add_wires name).once
  remove := fun g name => (g.remove_wires name).once
  release := fun g name => (g.release_wires name).once
  link := fun g up down => (g.link_wires up down).once
  unlink := fun g up down => (g.unlink_wires up down).once
  setStage := fun g name state _ => (g.set_stage_state_wires name state).once
  sync := fun name g s _ => (Graph.sync_wires Site.sink name g s).once
  query := fun g => g.query_wires.once
  emit := Graph.emit_once Site.sink
  dump := fun g _ => List.Sublist.refl _
  pop := fun g => by rw [g.pop_event_once]

theorem remove_endpoint_once (endpoint : Endpoint) (e : Engine) (once : e.graph.oneShot = []) :
    (e.removeEndpoint endpoint).2.graph.oneShot = [] := by
  have spent := ((graph_frame _ _ once_calls).branches trivial).flag.remove_endpoint endpoint e
  rw [once] at spent
  exact List.sublist_nil.mp spent

theorem remove_endpoint_unlisted (endpoint : Endpoint) (e : Engine) (absent : endpoint ∉ e.destinations) :
    (e.removeEndpoint endpoint).2 = e := by
  rw [removeEndpoint, if_neg (by simpa using absent)]

theorem remove_endpoint_idle (endpoint : Endpoint) (e : Engine) (idle : e.constructed = false)
    (listed : endpoint ∈ e.destinations) :
    (e.removeEndpoint endpoint).2 = { e with destinations := e.destinations.erase endpoint } := by
  rw [removeEndpoint, if_pos (by simpa using listed), idle, if_neg Bool.false_ne_true]

theorem emit_remove_engine (endpoint : Endpoint) (e : Engine) :
    e.emitRemove endpoint =
      e.withSite (Graph.emit Site.sink (.stage egressName) (.removeDestination endpoint) e.graph e.site) := by
  rw [emitRemove, emit, if_neg (by simp)]

section Deaf

variable (e : Engine) (once : e.graph.oneShot = []) (deaf : ¬ e.graph.Hears)

include once deaf

theorem reap_each_deaf (list orphans : List Endpoint) :
    reapEach list { e with orphans := orphans } = { e with orphans := orphans ++ list } := by
  induction list generalizing orphans with
  | nil => rw [reapEach, List.append_nil]
  | cons endpoint rest ih =>
      obtain ⟨x, refused⟩ := e.graph.emit_unheard endpoint Site.sink e.site once deaf
      rw [reapEach, emit_remove_engine, withSite]
      dsimp only
      rw [refused]
      refine (ih (orphans ++ [endpoint])).trans ?_
      rw [List.append_assoc]
      rfl

theorem reap_orphans_deaf : e.reapOrphans = e := by
  rw [reapOrphans]
  split
  · rfl
  · next some =>
      have here : e.orphans ≠ [] := by simp_all
      have back := reap_each_deaf e once deaf e.orphans []
      rw [List.nil_append] at back
      rw [back, detachIfIdle, if_neg (by simp [here])]

theorem remove_endpoint_deaf (endpoint : Endpoint) (built : e.constructed = true) :
    (e.removeEndpoint endpoint).2 = e := by
  obtain ⟨x, refused⟩ := e.graph.emit_unheard endpoint Site.sink e.site once deaf
  by_cases listed : e.destinations.contains endpoint = true
  · rw [removeEndpoint, if_pos listed, if_pos built, reap_orphans_deaf e once deaf, emit_remove_engine, withSite,
      refused]
    rfl
  · rw [removeEndpoint, if_neg listed]

end Deaf

section Heard

variable (e : Engine) (hears : e.graph.Hears)

include hears

theorem emit_remove_hears (endpoint : Endpoint) :
    e.emitRemove endpoint = (.ok (), { e with graph := e.graph.withdraw endpoint }) := by
  rw [emit_remove_engine, withSite, e.graph.emit_withdraws endpoint Site.sink e.site hears]
  rfl

omit hears in
theorem reap_each_hears (list : List Endpoint) (e : Engine) (hears : e.graph.Hears) :
    reapEach list e = { e with graph := list.foldl (fun g endpoint => g.withdraw endpoint) e.graph } ∧
      (list.foldl (fun g endpoint => g.withdraw endpoint) e.graph).Hears := by
  induction list generalizing e with
  | nil => exact ⟨rfl, hears⟩
  | cons endpoint rest ih =>
      rw [reapEach, emit_remove_hears e hears]
      exact ih _ (e.graph.withdraw_hears endpoint hears)

def reapedGraph (e : Engine) : Graph := e.orphans.foldl (fun g endpoint => g.withdraw endpoint) e.graph

theorem reaped_graph_hears : e.reapedGraph.Hears := (reap_each_hears e.orphans e hears).2

variable (built : e.constructed = true)

include built

theorem reap_orphans_hears (busy : e.destinations ≠ []) :
    e.reapOrphans = { e with graph := e.reapedGraph, orphans := [] } := by
  rw [reapOrphans, reapedGraph]
  cases waiting : e.orphans with
  | nil =>
      have same : ({ e with orphans := [] } : Engine) = e := by rw [← waiting]
      exact same.symm
  | cons orphan rest =>
      have reaped := (reap_each_hears (orphan :: rest) { e with orphans := [] } hears).1
      rw [if_neg (by simp [built]), reaped, detachIfIdle, if_neg (by simp [busy])]

theorem remove_endpoint_hears (endpoint : Endpoint) (listed : endpoint ∈ e.destinations) :
    (e.removeEndpoint endpoint).2 =
      detachIfIdle { e with
        graph := e.reapedGraph.withdraw endpoint
        destinations := e.destinations.erase endpoint
        orphans := [] } := by
  rw [removeEndpoint, if_pos (by simpa using listed), if_pos built,
    reap_orphans_hears e hears built (List.ne_nil_of_mem listed),
    emit_remove_hears _ (reaped_graph_hears e hears)]
  rfl

theorem remove_endpoint_twice (endpoint other : Endpoint) (listed : endpoint ∈ e.destinations)
    (left : other ∈ e.destinations.erase endpoint) :
    ((e.removeEndpoint endpoint).2.removeEndpoint other).2 =
      detachIfIdle { e with
        graph := (e.reapedGraph.withdraw endpoint).withdraw other
        destinations := (e.destinations.erase endpoint).erase other
        orphans := [] } := by
  have busy : e.destinations.erase endpoint ≠ [] := List.ne_nil_of_mem left
  have hearsYet := e.reapedGraph.withdraw_hears endpoint (reaped_graph_hears e hears)
  rw [remove_endpoint_hears e hears built endpoint listed, detachIfIdle, if_neg (by simp [busy])]
  exact remove_endpoint_hears
    { e with
      graph := e.reapedGraph.withdraw endpoint
      destinations := e.destinations.erase endpoint
      orphans := [] }
    hearsYet built other left

end Heard

theorem remove_endpoint_kept (endpoint other : Endpoint) (e : Engine) (absent : endpoint ∉ e.destinations) :
    endpoint ∉ (e.removeEndpoint other).2.destinations := by
  apply state_of_ends _ _ _ (endpoint ∉ ·.destinations) (remove_endpoint_roster other e)
  · intro next removed
    rw [show next.destinations = e.destinations.erase other from congrArg Roster.destinations removed]
    exact fun member => absent (List.mem_of_mem_erase member)
  · intro next kept
    rw [show next.destinations = e.destinations from congrArg Roster.destinations kept]
    exact absent

-- Both are on the list, so the branch can only become idle with the second removal.
theorem remove_listed_swap (endpoint other : Endpoint) (e : Engine) (once : e.graph.oneShot = [])
    (different : endpoint ≠ other) (listed : endpoint ∈ e.destinations) (too : other ∈ e.destinations) :
    Reordered ((e.removeEndpoint endpoint).2.removeEndpoint other).2
      ((e.removeEndpoint other).2.removeEndpoint endpoint).2 := by
  have left : other ∈ e.destinations.erase endpoint := (List.mem_erase_of_ne different.symm).mpr too
  have back : endpoint ∈ e.destinations.erase other := (List.mem_erase_of_ne different).mpr listed
  cases built : e.constructed with
  | false =>
      rw [remove_endpoint_idle endpoint e built listed, remove_endpoint_idle other e built too]
      rw [remove_endpoint_idle other { e with destinations := e.destinations.erase endpoint } built left,
        remove_endpoint_idle endpoint { e with destinations := e.destinations.erase other } built back]
      dsimp only
      rw [List.erase_comm]
      exact reordered_refl _
  | true =>
      by_cases hears : e.graph.Hears
      · rw [remove_endpoint_twice e hears built endpoint other listed left,
          remove_endpoint_twice e hears built other endpoint too back, List.erase_comm other endpoint]
        apply detach_if_idle_reordered
        exact .graph _ (e.reapedGraph.withdraw_swap endpoint other)
      · have same (endpoint : Endpoint) : (e.removeEndpoint endpoint).2 = e :=
          remove_endpoint_deaf e once hears endpoint built
        rw [same, same, same]
        exact reordered_refl e

theorem remove_endpoint_swap (endpoint other : Endpoint) (e : Engine) (once : e.graph.oneShot = []) :
    Reordered ((e.removeEndpoint endpoint).2.removeEndpoint other).2
      ((e.removeEndpoint other).2.removeEndpoint endpoint).2 := by
  by_cases listed : endpoint ∈ e.destinations
  · by_cases too : other ∈ e.destinations
    · by_cases different : endpoint = other
      · rw [different]
        exact reordered_refl _
      · exact remove_listed_swap endpoint other e once different listed too
    · rw [remove_endpoint_unlisted other e too,
        remove_endpoint_unlisted other _ (remove_endpoint_kept other endpoint e too)]
      exact reordered_refl _
  · rw [remove_endpoint_unlisted endpoint e listed,
      remove_endpoint_unlisted endpoint _ (remove_endpoint_kept endpoint other e listed)]
    exact reordered_refl _

end CameraServer.Engine
