import CameraServer.Proofs.Pipeline.Branch
import CameraServer.Proofs.Pipeline.Destinations
import Mathlib.Data.List.Perm.Subperm

/-!
The balance of a constructed engine: its sink holds the destinations and the orphans, in some order.
Main statements: detaching the egress branch and reaping orphans keep the fixed stages in place and
the balance, however they end, and take no destination off the sink on the way.
-/

set_option autoImplicit false

namespace CameraServer.Engine

open Media

structure Served (e : Engine) (egress : Option Egress) : Prop where
  built : e.constructed = true
  tolerant : e.refusals = {}
  outline : e.graph.outline = .fixed egress e.graph.history
  placed : ∀ b ∈ egress, b.parented = true
  held : e.orphans ≠ [] → egress.isSome = true

def Balanced (e : Engine) : Prop := e.graph.sink.Perm (e.destinations ++ e.orphans)

def Records (p : List Endpoint → Prop) (e next : Engine) : Prop :=
  ∃ lists, next.graph.history = e.graph.history ++ lists ∧ ∀ list ∈ lists, p list

-- From one constructed engine to the next: the balance is kept, and until then every recorded list has
-- the property.
structure Fair (p : List Endpoint → Prop) (e next : Engine) : Prop where
  served : ∃ egress, next.Served egress
  balanced : e.Balanced → next.Balanced
  records : e.Balanced → Records p e next

section Lists

variable (list rest orphans sink : List Endpoint) (endpoint : Endpoint)

theorem erase_pending_perm (balanced : sink.Perm (list ++ (orphans ++ endpoint :: rest))) :
    (sink.erase endpoint).Perm (list ++ (orphans ++ rest)) := by
  have front : (list ++ (orphans ++ endpoint :: rest)).Perm (endpoint :: (list ++ (orphans ++ rest))) := by
    rw [← List.append_assoc, ← List.append_assoc]
    exact List.perm_middle
  have erased := (balanced.trans front).erase endpoint
  rwa [List.erase_cons_head] at erased

theorem erase_listed_perm (member : endpoint ∈ list) (balanced : sink.Perm (list ++ orphans)) :
    (sink.erase endpoint).Perm (list.erase endpoint ++ orphans) := by
  have erased := balanced.erase endpoint
  rwa [List.erase_append_left orphans member] at erased

theorem append_listed_perm (balanced : sink.Perm (list ++ orphans)) :
    (sink ++ [endpoint]).Perm (list ++ [endpoint] ++ orphans) := by
  have grown := balanced.append_right [endpoint]
  rw [List.append_assoc] at grown ⊢
  exact grown.trans (List.Perm.append_left list List.perm_append_comm)

theorem erase_last_perm (member : endpoint ∈ list) :
    (eraseLast list endpoint ++ [endpoint]).Perm list := by
  have back : endpoint ∈ list.reverse := List.mem_reverse.mpr member
  have split : list.reverse.Perm (endpoint :: list.reverse.erase endpoint) := List.perm_cons_erase back
  have turned : (eraseLast list endpoint).Perm (list.reverse.erase endpoint) := List.reverse_perm _
  have ended := (List.perm_append_singleton endpoint (eraseLast list endpoint)).trans (turned.cons endpoint)
  exact ended.trans (split.symm.trans (List.reverse_perm list))

theorem subperm_of_balance (balanced : sink.Perm (list ++ orphans)) : list.Subperm sink :=
  (List.sublist_append_left list orphans).subperm.trans balanced.symm.subperm

end Lists

/-! ### Recording -/

theorem records_refl (p : List Endpoint → Prop) (e : Engine) : Records p e e :=
  ⟨[], by simp, by simp⟩

theorem records_trans (p : List Endpoint → Prop) (e middle next : Engine) (first : Records p e middle)
    (second : Records p middle next) : Records p e next := by
  obtain ⟨early, before, these⟩ := first
  obtain ⟨late, after, those⟩ := second
  refine ⟨early ++ late, by rw [after, before, List.append_assoc], ?_⟩
  intro list member
  rcases List.mem_append.mp member with here | there
  · exact these list here
  · exact those list there

theorem records_mono (p q : List Endpoint → Prop) (e next : Engine) (weaker : ∀ list, p list → q list)
    (recorded : Records p e next) : Records q e next := by
  obtain ⟨lists, grown, all⟩ := recorded
  exact ⟨lists, grown, fun list member => weaker list (all list member)⟩

theorem fair_refl (p : List Endpoint → Prop) (e : Engine) (egress : Option Egress)
    (served : e.Served egress) : Fair p e e :=
  ⟨⟨egress, served⟩, fun balanced => balanced, fun _ => records_refl p e⟩

theorem fair_trans (p : List Endpoint → Prop) (e middle next : Engine) (first : Fair p e middle)
    (second : Fair p middle next) : Fair p e next where
  served := second.served
  balanced := fun balanced => second.balanced (first.balanced balanced)
  records := fun balanced => records_trans p e middle next (first.records balanced)
    (second.records (first.balanced balanced))

theorem fair_mono (p q : List Endpoint → Prop) (e next : Engine) (weaker : ∀ list, p list → q list)
    (fair : Fair p e next) : Fair q e next :=
  ⟨fair.served, fair.balanced, fun balanced => records_mono p q e next weaker (fair.records balanced)⟩

/-! ### Constructed engines -/

section Served

variable (e next : Engine) (egress after : Option Egress) (b : Egress)

theorem served_stands (served : e.Served egress) : e.Stands e.ledger egress e.graph.history :=
  ⟨rfl, served.outline⟩

theorem served_sink (served : e.Served egress) : e.graph.sink = (egress.map (·.sink)).getD [] :=
  stands_sink e e.ledger egress e.graph.history (served_stands e egress served)

theorem served_has_egress (served : e.Served egress) :
    e.graph.hasParent egressName = egress.isSome := by
  rw [stands_has_egress e e.ledger egress e.graph.history (served_stands e egress served)]
  cases egress with
  | none => rfl
  | some b => exact served.placed b rfl

theorem served_of_stands (history : List (List Endpoint)) (l : Ledger) (built : l.constructed = true)
    (tolerant : l.refusals = {}) (placed : ∀ b ∈ egress, b.parented = true)
    (held : l.orphans ≠ [] → egress.isSome = true) (stands : e.Stands l egress history) :
    e.Served egress where
  built := (congrArg (·.constructed) stands.ledger).trans built
  tolerant := (congrArg (·.refusals) stands.ledger).trans tolerant
  outline := by
    rw [show e.graph.history = history from congrArg Outline.history stands.outline]
    exact stands.outline
  placed := placed
  held := by
    rw [show e.orphans = l.orphans from congrArg (·.orphans) stands.ledger]
    exact held

theorem served_of_books (same : next.books = e.books) (served : e.Served egress) : next.Served egress :=
  served_of_stands next egress e.graph.history e.ledger served.built served.tolerant served.placed
    served.held (stands_of_books e e.ledger egress e.graph.history next same (served_stands e egress served))

theorem books_of_stands (served : e.Served egress) (stands : next.Stands e.ledger egress e.graph.history) :
    next.books = e.books :=
  congrArg₂ Books.mk stands.ledger (stands.outline.trans served.outline.symm)

theorem same_sink_fair (p : List Endpoint → Prop) (served : e.Served egress)
    (stands : next.Stands e.ledger after e.graph.history) (placed : ∀ b ∈ after, b.parented = true)
    (held : e.orphans ≠ [] → after.isSome = true) (same : e.Balanced → next.graph.sink = e.graph.sink) :
    next.Served after ∧ Fair p e next := by
  have here : next.Served after :=
    served_of_stands next after e.graph.history e.ledger served.built served.tolerant placed held stands
  refine ⟨here, ⟨after, here⟩, ?_, fun _ => ⟨[], ?_, by simp⟩⟩
  · intro balanced
    rw [Balanced, same balanced, show next.destinations = e.destinations from congrArg (·.destinations) stands.ledger,
      show next.orphans = e.orphans from congrArg (·.orphans) stands.ledger]
    exact balanced
  · rw [List.append_nil]
    exact congrArg Outline.history stands.outline

theorem fair_of_books (p : List Endpoint → Prop) (same : next.books = e.books) (served : e.Served egress) :
    Fair p e next := by
  have stands := stands_of_books e e.ledger egress e.graph.history next same (served_stands e egress served)
  have sink : next.graph.sink = e.graph.sink := by
    rw [stands_sink next _ egress _ stands, served_sink e egress served]
  exact (same_sink_fair e next egress egress p served stands served.placed served.held fun _ => sink).2

theorem balanced_has_egress (served : e.Served egress) (balanced : e.Balanced) (some : e.destinations ≠ []) :
    e.graph.hasParent egressName = true := by
  rw [served_has_egress e egress served]
  cases egress with
  | some b => rfl
  | none =>
      have empty : e.graph.sink = [] := served_sink e none served
      rw [Balanced, empty] at balanced
      exact absurd (List.append_eq_nil_iff.mp balanced.symm.eq_nil).1 some

end Served

/-! ### Reaping -/

theorem detach_fair (p : List Endpoint → Prop) (e : Engine) (b : Egress) (served : e.Served (some b))
    (quit : e.orphans = []) (empty : e.Balanced → b.sink = []) :
    Fair p e (e.detachBranch egressName).2 := by
  have ended := detach_egress_ends e e.ledger b e.graph.history served.built served.tolerant
    (served.placed b rfl) (served_stands e (some b) served)
  have sink := served_sink e (some b) served
  rcases eq : e.detachBranch egressName with ⟨x | u, next⟩
  · rw [eq] at ended
    obtain ⟨linked, stands⟩ := ended
    apply (same_sink_fair e next (some b) _ p served stands _ (fun _ => rfl) _).2
    · simpa using served.placed b rfl
    · intro _
      rw [sink, stands_sink next _ _ _ stands]
      rfl
  · rw [eq] at ended
    apply (same_sink_fair e next (some b) none p served ended (by simp) (fun some => absurd quit some) _).2
    intro balanced
    rw [sink, stands_sink next _ none _ ended]
    exact (empty balanced).symm

theorem detach_if_idle_fair (p : List Endpoint → Prop) (e : Engine) (egress : Option Egress)
    (served : e.Served egress) : Fair p e e.detachIfIdle := by
  rw [detachIfIdle]
  split
  · rename_i idle
    simp only [Bool.and_eq_true, List.isEmpty_iff] at idle
    obtain ⟨⟨none, quit⟩, present⟩ := idle
    cases egress with
    | none => cases (served_has_egress e _ served).symm.trans present
    | some b =>
        apply detach_fair p e b served quit
        intro balanced
        rw [Balanced, none, quit, served_sink e (some b) served] at balanced
        exact balanced.eq_nil
  · exact fair_refl p e egress served

theorem detach_if_idle_busy (e : Engine) (busy : e.destinations ≠ []) : e.detachIfIdle = e := by
  simp [detachIfIdle, busy]

-- The list in hand shrinks from one orphan to the next; together with the orphans that have come
-- back it makes up for what the sink holds besides the destinations.
theorem reap_each_stands (list : List Endpoint) (e : Engine) (l : Ledger) (b : Egress)
    (history : List (List Endpoint)) (stands : e.Stands l (some b) history) :
    ∃ sink orphans lists,
      (reapEach list e).Stands { l with orphans := orphans } (some { b with sink := sink })
        (history ++ lists) ∧
      (b.sink.Perm (l.destinations ++ (l.orphans ++ list)) →
        sink.Perm (l.destinations ++ orphans) ∧ ∀ s ∈ lists, l.destinations.Subperm s) := by
  induction list generalizing e l b history with
  | nil => exact ⟨b.sink, l.orphans, [], by rw [List.append_nil]; exact stands, by simp⟩
  | cons endpoint rest ih =>
      have emitted := emit_remove_egress_ends e l (some b) history endpoint stands
      rw [reapEach]
      rcases ends_cases _ _ _ emitted with ⟨next, eq, c, same, removed⟩ | ⟨x, next, eq, kept⟩
      · rw [eq]
        obtain rfl : b = c := Option.some.inj same
        obtain ⟨sink, orphans, lists, stood, balance⟩ := ih next l _ _ removed
        refine ⟨sink, orphans, b.sink.erase endpoint :: lists, by simpa using stood, ?_⟩
        intro balanced
        have erased := erase_pending_perm l.destinations rest l.orphans b.sink endpoint balanced
        obtain ⟨settled, covered⟩ := balance erased
        refine ⟨settled, ?_⟩
        intro s member
        rcases List.mem_cons.mp member with rfl | later
        · exact subperm_of_balance l.destinations _ _ erased
        · exact covered s later
      · rw [eq]
        -- The orphan stays on the sink and is pending no more, so the balance counts it as before.
        have left : next.orphans = l.orphans := congrArg (·.orphans) kept.ledger
        have stood : Stands { next with orphans := next.orphans ++ [endpoint] }
            { l with orphans := l.orphans ++ [endpoint] } (some b) history := by
          rw [left]
          exact ⟨congrArg (fun k : Ledger => { k with orphans := l.orphans ++ [endpoint] }) kept.ledger,
            kept.outline⟩
        obtain ⟨sink, orphans, lists, stood, balance⟩ := ih _ _ b history stood
        refine ⟨sink, orphans, lists, stood, ?_⟩
        intro balanced
        apply balance
        rw [List.append_assoc]
        exact balanced

theorem reap_orphans_none (e : Engine) (quit : e.orphans = []) : e.reapOrphans = e := by
  simp [reapOrphans, quit]

theorem reap_orphans_fair (e : Engine) (egress : Option Egress) (served : e.Served egress) :
    Fair (e.destinations.Subperm ·) e e.reapOrphans ∧
      (e.destinations ≠ [] → e.reapOrphans.graph.hasParent egressName = e.graph.hasParent egressName) := by
  by_cases quit : e.orphans = []
  · rw [reap_orphans_none e quit]
    exact ⟨fair_refl _ e egress served, fun _ => rfl⟩
  · obtain ⟨b, rfl⟩ := Option.isSome_iff_exists.mp (served.held quit)
    have stands := served_stands e (some b) served
    have begun : Stands { e with orphans := [] } ⟨e.roster, []⟩ (some b) e.graph.history :=
      ⟨rfl, stands.outline⟩
    obtain ⟨sink, orphans, lists, stood, balance⟩ := reap_each_stands e.orphans _ _ b _ begun
    generalize reaped : reapEach e.orphans { e with orphans := [] } = next at stood
    have whole : e.reapOrphans = next.detachIfIdle := by
      rw [reapOrphans, if_neg (by simp [quit, served.built]), reaped]
    have here : next.Served (some { b with sink := sink }) := by
      apply served_of_stands next _ _ _ served.built served.tolerant _ (fun _ => rfl) stood
      simpa using served.placed b rfl
    have listed : next.destinations = e.destinations := congrArg (·.destinations) stood.ledger
    have left : next.orphans = orphans := congrArg (·.orphans) stood.ledger
    have begin_balance : e.Balanced → b.sink.Perm (e.destinations ++ ([] ++ e.orphans)) := by
      intro balanced
      rw [Balanced, served_sink e (some b) served] at balanced
      exact balanced
    have fair : Fair (e.destinations.Subperm ·) e next := by
      refine ⟨⟨_, here⟩, ?_, ?_⟩
      · intro balanced
        rw [Balanced, served_sink next _ here, listed, left]
        exact (balance (begin_balance balanced)).1
      · intro balanced
        exact ⟨lists, congrArg Outline.history stood.outline, (balance (begin_balance balanced)).2⟩
    rw [whole]
    refine ⟨fair_trans _ _ _ _ fair (detach_if_idle_fair _ next _ here), ?_⟩
    intro busy
    rw [detach_if_idle_busy next (by rwa [listed]), served_has_egress next _ here,
      served_has_egress e _ served]
    rfl

end CameraServer.Engine
