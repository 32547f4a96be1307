import CameraServer.Proofs.Pipeline.Balance

/-!
Serving destinations. Main statements: adding, removing and moving a destination keep the balance of a
constructed engine, however they end, and no list that is written into the history on the way lacks a
destination that nobody asked to remove.
-/

set_option autoImplicit false

namespace CameraServer.Engine

open Media

/-! ### Adding and removing -/

theorem listed_fair (p : List Endpoint → Prop) (e next : Engine) (b : Egress) (sink list : List Endpoint)
    (served : e.Served (some b))
    (stands : next.Stands e.ledger (some { b with sink := sink }) (e.graph.history ++ [sink]))
    (follows : b.sink.Perm (e.destinations ++ e.orphans) → sink.Perm (list ++ e.orphans))
    (covers : list.Subperm sink → p sink) :
    Served { next with destinations := list } (some { b with sink := sink }) ∧
      Fair p e { next with destinations := list } := by
  have stood := stands_relisted next e.ledger _ _ list stands
  have here : Served { next with destinations := list } (some { b with sink := sink }) := by
    apply served_of_stands _ _ _ _ served.built served.tolerant _ (fun _ => rfl) stood
    simpa using served.placed b rfl
  have left : next.orphans = e.orphans := congrArg (·.orphans) stands.ledger
  have changed : e.Balanced → sink.Perm (list ++ e.orphans) := by
    intro balanced
    rw [Balanced, served_sink e (some b) served] at balanced
    exact follows balanced
  refine ⟨here, ⟨_, here⟩, ?_, ?_⟩
  · intro balanced
    rw [Balanced, served_sink _ _ here]
    simp only [left]
    exact changed balanced
  · intro balanced
    refine ⟨[sink], congrArg Outline.history stands.outline, ?_⟩
    simpa using covers (subperm_of_balance _ _ _ (changed balanced))

theorem emit_add_fair (endpoint : Endpoint) (e : Engine) (egress : Option Egress)
    (served : e.Served egress) :
    Ends (e.emitAdd endpoint)
      (fun next => next.graph.hasParent egressName = true ∧
        Fair (e.destinations.Subperm ·) e { next with destinations := next.destinations ++ [endpoint] })
      (·.books = e.books) := by
  have stands := served_stands e egress served
  apply ends_mono _ _ _ _ _ (emit_add_egress_ends e _ _ _ endpoint stands)
  case ill => exact fun next kept => books_of_stands e next egress served kept
  rintro next ⟨b, rfl, added⟩
  have listed : next.destinations = e.destinations := congrArg (·.destinations) added.ledger
  obtain ⟨here, fair⟩ := listed_fair (e.destinations.Subperm ·) e next b _ (e.destinations ++ [endpoint])
    served added (append_listed_perm e.destinations e.orphans b.sink endpoint)
    (List.sublist_append_left e.destinations [endpoint]).subperm.trans
  rw [listed]
  exact ⟨served_has_egress _ _ here, fair⟩

theorem emit_remove_fair (endpoint : Endpoint) (e : Engine) (egress : Option Egress)
    (served : e.Served egress) (listed : endpoint ∈ e.destinations) :
    Ends (e.emitRemove endpoint)
      (fun next => Fair ((e.destinations.erase endpoint).Subperm ·) e
        { next with destinations := next.destinations.erase endpoint })
      (·.books = e.books) := by
  have stands := served_stands e egress served
  apply ends_mono _ _ _ _ _ (emit_remove_egress_ends e _ _ _ endpoint stands)
  case ill => exact fun next kept => books_of_stands e next egress served kept
  rintro next ⟨b, rfl, removed⟩
  have same : next.destinations = e.destinations := congrArg (·.destinations) removed.ledger
  rw [same]
  exact (listed_fair _ e next b _ (e.destinations.erase endpoint) served removed
    (erase_listed_perm e.destinations e.orphans b.sink endpoint listed) id).2

theorem prepare_egress_fair (p : List Endpoint → Prop) (e : Engine) (egress : Option Egress)
    (served : e.Served egress) :
    Ends (if (!e.graph.hasParent egressName) then e.attachBranch .egress else (.ok (), e))
      (fun next => Fair p e next ∧ next.ledger = e.ledger ∧ ∃ b, next.Served (some b) ∧
        (e.graph.hasParent egressName = false → next.orphans = [] ∧ b.sink = []))
      (Fair p e) := by
  rw [served_has_egress e egress served]
  cases egress with
  | some b => exact ⟨fair_refl p e _ served, rfl, b, served, by simp⟩
  | none =>
      have stands := served_stands e none served
      have quit : e.orphans = [] := by
        by_contra some
        cases served.held some
      have fair : ∀ (next : Engine) (after : Option Egress), Quiet after →
          next.Stands e.ledger after e.graph.history → next.Served after ∧ Fair p e next := by
        intro next after quiet stood
        apply same_sink_fair e next none after p served stood _ (fun some => absurd quit some)
        · intro _
          rw [served_sink e none served, stands_sink next _ after _ stood]
          cases after with
          | none => rfl
          | some b => exact (quiet b rfl).2
        · exact fun b member => (quiet b member).1
      apply ends_mono _ _ _ _ _
        (attach_egress_ends e e.ledger e.graph.history served.built served.tolerant stands)
      · intro next attached
        obtain ⟨here, kept⟩ := fair next _ (by simp [Quiet]) attached
        refine ⟨kept, attached.ledger, _, here, fun _ => ⟨?_, rfl⟩⟩
        exact (congrArg (·.orphans) attached.ledger).trans quit
      · rintro next ⟨after, quiet, stood⟩
        exact (fair next after quiet stood).2

theorem add_endpoint_fair (endpoint : Endpoint) (e : Engine) (egress : Option Egress)
    (served : e.Served egress) :
    Ends (e.addEndpoint endpoint)
      (fun next => next.graph.hasParent egressName = true ∧ Fair (e.destinations.Subperm ·) e next)
      (Fair (e.destinations.Subperm ·) e) := by
  have reaped := (reap_orphans_fair e egress served).1
  have listed : e.reapOrphans.destinations = e.destinations :=
    congrArg Roster.destinations (reap_orphans_roster e)
  obtain ⟨after, here⟩ := reaped.served
  simp only [addEndpoint, ifConstructed, served.built, if_true]
  have prepared := prepare_egress_fair (e.destinations.Subperm ·) e.reapOrphans after here
  apply Outcome.next_ends _ _ _ _ _ (ends_mono _ _ _ _ _ prepared (fun _ ready => ready) _)
  · rintro next ⟨fair, kept, b, ready, first⟩
    have begun := fair_trans _ _ _ _ reaped fair
    have same : next.destinations = e.destinations := (congrArg (·.destinations) kept).trans listed
    rcases ends_cases _ _ _ (emit_add_fair endpoint next (some b) ready) with
      ⟨last, eq, present, added⟩ | ⟨x, last, eq, refused⟩
    · rw [eq]
      rw [same] at added
      exact ⟨present, fair_trans _ _ _ _ begun added⟩
    · rw [eq]
      have held := served_of_books next last (some b) refused ready
      have still := fair_trans _ _ _ _ begun (fair_of_books next last (some b) _ refused ready)
      change Fair _ e (if _ then _ else _)
      split
      · rename_i absent
        obtain ⟨quit, empty⟩ := first (by simpa using absent)
        have left : last.orphans = [] := (congrArg (·.ledger.orphans) refused).trans quit
        exact fair_trans _ _ _ _ still (detach_fair _ last b held left fun _ => empty)
      · exact still
  · exact fun next fair => fair_trans _ _ _ _ reaped fair

theorem remove_endpoint_fair (endpoint : Endpoint) (e : Engine) (egress : Option Egress)
    (served : e.Served egress) :
    Ends (e.removeEndpoint endpoint) (Fair ((e.destinations.erase endpoint).Subperm ·) e)
      (fun next => next.graph.hasParent egressName = e.graph.hasParent egressName ∧
        Fair (e.destinations.Subperm ·) e next) := by
  rw [removeEndpoint]
  by_cases member : e.destinations.contains endpoint = true
  · rw [if_pos member, if_pos served.built]
    have listed : endpoint ∈ e.destinations := by simpa using member
    obtain ⟨reaped, stays⟩ := reap_orphans_fair e egress served
    have same : e.reapOrphans.destinations = e.destinations :=
      congrArg Roster.destinations (reap_orphans_roster e)
    obtain ⟨after, here⟩ := reaped.served
    have emitted := emit_remove_fair endpoint e.reapOrphans after here (by rwa [same])
    rw [same] at emitted
    apply Outcome.next_ends _ _ _ _ _ (ends_mono _ _ _ _ _ emitted (fun _ removed => removed) _)
    · intro next removed
      obtain ⟨last, served⟩ := removed.served
      have covered : ∀ list, e.destinations.Subperm list → (e.destinations.erase endpoint).Subperm list :=
        fun _ all => List.erase_sublist.subperm.trans all
      have begun := fair_trans _ _ _ _ (fair_mono _ _ _ _ covered reaped) removed
      exact fair_trans _ _ _ _ begun (detach_if_idle_fair _ _ last served)
    · intro next refused
      refine ⟨?_, fair_trans _ _ _ _ reaped (fair_of_books _ next after _ refused here)⟩
      rw [served_has_egress next after (served_of_books _ next after refused here),
        ← served_has_egress e.reapOrphans after here]
      exact stays (List.ne_nil_of_mem listed)
  · rw [if_neg member]
    exact fair_refl _ e egress served

/-! ### Moving -/

theorem orphan_fair (p : List Endpoint → Prop) (endpoint : Endpoint) (e : Engine) (egress : Option Egress)
    (served : e.Served egress) (present : e.graph.hasParent egressName = true) :
    Fair p e (e.orphan endpoint) := by
  rw [orphan]
  split
  · rename_i member
    have listed : endpoint ∈ e.destinations := by simpa using member
    rw [served_has_egress e egress served] at present
    refine ⟨⟨egress, served.built, served.tolerant, served.outline, served.placed, fun _ => present⟩, ?_,
      fun _ => ⟨[], by simp, by simp⟩⟩
    intro balanced
    change List.Perm _ (eraseLast e.destinations endpoint ++ (e.orphans ++ [endpoint]))
    have last := (erase_last_perm e.destinations endpoint listed).append_right e.orphans
    rw [List.append_assoc] at last
    have turned : ([endpoint] ++ e.orphans).Perm (e.orphans ++ [endpoint]) := List.perm_append_comm
    exact balanced.trans (last.symm.trans (List.Perm.append_left _ turned))
  · exact fair_refl p e egress served

-- While a destination moves, nobody else leaves the sink, and the old one only when the new one is
-- there.
def Moving (old new : Endpoint) (e : Engine) (list : List Endpoint) : Prop :=
  e.destinations.Subperm list ∨ ((e.destinations ++ [new]).erase old).Subperm list

theorem change_endpoint_fair (old new : Endpoint) (e : Engine) (egress : Option Egress)
    (served : e.Served egress) : Fair (e.Moving old new) e (e.changeEndpoint old new).2 := by
  rw [changeEndpoint]
  split
  · exact fair_refl _ e egress served
  have grown := add_endpoint_roster new e
  rcases ends_cases _ _ _ (add_endpoint_fair new e egress served) with
    ⟨added, eq, present, fair⟩ | ⟨x, next, eq, fair⟩
  · rw [eq] at grown ⊢
    have listed : added.destinations = e.destinations ++ [new] := congrArg Roster.destinations grown
    have wide : ∀ list, (e.destinations ++ [new]).Subperm list → e.destinations.Subperm list :=
      fun _ => (List.sublist_append_left e.destinations [new]).subperm.trans
    have begun : Fair (e.Moving old new) e added :=
      fair_mono _ _ _ _ (fun list kept => .inl kept) fair
    obtain ⟨after, here⟩ := fair.served
    have shrunk := remove_endpoint_roster old added
    have removed := remove_endpoint_fair old added after here
    rw [listed] at removed
    dsimp only [Outcome.next]
    rcases ends_cases _ _ _ removed with ⟨next, eq, fair⟩ | ⟨x, next, eq, present', fair⟩
    · rw [eq]
      exact fair_trans _ _ _ _ begun (fair_mono _ _ _ _ (fun list kept => .inr kept) fair)
    · rw [eq] at shrunk ⊢
      have held : next.destinations = e.destinations ++ [new] :=
        (congrArg Roster.destinations shrunk).trans listed
      have halfway : Fair (e.Moving old new) e next := fair_trans _ _ _ _ begun
        (fair_mono _ _ _ _ (fun list kept => .inl (wide list kept)) fair)
      obtain ⟨after, here⟩ := fair.served
      have withdrawn := remove_endpoint_fair new next after here
      rw [held] at withdrawn
      dsimp only
      rcases ends_cases _ _ _ withdrawn with ⟨last, eq, fair⟩ | ⟨y, last, eq, still, fair⟩
      · rw [eq]
        have back : (e.destinations ++ [new]).erase new |>.Perm e.destinations := by
          exact (List.perm_append_singleton new e.destinations).erase new |>.trans (by simp)
        refine fair_trans _ _ _ _ halfway (fair_mono _ _ _ _ ?_ fair)
        exact fun list kept => .inl (back.symm.subperm.trans kept)
      · rw [eq]
        obtain ⟨after, here⟩ := fair.served
        have withdrawing : Fair (e.Moving old new) e last := fair_trans _ _ _ _ halfway
          (fair_mono _ _ _ _ (fun list kept => .inl (wide list kept)) fair)
        refine fair_trans _ _ _ _ withdrawing (orphan_fair _ new last after here ?_)
        rw [still, present', present]
  · rw [eq]
    exact fair_mono _ _ _ _ (fun list kept => .inl kept) fair

end CameraServer.Engine
