import CameraServer.Proofs.Media.Addition
import CameraServer.Proofs.Pipeline.Topology
import CameraServer.Proofs.Pipeline.Undo

/-!
Attaching and detaching a branch of any name and kind, as a whole. Main statements: a failed attachment
is undone if the stage can be taken out again, a failed detachment if the branch can be linked again, and
a detachment right after an attachment gives back the stages and links from before. They hold of every
constructed engine and of all names and kinds.
-/

set_option autoImplicit false

namespace CameraServer.Engine

open Media

-- A branch of the name is on its way: whatever fails now could fail at the start.
structure Joining (start : Engine) (name : String) (parented linked : Bool) (e : Engine) : Prop where
  refusals : e.refusals = start.refusals
  spends : Graph.Spends start.graph e.graph
  extended : start.graph.Extended name parented linked e.graph

section Joining

variable (start e : Engine) (name : String) (vacant : start.graph.Vacant name)

theorem with_graph_joining (r : Except GraphError Unit × Graph) (placed linked parented joined : Bool)
    (spent : Graph.Spends e.graph r.2)
    (ended : Ends r (start.graph.Extended name parented joined) (start.graph.Extended name placed linked))
    (joining : Joining start name placed linked e) :
    Ends (e.withGraph r) (Joining start name parented joined) (Joining start name placed linked) := by
  obtain ⟨result, g⟩ := r
  have spends := Graph.spends_trans _ _ _ joining.spends spent
  cases result with
  | ok u => exact ⟨joining.refusals, spends, ended⟩
  | error x => exact ⟨joining.refusals, spends, ended⟩

include vacant

theorem release_stage_intact (tolerant : start.refusals = {}) (joining : Joining start name false false e) :
    start.graph.Intact (e.releaseStage name).2.graph := by
  have willing : e.refusals.release = false := by rw [joining.refusals, tolerant]
  rw [releaseStage, willing, if_neg Bool.false_ne_true]
  exact Graph.release_restores start.graph e.graph name vacant joining.extended

theorem remove_stage_joining (linked : Bool) (joining : Joining start name true linked e) :
    Ends (e.removeStage name) (Joining start name false false) (Joining start name true linked) :=
  with_graph_joining start e name _ _ _ _ _ (Graph.remove_steady e.graph name).spends
    (Graph.remove_extends start.graph e.graph name vacant linked joining.extended) joining

theorem discard_parented_intact (tolerant : start.refusals = {})
    (able : start.graph.fails (.remove name) = false) (linked : Bool) (joining : Joining start name true linked e) :
    start.graph.Intact (e.discardParented name).graph := by
  have placed := Graph.extended_parent start.graph e.graph name vacant _ _ joining.extended
  have answers := with_graph_answers e _ _ _ (Graph.remove_answers e.graph name placed)
  have willing := Graph.spends_calm _ _ _ joining.spends able
  rw [discardParented]
  rcases ends_cases _ _ _ (remove_stage_joining start e name vacant linked joining) with
    ⟨next, eq, floating⟩ | ⟨x, next, eq, held⟩
  · rw [eq]
    exact release_stage_intact start next name vacant tolerant floating
  · rw [show e.withGraph _ = _ from eq] at answers
    cases willing.symm.trans answers

theorem sync_stage_joining (joining : Joining start name true true e) :
    Joining start name true true (e.syncStage name).2 where
  refusals := joining.refusals
  spends := Graph.spends_trans _ _ _ joining.spends (Graph.sync_steady Site.sink name e.graph e.site).spends
  extended := Graph.sync_extends start.graph e.graph name vacant Site.sink e.site joining.extended

theorem unlink_joining (joining : Joining start name true true e) :
    Ends (e.unlink fanOutName name) (Joining start name true false) (Joining start name true true) :=
  with_graph_joining start e name _ _ _ _ _ (Graph.unlink_steady e.graph fanOutName name).spends
    (Graph.unlink_extends start.graph e.graph name vacant joining.extended) joining

theorem join_branch_joining (tolerant : start.refusals = {}) (joining : Joining start name false false e) :
    Ends (e.joinBranch name) (Joining start name true true)
      (fun next => start.graph.fails (.remove name) = false → start.graph.Intact next.graph) := by
  rw [joinBranch]
  have adding := with_graph_joining start e name _ _ _ _ _ (Graph.add_steady e.graph name).spends
    (Graph.add_extends start.graph e.graph name vacant joining.extended) joining
  rcases ends_cases _ _ _ adding with ⟨one, eq, added⟩ | ⟨x, one, eq, kept⟩
  · rw [addStage, eq]
    dsimp only
    have linking := with_graph_joining start one name _ _ _ _ _ (Graph.link_steady one.graph fanOutName name).spends
      (Graph.link_extends start.graph one.graph name added.extended) added
    rcases ends_cases _ _ _ linking with ⟨two, eq, linked⟩ | ⟨x, two, eq, loose⟩
    · rw [link, eq]
      dsimp only
      have synced := sync_stage_joining start two name vacant linked
      rcases eq : two.syncStage name with ⟨x | u, three⟩
      · rw [eq] at synced
        dsimp only
        rcases ends_cases _ _ _ (unlink_joining start three name vacant synced) with
          ⟨four, eq, loose⟩ | ⟨x, four, eq, held⟩
        · rw [eq]
          exact fun able => discard_parented_intact start four name vacant tolerant able false loose
        · rw [eq]
          exact fun able => discard_parented_intact start four name vacant tolerant able true held
      · rw [eq] at synced
        exact ⟨synced.refusals, synced.spends, synced.extended.stages, synced.extended.links⟩
    · rw [link, eq]
      exact fun able => discard_parented_intact start two name vacant tolerant able false loose
  · rw [addStage, eq]
    exact fun _ => release_stage_intact start one name vacant tolerant kept

theorem retire_branch_intact (tolerant : start.refusals = {}) (joining : Joining start name false false e) :
    start.graph.Intact (e.retireBranch name).graph := by
  have stopped : Joining start name false false (e.setStageState name .null).2 := by
    rw [setStageState]
    split
    · exact joining
    · exact ⟨joining.refusals,
        Graph.spends_trans _ _ _ joining.spends (Graph.set_stage_state_steady e.graph name .null).spends,
        Graph.set_stage_state_extends start.graph e.graph name vacant .null joining.extended⟩
  have released := release_stage_intact start _ name vacant tolerant stopped
  exact ⟨released.stages, released.links⟩

theorem detach_joined (tolerant : start.refusals = {}) (joining : Joining start name true true e) :
    Ends (e.detachBranch name) (start.graph.Intact ·.graph) (fun _ => True) := by
  apply if_constructed_ends e
  · exact fun _ => trivial
  intro _
  split
  · apply Outcome.next_ends _ _ (Joining start name true false)
    · exact ends_mono _ _ _ _ _ (unlink_joining start e name vacant joining) (fun _ loose => loose) fun _ _ => trivial
    · intro bare loose
      rcases ends_cases _ _ _ (remove_stage_joining start bare name vacant false loose) with
        ⟨next, eq, floating⟩ | ⟨x, next, eq, held⟩
      · rw [eq]
        exact retire_branch_intact start next name vacant tolerant floating
      · rw [eq]
        trivial
  · trivial

end Joining

/-! ### Constructed engines -/

section Shaped

variable (g : Graph) (attached linked : Bool) (shaped : g.Shaped attached linked)

include shaped

theorem shaped_links_distinct : g.links.Nodup := by
  rw [shaped.links]
  cases linked <;> decide

theorem shaped_link_ends (l : String × String) (member : l ∈ g.links) :
    l.1 ∈ g.stages.map (·.1) ∧ l.2 ∈ g.stages.map (·.1) := by
  have names : g.stages.map (·.1) =
      [captureName, fanOutName, recordingName] ++ if attached then [egressName] else [] := by
    have named := congrArg (List.map Prod.fst) shaped.stages
    rw [List.map_map] at named
    refine named.trans ?_
    cases attached <;> rfl
  have behind := shaped.behind
  rw [shaped.links] at member
  rw [names]
  cases attached <;> cases linked <;> simp_all
  all_goals rcases member with rfl | rfl | rfl <;> simp

theorem shaped_parent (name : String) (member : name ∈ g.stages.map (·.1)) : g.hasParent name = true := by
  obtain ⟨entry, here, named⟩ := List.mem_map.mp member
  have found : (g.stage? name).isSome = true := by
    rw [Graph.stage?, Option.isSome_map, List.find?_isSome]
    exact ⟨entry, here, by simpa using named⟩
  obtain ⟨stage, read⟩ := Option.isSome_iff_exists.mp found
  rw [Graph.hasParent, read]
  exact shaped.placed _ (Graph.stage_member name g stage read)

theorem shaped_vacant (name : String) (absent : g.hasParent name = false) :
    g.Vacant name ∧ g.hasStage name = false := by
  have missing : g.stage? name = none := by
    by_contra found
    obtain ⟨stage, read⟩ := Option.ne_none_iff_exists'.mp found
    have placed := shaped.placed _ (Graph.stage_member name g stage read)
    rw [Graph.hasParent, read] at absent
    cases absent.symm.trans placed
  have unnamed : ∀ entry ∈ g.stages, entry.1 ≠ name := by
    intro entry member
    have found := List.find?_eq_none.mp (Option.map_eq_none_iff.mp missing) entry member
    simpa using found
  have ends : ∀ other ∈ g.stages.map (·.1), other ≠ name := by
    intro other member
    obtain ⟨entry, here, rfl⟩ := List.mem_map.mp member
    exact unnamed entry here
  refine ⟨⟨unnamed, fun l member => ?_⟩, by rw [Graph.hasStage, missing]; rfl⟩
  obtain ⟨up, down⟩ := shaped_link_ends g attached linked shaped l member
  exact ⟨ends _ up, ends _ down⟩

end Shaped

section Branch

variable (e : Engine) (tolerant : e.refusals = {}) (attached linked : Bool) (shaped : e.graph.Shaped attached linked)

include tolerant shaped

theorem attach_branch_joining (spec : StageSpec) :
    Ends (e.attachBranch spec) (fun next => e.graph.Vacant spec.name ∧ Joining e spec.name true true next)
      (fun next => e.graph.fails (.remove spec.name) = false → e.graph.Intact next.graph) := by
  apply if_constructed_ends e
  · exact fun _ _ => Graph.intact_refl e.graph
  intro _
  cases present : e.graph.hasParent spec.name with
  | true => exact fun _ => Graph.intact_refl e.graph
  | false =>
      obtain ⟨vacant, free⟩ := shaped_vacant e.graph attached linked shaped spec.name present
      simp only [Bool.false_eq_true, if_false]
      split
      · exact fun _ => Graph.intact_refl e.graph
      · simp only [clearName, free, Bool.false_eq_true, if_false, Outcome.next]
        have built := Graph.build_extends e.graph spec
        have spent := (Graph.build_steady e.graph spec).spends
        rw [buildStage]
        rcases eq : e.graph.build spec with ⟨x | u, g⟩
        · rw [eq] at built
          exact fun _ => built
        · rw [eq] at built spent
          have joined := join_branch_joining e { e with graph := g } spec.name vacant tolerant ⟨rfl, spent, built⟩
          exact ends_mono _ _ _ _ _ joined (fun _ done => ⟨vacant, done⟩) fun _ undone => undone

end Branch

/-! ### Taking out a branch that stays -/

structure Leaving (start : Engine) (name : String) (e : Engine) : Prop where
  spends : Graph.Spends start.graph e.graph
  stages : e.graph.stages = start.graph.stages
  links : e.graph.links = start.graph.links.filter (· ≠ (fanOutName, name))

section Leaving

variable (start e : Engine) (name : String)

theorem unlink_leaving :
    Ends (start.unlink fanOutName name)
      (fun next => start.graph.isLinked fanOutName name = true ∧ Leaving start name next)
      (start.graph.Intact ·.graph) := by
  have spends := (Graph.unlink_steady start.graph fanOutName name).spends
  have stages := Graph.unlink_stages start.graph fanOutName name
  have changes := Graph.unlink_changes start.graph fanOutName name
  have unlinked : (start.graph.unlink fanOutName name).1 = .ok () → start.graph.isLinked fanOutName name = true := by
    rw [Graph.unlink]
    split
    · simp
    · split <;> simp_all
  rw [unlink, withGraph]
  rcases eq : start.graph.unlink fanOutName name with ⟨x | u, g⟩
  · rw [eq] at changes
    exact Graph.refused_intact _ _ _ changes
  · rw [eq] at spends stages changes unlinked
    have same : g = _ := changes
    exact ⟨unlinked rfl, spends, stages, by rw [same]⟩

theorem remove_refused_leaving (leaving : Leaving start name e) :
    Ends (e.removeStage name) (fun _ => True) (Leaving start name) := by
  have spends := Graph.spends_trans _ _ _ leaving.spends (Graph.remove_steady e.graph name).spends
  have changes := Graph.remove_changes e.graph name
  rw [removeStage, withGraph]
  rcases eq : e.graph.remove name with ⟨x | u, g⟩
  · rw [eq] at spends changes
    have same := Graph.refused_intact _ _ _ changes
    exact ⟨spends, same.stages.trans leaving.stages, same.links.trans leaving.links⟩
  · trivial

variable (attached linked : Bool) (shaped : start.graph.Shaped attached linked)

include shaped

theorem relink_leaving (able : start.graph.fails (.link name) = false)
    (joined : start.graph.isLinked fanOutName name = true) (leaving : Leaving start name e) :
    (e.link fanOutName name).2.graph.stages = start.graph.stages ∧
      (e.link fanOutName name).2.graph.links.Perm start.graph.links := by
  have member : (fanOutName, name) ∈ start.graph.links := by simpa [Graph.isLinked] using joined
  obtain ⟨up, down⟩ := shaped_link_ends start.graph attached linked shaped _ member
  have same : ∀ stage, e.graph.hasParent stage = start.graph.hasParent stage := by
    intro stage
    simp only [Graph.hasParent, Graph.stage?, leaving.stages]
  have above := (same _).trans (shaped_parent start.graph attached linked shaped _ up)
  have below := (same _).trans (shaped_parent start.graph attached linked shaped _ down)
  have loose : e.graph.isLinked fanOutName name = false := by simp [Graph.isLinked, leaving.links]
  have answers := Graph.link_answers e.graph fanOutName name above below loose
  have changes := Graph.link_changes e.graph fanOutName name
  refine ⟨(Graph.link_stages e.graph fanOutName name).trans leaving.stages, ?_⟩
  rw [link, withGraph]
  rcases eq : e.graph.link fanOutName name with ⟨x | u, g⟩
  · rw [eq] at answers
    cases (Graph.spends_calm _ _ _ leaving.spends able).symm.trans answers
  · rw [eq] at changes
    have appended : g.links = e.graph.links ++ [(fanOutName, name)] := congrArg Graph.links changes.2
    have distinct := shaped_links_distinct start.graph _ _ shaped
    change g.links.Perm _
    rw [appended, leaving.links]
    calc (start.graph.links.filter (· ≠ (fanOutName, name)) ++ [(fanOutName, name)]).Perm _ :=
          List.perm_append_singleton _ _
      _ = (fanOutName, name) :: start.graph.links.erase (fanOutName, name) := by
          rw [distinct.erase_eq_filter]
          congr 2
          funext l
          simp [bne, beq_eq_decide]
      List.Perm _ start.graph.links := (List.perm_cons_erase member).symm

theorem detach_branch_refused (able : start.graph.fails (.link name) = false) :
    Ends (start.detachBranch name) (fun _ => True)
      (fun next => next.graph.stages = start.graph.stages ∧ next.graph.links.Perm start.graph.links) := by
  apply if_constructed_ends start
  · exact fun _ => ⟨rfl, List.Perm.refl _⟩
  intro _
  split
  · apply Outcome.next_ends _ _ _ _ _ (ends_mono _ _ _ _ _ (unlink_leaving start name) (fun _ left => left) ?_)
    · rintro bare ⟨joined, leaving⟩
      rcases ends_cases _ _ _ (remove_refused_leaving start bare name leaving) with
        ⟨next, eq, _⟩ | ⟨x, next, eq, left⟩
      · rw [eq]
        trivial
      · rw [eq]
        exact relink_leaving start next name attached linked shaped able joined left
    · exact fun next same => ⟨same.stages, same.links ▸ List.Perm.refl _⟩
  · exact ⟨rfl, List.Perm.refl _⟩

end Leaving

/-! ### All or nothing -/

theorem branches_all_or_nothing (allowed : Engine → Step → Prop) (e : Engine) (reached : Reachable allowed e)
    (built : e.constructed = true) :
    (∀ spec x next, e.graph.fails (.remove spec.name) = false → e.attachBranch spec = (.error x, next) →
      next.graph.stages = e.graph.stages ∧ next.graph.links = e.graph.links) ∧
    (∀ name x next, e.graph.fails (.link name) = false → e.detachBranch name = (.error x, next) →
      next.graph.stages = e.graph.stages ∧ next.graph.links.Perm e.graph.links) ∧
    ∀ spec middle next, e.attachBranch spec = (.ok (), middle) → middle.detachBranch spec.name = (.ok (), next) →
      next.graph.stages = e.graph.stages ∧ next.graph.links = e.graph.links := by
  obtain ⟨egress, served, _⟩ := sound_served e (reachable_sound allowed e reached) built
  have tolerant := served.tolerant
  obtain ⟨attached, linked, shaped⟩ : ∃ attached linked, e.graph.Shaped attached linked :=
    ⟨_, _, served_shaped e egress served⟩
  refine ⟨?_, ?_, ?_⟩
  · intro spec x next able failed
    have undone := attach_branch_joining e tolerant attached linked shaped spec
    rw [failed] at undone
    have same : e.graph.Intact next.graph := undone able
    exact ⟨same.stages, same.links⟩
  · intro name x next able failed
    have undone := detach_branch_refused e name attached linked shaped able
    rw [failed] at undone
    exact undone
  · intro spec middle next attaching detaching
    have joined := attach_branch_joining e tolerant attached linked shaped spec
    rw [attaching] at joined
    obtain ⟨vacant, joining⟩ := joined
    have detached := detach_joined e middle spec.name vacant tolerant joining
    rw [detaching] at detached
    have same : e.graph.Intact next.graph := detached
    exact ⟨same.stages, same.links⟩

-- A new branch can be neither started nor unlinked, and the recording branch cannot be taken out.
def jammedBranches : Engine :=
  run [.addEndpoint ⟨"10.0.0.1", 5000⟩, .inject (.failOn (.sync "viewers")),
    .inject (.failOnce (.unlink "viewers")), .inject (.failOn (.remove recordingName))] fresh

theorem branches_all_or_nothing_jammed :
    (∃ next, jammedBranches.attachBranch ⟨"viewers", .egress⟩ =
        (.error (.graph (.backend (.injected (.sync "viewers")))), next) ∧
      next.graph.stages = jammedBranches.graph.stages ∧ next.graph.links = jammedBranches.graph.links) ∧
    (∃ next, jammedBranches.detachBranch recordingName =
        (.error (.graph (.backend (.injected (.remove recordingName)))), next) ∧
      next.graph.links ≠ jammedBranches.graph.links ∧ next.graph.links.Perm jammedBranches.graph.links) ∧
    ∃ middle next, jammedBranches.attachBranch ⟨"spare", .fanOut⟩ = (.ok (), middle) ∧
      middle.detachBranch "spare" = (.ok (), next) ∧ middle.graph.isLinked fanOutName "spare" = true ∧
      next.graph.stages = jammedBranches.graph.stages ∧ next.graph.links = jammedBranches.graph.links := by
  have reached : Reachable Orderly jammedBranches := orderly_run _ fresh fresh_reachable (by simp)
  obtain ⟨attaching, detaching, undoing⟩ := branches_all_or_nothing Orderly jammedBranches reached (by decide)
  have unstarted : (jammedBranches.attachBranch ⟨"viewers", .egress⟩).1 =
      .error (.graph (.backend (.injected (.sync "viewers")))) := by
    decide
  have kept : (jammedBranches.detachBranch recordingName).1 =
      .error (.graph (.backend (.injected (.remove recordingName)))) := by
    decide
  have attached : (jammedBranches.attachBranch ⟨"spare", .fanOut⟩).1 = .ok () := by decide
  have detached : ((jammedBranches.attachBranch ⟨"spare", .fanOut⟩).2.detachBranch "spare").1 = .ok () := by decide
  refine ⟨⟨_, Prod.ext unstarted rfl, ?_⟩, ⟨_, Prod.ext kept rfl, by decide, ?_⟩, _, _, Prod.ext attached rfl,
    Prod.ext detached rfl, by decide, ?_⟩
  · exact attaching _ _ _ (by decide) (Prod.ext unstarted rfl)
  · exact (detaching _ _ _ (by decide) (Prod.ext kept rfl)).2
  · exact undoing ⟨"spare", .fanOut⟩ _ _ (Prod.ext attached rfl) (Prod.ext detached rfl)

end CameraServer.Engine
