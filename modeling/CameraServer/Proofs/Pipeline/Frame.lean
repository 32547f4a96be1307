import CameraServer.Proofs.Pipeline.Run

/-!
What the calls of the graph and of the recording have in common, the operations of the engine have in
common. Main statements: a relation that is transitive and that each single call respects is respected
by attaching and detaching a branch and by the construction; and one that these respect as a whole is
respected by every operation that is made of them.
-/

set_option autoImplicit false

namespace CameraServer.Engine

open Media

structure Course (R : Engine → Engine → Prop) : Prop where
  refl : ∀ e, R e e
  trans : ∀ e middle next, R e middle → R middle next → R e next

structure Wraps (R S : Engine → Engine → Prop) : Prop where
  quiet : ∀ e next, R e next → S e next
  before : ∀ e middle next, R e middle → S middle next → S e next
  after : ∀ e middle next, S e middle → R middle next → S e next

-- One that each call respects. It does not look at the ledger. Stages are added, stopped and
-- synchronised under the given names only.
structure Frame (own : String → Prop) (R : Engine → Engine → Prop) : Prop extends Course R where
  ledger : ∀ e next, next.graph = e.graph → next.site = e.site → R e next
  build : ∀ spec e, R e (e.buildStage spec).2
  add : ∀ name e, own name → R e (e.addStage name).2
  remove : ∀ name e, R e (e.removeStage name).2
  release : ∀ name e, R e (e.releaseStage name).2
  link : ∀ up down e, R e (e.link up down).2
  unlink : ∀ up down e, R e (e.unlink up down).2
  setStage : ∀ name state e, own name → R e (e.setStageState name state).2
  sync : ∀ name e, own name → R e (e.syncStage name).2
  query : ∀ e, R e e.queryState.2
  emit : ∀ target signal e, R e (e.emit target signal).2
  resolve : ∀ e, R e e.resolveRecordings.2
  dump : ∀ tag e, R e (e.dump tag)
  pop : ∀ e, R e { e with graph := e.graph.popEvent.2 }

structure StageFrame (spec : StageSpec) (R : Engine → Engine → Prop) : Prop extends Course R where
  build : ∀ e, R e (e.buildStage spec).2
  add : ∀ e, R e (e.addStage spec.name).2
  remove : ∀ e, R e (e.removeStage spec.name).2
  release : ∀ e, R e (e.releaseStage spec.name).2
  link : ∀ e, R e (e.link fanOutName spec.name).2
  unlink : ∀ e, R e (e.unlink fanOutName spec.name).2
  setStage : ∀ state e, R e (e.setStageState spec.name state).2
  sync : ∀ e, R e (e.syncStage spec.name).2
  dump : ∀ tag e, R e (e.dump tag)

structure GraphFrame (own : String → Prop) (R : Graph → Graph → Prop) : Prop where
  refl : ∀ g, R g g
  trans : ∀ g middle next, R g middle → R middle next → R g next
  build : ∀ g spec, R g (g.build spec).2
  add : ∀ g name, own name → R g (g.add name).2
  remove : ∀ g name, R g (g.remove name).2
  release : ∀ g name, R g (g.release name).2
  link : ∀ g up down, R g (g.link up down).2
  unlink : ∀ g up down, R g (g.unlink up down).2
  setStage : ∀ g name state, own name → R g (g.setStageState name state).2
  sync : ∀ name g s, own name → R g (Graph.sync Site.sink name g s).2.1
  query : ∀ g, R g g.query.2
  emit : ∀ target signal g s, R g (Graph.emit Site.sink target signal g s).2.1
  dump : ∀ g diagnostics, R g { g with diagnostics := diagnostics }
  pop : ∀ g, R g g.popEvent.2

namespace Course

variable {R : Engine → Engine → Prop} (course : Course R)

include course

theorem next {α : Type} (e : Engine) (r : Outcome Unit) (f : Engine → Outcome α) (first : R e r.2)
    (second : ∀ middle, R middle (f middle).2) : R e (r.next f).2 :=
  Outcome.next_keeps r f (R e) first fun middle kept => course.trans e middle _ kept (second middle)

theorem if_constructed {α : Type} (e : Engine) (operation : PipelineOperation) (r : Outcome α)
    (after : R e r.2) : R e (e.ifConstructed operation r).2 :=
  if_constructed_keeps e operation r (R e) (course.refl e) after

theorem wraps : Wraps R R := ⟨fun _ _ same => same, course.trans, course.trans⟩

end Course

namespace Wraps

variable {R S : Engine → Engine → Prop} (wraps : Wraps R S)

include wraps

theorem next_before {α : Type} (e : Engine) (r : Outcome Unit) (f : Engine → Outcome α) (first : R e r.2)
    (second : ∀ middle, S middle (f middle).2) : S e (r.next f).2 := by
  rcases keeps_cases r (R e) first with ⟨u, middle, eq, done⟩ | ⟨x, middle, eq, failed⟩
  · rw [eq]
    exact wraps.before e middle _ done (second middle)
  · rw [eq]
    exact wraps.quiet e middle failed

theorem next_after {α : Type} (e : Engine) (r : Outcome Unit) (f : Engine → Outcome α) (first : S e r.2)
    (second : ∀ middle, R middle (f middle).2) : S e (r.next f).2 :=
  Outcome.next_keeps r f (S e) first fun middle kept => wraps.after e middle _ kept (second middle)

end Wraps

theorem resolve_recordings_graph (e : Engine) : e.resolveRecordings.2.graph = e.graph := by
  rw [resolveRecordings]
  dsimp only
  split <;> rfl

theorem graph_frame_mono (own : String → Prop) (R S : Graph → Graph → Prop) (frame : GraphFrame own R)
    (weaker : ∀ g next, R g next → S g next) (trans : ∀ g middle next, S g middle → S middle next → S g next) :
    GraphFrame own S where
  refl := fun g => weaker g g (frame.refl g)
  trans := trans
  build := fun g spec => weaker g _ (frame.build g spec)
  add := fun g name mine => weaker g _ (frame.add g name mine)
  remove := fun g name => weaker g _ (frame.remove g name)
  release := fun g name => weaker g _ (frame.release g name)
  link := fun g up down => weaker g _ (frame.link g up down)
  unlink := fun g up down => weaker g _ (frame.unlink g up down)
  setStage := fun g name state mine => weaker g _ (frame.setStage g name state mine)
  sync := fun name g s mine => weaker g _ (frame.sync name g s mine)
  query := fun g => weaker g _ (frame.query g)
  emit := fun target signal g s => weaker g _ (frame.emit target signal g s)
  dump := fun g tags => weaker g _ (frame.dump g tags)
  pop := fun g => weaker g _ (frame.pop g)

theorem graph_frame (own : String → Prop) (R : Graph → Graph → Prop) (frame : GraphFrame own R) :
    Frame own fun e next => R e.graph next.graph where
  refl := fun e => frame.refl e.graph
  ledger := fun e next graph _ => by rw [graph]; exact frame.refl e.graph
  trans := fun e middle next => frame.trans e.graph middle.graph next.graph
  build := fun spec e => frame.build e.graph spec
  add := fun name e => frame.add e.graph name
  remove := fun name e => frame.remove e.graph name
  release := fun name e => by
    rw [releaseStage]
    split
    · exact frame.refl e.graph
    · exact frame.release e.graph name
  link := fun up down e => frame.link e.graph up down
  unlink := fun up down e => frame.unlink e.graph up down
  setStage := fun name state e mine => by
    rw [setStageState]
    split
    · exact frame.refl e.graph
    · exact frame.setStage e.graph name state mine
  sync := fun name e => frame.sync name e.graph e.site
  query := fun e => frame.query e.graph
  emit := fun target signal e => by
    rw [emit]
    split
    · exact frame.refl e.graph
    · exact frame.emit target signal e.graph e.site
  resolve := fun e => by
    rw [resolve_recordings_graph]
    exact frame.refl e.graph
  dump := fun tag e => frame.dump e.graph _
  pop := fun e => frame.pop e.graph

-- One that may look at the playing flag, and that handling an event respects as a whole. So do
-- attaching and detaching the egress branch, and the calls that leave the branches in their places and
-- open no fragment.
structure FlagFrame (R : Engine → Engine → Prop) : Prop extends Course R where
  ledger : ∀ e next, next.graph = e.graph → next.site = e.site → next.constructed = e.constructed →
    next.refusals = e.refusals → next.playing = e.playing → R e next
  attach : ∀ e, R e (e.attachBranch .egress).2
  detach : ∀ e, R e (e.detachBranch egressName).2
  emitAdd : ∀ endpoint e, R e (e.emitAdd endpoint).2
  emitRemove : ∀ endpoint e, R e (e.emitRemove endpoint).2
  emitEnd : ∀ e, R e (e.emit .graph .endOfStream).2
  query : ∀ e, R e e.queryState.2
  resolve : ∀ e, R e e.resolveRecordings.2
  poll : ∀ e, R e e.poll.2

structure QuietFrame (R : Engine → Engine → Prop) : Prop extends Course R where
  ledger : ∀ e next, next.graph = e.graph → next.site = e.site → next.constructed = e.constructed →
    next.refusals = e.refusals → R e next
  attach : ∀ e, R e (e.attachBranch .egress).2
  detach : ∀ e, R e (e.detachBranch egressName).2
  emitAdd : ∀ endpoint e, R e (e.emitAdd endpoint).2
  emitRemove : ∀ endpoint e, R e (e.emitRemove endpoint).2
  emitEnd : ∀ e, R e (e.emit .graph .endOfStream).2
  query : ∀ e, R e e.queryState.2
  resolve : ∀ e, R e e.resolveRecordings.2
  dump : ∀ tag e, R e (e.dump tag)
  pop : ∀ e, R e { e with graph := e.graph.popEvent.2 }

structure BranchFrame (R : Engine → Engine → Prop) : Prop extends QuietFrame R where
  emitSplit : ∀ e, R e (e.emit (.stage recordingName) .splitAfter).2

/-! ### Branches, made of calls -/

namespace StageFrame

variable {spec : StageSpec} {R : Engine → Engine → Prop} (frame : StageFrame spec R)

include frame

theorem discard_parented (e : Engine) : R e (e.discardParented spec.name) := by
  rw [discardParented]
  rcases keeps_cases _ (R e) (frame.remove e) with ⟨u, next, eq, removed⟩ | ⟨x, next, eq, kept⟩
  · rw [eq]
    exact frame.trans e next _ removed (frame.release next)
  · rw [eq]
    exact kept

theorem clear_name (e : Engine) : R e (e.clearName spec.name).2 := by
  rw [clearName]
  split
  · exact frame.release e
  · exact frame.refl e

theorem join_branch (e : Engine) : R e (e.joinBranch spec.name).2 := by
  rw [joinBranch]
  rcases keeps_cases _ (R e) (frame.add e) with ⟨u, one, eq, added⟩ | ⟨x, one, eq, refused⟩
  · rw [eq]
    dsimp only
    rcases keeps_cases _ (R one) (frame.link one) with ⟨u, two, eq, linked⟩ | ⟨x, two, eq, loose⟩
    · rw [eq]
      have begun := frame.trans e one two added linked
      dsimp only
      rcases keeps_cases _ (R two) (frame.sync two) with ⟨u, three, eq, synced⟩ | ⟨x, three, eq, behind⟩
      · rw [eq]
        exact frame.trans e two _ begun (frame.trans two three _ synced (frame.dump _ three))
      · rw [eq]
        have failed := frame.trans e two three begun behind
        have unlinked := frame.trans e three _ failed (frame.unlink three)
        exact frame.trans e _ _ unlinked (frame.discard_parented _)
    · rw [eq]
      have failed := frame.trans e one two added loose
      exact frame.trans e two _ failed (frame.discard_parented two)
  · rw [eq]
    exact frame.trans e one _ refused (frame.release one)

theorem attach_branch (e : Engine) : R e (e.attachBranch spec).2 := by
  apply frame.if_constructed
  split
  · exact frame.refl e
  · split
    · exact frame.refl e
    · apply frame.next
      · exact frame.next e _ _ (frame.clear_name e) frame.build
      · exact frame.join_branch

theorem retire_branch (e : Engine) : R e (e.retireBranch spec.name) := by
  have stopped := frame.setStage .null e
  have released := frame.trans e _ _ stopped (frame.release _)
  exact frame.trans e _ _ released (frame.dump _ _)

theorem detach_branch (e : Engine) : R e (e.detachBranch spec.name).2 := by
  apply frame.if_constructed
  split
  · apply frame.next e _ _ (frame.unlink e)
    intro bare
    rcases keeps_cases _ (R bare) (frame.remove bare) with ⟨u, next, eq, removed⟩ | ⟨x, next, eq, held⟩
    · rw [eq]
      exact frame.trans bare next _ removed (frame.retire_branch next)
    · rw [eq]
      exact frame.trans bare next _ held (frame.link next)
  · exact frame.refl e

end StageFrame

namespace Frame

variable {own : String → Prop} {R : Engine → Engine → Prop} (frame : Frame own R)

include frame

theorem stage (spec : StageSpec) (mine : own spec.name) : StageFrame spec R where
  toCourse := frame.toCourse
  build := frame.build spec
  add := fun e => frame.add spec.name e mine
  remove := frame.remove spec.name
  release := frame.release spec.name
  link := frame.link fanOutName spec.name
  unlink := frame.unlink fanOutName spec.name
  setStage := fun state e => frame.setStage spec.name state e mine
  sync := fun e => frame.sync spec.name e mine
  dump := frame.dump

theorem branches (mine : own egressName) : BranchFrame R where
  toCourse := frame.toCourse
  ledger := fun e next graph site _ _ => frame.ledger e next graph site
  attach := (frame.stage .egress mine).attach_branch
  detach := (frame.stage .egress mine).detach_branch
  emitAdd := fun endpoint => frame.emit _ (.addDestination endpoint)
  emitRemove := fun endpoint => frame.emit _ (.removeDestination endpoint)
  emitSplit := frame.emit _ .splitAfter
  emitEnd := frame.emit _ .endOfStream
  query := frame.query
  resolve := frame.resolve
  dump := frame.dump
  pop := frame.pop

theorem construct (all : ∀ name, own name) (move : ∀ e, R e (e.setGraphState .ready).2)
    (reset : ∀ e, R e e.resetGraph) (e : Engine) : R e e.construct.2 := by
  have built : R e (runSteps fixedStages e).2 := by
    apply run_steps_keeps (R e) fixedStages _ e (frame.refl e)
    intro step member next kept
    apply frame.trans e next _ kept
    simp only [fixedStages, List.mem_cons, List.not_mem_nil, or_false] at member
    rcases member with rfl | rfl | rfl | rfl | rfl | rfl | rfl | rfl | rfl
    · exact frame.build _ next
    · exact frame.add _ next (all _)
    · exact frame.build _ next
    · exact frame.add _ next (all _)
    · exact frame.build _ next
    · exact frame.add _ next (all _)
    · exact frame.link _ _ next
    · exact frame.link _ _ next
    · exact move next
  rw [Engine.construct]
  split
  · exact frame.refl e
  · rcases keeps_cases _ (R e) built with ⟨u, next, eq, done⟩ | ⟨x, next, eq, failed⟩
    · rw [eq]
      have marked := frame.ledger next { next with constructed := true } rfl rfl
      exact frame.trans e _ _ (frame.trans e next _ done marked) (frame.dump _ _)
    · rw [eq]
      exact frame.trans e next _ failed (reset next)

theorem teardown (reset : ∀ e, R e e.resetGraph) (e : Engine) : R e e.teardown :=
  frame.trans e _ _ (reset e) (frame.ledger _ _ rfl rfl)

end Frame

/-! ### Operations, made of branches -/

namespace FlagFrame

variable {R : Engine → Engine → Prop} (frame : FlagFrame R)

include frame

/-! ### Destinations -/

theorem detach_if_idle (e : Engine) : R e e.detachIfIdle := by
  rw [detachIfIdle]
  split
  · exact frame.detach e
  · exact frame.refl e

theorem reap_each (list : List Endpoint) (e : Engine) : R e (reapEach list e) := by
  induction list generalizing e with
  | nil => exact frame.refl e
  | cons endpoint rest ih =>
      rw [reapEach]
      rcases keeps_cases _ (R e) (frame.emitRemove endpoint e) with ⟨u, next, eq, removed⟩ | ⟨x, next, eq, kept⟩
      · rw [eq]
        exact frame.trans e next _ removed (ih next)
      · rw [eq]
        have listed := frame.ledger next { next with orphans := next.orphans ++ [endpoint] } rfl rfl rfl rfl rfl
        exact frame.trans e _ _ (frame.trans e next _ kept listed) (ih _)

theorem reap_orphans (e : Engine) : R e e.reapOrphans := by
  rw [reapOrphans]
  split
  · exact frame.refl e
  · have begun := frame.ledger e { e with orphans := [] } rfl rfl rfl rfl rfl
    have reaped := frame.trans e _ _ begun (frame.reap_each e.orphans _)
    exact frame.trans e _ _ reaped (frame.detach_if_idle _)

theorem add_endpoint (endpoint : Endpoint) (e : Engine) : R e (e.addEndpoint endpoint).2 := by
  apply frame.if_constructed
  apply frame.trans e _ _ (frame.reap_orphans e)
  apply frame.next
  · split
    · exact frame.attach e.reapOrphans
    · exact frame.refl e.reapOrphans
  · intro ready
    rcases keeps_cases _ (R ready) (frame.emitAdd endpoint ready) with ⟨u, next, eq, added⟩ | ⟨x, next, eq, refused⟩
    · rw [eq]
      exact frame.trans ready next _ added (frame.ledger next _ rfl rfl rfl rfl rfl)
    · rw [eq]
      change R ready (if _ then _ else _)
      split
      · exact frame.trans ready next _ refused (frame.detach next)
      · exact refused

theorem remove_endpoint (endpoint : Endpoint) (e : Engine) : R e (e.removeEndpoint endpoint).2 := by
  rw [removeEndpoint]
  split
  · split
    · apply frame.next
      · exact frame.trans e _ _ (frame.reap_orphans e) (frame.emitRemove endpoint e.reapOrphans)
      · intro next
        have erased := frame.ledger next { next with destinations := next.destinations.erase endpoint }
          rfl rfl rfl rfl rfl
        exact frame.trans next _ _ erased (frame.detach_if_idle _)
    · exact frame.ledger e _ rfl rfl rfl rfl rfl
  · exact frame.refl e

theorem orphan (endpoint : Endpoint) (e : Engine) : R e (e.orphan endpoint) := by
  rw [Engine.orphan]
  split
  · exact frame.ledger e _ rfl rfl rfl rfl rfl
  · exact frame.refl e

theorem change_endpoint (old new : Endpoint) (e : Engine) : R e (e.changeEndpoint old new).2 := by
  rw [changeEndpoint]
  split
  · exact frame.refl e
  · apply frame.next e _ _ (frame.add_endpoint new e)
    intro added
    rcases keeps_cases _ (R added) (frame.remove_endpoint old added) with
      ⟨u, next, eq, moved⟩ | ⟨x, next, eq, held⟩
    · rw [eq]
      exact moved
    · rw [eq]
      dsimp only
      rcases keeps_cases _ (R next) (frame.remove_endpoint new next) with
        ⟨u, last, eq, withdrawn⟩ | ⟨y, last, eq, stuck⟩
      · rw [eq]
        exact frame.trans added next last held withdrawn
      · rw [eq]
        exact frame.trans added next _ held (frame.trans next last _ stuck (frame.orphan new last))

theorem restore (list : List Endpoint) (e : Engine) : R e (restore list e) := by
  induction list generalizing e with
  | nil => exact frame.refl e
  | cons endpoint rest ih => exact frame.trans e _ _ (frame.add_endpoint endpoint e) (ih _)

/-! ### Questions and events -/

theorem poll_to_end (count : Nat) (e : Engine) : R e (pollToEnd count e) := by
  induction count generalizing e with
  | zero => exact frame.refl e
  | succ count ih =>
      have polled := frame.poll e
      rw [pollToEnd]
      split
      · rename_i next eq
        rw [eq] at polled
        exact polled
      · rename_i next eq
        rw [eq] at polled
        exact polled
      · rename_i event next _ eq
        rw [eq] at polled
        exact frame.trans e next _ polled (ih next)

theorem is_running (e : Engine) : R e e.isRunning.2 := by
  rw [isRunning]
  split
  · rcases keeps_cases _ (R e) (frame.query e) with ⟨state, next, eq, asked⟩ | ⟨x, next, eq, asked⟩
    · rw [eq]
      exact asked
    · rw [eq]
      exact asked
  · exact frame.refl e

theorem runs (e : Engine) : R e e.runs.2 := by
  rw [Engine.runs]
  rcases keeps_cases _ (R e) (frame.is_running e) with ⟨running, next, eq, asked⟩ | ⟨x, next, eq, asked⟩
  · rw [eq]
    exact asked
  · rw [eq]
    exact asked

theorem resumes (e : Engine) : R e e.resumes.2 := by
  rw [Engine.resumes]
  split
  · exact frame.refl e
  · exact frame.runs e

theorem state (e : Engine) : R e e.state.2 := by
  rw [Engine.state]
  split
  · rcases keeps_cases _ (R e) (frame.query e) with ⟨state, next, eq, asked⟩ | ⟨x, next, eq, asked⟩
    · rw [eq]
      exact asked
    · rw [eq]
      exact asked
  · exact frame.refl e

theorem settle (patient : Bool) (tries : Nat) (e : Engine) : R e (settle patient tries e) := by
  induction tries generalizing e with
  | zero => exact frame.refl e
  | succ tries ih =>
      have again : ∀ next, R e next → R e (if patient then Engine.settle patient tries next.poll.2 else next) := by
        intro next asked
        split
        · exact frame.trans e _ _ (frame.trans e next _ asked (frame.poll next)) (ih _)
        · exact asked
      rw [Engine.settle]
      rcases keeps_cases _ (R e) (frame.query e) with ⟨state, next, eq, asked⟩ | ⟨x, next, eq, asked⟩
      · rw [eq]
        cases state with
        | null => exact asked
        | ready => exact again next asked
        | paused => exact again next asked
        | playing => exact again next asked
      · rw [eq]
        exact again next asked

/-! ### Moving the graph and splitting the recording -/

section Wrapped

variable {S : Engine → Engine → Prop} (wraps : Wraps R S)

include wraps

theorem move_to (state : PlayState) (move : ∀ e, S e (e.setGraphState state).2) (e : Engine) :
    S e (e.moveTo state).2 := by
  rw [moveTo]
  rcases keeps_cases _ (R e) (frame.query e) with ⟨current, next, eq, asked⟩ | ⟨x, next, eq, asked⟩
  · rw [eq]
    dsimp only
    split
    · exact wraps.quiet e next asked
    · exact wraps.before e next _ asked (move next)
  · rw [eq]
    exact wraps.before e next _ asked (move next)

theorem start (move : ∀ e, S e (e.setGraphState .playing).2) (e : Engine) : S e e.start.2 := by
  apply if_constructed_keeps e _ _ (S e) (wraps.quiet e e (frame.refl e))
  exact wraps.next_before e _ _ (frame.resolve e) (frame.move_to wraps .playing move)

section Split

variable (split : ∀ e, S e (e.emit (.stage recordingName) .splitAfter).2)

include split

theorem split_now (e : Engine) : S e e.splitNow.2 :=
  if_constructed_keeps e _ _ (S e) (wraps.quiet e e (frame.refl e)) (split e)

theorem finish (patient : Bool) (e : Engine) : S e (e.finish patient) := by
  have sent := wraps.after e _ _ (frame.split_now wraps split e) (frame.emitEnd e.splitNow.2)
  rw [Engine.finish]
  rcases keeps_cases _ (S e) sent with ⟨u, next, eq, ended⟩ | ⟨x, next, eq, lost⟩
  · rw [eq]
    dsimp only
    split
    · exact wraps.after e next _ ended (frame.poll_to_end _ next)
    · exact ended
  · rw [eq]
    exact lost

end Split

end Wrapped

theorem pause (move : ∀ e, R e (e.setGraphState .paused).2) (e : Engine) : R e e.pause.2 :=
  frame.if_constructed e _ _ (frame.move_to frame.wraps .paused move e)

section Halt

variable (halt : ∀ e, R e e.halt.2)

include halt

theorem stop (e : Engine) : R e e.stop.2 :=
  frame.if_constructed e _ _ (halt e)

theorem shutdown {S : Engine → Engine → Prop} (wraps : Wraps R S)
    (split : ∀ e, S e (e.emit (.stage recordingName) .splitAfter).2) (patient : Bool) (e : Engine) :
    S e (e.shutdown patient).2 := by
  have asked := frame.runs e
  rw [Engine.shutdown]
  split
  · rcases eq : e.runs with ⟨running, next⟩
    rw [eq] at asked
    have finished : S e (if running then next.finish patient else next) := by
      split
      · exact wraps.before e next _ asked (frame.finish wraps split patient next)
      · exact wraps.quiet e next asked
    dsimp only
    apply wraps.next_after e _ _ (wraps.after e _ _ finished (halt _))
    exact fun last => frame.settle patient _ last
  · exact wraps.quiet e e (frame.refl e)

end Halt

/-! ### Rebuilding the graph -/

section Rebuild

variable (split : ∀ e, R e (e.emit (.stage recordingName) .splitAfter).2)
variable (move : ∀ state e, R e (e.setGraphState state).2) (halt : ∀ e, R e e.halt.2)
variable (construct : ∀ e, R e e.construct.2) (teardown : ∀ e, R e e.teardown)

include split move halt construct teardown

omit move construct in
theorem dismantle (e : Engine) : R e e.dismantle.2 := by
  rw [Engine.dismantle]
  split
  · exact frame.next e _ _ (frame.shutdown halt frame.wraps split true e) fun next => teardown next
  · exact frame.refl e

omit split halt in
theorem rebuild (resume : Bool) (e : Engine) : R e (e.rebuild resume).2 := by
  apply frame.next e _ _ (construct e)
  intro begun
  have empty := frame.ledger begun { begun with destinations := [] } rfl rfl rfl rfl rfl
  have full := frame.trans begun _ _ empty (frame.restore begun.destinations _)
  dsimp only
  split
  · have started := frame.trans begun _ _ full (frame.start frame.wraps (move .playing) _)
    rcases keeps_cases _ (R begun) started with ⟨u, next, eq, plays⟩ | ⟨x, next, eq, failed⟩
    · rw [eq]
      exact plays
    · rw [eq]
      have gone := frame.trans begun next _ failed (teardown next)
      exact frame.trans begun _ _ gone (frame.ledger _ _ rfl rfl rfl rfl rfl)
  · exact full

theorem set_config (adopt : ∀ config e, R e (e.adopt config)) (config : PipelineConfig) (e : Engine) :
    R e (e.setConfig config).2 := by
  have retry : ∀ resume middle, R middle (middle.retryRebuild config resume).2 := by
    intro resume middle
    have waiting := frame.ledger middle { middle with pending := some resume } rfl rfl rfl rfl rfl
    have adopted := frame.trans middle _ _ waiting (adopt config _)
    have rebuilt := frame.trans middle _ _ adopted (frame.rebuild move construct teardown resume _)
    rw [retryRebuild]
    rcases keeps_cases _ (R middle) rebuilt with ⟨u, next, eq, done⟩ | ⟨x, next, eq, failed⟩
    · rw [eq]
      exact frame.trans middle next _ done (frame.ledger next _ rfl rfl rfl rfl rfl)
    · rw [eq]
      exact frame.trans middle next _ failed (adopt _ next)
  rw [set_config_stages]
  split
  · apply frame.trans e _ _ (frame.resumes e)
    exact frame.next _ _ _ (frame.dismantle split halt teardown _) (retry _)
  · exact adopt config e

omit teardown in
theorem step (s : Step) (e : Engine) :
    (∃ config, s = .setConfig config) ∨ (∃ injection, s = .inject injection) ∨
      (∃ disk now, s = .surroundings disk now) ∨ R e (s.apply e) := by
  cases s with
  | construct => exact .inr (.inr (.inr (construct e)))
  | start => exact .inr (.inr (.inr (frame.start frame.wraps (move .playing) e)))
  | pause => exact .inr (.inr (.inr (frame.pause (move .paused) e)))
  | stop => exact .inr (.inr (.inr (frame.stop halt e)))
  | splitNow => exact .inr (.inr (.inr (frame.split_now frame.wraps split e)))
  | shutdown patient => exact .inr (.inr (.inr (frame.shutdown halt frame.wraps split patient e)))
  | isRunning => exact .inr (.inr (.inr (frame.is_running e)))
  | state => exact .inr (.inr (.inr (frame.state e)))
  | poll => exact .inr (.inr (.inr (frame.poll e)))
  | setConfig config => exact .inl ⟨config, rfl⟩
  | addEndpoint endpoint => exact .inr (.inr (.inr (frame.add_endpoint endpoint e)))
  | removeEndpoint endpoint => exact .inr (.inr (.inr (frame.remove_endpoint endpoint e)))
  | changeEndpoint old new => exact .inr (.inr (.inr (frame.change_endpoint old new e)))
  | reapOrphans => exact .inr (.inr (.inr (frame.reap_orphans e)))
  | inject injection => exact .inr (.inl ⟨injection, rfl⟩)
  | surroundings disk now => exact .inr (.inr (.inl ⟨disk, now, rfl⟩))

end Rebuild

end FlagFrame

/-! ### Relations that do not look at the playing flag -/

namespace QuietFrame

variable {R : Engine → Engine → Prop} (frame : QuietFrame R)

include frame

theorem handle (event : Event) (e : Engine) : R e (handle event e) := by
  unfold Engine.handle
  split
  · have told := frame.ledger e
    dsimp only
    split
    · refine frame.trans e _ _ ?_ (frame.dump _ _)
      exact told _ rfl rfl rfl rfl
    · exact told _ rfl rfl rfl rfl
  · exact frame.refl e

theorem poll (e : Engine) : R e e.poll.2 := by
  have popped := frame.pop e
  rw [Engine.poll]
  split
  · rcases eq : e.graph.popEvent with ⟨none | event, graph⟩
    · exact frame.refl e
    · rw [eq] at popped
      exact frame.trans e _ _ popped (frame.handle event _)
  · exact frame.refl e

theorem halt (move : ∀ e, R e (e.setGraphState .null).2) (e : Engine) : R e e.halt.2 :=
  frame.next e _ _ (move e) fun next => frame.ledger next _ rfl rfl rfl rfl

theorem flag : FlagFrame R where
  toCourse := frame.toCourse
  ledger := fun e next graph site constructed refusals _ => frame.ledger e next graph site constructed refusals
  attach := frame.attach
  detach := frame.detach
  emitAdd := frame.emitAdd
  emitRemove := frame.emitRemove
  emitEnd := frame.emitEnd
  query := frame.query
  resolve := frame.resolve
  poll := frame.poll

end QuietFrame

namespace BranchFrame

variable {R : Engine → Engine → Prop} (frame : BranchFrame R)
variable (move : ∀ state e, R e (e.setGraphState state).2) (construct : ∀ e, R e e.construct.2)
variable (teardown : ∀ e, R e e.teardown)

include frame move construct teardown

omit construct in
theorem dismantle (e : Engine) : R e e.dismantle.2 :=
  frame.flag.dismantle frame.emitSplit (frame.halt (move .null)) teardown e

theorem set_config (adopt : ∀ config e, R e (e.adopt config)) (config : PipelineConfig) (e : Engine) :
    R e (e.setConfig config).2 :=
  frame.flag.set_config frame.emitSplit move (frame.halt (move .null)) construct teardown adopt config e

omit teardown in
theorem step (s : Step) (e : Engine) :
    (∃ config, s = .setConfig config) ∨ (∃ injection, s = .inject injection) ∨
      (∃ disk now, s = .surroundings disk now) ∨ R e (s.apply e) :=
  frame.flag.step frame.emitSplit move (frame.halt (move .null)) construct s e

end BranchFrame

theorem quiet_frame_mono (R S : Engine → Engine → Prop) (frame : QuietFrame R) (course : Course S)
    (weaker : ∀ e next, R e next → S e next) : QuietFrame S where
  toCourse := course
  ledger := fun e next graph site constructed refusals =>
    weaker e next (frame.ledger e next graph site constructed refusals)
  attach := fun e => weaker e _ (frame.attach e)
  detach := fun e => weaker e _ (frame.detach e)
  emitAdd := fun endpoint e => weaker e _ (frame.emitAdd endpoint e)
  emitRemove := fun endpoint e => weaker e _ (frame.emitRemove endpoint e)
  emitEnd := fun e => weaker e _ (frame.emitEnd e)
  query := fun e => weaker e _ (frame.query e)
  resolve := fun e => weaker e _ (frame.resolve e)
  dump := fun tag e => weaker e _ (frame.dump tag e)
  pop := fun e => weaker e _ (frame.pop e)

theorem branch_frame_and (P Q : Engine → Prop) (first : BranchFrame fun e next => P e → P next)
    (second : BranchFrame fun e next => Q e → Q next) :
    BranchFrame fun e next => P e ∧ Q e → P next ∧ Q next where
  refl := fun _ both => both
  trans := fun _ _ _ one two both => two (one both)
  ledger := fun e next graph site constructed refusals =>
    And.imp (first.ledger e next graph site constructed refusals) (second.ledger e next graph site constructed refusals)
  attach := fun e => And.imp (first.attach e) (second.attach e)
  detach := fun e => And.imp (first.detach e) (second.detach e)
  emitAdd := fun endpoint e => And.imp (first.emitAdd endpoint e) (second.emitAdd endpoint e)
  emitRemove := fun endpoint e => And.imp (first.emitRemove endpoint e) (second.emitRemove endpoint e)
  emitSplit := fun e => And.imp (first.emitSplit e) (second.emitSplit e)
  emitEnd := fun e => And.imp (first.emitEnd e) (second.emitEnd e)
  query := fun e => And.imp (first.query e) (second.query e)
  resolve := fun e => And.imp (first.resolve e) (second.resolve e)
  dump := fun tag e => And.imp (first.dump tag e) (second.dump tag e)
  pop := fun e => And.imp (first.pop e) (second.pop e)

end CameraServer.Engine
