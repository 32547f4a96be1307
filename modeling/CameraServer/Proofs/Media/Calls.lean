import CameraServer.Media.Graph

/-!
What the calls on a graph can do. Main statements: each of them makes one change when it succeeds, the
opening of fragments aside, and when it fails it leaves the graph as it was but for the failure that has
fired, and does nothing outside of it.
-/

set_option autoImplicit false

namespace CameraServer

-- How a fallible run ends: well, with the first property of the state, or in an error, with the
-- second.
def Ends {ε α σ : Type} (r : Except ε α × σ) (good bad : σ → Prop) : Prop :=
  match r with
  | (.ok _, s) => good s
  | (.error _, s) => bad s

section Ends

variable {ε α σ : Type}

theorem ends_mono (r : Except ε α × σ) (good bad better worse : σ → Prop) (ended : Ends r good bad)
    (well : ∀ s, good s → better s) (ill : ∀ s, bad s → worse s) : Ends r better worse := by
  obtain ⟨result, s⟩ := r
  cases result with
  | ok a => exact well s ended
  | error x => exact ill s ended

theorem ends_with (r : Except ε α × σ) (good bad better worse : σ → Prop) (first : Ends r good bad)
    (second : Ends r better worse) : Ends r (fun s => good s ∧ better s) worse := by
  obtain ⟨result, s⟩ := r
  cases result with
  | ok a => exact ⟨first, second⟩
  | error x => exact second

theorem ends_cases (r : Except ε Unit × σ) (good bad : σ → Prop) (ended : Ends r good bad) :
    (∃ s, r = (.ok (), s) ∧ good s) ∨ ∃ x s, r = (.error x, s) ∧ bad s := by
  obtain ⟨result, s⟩ := r
  cases result with
  | ok a => exact .inl ⟨s, rfl, ended⟩
  | error x => exact .inr ⟨x, s, rfl, ended⟩

theorem ok_state (r : Except ε Unit × σ) (done : r.1 = .ok ()) : ∃ s, r = (.ok (), s) := by
  obtain ⟨result, s⟩ := r
  exact ⟨s, congrArg (·, s) done⟩

theorem keeps_cases (r : Except ε α × σ) (keep : σ → Prop) (kept : keep r.2) :
    (∃ a s, r = (.ok a, s) ∧ keep s) ∨ ∃ x s, r = (.error x, s) ∧ keep s := by
  obtain ⟨result, s⟩ := r
  cases result with
  | ok a => exact .inl ⟨a, s, rfl, kept⟩
  | error x => exact .inr ⟨x, s, rfl, kept⟩

theorem ends_alike (r : Except ε α × σ) (same : σ → Prop) : Ends r same same ↔ same r.2 := by
  obtain ⟨result, s⟩ := r
  cases result with
  | ok a => exact Iff.rfl
  | error x => exact Iff.rfl

theorem ends_of_state (r : Except ε α × σ) (keep good bad : σ → Prop) (kept : keep r.2)
    (well : ∀ s, keep s → good s) (ill : ∀ s, keep s → bad s) : Ends r good bad :=
  ends_mono r keep keep good bad ((ends_alike r keep).mpr kept) well ill

theorem state_of_ends (r : Except ε α × σ) (good bad keep : σ → Prop) (ended : Ends r good bad)
    (well : ∀ s, good s → keep s) (ill : ∀ s, bad s → keep s) : keep r.2 :=
  (ends_alike r keep).mp (ends_mono r good bad keep keep ended well ill)

end Ends

namespace Media

def Signal.changesList : Signal → Bool
  | .addDestination _ | .removeDestination _ => true
  | .splitAfter | .endOfStream => false

namespace Graph

variable (g : Graph) (name up down : String)

def Refused (p : FailPoint) (next : Graph) : Prop := next = g ∨ next = g.spend p

theorem build_changes (spec : StageSpec) :
    Ends (g.build spec)
      (fun next => g.hasStage spec.name = false ∧
        next = { g with stages := g.stages ++ [(spec.name, { kind := spec.kind })] })
      (g.Refused (.build spec.name)) := by
  rw [build]
  split
  · exact .inr rfl
  · split
    · exact .inl rfl
    · next vacant => exact ⟨by simpa using vacant, rfl⟩

theorem add_changes :
    Ends (g.add name) (· = g.modifyStage name fun s => { s with parented := true }) (g.Refused (.add name)) := by
  rw [add]
  split
  · exact .inr rfl
  · split
    · exact .inl rfl
    · split
      · exact .inl rfl
      · rfl

theorem remove_changes :
    Ends (g.remove name)
      (· = { g.modifyStage name fun s => { s with parented := false } with
        links := g.links.filter fun l => l.1 ≠ name && l.2 ≠ name })
      (g.Refused (.remove name)) := by
  rw [remove]
  split
  · exact .inr rfl
  · split
    · exact .inl rfl
    · split
      · rfl
      · exact .inl rfl

theorem release_changes :
    Ends (g.release name)
      (fun next => g.hasParent name = false ∧ next = { g with stages := g.stages.filter (·.1 ≠ name) })
      (· = g) := by
  rw [release]
  cases read : g.stage? name with
  | none => rfl
  | some stage =>
      cases placed : stage.parented with
      | true => simp [placed, Ends]
      | false => simp [placed, Ends, hasParent, read]

structure Linkable : Prop where
  above : g.hasParent up = true
  below : g.hasParent down = true
  apart : g.isLinked up down = false

theorem link_changes :
    Ends (g.link up down)
      (fun next => g.Linkable up down ∧ next = { g with links := g.links ++ [(up, down)] })
      (g.Refused (.link down)) := by
  rw [link]
  split
  · exact .inr rfl
  · cases readUpper : g.stage? up with
    | none => exact .inl rfl
    | some upper =>
        cases placedUpper : upper.parented with
        | false => simp [placedUpper, Ends, Refused]
        | true =>
            cases readLower : g.stage? down with
            | none => simp [placedUpper, Ends, Refused]
            | some lower =>
                by_cases stuck : (!lower.parented || g.isLinked up down) = true
                · simp [placedUpper, stuck, Ends, Refused]
                · have free : lower.parented = true ∧ g.isLinked up down = false := by simpa using stuck
                  have linkable : g.Linkable up down :=
                    ⟨by simp [hasParent, readUpper, placedUpper], by simp [hasParent, readLower, free.1], free.2⟩
                  simp [placedUpper, free, Ends, linkable]

theorem unlink_filters (calm : g.fails (.unlink down) = false) :
    g.unlink up down =
      let kept := g.links.filter (· ≠ (up, down))
      (if kept.length = g.links.length then .error (.unlinkFailed up down) else .ok (),
        { g with links := kept }) := by
  rw [unlink, if_neg (by simp [calm])]
  by_cases linked : (up, down) ∈ g.links
  · have shorter : (g.links.filter (· ≠ (up, down))).length ≠ g.links.length := by
      intro whole
      simpa using List.length_filter_eq_length_iff.mp whole _ linked
    rw [if_pos (by simpa [isLinked] using linked)]
    dsimp only
    rw [if_neg shorter]
  · have whole : g.links.filter (· ≠ (up, down)) = g.links := by
      apply List.filter_eq_self.mpr
      intro l member
      simpa using fun same : l = (up, down) => linked (same ▸ member)
    rw [if_neg (by simpa [isLinked] using linked)]
    dsimp only
    rw [whole, if_pos rfl]

theorem unlink_changes :
    Ends (g.unlink up down) (· = { g with links := g.links.filter (· ≠ (up, down)) })
      (g.Refused (.unlink down)) := by
  cases fails : g.fails (.unlink down) with
  | true =>
      rw [unlink, if_pos fails]
      exact .inr rfl
  | false =>
      rw [unlink_filters g up down fails]
      dsimp only
      split
      · next whole =>
        have same := List.filter_eq_self.mpr (List.length_filter_eq_length_iff.mp whole)
        exact .inl (by rw [same])
      · rfl

theorem query_changes : Ends g.query (· = g) (g.Refused .stateQuery) := by
  rw [query]
  split
  · exact .inr rfl
  · rfl

theorem set_stage_state_changes (state : PlayState) :
    Ends (g.setStageState name state) (· = g.modifyStage name fun s => { s with state := state }) (· = g) := by
  rw [setStageState]
  split <;> rfl

theorem pop_event_changes : ∃ events, g.popEvent.2 = { g with events := events } := by
  rw [popEvent]
  split
  · exact ⟨_, rfl⟩
  · exact ⟨_, rfl⟩

/-! ### Calls that may open a fragment -/

section Sink

variable {σ : Type} (sink : FragmentSink σ) (s : σ)

def advance : Graph := g.modifyStage name fun st => { st with nextFragment := st.nextFragment + 1 }

theorem open_fragment_changes :
    (openFragment sink name g s).1 = g ∨
      ∃ stage, g.stage? name = some stage ∧ stage.kind = .recording ∧
        ((openFragment sink name g s).1 = g.advance name ∨
          ∃ path, (sink.locate name stage.nextFragment s).1 = some path ∧
            (openFragment sink name g s).1 = { g.advance name with fragments := g.fragments ++ [path] }) := by
  rw [openFragment]
  split
  · exact .inl rfl
  · next stage read =>
    split
    · next records =>
      refine .inr ⟨stage, read, records, ?_⟩
      dsimp only
      split
      · exact .inl rfl
      · next path site found => exact .inr ⟨path, by rw [found], rfl⟩
    · exact .inl rfl

theorem open_first_fragment_changes (gs : Graph × σ) :
    openFirstFragment sink gs name = gs ∨ openFirstFragment sink gs name = openFragment sink name gs.1 gs.2 := by
  rw [openFirstFragment]
  split
  · split
    · exact .inr rfl
    · exact .inl rfl
  · exact .inl rfl

def moved (state : PlayState) : Graph :=
  { g with
    state := state
    stages := g.stages.map fun entry =>
      if entry.2.parented then (entry.1, { entry.2 with state := state }) else entry
    events :=
      if g.state = state then g.events else g.events ++ [.stateChanged graphName g.state state true] }

theorem set_state_changes (state : PlayState) :
    Ends (setState sink state g s)
      (fun next => next = (g.moved state, s) ∨ state = .playing ∧
        next = (g.moved state).recordingStages.foldl (openFirstFragment sink) (g.moved state, s))
      (fun next => g.Refused (.setState state) next.1 ∧ next.2 = s) := by
  rw [setState]
  split
  · exact ⟨.inr rfl, rfl⟩
  · dsimp only
    split
    · next begins => exact .inr ⟨begins.2, rfl⟩
    · exact .inl rfl

theorem sync_changes :
    Ends (sync sink name g s)
      (fun next => next = (g.modifyStage name fun st => { st with state := g.state }, s) ∨
        next = openFirstFragment sink (g.modifyStage name fun st => { st with state := g.state }, s) name)
      (fun next => g.Refused (.sync name) next.1 ∧ next.2 = s) := by
  rw [sync]
  split
  · exact ⟨.inr rfl, rfl⟩
  · split
    · exact ⟨.inl rfl, rfl⟩
    · split
      · exact ⟨.inl rfl, rfl⟩
      · dsimp only
        split
        · exact .inr rfl
        · exact .inl rfl

theorem emit_changes (target : Target) (signal : Signal) :
    Ends (emit sink target signal g s)
      (fun next =>
        signal = .endOfStream ∧ next = ((g.pushEvent .endOfStream).logSignal target signal, s) ∨
        (∃ name stage list, target = .stage name ∧ signal.changesList = true ∧ g.stage? name = some stage ∧
          next = ((g.changeDestinations name stage list).logSignal target signal, s)) ∨
        ∃ name, target = .stage name ∧ signal = .splitAfter ∧
          next = ((openFragment sink name g s).1.logSignal target signal, (openFragment sink name g s).2))
      (fun next => g.Refused (.signal signal.name) next.1 ∧ next.2 = s) := by
  unfold emit
  split
  · exact ⟨.inr rfl, rfl⟩
  · split
    · exact .inl ⟨rfl, rfl⟩
    · exact ⟨.inl rfl, rfl⟩
    · split
      · exact ⟨.inl rfl, rfl⟩
      · next read => exact .inr (.inl ⟨_, _, _, rfl, rfl, read, rfl⟩)
    · split
      · exact ⟨.inl rfl, rfl⟩
      · next read => exact .inr (.inl ⟨_, _, _, rfl, rfl, read, rfl⟩)
    · split
      · exact ⟨.inl rfl, rfl⟩
      · exact .inr (.inr ⟨_, rfl, rfl, rfl⟩)

end Sink

end Graph

end Media

end CameraServer
