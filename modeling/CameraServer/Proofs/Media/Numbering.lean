import CameraServer.Proofs.Media.InStep
import CameraServer.Proofs.Media.Steps

/-!
The indices with which a recording stage asks where its fragments go. Main statements: a sink that notes
what it is asked makes no difference to a run; and as long as a recording stage lasts, it asks with 0, 1, 2
and so on, whatever else happens to the graph.
-/

set_option autoImplicit false

namespace CameraServer.Media

abbrev Notes := List (String × UInt32)

def Notes.indices (name : String) (notes : Notes) : List UInt32 := (notes.filter (·.1 = name)).map (·.2)

variable {σ : Type} (sink : FragmentSink σ)

def FragmentSink.noting : FragmentSink (σ × Notes) where
  locate name index t := ((sink.locate name index t.1).1, (sink.locate name index t.1).2, t.2 ++ [(name, index)])
  openFile path t := (sink.openFile path t.1, t.2)

namespace Graph

/-! ### Without the notes -/

def unnoted (gn : Graph × σ × Notes) : Graph × σ := (gn.1, gn.2.1)

section Unnoted

variable (name : String) (gn : Graph × σ × Notes)

theorem open_fragment_unnoted :
    unnoted (openFragment sink.noting name gn.1 gn.2) = openFragment sink name gn.1 gn.2.1 := by
  rw [openFragment, openFragment]
  cases gn.1.stage? name with
  | none => rfl
  | some stage =>
      by_cases records : stage.kind = .recording
      · dsimp only
        rw [if_pos records, if_pos records]
        rcases eq : sink.locate name stage.nextFragment gn.2.1 with ⟨found, t⟩
        cases found with
        | none => simp [FragmentSink.noting, eq, unnoted]
        | some path => simp [FragmentSink.noting, eq, unnoted]
      · dsimp only
        rw [if_neg records, if_neg records]
        rfl

theorem open_first_fragment_unnoted :
    unnoted (openFirstFragment sink.noting gn name) = openFirstFragment sink (unnoted gn) name := by
  rw [openFirstFragment, openFirstFragment, show (unnoted gn).1 = gn.1 from rfl]
  split
  · split
    · exact open_fragment_unnoted sink name gn
    · rfl
  · rfl

theorem open_each_unnoted (names : List String) :
    unnoted (names.foldl (openFirstFragment sink.noting) gn) = names.foldl (openFirstFragment sink) (unnoted gn) := by
  induction names generalizing gn with
  | nil => rfl
  | cons name rest ih => rw [List.foldl_cons, List.foldl_cons, ih, open_first_fragment_unnoted]

theorem set_state_unnoted (state : PlayState) :
    unnoted (setState sink.noting state gn.1 gn.2).2 = (setState sink state gn.1 gn.2.1).2 := by
  rw [setState, setState]
  cases gn.1.fails (.setState state) with
  | true => rfl
  | false =>
      simp only [Bool.false_eq_true, if_false]
      by_cases begins : gn.1.state ≠ .playing ∧ state = .playing
      · rw [if_pos begins, if_pos begins]
        exact open_each_unnoted sink (_, gn.2) _
      · rw [if_neg begins, if_neg begins]
        rfl

theorem sync_unnoted : unnoted (sync sink.noting name gn.1 gn.2).2 = (sync sink name gn.1 gn.2.1).2 := by
  rw [sync, sync]
  cases gn.1.fails (.sync name) with
  | true => rfl
  | false =>
      simp only [Bool.false_eq_true, if_false]
      cases gn.1.stage? name with
      | none => rfl
      | some stage =>
          cases placed : stage.parented with
          | false => simp [placed, unnoted]
          | true =>
              simp only [placed, Bool.not_true, Bool.false_eq_true, if_false]
              by_cases plays : gn.1.state = .playing
              · rw [if_pos plays, if_pos plays]
                exact open_first_fragment_unnoted sink name (_, gn.2)
              · rw [if_neg plays, if_neg plays]
                rfl

theorem emit_unnoted (target : Target) (signal : Signal) :
    unnoted (emit sink.noting target signal gn.1 gn.2).2 = (emit sink target signal gn.1 gn.2.1).2 := by
  unfold emit
  cases gn.1.fails (.signal signal.name) with
  | true => rfl
  | false =>
      simp only [Bool.false_eq_true, if_false]
      cases target with
      | graph => cases signal <;> rfl
      | stage name =>
          cases signal with
          | addDestination endpoint =>
              dsimp only
              cases gn.1.stage? name <;> rfl
          | removeDestination endpoint =>
              dsimp only
              cases gn.1.stage? name <;> rfl
          | splitAfter =>
              have split := open_fragment_unnoted sink name gn
              dsimp only
              cases gn.1.stage? name with
              | none => rfl
              | some stage =>
                  dsimp only
                  rw [← split]
                  rfl
          | endOfStream => rfl

theorem perform_unnoted (call : Call) :
    unnoted (call.perform sink.noting gn).2 = (call.perform sink (unnoted gn)).2 := by
  cases call with
  | setState target state =>
      cases target with
      | graph => exact set_state_unnoted sink gn state
      | stage name => rfl
  | sync name => exact sync_unnoted sink name gn
  | emit target signal => exact emit_unnoted sink gn target signal
  | _ => rfl

theorem apply_unnoted (step : Step) : unnoted (step.apply sink.noting gn) = step.apply sink (unnoted gn) := by
  cases step with
  | call call => exact perform_unnoted sink gn call
  | _ => rfl

theorem run_unnoted (steps : List Step) : unnoted (run sink.noting steps gn) = run sink steps (unnoted gn) := by
  induction steps generalizing gn with
  | nil => rfl
  | cons step rest ih => rw [run, run, ih, apply_unnoted]

end Unnoted

/-! ### The counter of a stage -/

def counter? (g : Graph) (name : String) : Option UInt32 :=
  (g.stage? name).bind fun stage => if stage.kind = .recording then some stage.nextFragment else none

section Counter

variable (g next : Graph) (name other : String)

theorem counter_of_stages (stages : next.stages = g.stages) : next.counter? name = g.counter? name := by
  rw [counter?, stage?, stages, counter?, stage?]

theorem refused_counter (p : FailPoint) (refused : g.Refused p next) : next.counter? name = g.counter? name :=
  counter_of_stages g next name (refused_stages g next p refused)

theorem counter_of_ends (r : Except GraphError Unit × Graph) (good : Graph → Prop) (p : FailPoint)
    (ended : Ends r good (g.Refused p)) (well : ∀ next, good next → next.counter? name = g.counter? name) :
    r.2.counter? name = g.counter? name :=
  state_of_ends r good _ (·.counter? name = g.counter? name) ended well fun next refused =>
    refused_counter g next name p refused

theorem modify_counter (f : Stage → Stage)
    (kind : ∀ stage, g.stage? other = some stage → (f stage).kind = stage.kind)
    (index : ∀ stage, g.stage? other = some stage → (f stage).nextFragment = stage.nextFragment) :
    (g.modifyStage other f).counter? name = g.counter? name := by
  by_cases same : other = name
  · subst same
    rw [counter?, stage_modify, counter?]
    cases read : g.stage? other with
    | none => rfl
    | some stage =>
        simp only [Option.map_some, Option.bind_some]
        rw [kind stage read, index stage read]
  · rw [counter?, stage_modify_other g name other f same, counter?]

theorem advance_counter : (g.advance name).counter? name = (g.counter? name).map (· + 1) := by
  rw [counter?, advance, stage_modify, counter?]
  cases g.stage? name with
  | none => rfl
  | some stage => by_cases records : stage.kind = .recording <;> simp [records]

theorem advance_other_counter (apart : other ≠ name) : (g.advance other).counter? name = g.counter? name := by
  rw [counter?, advance, stage_modify_other g name other _ apart, counter?]

theorem moved_counter (state : PlayState) : (g.moved state).counter? name = g.counter? name := by
  have read : (g.moved state).stage? name =
      (g.stage? name).map fun stage => if stage.parented then { stage with state := state } else stage := by
    refine under_map g.stages name _ _ fun entry => ?_
    cases placed : entry.2.parented <;> simp [placed]
  rw [counter?, read, counter?]
  cases g.stage? name with
  | none => rfl
  | some stage => cases placed : stage.parented <;> simp [placed]

variable (index : UInt32) (counted : g.counter? name = some index)

include counted

theorem counter_append (more : List (String × Stage)) (grown : next.stages = g.stages ++ more) :
    next.counter? name = some index := by
  obtain ⟨stage, read, records⟩ := Option.bind_eq_some_iff.mp counted
  have still : next.stage? name = some stage := by
    rw [stage?, grown]
    exact under_append g.stages name more stage read
  exact Option.bind_eq_some_iff.mpr ⟨stage, still, records⟩

end Counter

/-! ### Asking for a place -/

section Ask

variable (name other : String)

structure Numbered (gn : Graph × σ × Notes) : Prop where
  counter : gn.1.counter? name = some (UInt32.ofNat (gn.2.2.indices name).length)
  row : gn.2.2.indices name = (List.range (gn.2.2.indices name).length).map UInt32.ofNat

theorem numbered_of_counter (gn next : Graph × σ × Notes) (counter : next.1.counter? name = gn.1.counter? name)
    (notes : next.2.2.indices name = gn.2.2.indices name) (numbered : Numbered name gn) : Numbered name next where
  counter := by rw [counter, notes, numbered.counter]
  row := by rw [notes, ← numbered.row]

theorem numbered_ask (gn next : Graph × σ × Notes) (index : UInt32) (due : gn.1.counter? name = some index)
    (counter : next.1.counter? name = some (index + 1)) (notes : next.2.2 = gn.2.2 ++ [(name, index)])
    (numbered : Numbered name gn) : Numbered name next := by
  have asked : next.2.2.indices name = gn.2.2.indices name ++ [index] := by
    rw [notes]
    simp [Notes.indices]
  have follows : index = UInt32.ofNat (gn.2.2.indices name).length :=
    Option.some.inj (due.symm.trans numbered.counter)
  constructor
  · rw [counter, asked, follows, List.length_append, UInt32.ofNat_add]
    rfl
  · rw [asked, List.length_append, List.length_singleton, List.range_succ, List.map_append, ← numbered.row, follows]
    rfl

theorem open_fragment_notes (gn : Graph × σ × Notes) :
    openFragment sink.noting name gn.1 gn.2 = gn ∨
      ∃ index, gn.1.counter? name = some index ∧
        (openFragment sink.noting name gn.1 gn.2).1.stages = (gn.1.advance name).stages ∧
        (openFragment sink.noting name gn.1 gn.2).2.2 = gn.2.2 ++ [(name, index)] := by
  rw [openFragment]
  cases read : gn.1.stage? name with
  | none => exact .inl rfl
  | some stage =>
      by_cases records : stage.kind = .recording
      · refine .inr ⟨stage.nextFragment, by simp [counter?, read, records], ?_⟩
        dsimp only
        rw [if_pos records]
        rcases eq : sink.locate name stage.nextFragment gn.2.1 with ⟨found, s⟩
        cases found with
        | none => simp [FragmentSink.noting, eq, advance]
        | some path => simp [FragmentSink.noting, eq, advance]
      · dsimp only
        rw [if_neg records]
        exact .inl rfl

theorem open_fragment_numbered (gn : Graph × σ × Notes) (numbered : Numbered name gn) :
    Numbered name (openFragment sink.noting other gn.1 gn.2) := by
  rcases open_fragment_notes sink other gn with same | ⟨index, due, stages, notes⟩
  · rw [same]
    exact numbered
  · have counter := counter_of_stages _ _ name stages
    by_cases own : other = name
    · subst own
      refine numbered_ask other gn _ index due ?_ notes numbered
      rw [counter, advance_counter, due]
      rfl
    · refine numbered_of_counter name gn _ ?_ ?_ numbered
      · rw [counter, advance_other_counter gn.1 name other own]
      · rw [notes]
        simp [Notes.indices, own]

theorem open_first_fragment_numbered (gn : Graph × σ × Notes) (numbered : Numbered name gn) :
    Numbered name (openFirstFragment sink.noting gn other) := by
  rcases open_first_fragment_changes other sink.noting gn with same | opened
  · rw [same]
    exact numbered
  · rw [opened]
    exact open_fragment_numbered sink name other gn numbered

theorem open_each_numbered (names : List String) (gn : Graph × σ × Notes) (numbered : Numbered name gn) :
    Numbered name (names.foldl (openFirstFragment sink.noting) gn) := by
  induction names generalizing gn with
  | nil => exact numbered
  | cons other rest ih => exact ih _ (open_first_fragment_numbered sink name other gn numbered)

end Ask

/-! ### Calls and runs -/

section Run

variable (name : String) (gn : Graph × σ × Notes)

theorem release_counter (other : String) (stays : (Step.call (.release other)).frees name gn.1 = false) :
    (gn.1.release other).2.counter? name = gn.1.counter? name := by
  have changes := gn.1.release_changes other
  rcases eq : gn.1.release other with ⟨x | u, next⟩
  · rw [eq] at changes
    exact congrArg (·.counter? name) changes
  · rw [eq] at changes
    have apart : other ≠ name := by
      rintro rfl
      simp [Step.frees, eq, Except.isOk, Except.toBool] at stays
    obtain ⟨_, rfl⟩ := changes
    rw [counter?, counter?]
    exact congrArg (fun found : Option Stage => found.bind _) (under_erase gn.1.stages name other apart)

variable (numbered : Numbered name gn)

include numbered

theorem within_numbered (r : Except GraphError Unit × Graph) (counter : r.2.counter? name = gn.1.counter? name) :
    Numbered name (within r gn.2).2 :=
  numbered_of_counter name gn _ counter rfl numbered

theorem refused_numbered (p : FailPoint) (next : Graph × σ × Notes) (refused : gn.1.Refused p next.1 ∧ next.2 = gn.2) :
    Numbered name next :=
  numbered_of_counter name gn next (refused_counter gn.1 next.1 name p refused.1) (by rw [refused.2]) numbered

theorem build_counter (spec : StageSpec) : (gn.1.build spec).2.counter? name = gn.1.counter? name := by
  apply counter_of_ends gn.1 name _ _ _ (gn.1.build_changes spec)
  rintro _ ⟨_, rfl⟩
  exact (counter_append gn.1 _ name _ numbered.counter _ rfl).trans numbered.counter.symm

theorem set_state_numbered (state : PlayState) : Numbered name (setState sink.noting state gn.1 gn.2).2 := by
  have moved : Numbered name (gn.1.moved state, gn.2) :=
    numbered_of_counter name gn _ (moved_counter gn.1 name state) rfl numbered
  apply state_of_ends _ _ _ (Numbered name) (gn.1.set_state_changes sink.noting gn.2 state)
  · rintro _ (rfl | ⟨_, rfl⟩)
    · exact moved
    · exact open_each_numbered sink name _ _ moved
  · exact refused_numbered name gn numbered _

theorem sync_numbered (other : String) : Numbered name (sync sink.noting other gn.1 gn.2).2 := by
  have synced : Numbered name (gn.1.modifyStage other fun st => { st with state := gn.1.state }, gn.2) :=
    numbered_of_counter name gn _ (modify_counter gn.1 name other _ (fun _ _ => rfl) fun _ _ => rfl) rfl numbered
  apply state_of_ends _ _ _ (Numbered name) (gn.1.sync_changes other sink.noting gn.2)
  · rintro _ (rfl | rfl)
    · exact synced
    · exact open_first_fragment_numbered sink name other _ synced
  · exact refused_numbered name gn numbered _

theorem emit_numbered (target : Target) (signal : Signal) :
    Numbered name (emit sink.noting target signal gn.1 gn.2).2 := by
  apply state_of_ends _ _ _ (Numbered name) (gn.1.emit_changes sink.noting gn.2 target signal)
  · rintro _ (⟨_, rfl⟩ | ⟨other, stage, list, _, _, read, rfl⟩ | ⟨other, _, _, rfl⟩)
    · exact numbered_of_counter name gn _ rfl rfl numbered
    · refine numbered_of_counter name gn _ ?_ rfl numbered
      apply modify_counter gn.1 name other fun _ => { stage with destinations := list }
      · intro old here
        cases here.symm.trans read
        rfl
      · intro old here
        cases here.symm.trans read
        rfl
    · have opened := open_fragment_numbered sink name other gn numbered
      exact numbered_of_counter name (openFragment sink.noting other gn.1 gn.2) _ rfl rfl opened
  · exact refused_numbered name gn numbered _

theorem perform_numbered (call : Call) (stays : (Step.call call).frees name gn.1 = false) :
    Numbered name (call.perform sink.noting gn).2 := by
  cases call with
  | build spec => exact within_numbered name gn numbered _ (build_counter name gn numbered spec)
  | add other =>
      apply within_numbered name gn numbered
      apply counter_of_ends gn.1 name _ _ _ (gn.1.add_changes other)
      rintro _ rfl
      exact modify_counter gn.1 name other _ (fun _ _ => rfl) fun _ _ => rfl
  | remove other =>
      apply within_numbered name gn numbered
      apply counter_of_ends gn.1 name _ _ _ (gn.1.remove_changes other)
      rintro _ rfl
      exact modify_counter gn.1 name other (fun s => { s with parented := false }) (fun _ _ => rfl) fun _ _ => rfl
  | release other => exact within_numbered name gn numbered _ (release_counter name gn other stays)
  | link up down =>
      exact within_numbered name gn numbered _ (counter_of_stages _ _ name (link_stages gn.1 up down))
  | unlink up down =>
      exact within_numbered name gn numbered _ (counter_of_stages _ _ name (unlink_stages gn.1 up down))
  | setState target state =>
      cases target with
      | graph => exact set_state_numbered sink name gn numbered state
      | stage other =>
          apply within_numbered name gn numbered
          apply state_of_ends _ _ _ (·.counter? name = gn.1.counter? name) (gn.1.set_stage_state_changes other state)
          · rintro _ rfl
            exact modify_counter gn.1 name other _ (fun _ _ => rfl) fun _ _ => rfl
          · rintro _ rfl
            rfl
  | sync other => exact sync_numbered sink name gn numbered other
  | query => exact within_numbered name gn numbered _ (counter_of_stages _ _ name gn.1.query_stages)
  | emit target signal => exact emit_numbered sink name gn numbered target signal

theorem step_numbered (step : Step) (stays : step.frees name gn.1 = false) :
    Numbered name (step.apply sink.noting gn) := by
  cases step with
  | call call => exact perform_numbered sink name gn numbered call stays
  | inject injection =>
      obtain ⟨failures, once, same⟩ := injection.apply_points gn.1
      refine numbered_of_counter name gn _ ?_ rfl numbered
      rw [Step.apply, same]
      rfl
  | post event => exact numbered_of_counter name gn _ rfl rfl numbered
  | poll => exact numbered_of_counter name gn _ (counter_of_stages _ _ name gn.1.pop_event_stages) rfl numbered
  | dump tag => exact numbered_of_counter name gn _ rfl rfl numbered
  | reset => cases stays

theorem run_numbered (steps : List Step) (stays : lasts sink name steps (unnoted gn) = true) :
    Numbered name (run sink.noting steps gn) := by
  induction steps generalizing gn with
  | nil => exact numbered
  | cons step rest ih =>
      rw [lasts, Bool.and_eq_true, Bool.not_eq_true'] at stays
      obtain ⟨first, later⟩ := stays
      rw [← apply_unnoted] at later
      exact ih _ (step_numbered sink name gn numbered step first) later

end Run

-- The indices with which the stage asks in a run, from the first to the last. The notes are taken aside: without
-- them it is the run with the sink itself.
def asked (name : String) (steps : List Step) (gs : Graph × σ) : List UInt32 :=
  (run sink.noting steps (gs.1, gs.2, [])).2.2.indices name

theorem asked_from_zero (name : String) (life : List Step) (gs : Graph × σ) (new : gs.1.counter? name = some 0)
    (stays : lasts sink name life gs = true) (few : (asked sink name life gs).length < UInt32.size) :
    (asked sink name life gs).map UInt32.toNat = List.range (asked sink name life gs).length := by
  have row := (run_numbered sink name (gs.1, gs.2, []) ⟨new, rfl⟩ life stays).row
  -- With so few requests no index has come round again.
  have small (i : Nat) (member : i ∈ List.range (asked sink name life gs).length) :
      (UInt32.ofNat i).toNat = i := by
    have below := List.mem_range.mp member
    exact UInt32.toNat_ofNat_of_lt' (Nat.lt_trans below few)
  calc (asked sink name life gs).map UInt32.toNat
      = ((List.range (asked sink name life gs).length).map UInt32.ofNat).map UInt32.toNat :=
        congrArg (List.map UInt32.toNat) row
    _ = List.range (asked sink name life gs).length := by
        rw [List.map_map]
        exact (List.map_congr_left small).trans (List.map_id _)

end Graph

end CameraServer.Media
