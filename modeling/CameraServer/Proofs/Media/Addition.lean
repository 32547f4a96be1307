import CameraServer.Proofs.Media.InStep

/-!
A stage that comes to a graph under a free name, and leaves it again. Main statements: building, adding
and linking it add to the graph as it was and change nothing else, and so does every call on it; what is
built, added and linked and then unlinked, removed and released has left no trace.
-/

set_option autoImplicit false

namespace CameraServer.Media.Graph

structure Intact (g next : Graph) : Prop where
  stages : next.stages = g.stages
  links : next.links = g.links

structure Extended (g : Graph) (name : String) (parented linked : Bool) (next : Graph) : Prop where
  stages : ∃ stage, stage.parented = parented ∧ next.stages = g.stages ++ [(name, stage)]
  links : next.links = g.links ++ if linked then [(fanOutName, name)] else []

structure Vacant (g : Graph) (name : String) : Prop where
  stages : ∀ entry ∈ g.stages, entry.1 ≠ name
  links : ∀ l ∈ g.links, l.1 ≠ name ∧ l.2 ≠ name

section Intact

variable (g h next : Graph)

theorem intact_refl : Intact g g := ⟨rfl, rfl⟩

theorem refused_intact (p : FailPoint) (refused : g.Refused p next) : Intact g next := by
  refine ⟨refused_stages g next p refused, ?_⟩
  exact congrArg Outline.links (refused_outline g p next refused)

theorem intact_extended (name : String) (parented linked : Bool) (intact : Intact h next)
    (extended : g.Extended name parented linked h) : g.Extended name parented linked next := by
  refine ⟨?_, intact.links.trans extended.links⟩
  rw [intact.stages]
  exact extended.stages

end Intact

/-! ### One stage more -/

section Extended

variable (g h : Graph)

theorem build_extends (spec : StageSpec) :
    Ends (g.build spec) (g.Extended spec.name false false) (Intact g) := by
  apply ends_mono _ _ _ _ _ (g.build_changes spec)
  · rintro _ ⟨_, rfl⟩
    exact ⟨⟨{ kind := spec.kind }, rfl, rfl⟩, (List.append_nil _).symm⟩
  · exact fun next => refused_intact g next _

variable (name : String) (vacant : g.Vacant name) (parented linked : Bool)

include vacant

variable (extended : g.Extended name parented linked h)

include extended

theorem modify_extends (f : Stage → Stage) (after : Bool)
    (moved : ∀ stage, stage.parented = parented → (f stage).parented = after) :
    g.Extended name after linked (h.modifyStage name f) := by
  obtain ⟨stage, placed, stages⟩ := extended.stages
  refine ⟨⟨f stage, moved stage placed, ?_⟩, extended.links⟩
  have others : (g.stages.map fun entry => if entry.1 = name then (name, f entry.2) else entry) = g.stages := by
    apply (List.map_congr_left _).trans (List.map_id _)
    intro entry member
    rw [if_neg (vacant.stages entry member)]
    rfl
  rw [modifyStage, stages, List.map_append, others]
  simp

theorem extended_stage : ∃ stage, stage.parented = parented ∧ h.stage? name = some stage := by
  obtain ⟨stage, placed, stages⟩ := extended.stages
  refine ⟨stage, placed, ?_⟩
  have others : g.stages.find? (fun entry => decide (entry.1 = name)) = none :=
    List.find?_eq_none.mpr fun entry member => by simpa using vacant.stages entry member
  rw [stage?, stages, List.find?_append, others]
  simp

theorem extended_parent : h.hasParent name = parented := by
  obtain ⟨stage, placed, read⟩ := extended_stage g h name vacant parented linked extended
  rw [hasParent, read]
  exact placed

end Extended

section Calls

variable (g h : Graph) (name : String) (vacant : g.Vacant name)

include vacant

theorem add_extends (extended : g.Extended name false false h) :
    Ends (h.add name) (g.Extended name true false) (g.Extended name false false) := by
  apply ends_mono _ _ _ _ _ (h.add_changes name)
  · rintro _ rfl
    exact modify_extends g h name vacant _ _ extended _ true fun _ _ => rfl
  · exact fun next refused => intact_extended g h next name _ _ (refused_intact h next _ refused) extended

omit vacant in
theorem link_extends (extended : g.Extended name true false h) :
    Ends (h.link fanOutName name) (g.Extended name true true) (g.Extended name true false) := by
  apply ends_mono _ _ _ _ _ (h.link_changes fanOutName name)
  · rintro _ ⟨_, rfl⟩
    refine ⟨extended.stages, ?_⟩
    change h.links ++ _ = _
    rw [extended.links]
    simp
  · exact fun next refused => intact_extended g h next name _ _ (refused_intact h next _ refused) extended

theorem unlink_extends (extended : g.Extended name true true h) :
    Ends (h.unlink fanOutName name) (g.Extended name true false) (g.Extended name true true) := by
  apply ends_mono _ _ _ _ _ (h.unlink_changes fanOutName name)
  · rintro _ rfl
    refine ⟨extended.stages, ?_⟩
    have others : g.links.filter (fun l => decide (l ≠ (fanOutName, name))) = g.links := by
      apply List.filter_eq_self.mpr
      intro l member
      have other : l ≠ (fanOutName, name) := fun same => (vacant.links l member).2 (congrArg Prod.snd same)
      simpa using other
    change h.links.filter _ = _
    rw [extended.links, List.filter_append, others]
    simp
  · exact fun next refused => intact_extended g h next name _ _ (refused_intact h next _ refused) extended

theorem remove_extends (linked : Bool) (extended : g.Extended name true linked h) :
    Ends (h.remove name) (g.Extended name false false) (g.Extended name true linked) := by
  apply ends_mono _ _ _ _ _ (h.remove_changes name)
  · rintro _ rfl
    have moved := modify_extends g h name vacant _ _ extended (fun s => { s with parented := false }) false
      fun _ _ => rfl
    refine ⟨moved.stages, ?_⟩
    have others : g.links.filter (fun l => decide (l.1 ≠ name) && decide (l.2 ≠ name)) = g.links := by
      apply List.filter_eq_self.mpr
      intro l member
      simpa using vacant.links l member
    change h.links.filter _ = _
    rw [extended.links, List.filter_append, others]
    cases linked <;> simp
  · exact fun next refused => intact_extended g h next name _ _ (refused_intact h next _ refused) extended

theorem release_restores (extended : g.Extended name false false h) : Intact g (h.release name).2 := by
  obtain ⟨stage, loose, read⟩ := extended_stage g h name vacant false false extended
  obtain ⟨last, _, stages⟩ := extended.stages
  have others : g.stages.filter (fun entry => decide (entry.1 ≠ name)) = g.stages := by
    apply List.filter_eq_self.mpr
    intro entry member
    simpa using vacant.stages entry member
  rw [release, read]
  simp only [loose, Bool.false_eq_true, if_false]
  refine ⟨?_, extended.links.trans (List.append_nil _)⟩
  change h.stages.filter _ = _
  rw [stages, List.filter_append, others]
  simp

theorem set_stage_state_extends (state : PlayState) (extended : g.Extended name false false h) :
    g.Extended name false false (h.setStageState name state).2 := by
  apply state_of_ends _ _ _ (g.Extended name false false) (h.set_stage_state_changes name state)
  · rintro _ rfl
    exact modify_extends g h name vacant _ _ extended _ false fun _ loose => loose
  · rintro _ rfl
    exact extended

theorem sync_extends {σ : Type} (sink : FragmentSink σ) (s : σ) (extended : g.Extended name true true h) :
    g.Extended name true true (sync sink name h s).2.1 := by
  have synced : g.Extended name true true (h.modifyStage name fun st => { st with state := h.state }) :=
    modify_extends g h name vacant _ _ extended _ true fun _ placed => placed
  apply state_of_ends _ _ _ (fun next : Graph × σ => g.Extended name true true next.1) (h.sync_changes name sink s)
  · rintro _ (rfl | rfl)
    · exact synced
    · -- The first fragment takes an index of the new stage only.
      have advanced := modify_extends g _ name vacant _ _ synced
        (fun st => { st with nextFragment := st.nextFragment + 1 }) true fun _ placed => placed
      rcases open_first_fragment_changes name sink (h.modifyStage name fun st => { st with state := h.state }, s) with
        same | opened
      · rw [same]
        exact synced
      · rw [opened]
        rcases open_fragment_changes _ name sink s with same | ⟨_, _, _, one | ⟨path, _, one⟩⟩
        · rw [same]
          exact synced
        · rw [one]
          exact advanced
        · rw [one]
          exact ⟨advanced.stages, advanced.links⟩
  · exact fun next refused => intact_extended g h next.1 name _ _ (refused_intact h next.1 _ refused.1) extended

end Calls

end CameraServer.Media.Graph
