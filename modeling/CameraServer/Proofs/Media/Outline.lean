import CameraServer.Proofs.Media.Calls

/-!
The outline of a graph: its stages with their place and destinations, its links, and the history of
destination lists. Main statements: each operation changes the outline in one way when it succeeds,
and leaves it as it was when it fails.
-/

set_option autoImplicit false

namespace CameraServer

namespace Media

/-! ### Entries under names -/

section Entries

variable {α : Type} (entries : List (String × α)) (name other : String)

def under? : Option α := (entries.find? (·.1 = name)).map (·.2)

theorem under_none_iff : under? entries name = none ↔ name ∉ entries.map (·.1) := by
  rw [under?, Option.map_eq_none_iff, List.find?_eq_none]
  constructor
  · rintro absent listed
    obtain ⟨entry, member, named⟩ := List.mem_map.mp listed
    exact absent entry member (by simpa using named)
  · intro absent entry member named
    exact absent (List.mem_map.mpr ⟨entry, member, by simpa using named⟩)

theorem under_member (a : α) (found : under? entries name = some a) : (name, a) ∈ entries := by
  obtain ⟨entry, first, rfl⟩ := Option.map_eq_some_iff.mp found
  have same : entry.1 = name := by simpa using List.find?_some first
  rw [← same]
  exact List.mem_of_find?_eq_some first

theorem under_of_member (names : (entries.map (·.1)).Nodup) (a : α) (member : (name, a) ∈ entries) :
    under? entries name = some a := by
  induction entries with
  | nil => cases member
  | cons entry rest ih =>
      obtain ⟨fresh, distinct⟩ := List.nodup_cons.mp names
      rcases List.mem_cons.mp member with here | later
      · subst here
        simp [under?]
      · have listed : name ∈ rest.map (·.1) := List.mem_map_of_mem later
        have apart : entry.1 ≠ name := by
          rintro rfl
          exact fresh listed
        have found := ih distinct later
        rwa [under?, List.find?_cons_of_neg (by simpa using apart)]

theorem under_append (more : List (String × α)) (a : α) (found : under? entries name = some a) :
    under? (entries ++ more) name = some a := by
  obtain ⟨entry, first, rfl⟩ := Option.map_eq_some_iff.mp found
  rw [under?, List.find?_append, first]
  rfl

theorem under_erase (apart : other ≠ name) :
    under? (entries.filter (·.1 ≠ other)) name = under? entries name := by
  rw [under?, List.find?_filter, under?]
  congr 2
  funext entry
  by_cases named : entry.1 = name
  · simp [named, Ne.symm apart]
  · simp [named]

theorem under_map (f : String × α → String × α) (change : α → α)
    (names : ∀ entry, f entry = (entry.1, change entry.2)) :
    under? (entries.map f) name = (under? entries name).map change := by
  rw [under?, List.find?_map, Option.map_map, under?, Option.map_map]
  have asked : (fun entry => decide (entry.1 = name)) ∘ f = fun entry => decide (entry.1 = name) := by
    funext entry
    rw [Function.comp_apply, names]
  rw [asked]
  congr 1
  funext entry
  rw [Function.comp_apply, names]
  rfl

def adjustEntry (f : α → α) : List (String × α) :=
  entries.map fun entry => if entry.1 = name then (name, f entry.2) else entry

theorem adjust_names (f : α → α) : (adjustEntry entries name f).map (·.1) = entries.map (·.1) := by
  rw [adjustEntry, List.map_map]
  apply List.map_congr_left
  intro entry _
  by_cases named : entry.1 = name <;> simp [named]

theorem adjust_find (f : α → α) (asked : String) :
    (adjustEntry entries name f).find? (·.1 = asked) =
      (entries.find? (·.1 = asked)).map fun entry => if entry.1 = name then (name, f entry.2) else entry := by
  rw [adjustEntry, List.find?_map]
  congr 2
  funext entry
  by_cases named : entry.1 = name <;> simp [named]

theorem under_adjust (f : α → α) : under? (adjustEntry entries name f) name = (under? entries name).map f := by
  rw [under?, adjust_find, under?]
  cases found : entries.find? (fun entry => decide (entry.1 = name)) with
  | none => rfl
  | some entry =>
      have named : entry.1 = name := by simpa using List.find?_some found
      simp [named]

theorem under_adjust_other (f : α → α) (apart : other ≠ name) :
    under? (adjustEntry entries other f) name = under? entries name := by
  rw [under?, adjust_find, under?]
  cases found : entries.find? (fun entry => decide (entry.1 = name)) with
  | none => rfl
  | some entry =>
      have named : entry.1 = name := by simpa using List.find?_some found
      simp [named, Ne.symm apart]

end Entries

-- What the engine relies on in a stage. States and fragment counters come and go without it.
structure Fitting where
  kind : StageKind
  parented : Bool
  destinations : List Endpoint
deriving DecidableEq, Repr

abbrev Layout := List (String × Fitting)

structure Outline where
  layout : Layout
  links : List (String × String)
  history : List (List Endpoint)
deriving DecidableEq, Repr

def Stage.fitting (s : Stage) : Fitting := ⟨s.kind, s.parented, s.destinations⟩

namespace Layout

def get? (l : Layout) (name : String) : Option Fitting := (l.find? (·.1 = name)).map (·.2)

def adjust (name : String) (f : Fitting → Fitting) (l : Layout) : Layout :=
  l.map fun entry => if entry.1 = name then (name, f entry.2) else entry

end Layout

namespace Outline

def build (spec : StageSpec) (o : Outline) : Outline :=
  { o with layout := o.layout ++ [(spec.name, ⟨spec.kind, false, []⟩)] }

def add (name : String) (o : Outline) : Outline :=
  { o with layout := o.layout.adjust name fun f => { f with parented := true } }

def remove (name : String) (o : Outline) : Outline :=
  { o with
    layout := o.layout.adjust name fun f => { f with parented := false }
    links := o.links.filter fun l => l.1 ≠ name && l.2 ≠ name }

def release (name : String) (o : Outline) : Outline :=
  { o with layout := o.layout.filter (·.1 ≠ name) }

def link (up down : String) (o : Outline) : Outline :=
  { o with links := o.links ++ [(up, down)] }

def unlink (up down : String) (o : Outline) : Outline :=
  { o with links := o.links.filter (· ≠ (up, down)) }

def changeList (name : String) (f : Fitting) (list : List Endpoint) (o : Outline) : Outline :=
  { o with
    layout := o.layout.adjust name fun _ => { f with destinations := list }
    history := o.history ++ [list] }

end Outline

namespace Graph

def layout (g : Graph) : Layout := g.stages.map fun entry => (entry.1, entry.2.fitting)

def outline (g : Graph) : Outline := ⟨g.layout, g.links, g.history⟩

theorem layout_get (g : Graph) (name : String) :
    g.layout.get? name = (g.stage? name).map Stage.fitting := by
  simp [Layout.get?, layout, stage?, List.find?_map, Function.comp_def]

theorem has_stage_layout (g : Graph) (name : String) :
    g.hasStage name = (g.layout.get? name).isSome := by
  simp [hasStage, layout_get]

theorem has_parent_layout (g : Graph) (name : String) :
    g.hasParent name = (g.layout.get? name).any (·.parented) := by
  rw [layout_get, hasParent]
  cases g.stage? name with
  | none => rfl
  | some stage => rfl

theorem sink_layout (g : Graph) :
    g.sink = ((g.layout.get? egressName).map (·.destinations)).getD [] := by
  simp [sink, layout_get, Stage.fitting, Function.comp_def]

theorem stages_of_layout (g : Graph) (empty : g.layout = []) : g.stages = [] := by
  simpa [layout] using empty

theorem stage_modify (g : Graph) (name : String) (f : Stage → Stage) :
    (g.modifyStage name f).stage? name = (g.stage? name).map f :=
  under_adjust g.stages name f

theorem stage_modify_other (g : Graph) (name other : String) (f : Stage → Stage) (apart : other ≠ name) :
    (g.modifyStage other f).stage? name = g.stage? name :=
  under_adjust_other g.stages name other f apart

theorem modify_layout (g : Graph) (name : String) (f : Stage → Stage) (change : Fitting → Fitting)
    (fits : ∀ stage, (f stage).fitting = change stage.fitting) :
    (g.modifyStage name f).layout = g.layout.adjust name change := by
  simp only [layout, modifyStage, Layout.adjust, List.map_map]
  apply List.map_congr_left
  intro entry _
  by_cases same : entry.1 = name <;> simp [same, fits]

theorem modify_hidden (g : Graph) (name : String) (f : Stage → Stage)
    (fits : ∀ stage, (f stage).fitting = stage.fitting) :
    (g.modifyStage name f).outline = g.outline := by
  have hidden : (g.modifyStage name f).layout = g.layout := by
    simp only [layout, modifyStage, List.map_map]
    apply List.map_congr_left
    intro entry _
    by_cases same : entry.1 = name <;> simp [same, fits]
  simp only [outline, hidden]
  rfl

theorem spend_outline (g : Graph) (p : FailPoint) : (g.spend p).outline = g.outline := by
  rw [spend]
  split <;> rfl

theorem refused_outline (g : Graph) (p : FailPoint) (next : Graph) (refused : g.Refused p next) :
    next.outline = g.outline := by
  rcases refused with rfl | rfl
  · rfl
  · exact spend_outline g p

/-! ### Stages and links -/

theorem build_ends (g : Graph) (spec : StageSpec) :
    Ends (g.build spec) (fun next => next.outline = g.outline.build spec)
      (fun next => next.outline = g.outline) := by
  apply ends_mono _ _ _ _ _ (g.build_changes spec)
  · rintro _ ⟨_, rfl⟩
    simp [outline, layout, Outline.build, Stage.fitting]
  · exact refused_outline g _

theorem add_ends (g : Graph) (name : String) :
    Ends (g.add name) (fun next => next.outline = g.outline.add name)
      (fun next => next.outline = g.outline) := by
  apply ends_mono _ _ _ _ _ (g.add_changes name)
  · rintro _ rfl
    have moved := modify_layout g name (fun s => { s with parented := true })
      (fun f => { f with parented := true }) (fun _ => rfl)
    rw [outline, moved]
    rfl
  · exact refused_outline g _

theorem remove_ends (g : Graph) (name : String) :
    Ends (g.remove name) (fun next => next.outline = g.outline.remove name)
      (fun next => next.outline = g.outline) := by
  apply ends_mono _ _ _ _ _ (g.remove_changes name)
  · rintro _ rfl
    have moved := modify_layout g name (fun s => { s with parented := false })
      (fun f => { f with parented := false }) (fun _ => rfl)
    simp only [outline, Outline.remove, ← moved]
    rfl
  · exact refused_outline g _

theorem release_ends (g : Graph) (name : String) :
    Ends (g.release name) (fun next => next.outline = g.outline.release name)
      (fun next => next.outline = g.outline) := by
  apply ends_mono _ _ _ _ _ (g.release_changes name)
  · rintro _ ⟨_, rfl⟩
    simp [outline, layout, Outline.release, List.filter_map, Function.comp_def]
  · rintro _ rfl
    rfl

theorem release_floating (g : Graph) (name : String) (f : Fitting)
    (found : g.layout.get? name = some f) (floating : f.parented = false) :
    (g.release name).2.outline = g.outline.release name := by
  rw [layout_get] at found
  obtain ⟨stage, read, rfl⟩ := Option.map_eq_some_iff.mp found
  have loose : stage.parented = false := floating
  simp [release, read, loose, outline, layout, Outline.release, List.filter_map, Function.comp_def]

theorem link_ends (g : Graph) (up down : String) :
    Ends (g.link up down) (fun next => next.outline = g.outline.link up down)
      (fun next => next.outline = g.outline) := by
  apply ends_mono _ _ _ _ _ (g.link_changes up down)
  · rintro _ ⟨_, rfl⟩
    rfl
  · exact refused_outline g _

theorem unlink_ends (g : Graph) (up down : String) :
    Ends (g.unlink up down) (fun next => next.outline = g.outline.unlink up down)
      (fun next => next.outline = g.outline) := by
  apply ends_mono _ _ _ _ _ (g.unlink_changes up down)
  · rintro _ rfl
    rfl
  · exact refused_outline g _

/-! ### States, fragments and events -/

theorem query_outline (g : Graph) : g.query.2.outline = g.outline := by
  apply state_of_ends _ _ _ (·.outline = g.outline) g.query_changes
  · rintro _ rfl
    rfl
  · exact refused_outline g _

theorem pop_event_outline (g : Graph) : g.popEvent.2.outline = g.outline := by
  obtain ⟨events, popped⟩ := g.pop_event_changes
  rw [popped]
  rfl

theorem set_stage_state_outline (g : Graph) (name : String) (state : PlayState) :
    (g.setStageState name state).2.outline = g.outline := by
  apply state_of_ends _ _ _ (·.outline = g.outline) (g.set_stage_state_changes name state)
  · rintro _ rfl
    exact modify_hidden g name _ (fun _ => rfl)
  · rintro _ rfl
    rfl

variable {σ : Type}

theorem open_fragment_outline (sink : FragmentSink σ) (name : String) (g : Graph) (s : σ) :
    (openFragment sink name g s).1.outline = g.outline := by
  have counted : (g.advance name).outline = g.outline := modify_hidden g name _ (fun _ => rfl)
  rcases g.open_fragment_changes name sink s with same | ⟨_, _, _, one | ⟨path, _, one⟩⟩
  · rw [same]
  · rw [one, counted]
  · rw [one]
    exact counted

theorem open_first_fragment_outline (sink : FragmentSink σ) (gs : Graph × σ) (name : String) :
    (openFirstFragment sink gs name).1.outline = gs.1.outline := by
  rcases open_first_fragment_changes name sink gs with same | opened
  · rw [same]
  · rw [opened, open_fragment_outline]

theorem open_each_outline (sink : FragmentSink σ) (names : List String) (gs : Graph × σ) :
    (names.foldl (openFirstFragment sink) gs).1.outline = gs.1.outline := by
  induction names generalizing gs with
  | nil => rfl
  | cons name rest ih =>
      rw [List.foldl_cons, ih]
      exact open_first_fragment_outline sink gs name

theorem moved_outline (g : Graph) (state : PlayState) : (g.moved state).outline = g.outline := by
  have hidden : (g.moved state).layout = g.layout := by
    rw [layout, moved, List.map_map]
    apply List.map_congr_left
    intro entry _
    by_cases placed : entry.2.parented = true <;> simp [placed, Stage.fitting]
  rw [outline, hidden]
  rfl

theorem set_state_outline (sink : FragmentSink σ) (state : PlayState) (g : Graph) (s : σ) :
    (setState sink state g s).2.1.outline = g.outline := by
  apply state_of_ends _ _ _ (·.1.outline = g.outline) (g.set_state_changes sink s state)
  · rintro _ (rfl | ⟨_, rfl⟩)
    · exact moved_outline g state
    · rw [open_each_outline]
      exact moved_outline g state
  · exact fun next refused => refused_outline g _ next.1 refused.1

theorem sync_outline (sink : FragmentSink σ) (name : String) (g : Graph) (s : σ) :
    (sync sink name g s).2.1.outline = g.outline := by
  have synced := modify_hidden g name (fun st => { st with state := g.state }) (fun _ => rfl)
  apply state_of_ends _ _ _ (·.1.outline = g.outline) (g.sync_changes name sink s)
  · rintro _ (rfl | rfl)
    · exact synced
    · rw [open_first_fragment_outline]
      exact synced
  · exact fun next refused => refused_outline g _ next.1 refused.1

/-! ### Signals -/

theorem change_destinations_outline (g : Graph) (name : String) (stage : Stage)
    (list : List Endpoint) :
    (g.changeDestinations name stage list).outline = g.outline.changeList name stage.fitting list := by
  have changed := modify_layout g name (fun _ => { stage with destinations := list })
    (fun _ => { stage.fitting with destinations := list }) (fun _ => rfl)
  simp only [changeDestinations, outline, Outline.changeList, ← changed]
  rfl

theorem emit_add_ends (sink : FragmentSink σ) (name : String) (endpoint : Endpoint) (g : Graph) (s : σ) :
    Ends (emit sink (.stage name) (.addDestination endpoint) g s)
      (fun next => ∃ f, g.layout.get? name = some f ∧
        next.1.outline = g.outline.changeList name f (f.destinations ++ [endpoint]))
      (fun next => next.1.outline = g.outline) := by
  rw [emit]
  split
  · exact spend_outline g _
  · dsimp only
    rw [layout_get]
    cases g.stage? name with
    | none => rfl
    | some stage => exact ⟨stage.fitting, rfl, change_destinations_outline g name stage _⟩

theorem emit_remove_ends (sink : FragmentSink σ) (name : String) (endpoint : Endpoint) (g : Graph)
    (s : σ) :
    Ends (emit sink (.stage name) (.removeDestination endpoint) g s)
      (fun next => ∃ f, g.layout.get? name = some f ∧
        next.1.outline = g.outline.changeList name f (f.destinations.erase endpoint))
      (fun next => next.1.outline = g.outline) := by
  rw [emit]
  split
  · exact spend_outline g _
  · dsimp only
    rw [layout_get]
    cases g.stage? name with
    | none => rfl
    | some stage => exact ⟨stage.fitting, rfl, change_destinations_outline g name stage _⟩

theorem emit_split_outline (sink : FragmentSink σ) (target : Target) (g : Graph) (s : σ) :
    (emit sink target .splitAfter g s).2.1.outline = g.outline := by
  unfold emit
  split
  · exact spend_outline g _
  · cases target with
    | graph => rfl
    | stage name =>
        cases read : g.stage? name with
        | none => simp only [read]
        | some stage =>
            simp only [read]
            exact open_fragment_outline sink name g s

theorem emit_end_outline (sink : FragmentSink σ) (target : Target) (g : Graph) (s : σ) :
    (emit sink target .endOfStream g s).2.1.outline = g.outline := by
  rw [emit]
  split
  · exact spend_outline g _
  · rfl

end Graph

end Media

end CameraServer
