import Mathlib.Data.List.Nodup
import CameraServer.Proofs.Media.Outline

/-!
What calls do to stages and links as one step on the outline. Main statements: each of these steps keeps links
between distinct pairs of stages that are in the graph, leaves the history alone, and spares the destinations
of a stage that it does not free.
-/

set_option autoImplicit false

namespace CameraServer.Media

/-! ### Places in a layout -/

section Layout

variable (l : Layout) (name other : String)

def Layout.parented : Bool := (l.get? name).any (·.parented)

theorem parented_iff : l.parented name = true ↔ ∃ f, l.get? name = some f ∧ f.parented = true := by
  rw [Layout.parented]
  cases l.get? name with
  | none => simp
  | some f => simp

theorem get_adjust (change : Fitting → Fitting) :
    (l.adjust other change).get? name = (l.get? name).map fun f => if other = name then change f else f := by
  by_cases same : other = name
  · subst same
    have changed : (l.adjust other change).get? other = (l.get? other).map change := under_adjust l other change
    simpa using changed
  · have kept : (l.adjust other change).get? name = l.get? name := under_adjust_other l name other change same
    simpa [same] using kept

theorem names_adjust (change : Fitting → Fitting) (distinct : (l.map (·.1)).Nodup) :
    ((l.adjust other change).map (·.1)).Nodup := by
  have same : (l.adjust other change).map (·.1) = l.map (·.1) := adjust_names l other change
  rw [same]
  exact distinct

variable (placed : l.parented name = true)

include placed

theorem parented_append (more : Layout) : Layout.parented (l ++ more) name = true := by
  obtain ⟨f, found, inside⟩ := (parented_iff l name).mp placed
  exact (parented_iff _ name).mpr ⟨f, under_append l name more f found, inside⟩

theorem parented_erase (apart : other ≠ name) : Layout.parented (l.filter (·.1 ≠ other)) name = true := by
  obtain ⟨f, found, inside⟩ := (parented_iff l name).mp placed
  exact (parented_iff _ name).mpr ⟨f, (under_erase l name other apart).trans found, inside⟩

theorem parented_adjust (change : Fitting → Fitting)
    (keeps : other = name → ∀ f, f.parented = true → (change f).parented = true) :
    (l.adjust other change).parented name = true := by
  obtain ⟨f, found, inside⟩ := (parented_iff l name).mp placed
  refine (parented_iff _ name).mpr ⟨_, by rw [get_adjust, found, Option.map_some], ?_⟩
  by_cases same : other = name
  · simpa [same] using keeps same f inside
  · simpa [same] using inside

end Layout

namespace Outline

def Joins (o : Outline) (name : String) : Prop := ∃ l ∈ o.links, l.1 = name ∨ l.2 = name

structure Neat (o : Outline) : Prop where
  names : (o.layout.map (·.1)).Nodup
  joined : ∀ name, o.Joins name → o.layout.parented name = true
  once : o.links.Nodup

def Current (o : Outline) (name : String) : Prop :=
  ∃ f, o.layout.get? name = some f ∧ o.history.getLast? = some f.destinations

def clear (o : Outline) : Outline := { o with layout := [], links := [] }

-- What a step can do to stages and links, and what it needs to do so. It may free some stages for good.
inductive Rewires (freed : String → Prop) (o : Outline) : Outline → Prop where
  | still : Rewires freed o o
  | build (spec : StageSpec) (vacant : o.layout.get? spec.name = none) : Rewires freed o (o.build spec)
  | add (name : String) : Rewires freed o (o.add name)
  | remove (name : String) : Rewires freed o (o.remove name)
  | release (name : String) (floats : o.layout.parented name = false) (gone : freed name) :
      Rewires freed o (o.release name)
  | link (up down : String) (above : o.layout.parented up = true) (below : o.layout.parented down = true)
      (apart : (up, down) ∉ o.links) : Rewires freed o (o.link up down)
  | unlink (up down : String) : Rewires freed o (o.unlink up down)
  | clear (gone : ∀ name, freed name) : Rewires freed o o.clear

section Rewires

variable (freed : String → Prop) (o next : Outline) (name : String)

theorem rewires_neat (step : Rewires freed o next) (neat : o.Neat) : next.Neat := by
  cases step with
  | still => exact neat
  | build spec vacant =>
      refine ⟨?_, fun other joins => parented_append _ other (neat.joined other joins) _, neat.once⟩
      have fresh : spec.name ∉ o.layout.map (·.1) := (under_none_iff o.layout spec.name).mp vacant
      rw [Outline.build, List.map_append]
      simpa using neat.names.concat fresh
  | add name =>
      let change (f : Fitting) : Fitting := { f with parented := true }
      refine ⟨names_adjust _ name change neat.names, fun other joins => ?_, neat.once⟩
      exact parented_adjust _ other name (neat.joined other joins) change fun _ _ _ => rfl
  | remove name =>
      let change (f : Fitting) : Fitting := { f with parented := false }
      refine ⟨names_adjust _ name change neat.names, ?_, neat.once.filter _⟩
      rintro other ⟨l, member, touches⟩
      obtain ⟨old, aside⟩ := List.mem_filter.mp member
      have apart : name ≠ other := by
        rintro rfl
        have clear : l.1 ≠ name ∧ l.2 ≠ name := by simpa using aside
        exact touches.elim clear.1 clear.2
      exact parented_adjust _ other name (neat.joined other ⟨l, old, touches⟩) change fun same => absurd same apart
  | release name floats gone =>
      refine ⟨neat.names.sublist (List.filter_sublist.map _), ?_, neat.once⟩
      intro other joins
      have placed := neat.joined other joins
      have apart : name ≠ other := by
        rintro rfl
        exact Bool.false_ne_true (floats.symm.trans placed)
      exact parented_erase _ other name placed apart
  | link up down above below apart =>
      refine ⟨neat.names, ?_, by simpa [Outline.link] using neat.once.concat apart⟩
      rintro other ⟨l, member, touches⟩
      rcases List.mem_append.mp member with old | new
      · exact neat.joined other ⟨l, old, touches⟩
      · rw [List.mem_singleton.mp new] at touches
        rcases touches with rfl | rfl
        · exact above
        · exact below
  | unlink up down =>
      refine ⟨neat.names, ?_, neat.once.filter _⟩
      rintro other ⟨l, member, touches⟩
      exact neat.joined other ⟨l, (List.mem_filter.mp member).1, touches⟩
  | clear gone =>
      refine ⟨List.nodup_nil, ?_, List.nodup_nil⟩
      rintro other ⟨l, member, _⟩
      cases member

theorem rewires_history (step : Rewires freed o next) : next.history = o.history := by
  cases step <;> rfl

theorem rewires_get (step : Rewires freed o next) (lasts : ¬ freed name) (f : Fitting)
    (found : o.layout.get? name = some f) :
    ∃ g, next.layout.get? name = some g ∧ g.destinations = f.destinations := by
  have adjusted (other : String) (change : Fitting → Fitting)
      (keeps : ∀ f, (change f).destinations = f.destinations) :
      ∃ g, (o.layout.adjust other change).get? name = some g ∧ g.destinations = f.destinations := by
    refine ⟨_, by rw [get_adjust, found, Option.map_some], ?_⟩
    by_cases same : other = name
    · simpa [same] using keeps f
    · simp [same]
  cases step with
  | still => exact ⟨f, found, rfl⟩
  | build spec vacant => exact ⟨f, under_append o.layout name _ f found, rfl⟩
  | add other => exact adjusted other (fun f => { f with parented := true }) fun _ => rfl
  | remove other => exact adjusted other (fun f => { f with parented := false }) fun _ => rfl
  | release other floats gone =>
      have apart : other ≠ name := by
        rintro rfl
        exact lasts gone
      exact ⟨f, (under_erase o.layout name other apart).trans found, rfl⟩
  | link up down above below apart => exact ⟨f, found, rfl⟩
  | unlink up down => exact ⟨f, found, rfl⟩
  | clear gone => exact absurd (gone name) lasts

theorem rewires_current (step : Rewires freed o next) (lasts : ¬ freed name) (current : o.Current name) :
    next.Current name := by
  obtain ⟨f, found, latest⟩ := current
  obtain ⟨g, still, same⟩ := rewires_get freed o next name step lasts f found
  exact ⟨g, still, by rw [rewires_history freed o next step, latest, same]⟩

variable (f : Fitting) (list : List Endpoint) (found : o.layout.get? name = some f)

include found

theorem change_list_neat (neat : o.Neat) : (o.changeList name f list).Neat where
  names := names_adjust _ name (fun _ => { f with destinations := list }) neat.names
  joined other joins := by
    have placed := neat.joined other joins
    refine parented_adjust _ other name placed (fun _ => { f with destinations := list }) ?_
    rintro rfl _ _
    obtain ⟨_, here, inside⟩ := (parented_iff o.layout name).mp placed
    cases here.symm.trans found
    exact inside
  once := neat.once

theorem change_list_current : (o.changeList name f list).Current name := by
  refine ⟨{ f with destinations := list }, ?_, List.getLast?_concat⟩
  rw [changeList, get_adjust, found, Option.map_some, if_pos rfl]

end Rewires

end Outline

namespace Graph

/-! ### Calls -/

theorem rewires_same (freed : String → Prop) (o next : Outline) (same : next = o) : o.Rewires freed next :=
  same ▸ .still

section Rewires

variable (freed : String → Prop) (g : Graph) (name up down : String)

theorem rewires_of_ends (r : Except GraphError Unit × Graph) (good : Graph → Prop)
    (ended : Ends r good fun next => next.outline = g.outline)
    (well : ∀ next, good next → g.outline.Rewires freed next.outline) : g.outline.Rewires freed r.2.outline :=
  state_of_ends r good _ (g.outline.Rewires freed ·.outline) ended well fun _ same => rewires_same freed _ _ same

theorem build_rewires (spec : StageSpec) : g.outline.Rewires freed (g.build spec).2.outline := by
  apply rewires_of_ends freed g _ _ (ends_with _ _ _ _ _ (g.build_changes spec) (g.build_ends spec))
  rintro next ⟨⟨vacant, _⟩, built⟩
  have absent : g.layout.get? spec.name = none := by simpa [has_stage_layout] using vacant
  rw [built]
  exact .build spec absent

theorem add_rewires : g.outline.Rewires freed (g.add name).2.outline := by
  apply rewires_of_ends freed g _ _ (g.add_ends name)
  intro next added
  rw [added]
  exact .add name

theorem remove_rewires : g.outline.Rewires freed (g.remove name).2.outline := by
  apply rewires_of_ends freed g _ _ (g.remove_ends name)
  intro next removed
  rw [removed]
  exact .remove name

theorem release_rewires (gone : (g.release name).1.isOk = true → freed name) :
    g.outline.Rewires freed (g.release name).2.outline := by
  have changes := ends_with _ _ _ _ _ (g.release_changes name) (g.release_ends name)
  rcases ends_cases _ _ _ changes with ⟨next, eq, ⟨floats, _⟩, released⟩ | ⟨x, next, eq, same⟩
  · rw [has_parent_layout] at floats
    rw [eq] at gone ⊢
    rw [released]
    exact .release name floats (gone rfl)
  · rw [eq]
    exact rewires_same freed _ _ same

theorem link_rewires : g.outline.Rewires freed (g.link up down).2.outline := by
  apply rewires_of_ends freed g _ _ (ends_with _ _ _ _ _ (g.link_changes up down) (g.link_ends up down))
  rintro next ⟨⟨⟨above, below, apart⟩, _⟩, linked⟩
  rw [has_parent_layout] at above below
  have fresh : (up, down) ∉ g.links := by simpa [isLinked] using apart
  rw [linked]
  exact .link up down above below fresh

theorem unlink_rewires : g.outline.Rewires freed (g.unlink up down).2.outline := by
  apply rewires_of_ends freed g _ _ (g.unlink_ends up down)
  intro next unlinked
  rw [unlinked]
  exact .unlink up down

end Rewires

end Graph

end CameraServer.Media
