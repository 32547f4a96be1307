import CameraServer.Disk.Basic
import Mathlib.Data.List.Induction
import Mathlib.Data.List.Nodup

/-!
Disks with one node for each location. Making directories only adds nodes; what is in a directory is what is
one name below it, and taking files out of it leaves every other location as it was.
-/

set_option autoImplicit false

namespace CameraServer.Disk

def Distinct (d : Disk) : Prop := (d.nodes.map (·.1)).Nodup

instance (d : Disk) : Decidable d.Distinct :=
  inferInstanceAs (Decidable (d.nodes.map (·.1)).Nodup)

def Grows (before after : Disk) : Prop :=
  ∀ loc node, before.node? loc = some node → after.node? loc = some node

theorem node_none (d : Disk) (loc : Location) (absent : d.node? loc = none) :
    loc ≠ [] ∧ ∀ entry ∈ d.nodes, entry.1 ≠ loc := by
  by_cases root : loc = []
  · simp [node?, root] at absent
  · refine ⟨root, fun entry member same => ?_⟩
    rw [node?, if_neg root, Option.map_eq_none_iff, List.find?_eq_none] at absent
    exact absent entry member (by simpa using same)

theorem node_some_iff (d : Disk) (distinct : d.Distinct) (loc : Location) (below : loc ≠ []) (node : Node) :
    d.node? loc = some node ↔ (loc, node) ∈ d.nodes := by
  rw [node?, if_neg below, Option.map_eq_some_iff]
  constructor
  · rintro ⟨entry, found, rfl⟩
    have same : entry.1 = loc := by simpa using List.find?_some found
    rw [← same]
    exact List.mem_of_find?_eq_some found
  · intro member
    cases found : d.nodes.find? (·.1 = loc) with
    | none => simpa using List.find?_eq_none.mp found _ member
    | some entry =>
        have same : entry.1 = loc := by simpa using List.find?_some found
        have only := List.inj_on_of_nodup_map distinct (List.mem_of_find?_eq_some found) member same
        exact ⟨entry, rfl, by rw [only]⟩

/-! ### Making directories -/

theorem set_absent (d : Disk) (loc : Location) (node : Node) (absent : d.node? loc = none) :
    (d.set loc node).nodes = d.nodes ++ [(loc, node)] := by
  have missing : d.nodes.any (·.1 = loc) = false := by
    simpa using fun a b member => (node_none d loc absent).2 (a, b) member
  rw [set, missing]
  rfl

theorem set_distinct (d : Disk) (loc : Location) (node : Node) (absent : d.node? loc = none) (distinct : d.Distinct) :
    (d.set loc node).Distinct := by
  have missing : loc ∉ d.nodes.map (·.1) := by
    intro member
    obtain ⟨entry, here, same⟩ := List.mem_map.mp member
    exact (node_none d loc absent).2 entry here same
  rw [Distinct, set_absent d loc node absent, List.map_append]
  exact List.nodup_middle.mpr (by simpa using ⟨by simpa using missing, distinct⟩)

theorem set_grows (d : Disk) (loc : Location) (node : Node) (absent : d.node? loc = none) :
    Grows d (d.set loc node) := by
  intro other found present
  by_cases root : other = []
  · simpa [node?, root] using present
  · rw [node?, if_neg root] at present ⊢
    rw [set_absent d loc node absent, List.find?_append]
    obtain ⟨entry, here, rfl⟩ := Option.map_eq_some_iff.mp present
    simp [here]

theorem make_dir_made (d next : Disk) (p : FilePath) (made : d.makeDir p = .ok next) :
    ∃ loc, d.node? loc = none ∧ next = d.set loc .dir := by
  rw [makeDir] at made
  split at made
  · cases made
  · split at made
    · cases made
    · next loc _ =>
        split at made
        · cases made
        · next absent =>
            cases made
            exact ⟨loc, absent, rfl⟩

theorem make_dirs_keeps (keep : Disk → Prop)
    (add : ∀ d loc, keep d → d.node? loc = none → keep (d.set loc .dir)) (depth : Nat) (p : FilePath) (d : Disk)
    (before : keep d) : keep (d.makeDirs depth p).2 := by
  induction depth generalizing p d with
  | zero => exact before
  | succ depth ih =>
      have made : ∀ d next p, keep d → d.makeDir p = .ok next → keep next := by
        intro d next p kept eq
        obtain ⟨loc, absent, rfl⟩ := make_dir_made d next p eq
        exact add d loc kept absent
      rw [makeDirs]
      split
      · exact before
      · split
        · next next eq => exact made d next p before eq
        · split
          · exact before
          · next above _ =>
              have kept := ih above d before
              split
              · next eq => rwa [eq] at kept
              · next eq =>
                  rw [eq] at kept
                  split
                  · next next again => exact made _ next p kept again
                  · split <;> exact kept
        · split <;> exact before

/-! ### The content of a directory -/

theorem list_ok (d : Disk) (p : FilePath) (listing : List (String × Node)) (listed : d.list p = .ok listing) :
    ∃ loc, d.stat p = .ok (loc, .dir) ∧ listing = d.children loc := by
  rw [list] at listed
  split at listed
  · cases listed
  · next loc found =>
      cases listed
      exact ⟨loc, found, rfl⟩
  · cases listed

def child? (loc : Location) (entry : Location × Node) : Option (String × Node) :=
  match entry.1.getLast? with
  | some name => if entry.1.dropLast = loc then some (name, entry.2) else none
  | none => none

theorem children_child (d : Disk) (loc : Location) : d.children loc = d.nodes.filterMap (child? loc) := rfl

theorem child_some_iff (loc : Location) (entry : Location × Node) (name : String) (node : Node) :
    child? loc entry = some (name, node) ↔ entry = (loc ++ [name], node) := by
  obtain ⟨found, here⟩ := entry
  cases found using List.reverseRecOn with
  | nil => simp [child?]
  | append_singleton above last => simp [child?, and_assoc]

theorem mem_children (d : Disk) (loc : Location) (name : String) (node : Node) :
    (name, node) ∈ d.children loc ↔ (loc ++ [name], node) ∈ d.nodes := by
  simp [children_child, child_some_iff]

theorem children_distinct (d : Disk) (distinct : d.Distinct) (loc : Location) :
    ((d.children loc).map (·.1)).Nodup := by
  rw [Distinct, List.Nodup, List.pairwise_map] at distinct
  rw [List.Nodup, List.pairwise_map, children_child, List.pairwise_filterMap]
  apply distinct.imp
  rintro a b apart ⟨name, node⟩ first ⟨name', node'⟩ second rfl
  rw [child_some_iff] at first second
  rw [first, second] at apart
  exact apart rfl

def eraseEach (d : Disk) (loc : Location) (names : List String) : Disk :=
  names.foldl (fun d name => d.erase (loc ++ [name])) d

theorem erase_each_nodes (d : Disk) (loc : Location) (names : List String) :
    (d.eraseEach loc names).nodes = d.nodes.filter fun entry => entry.1 ∉ names.map (loc ++ [·]) := by
  induction names generalizing d with
  | nil => simp [eraseEach]
  | cons name rest ih =>
      have step := ih (d.erase (loc ++ [name]))
      rw [eraseEach] at step ⊢
      rw [List.foldl_cons, step, erase, List.filter_filter]
      apply List.filter_congr
      intro entry _
      rw [Bool.eq_iff_iff]
      simp [and_comm]

theorem erase_each_distinct (d : Disk) (distinct : d.Distinct) (loc : Location) (names : List String) :
    (d.eraseEach loc names).Distinct := by
  rw [Distinct, erase_each_nodes]
  exact distinct.sublist (List.filter_sublist.map _)

theorem erase_each_node (d : Disk) (loc : Location) (names : List String) (other : Location) :
    (d.eraseEach loc names).node? other = if other ∈ names.map (loc ++ [·]) then none else d.node? other := by
  by_cases root : other = []
  · simp [root, node?]
  · rw [node?, node?, if_neg root, if_neg root, erase_each_nodes, List.find?_filter]
    by_cases gone : other ∈ names.map (loc ++ [·])
    · rw [if_pos gone, Option.map_eq_none_iff, List.find?_eq_none]
      intro entry _ both
      obtain ⟨kept, same⟩ := by simpa only [decide_eq_true_eq] using both
      exact kept (same ▸ gone)
    · rw [if_neg gone]
      congr 2
      funext entry
      by_cases same : entry.1 = other
      · simp only [same, gone, not_false_eq_true, decide_true, and_self]
      · simp only [same, decide_false, Bool.false_eq_true, and_false]

theorem erase_each_children (d : Disk) (loc : Location) (names : List String) :
    (d.eraseEach loc names).children loc = (d.children loc).filter (·.1 ∉ names) := by
  rw [children_child, children_child, erase_each_nodes, List.filterMap_filter, List.filter_filterMap]
  apply List.filterMap_congr
  intro entry _
  cases called : child? loc entry with
  | none => simp
  | some found =>
      obtain ⟨name, node⟩ := found
      rw [(child_some_iff loc entry name node).mp called]
      by_cases gone : name ∈ names <;> simp [gone, Option.filter]

end CameraServer.Disk
