import CameraServer.Lease.Table
import Mathlib.Data.List.Nodup

/-!
Lease tables with distinct keys. Taking a lease out of such a table takes out one endpoint, and
giving it another one exchanges that endpoint. What is done to a lease is done to the leases of its
user, and to nobody else's.
-/

set_option autoImplicit false

namespace CameraServer.LeaseTable

def keys (t : LeaseTable) : List LeaseKey := t.map (·.1)

def endpoints (t : LeaseTable) : List Endpoint := t.map (·.2.endpoint)

variable (t : LeaseTable) (key : LeaseKey) (lease : Lease)

theorem get_split (found : t.get? key = some lease) :
    ∃ before after, t = before ++ (key, lease) :: after := by
  obtain ⟨entry, here, rfl⟩ := Option.map_eq_some_iff.mp found
  obtain ⟨matched, before, after, split, _⟩ := List.find?_eq_some_iff_append.mp here
  have same : entry.1 = key := by simpa using matched
  exact ⟨before, after, by rw [split, ← same]⟩

theorem get_none (absent : t.get? key = none) : key ∉ keys t := by
  intro member
  obtain ⟨entry, here, same⟩ := List.mem_map.mp member
  have missed := List.find?_eq_none.mp (Option.map_eq_none_iff.mp absent) entry here
  simp [same] at missed

theorem erase_absent (absent : key ∉ keys t) : erase t key = t := by
  apply List.filter_eq_self.mpr
  intro entry member
  have other : entry.1 ≠ key := fun same => absent (same ▸ List.mem_map_of_mem member)
  simpa using other

theorem modify_absent (f : Lease → Lease) (absent : key ∉ keys t) : modify t key f = t := by
  apply (List.map_congr_left _).trans (List.map_id t)
  intro entry member
  have other : entry.1 ≠ key := fun same => absent (same ▸ List.mem_map_of_mem member)
  rw [if_neg other]
  rfl

theorem distinct_split (before after : LeaseTable)
    (distinct : (keys (before ++ (key, lease) :: after)).Nodup) :
    erase (before ++ (key, lease) :: after) key = before ++ after ∧
      ∀ f, modify (before ++ (key, lease) :: after) key f = before ++ (key, f lease) :: after := by
  have middle : (key :: (keys before ++ keys after)).Nodup := by
    rw [keys, List.map_append, List.map_cons] at distinct
    exact List.nodup_middle.mp distinct
  have missing := (List.nodup_cons.mp middle).1
  have early : key ∉ keys before := fun member => missing (List.mem_append_left _ member)
  have late : key ∉ keys after := fun member => missing (List.mem_append_right _ member)
  constructor
  · have front := erase_absent before key early
    have back := erase_absent after key late
    rw [erase] at front back ⊢
    rw [List.filter_append, List.filter_cons_of_neg (by simp), front, back]
  · intro f
    have front := modify_absent before key f early
    have back := modify_absent after key f late
    rw [modify] at front back ⊢
    rw [List.map_append, List.map_cons, if_pos rfl, front, back]

theorem get_modify (f : Lease → Lease) : (modify t key f).get? key = (t.get? key).map f := by
  induction t with
  | nil => rfl
  | cons entry rest ih =>
      by_cases same : entry.1 = key
      · simp [get?, modify, same]
      · simpa [get?, modify, same] using ih

theorem modify_keys (f : Lease → Lease) : keys (modify t key f) = keys t := by
  rw [keys, modify, List.map_map]
  apply List.map_congr_left
  intro entry _
  by_cases same : entry.1 = key <;> simp [same]

theorem modify_expiry_endpoints (expiresAt : Instant) :
    endpoints (modify t key fun l => { l with expiresAt }) = endpoints t := by
  rw [endpoints, modify, List.map_map]
  apply List.map_congr_left
  intro entry _
  by_cases same : entry.1 = key <;> simp [same]

theorem erase_keys (distinct : (keys t).Nodup) : (keys (erase t key)).Nodup :=
  distinct.sublist (List.filter_sublist.map _)

theorem erase_endpoints (distinct : (keys t).Nodup) (found : t.get? key = some lease) :
    (endpoints t).Perm (lease.endpoint :: endpoints (erase t key)) := by
  obtain ⟨before, after, rfl⟩ := get_split t key lease found
  rw [(distinct_split key lease before after distinct).1]
  simp only [endpoints, List.map_append, List.map_cons]
  exact List.perm_middle

theorem move_endpoints (endpoint : Endpoint) (distinct : (keys t).Nodup)
    (found : t.get? key = some lease) :
    (endpoints (modify t key fun l => { l with endpoint })).Perm
      (endpoint :: endpoints (erase t key)) := by
  obtain ⟨before, after, rfl⟩ := get_split t key lease found
  obtain ⟨erased, modified⟩ := distinct_split key lease before after distinct
  rw [erased, modified]
  simp only [endpoints, List.map_append, List.map_cons]
  exact List.perm_middle

theorem insert_endpoints : endpoints (insert t key lease) = endpoints t ++ [lease.endpoint] := by
  simp [endpoints, insert]

theorem insert_keys (distinct : (keys t).Nodup) (absent : t.get? key = none) :
    (keys (insert t key lease)).Nodup := by
  have missing := get_none t key absent
  rw [keys, insert, List.map_append]
  exact List.nodup_middle.mpr (List.nodup_cons.mpr ⟨by simpa [keys] using missing, by simpa [keys] using distinct⟩)

/-! ### Leases whose time has passed -/

section Time

variable (now : Instant) (gone : List LeaseKey)

def live : LeaseTable := t.filter fun entry => now < entry.2.expiresAt

def past : LeaseTable := t.filter fun entry => entry.2.expiresAt ≤ now

theorem past_live_perm : (endpoints t).Perm (endpoints (past t now) ++ endpoints (live t now)) := by
  have later : live t now = t.filter fun entry => !decide (entry.2.expiresAt ≤ now) := by
    apply List.filter_congr
    intro entry _
    by_cases due : entry.2.expiresAt ≤ now
    · simp [due, Int.not_lt.mpr due]
    · simp [due, Int.not_le.mp due]
  simp only [endpoints, past, later, ← List.map_append]
  exact ((List.filter_append_perm _ t).map _).symm

-- In a table with distinct keys, a key stands for one lease.
theorem without_expired (distinct : (keys t).Nodup) (all : gone.Perm (t.expired now)) :
    t.filter (fun entry => entry.1 ∉ gone) = live t now := by
  apply List.filter_congr
  intro entry member
  have due : entry.1 ∈ gone ↔ entry.2.expiresAt ≤ now := by
    rw [all.mem_iff, expired, List.mem_map]
    constructor
    · rintro ⟨other, here, same⟩
      obtain ⟨listed, past⟩ := List.mem_filter.mp here
      have unique : other = entry := List.inj_on_of_nodup_map distinct listed member same
      rw [← unique]
      simpa using past
    · exact fun past => ⟨entry, List.mem_filter.mpr ⟨member, by simpa using past⟩, rfl⟩
  simp [due]

end Time

def endpointsOf : List LeaseKey → LeaseTable → List Endpoint
  | [], _ => []
  | key :: rest, t => ((t.get? key).map (·.endpoint)).toList ++ endpointsOf rest (erase t key)

theorem endpoints_of_perm (gone : List LeaseKey) (distinct : (keys t).Nodup) :
    (endpoints t).Perm (endpointsOf gone t ++ endpoints (t.filter fun entry => entry.1 ∉ gone)) := by
  induction gone generalizing t with
  | nil => simp [endpointsOf]
  | cons key rest ih =>
      have left : t.filter (fun entry => entry.1 ∉ key :: rest) =
          (erase t key).filter fun entry => entry.1 ∉ rest := by
        rw [erase, List.filter_filter]
        apply List.filter_congr
        intro entry _
        simp [Bool.and_comm]
      have later := ih (erase t key) (erase_keys t key distinct)
      rw [endpointsOf, left, List.append_assoc]
      cases found : t.get? key with
      | none =>
          rw [erase_absent t key (get_none t key found)] at later ⊢
          exact later
      | some lease => exact (erase_endpoints t key lease distinct found).trans (later.cons lease.endpoint)

/-! ### The leases of one user -/

section User

variable (username : String)

theorem erase_of_user : ofUser (erase t key) username = erase (ofUser t username) key := by
  rw [ofUser, ofUser, erase, erase, List.filter_filter, List.filter_filter]
  exact List.filter_congr fun entry _ => Bool.and_comm _ _

theorem modify_of_user (f : Lease → Lease) : ofUser (modify t key f) username = modify (ofUser t username) key f := by
  rw [ofUser, ofUser, modify, modify, List.filter_map]
  congr 1
  apply List.filter_congr
  intro entry _
  by_cases same : entry.1 = key <;> simp [same]

theorem insert_of_user (own : key.1 = username) :
    ofUser (insert t key lease) username = insert (ofUser t username) key lease := by
  simp [ofUser, insert, own]

section Alike

variable (u : LeaseTable) (same : (ofUser t username).Perm (ofUser u username))

include same

theorem erase_alike : (ofUser (erase t key) username).Perm (ofUser (erase u key) username) := by
  rw [erase_of_user, erase_of_user]
  exact same.filter _

theorem modify_alike (f : Lease → Lease) :
    (ofUser (modify t key f) username).Perm (ofUser (modify u key f) username) := by
  rw [modify_of_user, modify_of_user]
  exact same.map _

theorem insert_alike (own : key.1 = username) :
    (ofUser (insert t key lease) username).Perm (ofUser (insert u key lease) username) := by
  rw [insert_of_user t key lease username own, insert_of_user u key lease username own]
  exact same.append_right _

end Alike

section Other

variable (other : key.1 ≠ username)

include other

theorem key_of_other : key ∉ keys (ofUser t username) := by
  intro member
  obtain ⟨entry, here, rfl⟩ := List.mem_map.mp member
  exact other (by simpa using (List.mem_filter.mp here).2)

theorem erase_of_other : ofUser (erase t key) username = ofUser t username :=
  (erase_of_user t key username).trans (erase_absent _ key (key_of_other t key username other))

theorem modify_of_other (f : Lease → Lease) : ofUser (modify t key f) username = ofUser t username :=
  (modify_of_user t key username f).trans (modify_absent _ key f (key_of_other t key username other))

theorem insert_of_other : ofUser (insert t key lease) username = ofUser t username := by
  simp [ofUser, insert, other]

end Other

theorem of_user_keys (distinct : (keys t).Nodup) : (keys (ofUser t username)).Nodup :=
  distinct.sublist (List.filter_sublist.map _)

theorem get_of_user (own : key.1 = username) : (ofUser t username).get? key = t.get? key := by
  rw [get?, get?, ofUser, List.find?_filter]
  congr 2
  funext entry
  by_cases same : entry.1 = key <;> simp [same, own]

end User

theorem get_some_iff (distinct : (keys t).Nodup) : t.get? key = some lease ↔ (key, lease) ∈ t := by
  constructor
  · intro found
    obtain ⟨before, after, rfl⟩ := get_split t key lease found
    simp
  · intro member
    cases found : t.get? key with
    | none => exact absurd (List.mem_map_of_mem member) (get_none t key found)
    | some held =>
        obtain ⟨before, after, split⟩ := get_split t key held found
        have here : (key, held) ∈ t := by simp [split]
        have same := List.inj_on_of_nodup_map distinct here member rfl
        exact congrArg some (congrArg Prod.snd same)

theorem get_perm (other : LeaseTable) (distinct : (keys t).Nodup) (same : t.Perm other) :
    t.get? key = other.get? key := by
  have distinctOther : (keys other).Nodup := (same.map _).nodup_iff.mp distinct
  apply Option.ext
  intro held
  rw [get_some_iff t key held distinct, get_some_iff other key held distinctOther]
  exact same.mem_iff

end CameraServer.LeaseTable
