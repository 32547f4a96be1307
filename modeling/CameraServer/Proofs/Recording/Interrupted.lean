import CameraServer.Proofs.Recording.Pruning

/-!
A quota pass one of whose calls on the directory fails. Main statement: it deletes the first of the
fragments that the undisturbed pass deletes, and it differs from that pass only if it comes to a call
that fails, which it then reports.
-/

set_option autoImplicit false

namespace CameraServer.Recording

-- How often an undisturbed pass lists the directory: once to size it, twice around each removal, and once
-- more when it looks for the oldest fragment and removes nothing.
def QuotaReport.listings (r : QuotaReport) : Nat :=
  2 * r.removed.length + if r.outcome = .noCandidate ∨ r.outcome = .activeIsOldest then 2 else 1

def Interruption.Strikes (stop : Interruption) (listings removals : Nat) (whole : QuotaReport) : Prop :=
  (∃ n, stop.listing = some n ∧ listings < n ∧ n ≤ whole.listings) ∨
    ∃ n, stop.removal = some n ∧ removals < n ∧ n ≤ whole.removed.length

theorem strikes_iff_later (stop : Interruption) (whole : QuotaReport) (listings removals later after : Nat)
    (more : listings ≤ later) (further : removals ≤ after)
    (listed : ∀ n, stop.listing = some n → listings < n → later < n)
    (removed : ∀ n, stop.removal = some n → removals < n → after < n) :
    stop.Strikes listings removals whole ↔ stop.Strikes later after whole := by
  constructor
  · rintro (⟨n, failed, behind, before⟩ | ⟨n, failed, behind, before⟩)
    · exact .inl ⟨n, failed, listed n failed behind, before⟩
    · exact .inr ⟨n, failed, removed n failed behind, before⟩
  · rintro (⟨n, failed, behind, before⟩ | ⟨n, failed, behind, before⟩)
    · exact .inl ⟨n, failed, more.trans_lt behind, before⟩
    · exact .inr ⟨n, failed, further.trans_lt behind, before⟩

section Pass

variable (stop : Interruption) (maxBytes : Nat) (isActive : String → Bool)

theorem run_extends (limit : Nat) (p : QuotaPass) :
    p.removed <+: (QuotaPass.run stop maxBytes isActive limit p).1.removed := by
  induction limit generalizing p with
  | zero =>
      rw [QuotaPass.run]
      split <;> exact List.prefix_rfl
  | succ limit ih =>
      rw [QuotaPass.run]
      split
      · exact List.prefix_rfl
      · split
        · exact List.prefix_rfl
        · split
          · exact List.prefix_rfl
          · next oldest _ =>
            have longer : p.removed <+: p.removed ++ [oldest.name] := List.prefix_append _ _
            split
            · exact List.prefix_rfl
            · split
              · exact List.prefix_rfl
              · split
                · exact longer
                · exact longer.trans (ih ⟨_, _, p.removed ++ [oldest.name], _⟩)

structure Cut (p : QuotaPass) (whole r : QuotaReport × Listing) : Prop where
  shorter : r.1.removed <+: whole.1.removed
  struck : stop.Strikes p.listings p.removed.length whole.1 → r.1.outcome = .ioFailure
  spared : ¬ stop.Strikes p.listings p.removed.length whole.1 → r = whole

section Cut

variable (p : QuotaPass) (counted : p.listings = 2 * p.removed.length + 1)

include counted

theorem cut_at_end (outcome : QuotaOutcome) (searched : ¬ (outcome = .noCandidate ∨ outcome = .activeIsOldest)) :
    Cut stop p (p.report outcome) (p.report outcome) := by
  refine ⟨List.prefix_rfl, ?_, fun _ => rfl⟩
  have last : (p.report outcome).1.listings = p.listings := by
    rw [counted, QuotaReport.listings, QuotaPass.report, if_neg searched]
  rintro (⟨n, _, after, before⟩ | ⟨n, _, after, before⟩)
  · omega
  · exact absurd after (not_lt.mpr before)

theorem cut_at_search (outcome : QuotaOutcome) (searched : outcome = .noCandidate ∨ outcome = .activeIsOldest) :
    Cut stop p (p.report outcome)
      (if stop.listing = some (p.listings + 1) then p.report .ioFailure else p.report outcome) := by
  have last : (p.report outcome).1.listings = p.listings + 1 := by
    rw [counted, QuotaReport.listings, QuotaPass.report, if_pos searched]
  split
  · next failed =>
      refine ⟨List.prefix_rfl, fun _ => rfl, fun unstruck => ?_⟩
      exact absurd (.inl ⟨_, failed, Nat.lt_succ_self _, last.ge⟩) unstruck
  · next calm =>
      refine ⟨List.prefix_rfl, ?_, fun _ => rfl⟩
      rintro (⟨n, failed, after, before⟩ | ⟨n, _, after, before⟩)
      · have here : n = p.listings + 1 := by omega
        exact absurd (here ▸ failed) calm
      · exact absurd after (not_lt.mpr before)

theorem cut_at_round (rest : Listing) (total : Nat) (name : String) (whole later : QuotaReport × Listing)
    (longer : p.removed ++ [name] <+: whole.1.removed)
    (cut : Cut stop ⟨rest, total, p.removed ++ [name], p.listings + 2⟩ whole later) :
    Cut stop p whole
      (if stop.listing = some (p.listings + 1) then p.report .ioFailure
      else if stop.removal = some (p.removed.length + 1) then p.report .ioFailure
      else if stop.listing = some (p.listings + 2) then
        QuotaPass.report ⟨rest, p.total, p.removed ++ [name], p.listings + 2⟩ .ioFailure
      else later) := by
  have shorter : p.removed <+: whole.1.removed := (List.prefix_append _ _).trans longer
  have removals : p.removed.length + 1 ≤ whole.1.removed.length := by simpa using longer.length_le
  have listings : p.listings + 2 ≤ whole.1.listings := by
    rw [QuotaReport.listings]
    split <;> omega
  split
  · next failed =>
      refine ⟨shorter, fun _ => rfl, fun unstruck => ?_⟩
      exact absurd (.inl ⟨_, failed, by omega, by omega⟩) unstruck
  · next searched =>
      split
      · next failed =>
          refine ⟨shorter, fun _ => rfl, fun unstruck => ?_⟩
          exact absurd (.inr ⟨_, failed, Nat.lt_succ_self _, removals⟩) unstruck
      · next removed =>
          split
          · next failed =>
              refine ⟨longer, fun _ => rfl, fun unstruck => ?_⟩
              exact absurd (.inl ⟨_, failed, by omega, listings⟩) unstruck
          · next sized =>
              -- None of the three calls of the round fails, so what strikes strikes later.
              have postponed := strikes_iff_later stop whole.1 p.listings p.removed.length (p.listings + 2)
                (p.removed ++ [name]).length (Nat.le_add_right _ _) (by simp) (by
                  intro n failed behind
                  have first : n ≠ p.listings + 1 := fun here => searched (here ▸ failed)
                  have second : n ≠ p.listings + 2 := fun here => sized (here ▸ failed)
                  omega) (by
                  intro n failed behind
                  have other : n ≠ p.removed.length + 1 := fun here => removed (here ▸ failed)
                  rw [List.length_append, List.length_singleton]
                  omega)
              exact ⟨cut.shorter, fun struck => cut.struck (postponed.mp struck),
                fun unstruck => cut.spared fun struck => unstruck (postponed.mpr struck)⟩

end Cut

theorem run_cut (limit : Nat) (p : QuotaPass) (counted : p.listings = 2 * p.removed.length + 1) :
    Cut stop p (QuotaPass.run {} maxBytes isActive limit p) (QuotaPass.run stop maxBytes isActive limit p) := by
  induction limit generalizing p with
  | zero =>
      rw [QuotaPass.run, QuotaPass.run]
      split
      · exact cut_at_end stop p counted _ (by simp)
      · exact cut_at_end stop p counted _ (by simp)
  | succ limit ih =>
      rw [QuotaPass.run, QuotaPass.run]
      by_cases within : p.total < maxBytes
      · rw [if_pos within, if_pos within]
        exact cut_at_end stop p counted _ (by simp)
      · rw [if_neg within, if_neg within, if_neg (Option.some_ne_none _).symm]
        cases oldest? (fragments p.listing) with
        | none => exact cut_at_search stop p counted _ (.inl rfl)
        | some oldest =>
            dsimp only
            by_cases active : isActive oldest.name = true
            · rw [if_pos active, if_pos active]
              exact cut_at_search stop p counted _ (.inr rfl)
            · rw [if_neg active, if_neg active, if_neg (Option.some_ne_none _).symm,
                if_neg (Option.some_ne_none _).symm]
              apply cut_at_round stop p counted _ _ oldest.name
              · exact run_extends {} maxBytes isActive limit ⟨_, _, p.removed ++ [oldest.name], _⟩
              -- A round lists twice and removes once, so there is always one listing more than twice the removals.
              · refine ih ⟨_, _, p.removed ++ [oldest.name], p.listings + 2⟩ ?_
                rw [counted, List.length_append]
                rfl

theorem enforce_on_cut (listing : Listing) :
    (enforceOn stop (some maxBytes) isActive listing).1.removed <+:
        (enforceOn {} (some maxBytes) isActive listing).1.removed ∧
      (stop.Strikes 0 0 (enforceOn {} (some maxBytes) isActive listing).1 →
        (enforceOn stop (some maxBytes) isActive listing).1.outcome = .ioFailure) ∧
      (¬ stop.Strikes 0 0 (enforceOn {} (some maxBytes) isActive listing).1 →
        (enforceOn stop (some maxBytes) isActive listing).1 = (enforceOn {} (some maxBytes) isActive listing).1) := by
  have cut := run_cut stop maxBytes isActive deletionLimit ⟨listing, totalSize (fragments listing), [], 1⟩ rfl
  have undisturbed : enforceOn {} (some maxBytes) isActive listing =
      QuotaPass.run {} maxBytes isActive deletionLimit ⟨listing, totalSize (fragments listing), [], 1⟩ := rfl
  rw [undisturbed, enforceOn]
  generalize QuotaPass.run {} maxBytes isActive deletionLimit _ = whole at cut ⊢
  have sized : 1 ≤ whole.1.listings := by
    rw [QuotaReport.listings]
    split <;> omega
  split
  · next failed =>
      refine ⟨List.nil_prefix, fun _ => rfl, fun unstruck => ?_⟩
      exact absurd (.inl ⟨1, failed, Nat.zero_lt_one, sized⟩) unstruck
  · next calm =>
      have postponed := strikes_iff_later stop whole.1 0 0 1 0 (Nat.zero_le _) le_rfl (by
        intro n failed behind
        have other : n ≠ 1 := fun here => calm (here ▸ failed)
        omega) fun _ _ behind => behind
      exact ⟨cut.shorter, fun struck => cut.struck (postponed.mp struck),
        fun unstruck => congrArg Prod.fst (cut.spared fun struck => unstruck (postponed.mpr struck))⟩

end Pass

/-! ### On the disk -/

theorem interrupted_pass (stop : Interruption) (d : Disk) (distinct : d.Distinct) (dir active : FilePath)
    (loc : Disk.Location) (found : d.stat dir = .ok (loc, .dir)) (maxBytes : Nat) :
    let whole := enforceQuota {} d dir (some maxBytes) active
    let r := enforceQuota stop d dir (some maxBytes) active
    r.1.removed <+: whole.1.removed ∧
      (∀ name ∈ r.1.removed, (dir.join ⟨name⟩).same active = false ∧
        ∃ content mtime, d.node? (loc ++ [name]) = some (.file content mtime)) ∧
      (∀ other, r.2.node? other = if other ∈ r.1.removed.map (loc ++ [·]) then none else d.node? other) ∧
      (r.1.outcome = .ioFailure ↔ stop.Strikes 0 0 whole.1) ∧
      (¬ stop.Strikes 0 0 whole.1 → r = whole) := by
  obtain ⟨queue, waiting⟩ := waiting_exists d distinct loc
  obtain ⟨count, enforces, _, _⟩ := enforce_quota_takes stop d distinct dir active loc found maxBytes queue waiting
  obtain ⟨most, undisturbed, _, _⟩ := enforce_quota_takes {} d distinct dir active loc found maxBytes queue waiting
  have calm := prunes_calm _ _ _ queue most _ undisturbed.prunes
  have listed : d.list dir = .ok (d.children loc) := by simp only [Disk.list, found]
  obtain ⟨shorter, struck, spared⟩ :=
    enforce_on_cut stop maxBytes (fun name => (dir.join ⟨name⟩).same active) (d.children loc)
  have same : ¬ stop.Strikes 0 0 (enforceQuota {} d dir (some maxBytes) active).1 →
      enforceQuota stop d dir (some maxBytes) active = enforceQuota {} d dir (some maxBytes) active := by
    intro unstruck
    simp only [enforceQuota, listed] at unstruck ⊢
    rw [spared unstruck]
  refine ⟨?_, ?_, ?_, ⟨fun failed => ?_, fun strikes => ?_⟩, same⟩
  · simpa only [enforceQuota, listed] using shorter
  · intro name gone
    rw [enforces.removed] at gone
    obtain ⟨f, taken, rfl⟩ := List.mem_map.mp gone
    obtain ⟨_, content, file, _⟩ := (waiting.files f).mp (List.mem_of_mem_take taken)
    exact ⟨enforces.prunes.inactive f taken, content, f.mtime, file⟩
  · intro other
    rw [enforces.disk, enforces.removed, Disk.erase_each_node]
  · -- What nothing strikes is the undisturbed pass, and that one does not fail.
    by_contra unstruck
    exact calm (same unstruck ▸ failed)
  · simp only [enforceQuota, listed] at strikes ⊢
    exact struck strikes

-- The second removal fails, and so would the fifth listing, which the pass does not come to.
theorem interrupted_pass_tied :
    tied.stat ⟨"/rec"⟩ = .ok (["rec"], .dir) ∧
      (enforceQuota ⟨some 5, some 2⟩ tied ⟨"/rec"⟩ (some 5) ⟨"/rec/a.mp4"⟩).1 = ⟨.ioFailure, ["b.MP4"], 5⟩ ∧
      (enforceQuota {} tied ⟨"/rec"⟩ (some 5) ⟨"/rec/a.mp4"⟩).1.removed = ["b.MP4", "c.mp4"] ∧
      ["b.MP4"] <+: ["b.MP4", "c.mp4"] := by
  have found : tied.stat ⟨"/rec"⟩ = .ok (["rec"], .dir) := by rfl
  have report : (enforceQuota ⟨some 5, some 2⟩ tied ⟨"/rec"⟩ (some 5) ⟨"/rec/a.mp4"⟩).1 =
      ⟨.ioFailure, ["b.MP4"], 5⟩ := by decide +kernel
  have whole : (enforceQuota {} tied ⟨"/rec"⟩ (some 5) ⟨"/rec/a.mp4"⟩).1.removed = ["b.MP4", "c.mp4"] := by
    decide +kernel
  have safe := interrupted_pass ⟨some 5, some 2⟩ tied (by decide) ⟨"/rec"⟩ ⟨"/rec/a.mp4"⟩ ["rec"] found 5
  have shorter := safe.1
  rw [report, whole] at shorter
  exact ⟨found, report, whole, shorter⟩

end CameraServer.Recording
