import VirtueStack.Ipam.Leases

/-!
# The primary address of a VM

`AllocateIPv4` says that it marks the first address of a VM as primary. No statement does so.
-/

namespace VirtueStack.Ipam
open Txn Call
open Compute (IPSet IPStatus)

section
variable {ι : Type} [DecidableEq ι] {db₀ : Db}

lemma Move.isPrimary {db : Db} {ws : List Write} (h : Move db ws) :
    ∃ w ip, ws = [w] ∧ ip ∈ db.addresses.rows ∧ (w.row.isPrimary = true → ip.isPrimary = true) := by
  cases h with
  | @assign ip vmID customerID now hrow hs => exact ⟨_, ip, rfl, hrow, fun h => h⟩
  | @release ip now hrow hs =>
    refine ⟨_, ip, rfl, hrow, fun h => ?_⟩
    cases h

/-- **No call marks an address.** Where no address is primary at the beginning, none ever is,
whatever is allocated and released. -/
theorem not_primary_of_reaches {req : ι → Request}
    {s : State store ι (Except GoError (Option IPAddress))}
    (h₀ : ∀ ip ∈ db₀.addresses.rows, ip.isPrimary = false)
    (h : Reaches always (State.init db₀ fun i => (req i).run) s) :
    ∀ ip ∈ s.mem.db.addresses.rows, ip.isPrimary = false := by
  have hinit : (leasing ι db₀).init ⟨db₀, []⟩ := rfl
  have hreach := (Idle.adequate hinit (fun i => run_idle (req i)) h).1
  refine hreach.invariant
    (I := fun (m : Mem store ι) => ∀ ip ∈ m.db.addresses.rows, ip.isPrimary = false) ?_ ?_
  · rintro m rfl
    exact h₀
  · intro m i H ws _ hI _ _ hmove ip hip
    obtain ⟨w, old, rfl, hold, hprimary⟩ := Move.isPrimary hmove
    rcases Table.mem_rows_put hip with rfl | hip
    · cases hw : w.row.isPrimary with
      | false => rfl
      | true => exact absurd (hprimary hw) (by simp [hI old hold])
    · exact hI ip hip

theorem not_primary_twice : ∃ s : State store Bool (Except GoError (Option IPAddress)),
    Reaches always (State.init twoAddresses fun i => (bothAllocate i).run) s ∧
    (∃ a, s.prog true = some (.ret (.ok (some a)))) ∧
      ∀ ip ∈ s.mem.db.addresses.rows, ip.isPrimary = false := by
  have hrun : (run (State.init twoAddresses fun i => (bothAllocate i).run)
      [(true, .ev unlocked), (false, .ev unlocked)]).isSome = true := by rfl
  have hreach := reaches_run (run_get hrun)
  exact ⟨_, hreach, ⟨_, rfl⟩, not_primary_of_reaches (by decide) hreach⟩

end

end VirtueStack.Ipam
