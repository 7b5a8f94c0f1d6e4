import VirtueStack.Compute.Deletion

/-!
# vm.delete: the order of the log

* `Holds`, `Released` the addresses of a VM: assigned IPv4 addresses and IPv6 subnets;
* `Marked` what every entry of the log has before it, in any run: the agent confirms only what is
  so, and the session that calls the hook has soft-deleted the row before;
* `InOrder` addresses go after the confirmation, the row after the addresses.
-/

namespace VirtueStack.Compute.Deletion
open Txn Table Mem List

/-! ## addresses -/

inductive Address where
  | ipv4 (id : String)
  | ipv6 (id : String)

def Holds (db : Compute.Db) (v : String) : Address → Prop
  | .ipv4 id => ∃ ip, db.ips.find id = some ip ∧ ip.assignedTo v
  | .ipv6 id => ∃ s ∈ db.subnets, s.id = id ∧ s.vmID = v

def Released (db : Compute.Db) (v : String) : Prop := ∀ a, ¬ Holds db v a

/-! ## entries of the log -/

section
variable {ι : Type}

def after (db₀ : Db) (log : List (ι × List Write)) : Compute.Db := Db.main (store.replay db₀ log)

/-- the agent of the node has confirmed that there is no domain of the VM -/
def Confirmed (log : List (ι × List Write)) (node v : String) : Prop :=
  ∃ b ∈ log, Write.confirmed node v ∈ b.2

/-- the agent of the node the VM is on has confirmed it -/
def Cleared (db₀ : Db) (log : List (ι × List Write)) (v : String) : Prop :=
  ∀ vm node, db₀.main.vms.find v = some vm → vm.nodeID = some node → Confirmed log node v

/-- session `i` has soft-deleted the row of the VM -/
def SoftDeletedBy (db₀ : Db) (log : List (ι × List Write)) (i : ι) (v : String) : Prop :=
  ∃ pre ws post, log = pre ++ (i, ws) :: post ∧ ¬ Deleted (after db₀ pre) v ∧
    Deleted (after db₀ (pre ++ [(i, ws)])) v

structure Marked (db₀ : Db) (pre : List (ι × List Write)) (b : ι × List Write) : Prop where
  confirmed : ∀ node v, Write.confirmed node v ∈ b.2 →
    (after db₀ (pre ++ [b])).hosts.domains (node, v) = none
  hooked : ∀ ref, Write.hook ref ∈ b.2 → SoftDeletedBy db₀ pre b.1 ref.id

structure InOrder (db₀ : Db) (pre : List (ι × List Write)) (b : ι × List Write) : Prop where
  freed : ∀ v a, Holds (after db₀ pre) v a → ¬ Holds (after db₀ (pre ++ [b])) v a →
    Cleared db₀ pre v
  deleted : ∀ v, ¬ Deleted (after db₀ pre) v → Deleted (after db₀ (pre ++ [b])) v →
    Released (after db₀ pre) v

def hookOf (v : String) : Write → Bool
  | .hook ref => ref.id = v
  | _ => false

/-- the row of this VM becomes deleted -/
def deleteOf (v : String) : Write → Bool
  | .db (.putVM vm) => vm.id = v ∧ vm.deletedAt.isSome
  | _ => false

/-! ## deeds -/

/-- the writes that touch neither VMs nor addresses -/
def minor (w : Compute.Write) : Prop := w.table ≠ .vms ∧ w.table ≠ .ips ∧ w.table ≠ .subnets

/-- the last thing that session `i` has done is to soft-delete the row -/
def JustDeleted (db₀ : Db) (m : Mem store ι) (i : ι) (v : String) : Prop :=
  ∃ pre vm now, m.Last i pre [.db (.putVM (VMUpdate.softDelete.set now vm))] ∧
    Compute.Db.vm (after db₀ pre) v = some vm

/-- what a delivery may write, in order if it has to be -/
inductive Deed (strict : Prop) (db₀ : Db) (i : ι) (m : Mem store ι) : List Write → Prop
  | minor {ws : List Compute.Write} (h : ∀ w ∈ ws, minor w) : Deed strict db₀ i m (ws.map .db)
  | confirmed {ws : List HostWrite} {node v : String}
      (h : ((Db.main m.db).hosts.after ws).domains (node, v) = none) :
      Deed strict db₀ i m (ws.map (fun w => .db (.host w)) ++ [.confirmed node v])
  | freedIP {ip : IPAddress} {v : String} (h : (Db.main m.db).ips.find ip.id = some ip)
      (ha : ip.assignedTo v) (hc : strict → Cleared db₀ m.wal v) :
      Deed strict db₀ i m
        [.db (.putIP { ip with status := .cooldown, vmID := none, customerID := none })]
  | freedSubnets {v : String} (hc : strict → Cleared db₀ m.wal v) :
      Deed strict db₀ i m [.db (.deleteSubnets v)]
  | deleted {v : String} {vm : VM} {now : Int} (h : Compute.Db.vm (Db.main m.db) v = some vm)
      (hr : strict → Released (Db.main m.db) v) :
      Deed strict db₀ i m [.db (.putVM (VMUpdate.softDelete.set now vm))]
  | hooked {ref : VMRef} (h : JustDeleted db₀ m i ref.id) : Deed strict db₀ i m [.hook ref]

def deleting (strict : Prop) (db₀ : Db) : Protocol store ι where
  init := fun m => m = ⟨db₀, []⟩
  may := fun i _ ws m => Deed strict db₀ i m ws
  allow := always

variable {strict : Prop} {db₀ : Db} {m : Mem store ι} {i : ι} {ws : List Write} {v : String}

lemma reach_main (h : (deleting strict db₀).Reach m) : Db.main m.db = after db₀ m.wal :=
  congrArg Db.main (h.replay fun _ hm => hm)

lemma after_concat (h : (deleting strict db₀).Reach m) (b : ι × List Write) :
    after db₀ (m.wal ++ [b]) = Db.main (store.view m.db b.2) := by
  unfold after
  rw [Store.replay_concat, ← h.replay fun _ hm => hm]

/-! ## what a deed does to each table -/

lemma view_db (db : Db) (ws : List Compute.Write) :
    Db.main (store.view db (ws.map .db)) = Compute.store.view db.main ws := by
  induction ws generalizing db with
  | nil => rfl
  | cons w ws ih => exact ih (db.apply (.db w))

lemma view_confirmed (db : Db) (ws : List HostWrite) (node v : String) :
    Db.main (store.view db (ws.map (fun w => .db (.host w)) ++ [.confirmed node v])) =
      Compute.store.view db.main (ws.map .host) := by
  have hmap : ws.map (fun w => Write.db (.host w)) = (ws.map Compute.Write.host).map .db := by
    rw [map_map]
    rfl
  rw [Store.view_append, hmap]
  exact view_db db (ws.map .host)

variable {db : Db} {t : TableName}

lemma part_of_minor {ws : List Compute.Write} (h : ∀ w ∈ ws, minor w) (ht : ∀ w, minor w →
    w.table ≠ t) : Compute.Db.part (Db.main (store.view db (ws.map .db))) t = db.main.part t := by
  rw [view_db]
  exact Db.part_view fun w hw => ht w (h w hw)

lemma part_of_confirmed {ws : List HostWrite} {node v : String} (ht : t ≠ .hosts) : Compute.Db.part
      (Db.main (store.view db (ws.map (fun w => .db (.host w)) ++ [.confirmed node v]))) t =
      db.main.part t := by
  rw [view_confirmed]
  refine Db.part_view fun w hw => ?_
  obtain ⟨w', -, rfl⟩ := mem_map.mp hw
  exact Ne.symm ht

section
variable (h : Deed strict db₀ i m ws)
include h

lemma Deed.vms : (Db.main (store.view m.db ws)).vms = (Db.main m.db).vms ∨
      ∃ v vm now, Compute.Db.vm (Db.main m.db) v = some vm ∧ (strict → Released (Db.main m.db) v) ∧
        (Db.main (store.view m.db ws)).vms = (Db.main m.db).vms.put
          (VMUpdate.softDelete.set now vm) := by
  cases h with
  | minor h => exact .inl (part_of_minor (t := .vms) h fun w hw => hw.1)
  | confirmed h => exact .inl (part_of_confirmed (t := .vms) (by decide))
  | freedIP h ha hc | freedSubnets hc | hooked h => exact .inl rfl
  | deleted h hr => exact .inr ⟨_, _, _, h, hr, rfl⟩

lemma Deed.ips : (Db.main (store.view m.db ws)).ips = (Db.main m.db).ips ∨
      ∃ ip v, (Db.main m.db).ips.find ip.id = some ip ∧ ip.assignedTo v ∧
        (strict → Cleared db₀ m.wal v) ∧
        (Db.main (store.view m.db ws)).ips = (Db.main m.db).ips.put
            { ip with status := .cooldown, vmID := none, customerID := none } := by
  cases h with
  | minor h => exact .inl (part_of_minor (t := .ips) h fun w hw => hw.2.1)
  | confirmed h => exact .inl (part_of_confirmed (t := .ips) (by decide))
  | freedIP h ha hc => exact .inr ⟨_, _, h, ha, hc, rfl⟩
  | freedSubnets hc | deleted h hr | hooked h => exact .inl rfl

lemma Deed.subnets : (Db.main (store.view m.db ws)).subnets = (Db.main m.db).subnets ∨
      ∃ v, (strict → Cleared db₀ m.wal v) ∧
        (Db.main (store.view m.db ws)).subnets = (Db.main m.db).subnets.filter fun s =>
          s.vmID ≠ v := by
  cases h with
  | minor h => exact .inl (part_of_minor (t := .subnets) h fun w hw => hw.2.2)
  | confirmed h => exact .inl (part_of_confirmed (t := .subnets) (by decide))
  | freedIP h ha hc | deleted h hr | hooked h => exact .inl rfl
  | freedSubnets hc => exact .inr ⟨_, hc, rfl⟩

lemma Deed.row {v : String} {row : VM} (hrow : (Db.main m.db).vms.find v = some row) :
    (Db.main (store.view m.db ws)).vms.find v = some row ∨ row.deletedAt = none ∧
      (strict → Released (Db.main m.db) v) ∧
        ∃ now, (Db.main (store.view m.db ws)).vms.find v =
          some (VMUpdate.softDelete.set now row) := by
  rcases h.vms with he | ⟨v', vm, now, hvm, hr, he⟩
  · exact .inl (by rw [he]; exact hrow)
  · obtain ⟨hfind, hd⟩ := Db.vm_eq_some.mp hvm
    have hid : vm.id = v' := Db.vm_id hvm
    rw [he]
    by_cases hv : v' = v
    · subst hv
      obtain rfl : vm = row := Option.mem_unique hfind hrow
      exact .inr ⟨hd, hr, now, find_put_self hrow rfl⟩
    · refine .inl ((find_put_of_notMem fun hmem => hv ?_).trans hrow)
      rw [mem_singleton.mp hmem]
      exact hid.symm

end

/-! ## what is left -/

/-- what deliveries leave of the addresses and of the rows: nothing is assigned or created, and a
row keeps its node and stays deleted -/
structure Shrinks (db db' : Compute.Db) : Prop where
  ips : ∀ id ip, db'.ips.find id = some ip → ip.status = .assigned → db.ips.find id = some ip
  subnets : ∀ s ∈ db'.subnets, s ∈ db.subnets
  vms : ∀ v row, db.vms.find v = some row → ∃ row', db'.vms.find v = some row' ∧
    row'.nodeID = row.nodeID ∧ (row.deletedAt ≠ none → row'.deletedAt ≠ none)
  noVMs : ∀ v, db.vms.find v = none → db'.vms.find v = none

lemma Shrinks.refl (db : Compute.Db) : Shrinks db db :=
  ⟨fun _ _ h _ => h, fun _ h => h, fun _ row h => ⟨row, h, rfl, fun hd => hd⟩, fun _ h => h⟩

lemma Shrinks.trans {a b c : Compute.Db} (h : Shrinks a b) (h' : Shrinks b c) : Shrinks a c where
  ips := fun id ip hip ha => h.ips id ip (h'.ips id ip hip ha) ha
  subnets := fun s hs => h.subnets s (h'.subnets s hs)
  vms := by
    intro v row hrow
    obtain ⟨row1, h1, hn1, hd1⟩ := h.vms v row hrow
    obtain ⟨row2, h2, hn2, hd2⟩ := h'.vms v row1 h1
    exact ⟨row2, h2, hn2.trans hn1, fun hd => hd2 (hd1 hd)⟩
  noVMs := fun v hv => h'.noVMs v (h.noVMs v hv)

section
variable {db db' : Compute.Db} {v : String}

variable (h : Shrinks db db')
include h

lemma Shrinks.holds {a : Address} (ha : Holds db' v a) : Holds db v a := by
  cases a with
  | ipv4 id =>
    obtain ⟨ip, hip, hv⟩ := ha
    exact ⟨ip, h.ips id ip hip hv.2, hv⟩
  | ipv6 id =>
    obtain ⟨s, hs, hv⟩ := ha
    exact ⟨s, h.subnets s hs, hv⟩

lemma Shrinks.released (hr : Released db v) : Released db' v :=
  fun a ha => hr a (h.holds ha)

lemma Shrinks.deleted (hd : Deleted db v) : Deleted db' v := by
  obtain ⟨row, hrow, hd⟩ := hd
  obtain ⟨row', hrow', -, hd'⟩ := h.vms v row hrow
  exact ⟨row', hrow', hd' hd⟩

lemma Shrinks.row {row' : VM} (hrow : db'.vms.find v = some row') :
    ∃ row, db.vms.find v = some row ∧ row.nodeID = row'.nodeID := by
  cases hf : db.vms.find v with
  | none => cases (h.noVMs v hf).symm.trans hrow
  | some row =>
    obtain ⟨row1, h1, hn, -⟩ := h.vms v row hf
    obtain rfl : row1 = row' := Option.mem_unique h1 hrow
    exact ⟨row, rfl, hn.symm⟩

end

lemma Deed.shrinks (h : Deed strict db₀ i m ws) :
    Shrinks (Db.main m.db) (Db.main (store.view m.db ws)) where
  ips := by
    intro id ip hip ha
    rcases h.ips with he | ⟨ip', v, hip', -, -, he⟩
    · rw [he] at hip
      exact hip
    · rw [he] at hip
      obtain ⟨hmem, hid⟩ := find_some hip
      rcases mem_rows_put hmem with rfl | hmem
      · cases ha
      · exact find_eq_some.mpr ⟨hmem, hid⟩
  subnets := by
    intro s hs
    rcases h.subnets with he | ⟨v, -, he⟩
    · rw [he] at hs
      exact hs
    · rw [he] at hs
      exact mem_of_mem_filter hs
  vms := by
    intro v row hrow
    rcases h.row hrow with hsame | ⟨-, -, now, hdel⟩
    · exact ⟨row, hsame, rfl, fun hd => hd⟩
    · exact ⟨_, hdel, rfl, fun _ hd => by cases hd⟩
  noVMs := by
    intro v hv
    rcases h.vms with he | ⟨v', vm, now, hvm, hr, he⟩
    · rw [he]
      exact hv
    · rw [he, find_put, hv]
      rfl

/-! ## the order -/

section
variable (h : Deed strict db₀ i m ws)
include h

lemma Deed.of_confirmed {node v : String} (hw : Write.confirmed node v ∈ ws) :
    (Db.main (store.view m.db ws)).hosts.domains (node, v) = none := by
  cases h with
  | confirmed h =>
    rcases mem_append.mp hw with hw | hw
    · obtain ⟨w, -, hw⟩ := mem_map.mp hw
      cases hw
    · cases mem_singleton.mp hw
      rw [view_confirmed, view_host]
      exact h
  | minor h =>
    obtain ⟨w, -, hw⟩ := mem_map.mp hw
    cases hw
  | freedIP h ha hc | freedSubnets hc | deleted h hr | hooked h => cases mem_singleton.mp hw

lemma Deed.of_hook {ref : VMRef} (hw : Write.hook ref ∈ ws) :
    ws = [.hook ref] ∧ JustDeleted db₀ m i ref.id := by
  cases h with
  | hooked h =>
    cases mem_singleton.mp hw
    exact ⟨rfl, h⟩
  | confirmed h =>
    rcases mem_append.mp hw with hw | hw
    · obtain ⟨w, -, hw⟩ := mem_map.mp hw
      cases hw
    · cases mem_singleton.mp hw
  | minor h =>
    obtain ⟨w, -, hw⟩ := mem_map.mp hw
    cases hw
  | freedIP h ha hc | freedSubnets hc | deleted h hr => cases mem_singleton.mp hw

lemma Deed.of_delete {v : String} (hw : ws.any (deleteOf v) = true) :
    ∃ vm now, ws = [.db (.putVM (VMUpdate.softDelete.set now vm))] ∧
      Compute.Db.vm (Db.main m.db) v = some vm := by
  obtain ⟨w, hw, hv⟩ := any_eq_true.mp hw
  cases h with
  | deleted h hr =>
    cases mem_singleton.mp hw
    obtain ⟨hid, -⟩ := of_decide_eq_true hv
    obtain rfl : _ = v := (Db.vm_id h).symm.trans hid
    exact ⟨_, _, rfl, h⟩
  | confirmed h =>
    rcases mem_append.mp hw with hw | hw
    · obtain ⟨w', -, rfl⟩ := mem_map.mp hw
      cases hv
    · cases mem_singleton.mp hw
      cases hv
  | minor h =>
    obtain ⟨w', hw', rfl⟩ := mem_map.mp hw
    cases w' with
    | putVM vm => exact absurd rfl (h _ hw').1
    | _ => cases hv
  | freedIP h ha hc | freedSubnets hc | hooked h =>
    cases mem_singleton.mp hw
    cases hv

end

variable {v : String}

lemma deleted_of_softDelete {vm : VM} {now : Int} (h : Compute.Db.vm db.main v = some vm) :
    Deleted (Db.main (store.view db [.db (.putVM (VMUpdate.softDelete.set now vm))])) v :=
  softDelete_deleted (find_put_self (Db.vm_eq_some.mp h).1 rfl)

lemma JustDeleted.softDeletedBy (h : JustDeleted db₀ m i v) : SoftDeletedBy db₀ m.wal i v := by
  obtain ⟨pre, vm, now, ⟨post, hwal, -⟩, hvm⟩ := h
  refine ⟨pre, _, post, hwal, not_deleted_of_vm hvm, ?_⟩
  unfold after
  rw [Store.replay_concat]
  exact deleted_of_softDelete hvm

lemma Deed.inOrder (h : Deed strict db₀ i m ws) (hs : strict) (hR : (deleting strict db₀).Reach m) :
    InOrder db₀ m.wal (i, ws) where
  freed := by
    intro v a ha hna
    rw [← reach_main hR] at ha
    rw [after_concat hR] at hna
    cases a with
    | ipv4 id =>
      obtain ⟨ip, hip, hv⟩ := ha
      rcases h.ips with he | ⟨ip', v', hip', hv', hc, he⟩
      · exact absurd ⟨ip, by rw [he]; exact hip, hv⟩ hna
      · by_cases hid : id = ip'.id
        · subst hid
          obtain rfl : ip = ip' := Option.mem_unique hip hip'
          obtain rfl : v' = v := Option.mem_unique hv'.1 hv.1
          exact hc hs
        · refine absurd ⟨ip, ?_, hv⟩ hna
          have hkey : id ∉ IPAddress.keys
            { ip' with status := .cooldown, vmID := none, customerID := none } :=
            fun hmem => hid (mem_singleton.mp hmem)
          rw [he, find_put_of_notMem hkey]
          exact hip
    | ipv6 id =>
      obtain ⟨s, hsub, hid, hv⟩ := ha
      rcases h.subnets with he | ⟨v', hc, he⟩
      · exact absurd ⟨s, by rw [he]; exact hsub, hid, hv⟩ hna
      · by_cases hvv : v' = v
        · exact hvv ▸ hc hs
        · refine absurd ⟨s, ?_, hid, hv⟩ hna
          rw [he]
          exact mem_filter.mpr ⟨hsub, decide_eq_true fun h => hvv (h.symm.trans hv)⟩
  deleted := by
    intro v hnd hd
    rw [← reach_main hR] at hnd ⊢
    rw [after_concat hR] at hd
    obtain ⟨row', hrow', hd⟩ := hd
    obtain ⟨row, hrow, -⟩ := h.shrinks.row hrow'
    rcases h.row hrow with hsame | ⟨-, hr, -⟩
    · obtain rfl : row = row' := Option.mem_unique hsame hrow'
      exact absurd ⟨row, hrow, hd⟩ hnd
    · exact hr hs

/-! ## the hook -/

/-- the sessions that have soft-deleted the VM and called the hook: one at most, which has done
something since -/
structure HookOnce (db₀ : Db) (m : Mem store ι) (v : String) : Prop where
  deletes : ∀ i ∈ m.authors (deleteOf v), m.authors (deleteOf v) = [i]
  deleted : ∀ i ∈ m.authors (deleteOf v), Deleted (Db.main m.db) v
  hooks : ∀ i ∈ m.authors (hookOf v), m.authors (hookOf v) = [i]
  hooked : ∀ i ∈ m.authors (hookOf v), i ∈ m.authors (deleteOf v) ∧ ¬ JustDeleted db₀ m i v

lemma justDeleted_publish {j : ι} (hne : ws ≠ []) (h : JustDeleted db₀ (m.publish i ws) j v) :
    JustDeleted db₀ m j v ∨ ws.any (deleteOf v) = true := by
  obtain ⟨pre, vm, now, hlast, hvm⟩ := h
  rcases last_of_publish hne hlast with ⟨-, -, rfl⟩ | ⟨-, hlast⟩
  · refine .inr ?_
    have hid : vm.id = v := Db.vm_id hvm
    simp [deleteOf, VMUpdate.set, hid]
  · exact .inl ⟨pre, vm, now, hlast, hvm⟩

lemma not_justDeleted_self (hne : ws ≠ []) (hws : ws.any (deleteOf v) = false) :
    ¬ JustDeleted db₀ (m.publish i ws) i v := by
  rintro ⟨pre, vm, now, hlast, hvm⟩
  rcases last_of_publish hne hlast with ⟨-, -, rfl⟩ | ⟨hii, -⟩
  · have hid : vm.id = v := Db.vm_id hvm
    simp [deleteOf, VMUpdate.set, hid] at hws
  · exact hii rfl

lemma JustDeleted.mem_authors (h : JustDeleted db₀ m i v) : i ∈ m.authors (deleteOf v) := by
  obtain ⟨pre, vm, now, ⟨post, hwal, -⟩, hvm⟩ := h
  have hid : vm.id = v := Db.vm_id hvm
  refine mem_map.mpr ⟨(i, [.db (.putVM (VMUpdate.softDelete.set now vm))]), ?_, rfl⟩
  refine mem_filter.mpr ⟨?_, by simp [deleteOf, VMUpdate.set, hid]⟩
  rw [hwal]
  exact mem_append_right _ mem_cons_self

lemma hookOnce_nil : HookOnce db₀ (⟨db, []⟩ : Mem store ι) v :=
  ⟨fun _ hi => (by cases hi), fun _ hi => (by cases hi), fun _ hi => (by cases hi), fun _ hi =>
    (by cases hi)⟩

section
variable (h : HookOnce db₀ m v)
include h

lemma HookOnce.length_le : (m.authors (hookOf v)).length ≤ 1 := by
  cases ha : m.authors (hookOf v) with
  | nil => exact Nat.zero_le 1
  | cons i l =>
    have hi : i ∈ m.authors (hookOf v) := by
      rw [ha]
      exact mem_cons_self
    rw [← ha, h.hooks i hi]
    exact Nat.le_refl 1

/-- the row is deleted: nobody had done so before, and nobody had called the hook -/
lemma HookOnce.delete {vm : VM} {now : Int} (hvm : Compute.Db.vm (Db.main m.db) v = some vm) :
    HookOnce db₀ (m.publish i [.db (.putVM (VMUpdate.softDelete.set now vm))]) v := by
  have hid : vm.id = v := Db.vm_id hvm
  have hnone : m.authors (deleteOf v) = [] :=
    eq_nil_iff_forall_not_mem.mpr fun j hj => not_deleted_of_vm hvm (h.deleted j hj)
  have hnohook : m.authors (hookOf v) = [] := eq_nil_iff_forall_not_mem.mpr fun j hj => by
    have hj' := (h.hooked j hj).1
    rw [hnone] at hj'
    cases hj'
  have hdel : (m.publish i [.db (.putVM (VMUpdate.softDelete.set now vm))]).authors
      (deleteOf v) = [i] := by
    rw [authors_publish, hnone]
    simp [deleteOf, VMUpdate.set, hid]
  have hhook : (m.publish i [.db (.putVM (VMUpdate.softDelete.set now vm))]).authors
      (hookOf v) = [] := by
    rw [authors_publish, hnohook]
    rfl
  refine ⟨fun j hj => ?_, fun j _ => deleted_of_softDelete hvm, fun j hj => ?_, fun j hj => ?_⟩
  · rw [hdel] at hj ⊢
    rw [mem_singleton.mp hj]
  · rw [hhook] at hj
    cases hj
  · rw [hhook] at hj
    cases hj

/-- the hook is called by the session that has just deleted the row -/
lemma HookOnce.hook {ref : VMRef} (href : ref.id = v) (hj : JustDeleted db₀ m i v) :
    HookOnce db₀ (m.publish i [.hook ref]) v := by
  have hdel : (m.publish i [.hook ref]).authors (deleteOf v) = m.authors (deleteOf v) := by
    rw [authors_publish]
    exact append_nil _
  have hnohook : m.authors (hookOf v) = [] := eq_nil_iff_forall_not_mem.mpr fun k hk => by
    obtain ⟨hkdel, hkj⟩ := h.hooked k hk
    have hi := hj.mem_authors
    rw [h.deletes k hkdel] at hi
    exact hkj (mem_singleton.mp hi ▸ hj)
  have hhook : (m.publish i [.hook ref]).authors (hookOf v) = [i] := by
    rw [authors_publish, hnohook]
    simp [hookOf, href]
  refine ⟨fun k hk => ?_, fun k hk => ?_, fun k hk => ?_, fun k hk => ?_⟩
  · rw [hdel] at hk ⊢
    exact h.deletes k hk
  · rw [hdel] at hk
    exact h.deleted k hk
  · rw [hhook] at hk ⊢
    rw [mem_singleton.mp hk]
  · rw [hhook] at hk
    rw [hdel, mem_singleton.mp hk]
    exact ⟨hj.mem_authors, not_justDeleted_self (cons_ne_nil _ _) rfl⟩

lemma HookOnce.other (hdeed : Deed strict db₀ i m ws) (hne : ws ≠ [])
    (hd : ws.any (deleteOf v) = false) (hh : ws.any (hookOf v) = false) :
    HookOnce db₀ (m.publish i ws) v := by
  have hdel : (m.publish i ws).authors (deleteOf v) = m.authors (deleteOf v) := by
    rw [authors_publish_batch, hd]
    exact append_nil _
  have hhook : (m.publish i ws).authors (hookOf v) = m.authors (hookOf v) := by
    rw [authors_publish_batch, hh]
    exact append_nil _
  refine ⟨fun k hk => ?_, fun k hk => ?_, fun k hk => ?_, fun k hk => ?_⟩
  · rw [hdel] at hk ⊢
    exact h.deletes k hk
  · rw [hdel] at hk
    rw [publish_db]
    exact hdeed.shrinks.deleted (h.deleted k hk)
  · rw [hhook] at hk ⊢
    exact h.hooks k hk
  · rw [hhook] at hk
    rw [hdel]
    refine ⟨(h.hooked k hk).1, fun hj => ?_⟩
    rcases justDeleted_publish hne hj with hj | hj
    · exact (h.hooked k hk).2 hj
    · cases hd.symm.trans hj

lemma HookOnce.publish (hdeed : Deed strict db₀ i m ws) (hne : ws ≠ []) :
    HookOnce db₀ (m.publish i ws) v := by
  cases hd : ws.any (deleteOf v) with
  | true =>
    obtain ⟨vm, now, rfl, hvm⟩ := hdeed.of_delete hd
    exact h.delete hvm
  | false =>
    cases hh : ws.any (hookOf v) with
    | false => exact h.other hdeed hne hd hh
    | true =>
      obtain ⟨w, hw, hv⟩ := any_eq_true.mp hh
      cases w with
      | hook ref =>
        have hid : ref.id = v := of_decide_eq_true hv
        obtain ⟨rfl, hj⟩ := hdeed.of_hook hw
        exact h.hook hid (hid ▸ hj)
      | db w => cases hv
      | confirmed node v => cases hv

end

/-- **The order of the log.** -/
theorem reach_order (h : (deleting strict db₀).Reach m) :
    (∀ v, HookOnce db₀ m v) ∧ (∀ pre b post, m.wal = pre ++ b :: post → Marked db₀ pre b) ∧
      (strict → ∀ pre b post, m.wal = pre ++ b :: post → InOrder db₀ pre b) := by
  refine h.invariant (I := fun m => (∀ v, HookOnce db₀ m v) ∧
    (∀ pre b post, m.wal = pre ++ b :: post → Marked db₀ pre b) ∧
      (strict → ∀ pre b post, m.wal = pre ++ b :: post → InOrder db₀ pre b)) ?_ ?_
  · rintro m rfl
    exact ⟨fun v => hookOnce_nil, fun pre b post hl => absurd hl.symm (by simp),
      fun _ pre b post hl => absurd hl.symm (by simp)⟩
  · rintro m i H ws hR ⟨hhook, hmarked, horder⟩ hne - (hdeed : Deed strict db₀ i m ws)
    refine ⟨fun v => (hhook v).publish hdeed hne, ?_, fun hs => ?_⟩
    · rw [publish_wal hne]
      refine forall_split_concat.mpr ⟨hmarked, fun node v hw => ?_, fun ref hw =>
        (hdeed.of_hook hw).2.softDeletedBy⟩
      rw [after_concat hR]
      exact hdeed.of_confirmed hw
    · rw [publish_wal hne]
      exact forall_split_concat.mpr ⟨horder hs, hdeed.inOrder hs hR⟩

/-- **Deliveries only take away.** -/
theorem reach_shrinks (h : (deleting strict db₀).Reach m) : Shrinks db₀.main (Db.main m.db) := by
  refine h.invariant (I := fun m => Shrinks db₀.main (Db.main m.db)) ?_ ?_
  · rintro m rfl
    exact Shrinks.refl _
  · rintro m i H ws - hm hne - (hdeed : Deed strict db₀ i m ws)
    rw [publish_db]
    exact hm.trans hdeed.shrinks

end

end VirtueStack.Compute.Deletion
