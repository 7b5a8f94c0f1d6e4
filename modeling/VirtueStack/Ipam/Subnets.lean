import VirtueStack.Txn.Walk
import VirtueStack.Ipam.IPv6
import VirtueStack.Txn.Does

/-!
# IPv6 subnets are disjoint

Any number of callers that allocate and delete subnets, interleaved statement by statement, each
free to fail or crash anywhere. A call that finds its prefix exhausted leaves its transaction open,
with the lock.

* `subnetting` what the calls may commit: a row that is right and whose index entries are free, or
  deletes;
* `create_safe` the allocation keeps to it. Between the insert and the commit the lock on the prefix
  keeps the index free, and the lock on the index entry the id.
-/

namespace VirtueStack.Ipam.IPv6
open Txn Net Table List Network

lemma generateIPv6Subnet_eq (T : Text) {n : Network} (hn : n.bits ≤ 128) (m : Nat) :
    generateIPv6Subnet T (T.ofNetwork n) m =
      .ok (T.ofNetwork (n.sub64 m), T.ofAddr (n.sub64 m).first) := by
  have hbyte6 : BitVec.ofInt 8 ((m : Int) >>> (8 : Nat)) = byte (m >>> 8) :=
    BitVec.ofInt_natCast 8 (m >>> 8)
  have hbyte7 : BitVec.ofInt 8 (m : Int) = byte m := BitVec.ofInt_natCast 8 m
  have hslash : ∀ s : String, s ++ "/64" = s ++ "/" ++ toString 64 := fun s => by
    rw [String.append_assoc]
    rfl
  unfold generateIPv6Subnet
  rw [T.toNetwork_ofNetwork hn]
  dsimp only
  rw [hbyte6, hbyte7, hslash]
  rfl

/-! ## rows -/

/-- the row is the subnet of its prefix with its index -/
def RowOk (db : Db) (row : VMIPv6Subnet) : Prop :=
  ∃ p, db.prefixes.find row.ipv6PrefixID = some p ∧ ∃ m : Nat, m < 65536 ∧ row.subnetIndex = m ∧
    row.subnet = p.network.sub64 m ∧ row.gateway = (p.network.sub64 m).first

def WellFormed (db : Db) : Prop := ∀ row ∈ db.subnets.rows, RowOk db row

/-- the prefixes are networks of length 48 without an address in common -/
structure Prefixes (db : Db) : Prop where
  bits : ∀ p ∈ db.prefixes.rows, p.network.bits = 48
  hostBits : ∀ p ∈ db.prefixes.rows, p.network.HostBitsZero
  disjoint : ∀ p ∈ db.prefixes.rows, ∀ q ∈ db.prefixes.rows, p ≠ q → p.network.Disjoint q.network

section
variable {db : Db} {row : VMIPv6Subnet}

lemma apply_prefixes (db : Db) (w : Write) : (db.apply w).prefixes = db.prefixes := by
  cases w <;> rfl

lemma view_prefixes (T : Text) (db : Db) (ws : List Write) :
    ((store T).view db ws).prefixes = db.prefixes :=
  Store.view_same (S := store T) (g := Db.prefixes) (fun w _ db => apply_prefixes db w) db

lemma RowOk.congr {db' : Db} (h : RowOk db row) (hp : db'.prefixes = db.prefixes) :
    RowOk db' row := by
  unfold RowOk
  rw [hp]
  exact h

lemma WellFormed.insert (h : WellFormed db) (hrow : RowOk db row) :
    WellFormed (db.apply (.insertSubnet row)) := by
  intro a ha
  refine RowOk.congr ?_ (apply_prefixes db (.insertSubnet row))
  by_cases hc : db.subnets.clash row = none
  · have hrows : a ∈ db.subnets.rows ++ [row] := (rows_insert hc) ▸ ha
    rcases mem_append.mp hrows with ha | ha
    · exact h a ha
    · rw [mem_singleton.mp ha]
      exact hrow
  · have hsame : db.subnets.insert row = db.subnets := dif_neg hc
    have ha' : a ∈ (db.subnets.insert row).rows := ha
    rw [hsame] at ha'
    exact h a ha'

lemma WellFormed.delete (h : WellFormed db) (id : String) :
    WellFormed (db.apply (.deleteSubnet id)) :=
  fun a ha => h a (mem_of_mem_filter ha)

end

lemma Prefixes.congr {db db' : Db} (hp : Prefixes db) (h : db'.prefixes = db.prefixes) :
    Prefixes db' := by
  constructor
  · rw [h]
    exact hp.bits
  · rw [h]
    exact hp.hostBits
  · rw [h]
    exact hp.disjoint

section
variable {db : Db} {a b : VMIPv6Subnet}

lemma WellFormed.disjoint (h : WellFormed db) (hp : Prefixes db) (ha : a ∈ db.subnets.rows)
    (hb : b ∈ db.subnets.rows) (hab : a ≠ b) : a.subnet.Disjoint b.subnet := by
  obtain ⟨p, hpa, m, hm, hma, hsa, -⟩ := h a ha
  obtain ⟨q, hqb, m', hm', hmb, hsb, -⟩ := h b hb
  obtain ⟨hpmem, hpid⟩ := find_some hpa
  obtain ⟨hqmem, hqid⟩ := find_some hqb
  rw [hsa, hsb]
  by_cases hpq : p = q
  · -- the same prefix: the index entry tells the rows apart
    refine sub64_disjoint_of_ne hm hm' fun he => hab ?_
    have hid : a.ipv6PrefixID = b.ipv6PrefixID := by
      rw [mem_singleton.mp hpid, mem_singleton.mp hqid, hpq]
    refine eq_of_key ha hb (k := .index a.ipv6PrefixID a.subnetIndex) ?_ ?_
    · simp [VMIPv6Subnet.keys]
    · rw [hid, hma, he, ← hmb]
      simp [VMIPv6Subnet.keys]
  · exact sub64_disjoint (hp.disjoint p hpmem q hqmem hpq) (hp.bits p hpmem) (hp.bits q hqmem)

lemma first_byte {n : Network} (hn : n.bits = 48) (hz : n.HostBitsZero) (m : Nat) (k : Fin 16) :
    (n.sub64 m).first k = if k < 8 then (n.sub64 m).addr k else if k = 15 then 1 else 0 := by
  unfold Network.first
  by_cases h15 : k = 15
  · subst h15
    rw [Function.update_self]
    rfl
  · rw [Function.update_of_ne h15, if_neg h15]
    by_cases h8 : k < 8
    · rw [if_pos h8]
    · rw [if_neg h8]
      have hk : 64 ≤ 8 * k.val := by
        have hle : 8 ≤ k.val := Nat.not_lt.mp fun hlt => h8 (Fin.lt_def.mpr hlt)
        omega
      exact (hz.sub64 hn).byte hk

end

/-! ## the abstract machine -/

section
variable {T : Text} {ι : Type} {db₀ : Db}

inductive MayCommit (db : Db) : List Write → Prop
  | insert {row : VMIPv6Subnet} : db.subnets.clash row = none → RowOk db row →
    MayCommit db [.insertSubnet row]
  | delete (ids : List String) : MayCommit db (ids.map .deleteSubnet)

def subnetting (T : Text) (ι : Type) (db₀ : Db) : Protocol (store T) ι where
  init m := m = ⟨db₀, []⟩
  may _ _ ws m := MayCommit m.db ws
  allow := always

variable {db : Db}

lemma wellFormed_view_delete (h : WellFormed db) (ids : List String) :
    WellFormed ((store T).view db (ids.map .deleteSubnet)) := by
  induction ids generalizing db with
  | nil => exact h
  | cons id ids ih => exact ih (h.delete id)

/-- an insert finds its index entries free -/
def Inserts (T : Text) {ι : Type} (db₀ : Db) (pre : List (ι × List Write)) (b : ι × List Write) :
    Prop :=
  ∀ row, b.2 = [.insertSubnet row] → ((store T).replay db₀ pre).subnets.clash row = none

structure Subnetted (T : Text) (db₀ : Db) (m : Mem (store T) ι) : Prop where
  prefixes : m.db.prefixes = db₀.prefixes
  wellFormed : WellFormed m.db
  inserts : ∀ pre b post, m.wal = pre ++ b :: post → Inserts T db₀ pre b

lemma subnetted_of_reach {m : Mem (store T) ι} (h₀ : WellFormed db₀)
    (h : (subnetting T ι db₀).Reach m) : Subnetted T db₀ m := by
  have hreplay : ∀ m, (subnetting T ι db₀).Reach m → m.db = (store T).replay db₀ m.wal :=
    fun m hm =>
    hm.replay fun _ h => h
  refine h.invariant (I := Subnetted T db₀) ?_ ?_
  · rintro m rfl
    refine ⟨rfl, h₀, fun pre b post hwal => ?_⟩
    cases pre <;> cases hwal
  · intro m i H ws hR hI hne _ hmay
    have hdb : (m.publish i ws).db = (store T).view m.db ws := Mem.publish_db m i ws
    refine ⟨?_, ?_, ?_⟩
    · rw [hdb, view_prefixes, hI.prefixes]
    · rw [hdb]
      cases hmay with
      | insert hc hrow => exact hI.wellFormed.insert hrow
      | delete ids => exact wellFormed_view_delete hI.wellFormed ids
    · rw [Mem.publish_wal hne]
      refine forall_split_concat.mpr ⟨hI.inserts, fun row hrow => ?_⟩
      rw [← hreplay m hR]
      cases hmay with
      | insert hc _ =>
        cases hrow
        exact hc
      | delete ids =>
        cases ids with
        | nil => exact absurd rfl hne
        | cons id ids => cases hrow

/-! ## the calls keep to it -/

variable {i : ι} {m : Mem (store T) ι} {H : Set Lock}

lemma find_view_delete {k : SubnetKey} (h : db.subnets.find k = none) (ids : List String) :
    ((store T).view db (ids.map .deleteSubnet)).subnets.find k = none := by
  induction ids generalizing db with
  | nil => exact h
  | cons id ids ih =>
    refine ih ?_
    rw [find_eq_none] at h ⊢
    exact fun row hrow => h row (mem_of_mem_filter hrow)

/-- while the prefix and the id are locked, the index entries of the row stay free -/
lemma clash_stable {m' : Mem (store T) ι} {row : VMIPv6Subnet}
    (hr : (subnetting T ι db₀).Rely i H m m')
    (hpre : Lock.ofPrefix row.ipv6PrefixID ∈ H) (hid : Lock.ofSubnet row.id ∈ H)
    (hc : m.db.subnets.clash row = none) : m'.db.subnets.clash row = none := by
  refine hr.stable (I := fun m : Mem (store T) ι => m.db.subnets.clash row = none) ?_ hc
  intro m j H' ws _ hd hcov hmay _ hfree
  rw [clash_eq_none] at hfree ⊢
  intro k hk
  rw [Mem.publish_db]
  cases hmay with
  | delete ids => exact find_view_delete (hfree k hk) ids
  | @insert other _ _ =>
    have hguards := hcov _ (mem_singleton_self _)
    have hother : Lock.ofPrefix other.ipv6PrefixID ∈ H' := hguards _ (by simp [Write.guards])
    have hother' : Lock.ofSubnet other.id ∈ H' := hguards _ (by simp [Write.guards])
    have hp : row.ipv6PrefixID ≠ other.ipv6PrefixID := fun he =>
      Set.disjoint_left.mp hd hpre (he ▸ hother)
    have hi : row.id ≠ other.id := fun he => Set.disjoint_left.mp hd hid (he ▸ hother')
    show (m.db.subnets.insert other).find k = none
    rw [find_insert_of_notMem, hfree k hk]
    -- the entries of the other row name another id and another prefix
    intro hk'
    simp only [VMIPv6Subnet.keys, mem_cons, not_mem_nil, or_false] at hk hk'
    rcases hk with rfl | rfl
    · rcases hk' with hk' | hk'
      · exact hi (SubnetKey.id.inj hk')
      · cases hk'
    · rcases hk' with hk' | hk'
      · cases hk'
      · exact hp (SubnetKey.index.inj hk').1

lemma insertAndCommit_safe {x₀ : Inp} {vmID prefixID : String} {p : IPv6Prefix} {idx : Nat}
    (hH : Lock.ofPrefix prefixID ∈ H) (hp : db₀.prefixes.find prefixID = some p)
    (hidx : idx < 65536)
    (h₀ : WellFormed db₀) : Safe (subnetting T ι db₀) i (insertAndCommit T vmID prefixID idx
      (T.ofNetwork (p.network.sub64 idx), T.ofAddr (p.network.sub64 idx).first))
        ⟨.active x₀, []⟩ H m := by
  refine Safe.stmt (fun e m' => Safe.rollback _) ?_
  intro m1 x row ws _ hR hx
  obtain ⟨n, a, hn, ha, rfl, rfl, hclash⟩ := exec_insertSubnet x₀ hx
  have h64 : (p.network.sub64 idx).bits ≤ 128 := Nat.le_add_right 64 64
  have hn' : p.network.sub64 idx = n := Except.ok.inj ((T.toNetwork_ofNetwork h64).symm.trans hn)
  have ha' : (p.network.sub64 idx).first = a := Except.ok.inj ((T.toAddr_ofAddr _).symm.trans ha)
  refine Safe.commit (fun r m' => ?_) fun m2 hr hR2 _ => ?_
  · cases r with
    | ok _ | error e => exact Safe.ret _
  · refine MayCommit.insert ?_ ?_
    · refine clash_stable hr (.inl hH) (.inr ?_) hclash
      simp [locks]
    · have hrow : RowOk db₀ ⟨x.fresh, vmID, prefixID, n, idx, a⟩ :=
        ⟨p, hp, idx, hidx, rfl, hn'.symm, ha'.symm⟩
      exact hrow.congr (subnetted_of_reach h₀ hR2).prefixes

lemma maxSubnetIndex_ge (h : WellFormed db) (prefixID : String) :
    -1 ≤ db.maxSubnetIndex prefixID := by
  unfold Db.maxSubnetIndex
  cases hmax :
    ((db.subnets.rows.filter fun row => row.ipv6PrefixID = prefixID).map (·.subnetIndex)).max? with
  | none => exact Int.le_refl (-1)
  | some z =>
    obtain ⟨row, hrow, rfl⟩ := mem_map.mp (max?_mem hmax)
    obtain ⟨p, -, k, -, hk, -, -⟩ := h row (mem_of_mem_filter hrow)
    show -1 ≤ row.subnetIndex
    omega

lemma createAt_safe {x₀ : Inp} {vmID prefixID : String} {p : IPv6Prefix} {z : Int}
    (hH : Lock.ofPrefix prefixID ∈ H) (hp : db₀.prefixes.find prefixID = some p)
    (hbits : p.network.bits ≤ 128) (hz : 0 ≤ z) (h₀ : WellFormed db₀) :
    Safe (subnetting T ι db₀) i (createAt T vmID prefixID (T.ofNetwork p.network) z)
      ⟨.active x₀, []⟩ H m := by
  by_cases hfull : 65536 ≤ z
  · unfold createAt
    rw [if_pos hfull]
    exact Safe.ret _
  · obtain ⟨idx, rfl⟩ := Int.eq_ofNat_of_zero_le hz
    have hidx : idx < 65536 := by omega
    unfold createAt
    rw [if_neg hfull, generateIPv6Subnet_eq T hbits idx]
    exact insertAndCommit_safe hH hp hidx h₀

lemma create_safe (vmID prefixID : String) (h₀ : WellFormed db₀)
    (hbits : ∀ p ∈ db₀.prefixes.rows, p.network.bits ≤ 128) :
    Safe (subnetting T ι db₀) i (createVMIPv6SubnetWithIndexCheck T vmID prefixID) .idle ∅ m := by
  refine Safe.begin (fun e m' => Safe.ret _) fun x0 m1 _ => ?_
  show Safe _ _ (orRollback (lockPrefix T prefixID) _) _ _ _
  unfold orRollback lockPrefix
  rw [Call.bind_eq_attempt, Call.attempt_attempt]
  refine Safe.stmt (fun e m' => Safe.rollback _) ?_
  intro m2 x text ws _ hR2 hx
  cases hx
  have hfind : m2.db.prefixes.find prefixID = db₀.prefixes.find prefixID := by
    rw [(subnetted_of_reach h₀ hR2).prefixes]
  cases hp : db₀.prefixes.find prefixID with
  | none =>
    have htext : ((store T).view m2.db []).prefixes.find prefixID = none := hfind.trans hp
    rw [htext]
    exact Safe.rollback _
  | some p =>
    have htext : ((store T).view m2.db []).prefixes.find prefixID = some p := hfind.trans hp
    rw [htext]
    refine Safe.stmt (fun e m' => Safe.rollback _) ?_
    intro m3 x' maxIndex ws' _ hR3 hx'
    cases hx'
    have hmax := maxSubnetIndex_ge (subnetted_of_reach h₀ hR3).wellFormed prefixID
    refine createAt_safe (.inl (.inr ?_)) hp (hbits p (find_some hp).1) ?_ h₀
    · simp [locks]
    · show 0 ≤ m3.db.maxSubnetIndex prefixID + 1
      omega

lemma mayCommit_deletes (db : Db) (rows : List VMIPv6Subnet) :
    MayCommit db (rows.map fun row => .deleteSubnet row.id) := by
  have hmap : (rows.map fun row => Write.deleteSubnet row.id) =
      (rows.map (·.id)).map .deleteSubnet := by
    rw [map_map]
    rfl
  rw [hmap]
  exact MayCommit.delete _

/-- a statement that is sent on its own: a read or a delete -/
def Stmt.alone : Stmt → Prop
  | .insertSubnet _ _ _ _ _ => False
  | _ => True

lemma keeps_of_alone {α : Type} {c : Op T α} (h : c.All Stmt.alone) :
    Keeps (subnetting T ι db₀) i c m := by
  refine h.keeps fun q hq m x a ws _ _ hx hne => ?_
  cases q with
  | insertSubnet vmID prefixID subnet subnetIndex gateway => exact hq.elim
  | deleteSubnetsByVM vmID =>
    cases hx
    exact mayCommit_deletes m.db _
  | deleteSubnetByID id =>
    simp only [exec] at hx
    split at hx
    · cases hx
      exact MayCommit.delete [id]
    · cases hx
      exact absurd rfl hne
  | _ => cases hx; exact absurd rfl hne

inductive Request where
  | create (vmID prefixID : String)
  | deleteByVM (vmID : String)
  | deleteByID (id : String)
  /-- the calls of the service -/
  | allocateIPv6 (vmID nodeID : String)
  | releaseIPv6 (subnetID : String)

def Request.run (T : Text) : Request → Op T Unit
  | .create vmID prefixID => (createVMIPv6SubnetWithIndexCheck T vmID prefixID).attempt fun r =>
    Prog.ret (r.map fun _ => ())
  | .deleteByVM vmID => deleteVMIPv6SubnetsByVM T vmID
  | .deleteByID id => deleteVMIPv6SubnetByID T id
  | .allocateIPv6 vmID nodeID => (IPv6.allocateIPv6 T vmID nodeID).attempt fun r =>
    Prog.ret (r.map fun _ => ())
  | .releaseIPv6 subnetID => IPv6.releaseIPv6 T subnetID

section
attribute [local simp] Stmt.alone Call.bind_eq_attempt

lemma getIPv6PrefixByNode_all (nodeID : String) :
    (getIPv6PrefixByNode T nodeID).All Stmt.alone := by
  have hfound : ∀ a, (foundPrefix T nodeID a).All Stmt.alone := fun a => by cases a <;> trivial
  simp [getIPv6PrefixByNode, hfound]

lemma deleteByID_all (id : String) : (deleteVMIPv6SubnetByID T id).All Stmt.alone := by
  have haffected : ∀ n, (affected T id n).All Stmt.alone := fun n => by cases n <;> trivial
  simp [deleteVMIPv6SubnetByID, haffected]

lemma deleteByVM_all (vmID : String) : (deleteVMIPv6SubnetsByVM T vmID).All Stmt.alone :=
  Call.All.stmt trivial

lemma releaseIPv6_all (subnetID : String) : (IPv6.releaseIPv6 T subnetID).All Stmt.alone := by
  have hfound : ∀ a, (foundSubnet T subnetID a).All Stmt.alone := fun a => by cases a <;> trivial
  simp [IPv6.releaseIPv6, getVMIPv6SubnetByID, hfound, deleteByID_all]

end

section
variable (h₀ : WellFormed db₀) (hbits : ∀ p ∈ db₀.prefixes.rows, p.network.bits ≤ 128)
include h₀ hbits

/-- the lookup of the prefix ends outside any transaction, so the allocation starts there -/
lemma allocateIPv6_safe (vmID nodeID : String) :
    Safe (subnetting T ι db₀) i (IPv6.allocateIPv6 T vmID nodeID) .idle ∅ m := by
  refine WP.bind (WP.mono ?_ (keeps_of_alone (getIPv6PrefixByNode_all nodeID)))
  rintro r l K m' _ ⟨rfl, rfl, -⟩
  cases r with
  | ok p =>
    refine Safe.attempt (create_safe vmID p.id h₀ hbits) fun r l K m => ?_
    cases r with
    | ok row | error e => exact Safe.ret _
  | error e =>
    dsimp only
    split
    · exact Safe.ret _
    · exact Safe.ret _

lemma request_safe (q : Request) : Safe (subnetting T ι db₀) i (q.run T) .idle ∅ m := by
  cases q with
  | create vmID prefixID =>
    exact Safe.attempt (create_safe vmID prefixID h₀ hbits) fun _ _ _ _ => Safe.ret _
  | deleteByVM vmID => exact (keeps_of_alone (deleteByVM_all vmID)).safe
  | deleteByID id => exact (keeps_of_alone (deleteByID_all id)).safe
  | allocateIPv6 vmID nodeID =>
    exact Safe.attempt (allocateIPv6_safe h₀ hbits vmID nodeID) fun _ _ _ _ => Safe.ret _
  | releaseIPv6 subnetID => exact (keeps_of_alone (releaseIPv6_all subnetID)).safe

end

/-- **IPv6 subnets are disjoint.** The prefixes are disjoint networks of length 48, and the rows of
the first state are as the allocation makes them. Then in every committed state of every run two
rows have disjoint subnets of length 64, each within its prefix; the gateway is the address ::1 of
the subnet, and the index is the number in the bits 48 to 63. No commit of an insert meets an index
entry that is taken. -/
theorem subnets_disjoint [DecidableEq ι] (hp : Prefixes db₀) (h₀ : WellFormed db₀)
    (req : ι → Request) {s : State (store T) ι (Except GoError Unit)}
    (h : Reaches always (State.init db₀ fun i => (req i).run T) s) :
    (∀ a ∈ s.mem.db.subnets.rows, ∀ b ∈ s.mem.db.subnets.rows, a ≠ b →
      a.subnet ≠ b.subnet ∧ a.subnet.Disjoint b.subnet) ∧
    (∀ a ∈ s.mem.db.subnets.rows, a.subnet.bits = 64 ∧
      (∃ p ∈ db₀.prefixes.rows, p.id = a.ipv6PrefixID ∧ a.subnet.Within p.network) ∧
      (∀ k : Fin 16, a.gateway k = if k < 8 then a.subnet.addr k else if k = 15 then 1 else 0) ∧
      a.subnetIndex = a.subnet.addr.get16 6 7 ∧ 0 ≤ a.subnetIndex ∧ a.subnetIndex ≤ 65535) ∧
    (∀ pre b post, s.mem.wal = pre ++ b :: post → Inserts T db₀ pre b) := by
  have hbits : ∀ p ∈ db₀.prefixes.rows, p.network.bits ≤ 128 := fun p hmem => by
    rw [hp.bits p hmem]
    decide
  have hinit : (subnetting T ι db₀).init ⟨db₀, []⟩ := rfl
  have hreach := (Protocol.sound (good_init hinit fun i => request_safe h₀ hbits (req i)) h).reach
  obtain ⟨hprefixes, hwf, hinserts⟩ := subnetted_of_reach h₀ hreach
  have hp' : Prefixes s.mem.db := hp.congr hprefixes
  refine ⟨fun a ha b hb hab => ?_, fun a ha => ?_, hinserts⟩
  · have hdisj := hwf.disjoint hp' ha hb hab
    exact ⟨fun he => hdisj a.subnet.addr a.subnet.mem_self (he ▸ a.subnet.mem_self), hdisj⟩
  · obtain ⟨p, hfind, k, hk, hindex, hsubnet, hgateway⟩ := hwf a ha
    obtain ⟨hmem, hid⟩ := find_some hfind
    have hget : (p.network.sub64 k).addr.get16 6 7 = k := sub64_index hk
    rw [hsubnet, hgateway, hindex, hget]
    refine ⟨rfl, ⟨p, hprefixes ▸ hmem, (mem_singleton.mp hid).symm, ?_⟩, ?_, rfl,
      by omega, by omega⟩
    · exact sub64_within (hp'.bits p hmem)
    · exact first_byte (hp'.bits p hmem) (hp'.hostBits p hmem) k

end

/-! ## two nodes, and a subnet of each -/

/-- the sixth byte tells the networks apart -/
def exampleNetwork (b : BitVec 8) : Network := ⟨fun k => if k = 5 then b else 0, 48⟩

def twoNodes : Db where
  prefixes := (empty.insert ⟨"prefix-1", "node-1", exampleNetwork 1#8⟩).insert
    ⟨"prefix-2", "node-2", exampleNetwork 2#8⟩
  subnets := empty

lemma twoNodes_rows : twoNodes.prefixes.rows =
    [⟨"prefix-1", "node-1", exampleNetwork 1#8⟩, ⟨"prefix-2", "node-2", exampleNetwork 2#8⟩] := rfl

lemma twoNodes_prefixes : Prefixes twoNodes := by
  have hdisj : (exampleNetwork 1#8).Disjoint (exampleNetwork 2#8) :=
    disjoint_of_byte_ne (k := 5) (by decide) (by decide) (by decide)
  constructor
  · rw [twoNodes_rows]
    simp [exampleNetwork]
  · have h1 : (exampleNetwork 1#8).HostBitsZero := by decide
    have h2 : (exampleNetwork 2#8).HostBitsZero := by decide
    rw [twoNodes_rows]
    simp [h1, h2]
  · rw [twoNodes_rows]
    simp [hdisj, hdisj.symm]

def bothCreate (i : Bool) : Request := .create "vm" (if i then "prefix-1" else "prefix-2")

def takingTurns : List (Bool × Label (store Text.plain)) :=
  ["", "", "", "subnet", ""].flatMap fun id =>
    [(true, .ev (.ok ⟨id ++ "-1"⟩)), (false, .ev (.ok ⟨id ++ "-2"⟩))]

/-- Two calls that take turns make two rows, and their subnets are disjoint. -/
theorem subnets_disjoint_two : ∃ s : State (store Text.plain) Bool (Except GoError Unit),
    Reaches always (State.init twoNodes fun i => (bothCreate i).run Text.plain) s ∧
    s.mem.db.subnets.rows.length = 2 ∧
    ∀ a ∈ s.mem.db.subnets.rows, ∀ b ∈ s.mem.db.subnets.rows, a ≠ b →
      a.subnet.Disjoint b.subnet := by
  have hrun : (run (State.init twoNodes fun i => (bothCreate i).run Text.plain)
      takingTurns).isSome = true := by
    rfl
  have hreach := reaches_run (run_get hrun)
  have hwf : WellFormed twoNodes := fun row hrow => by cases hrow
  refine ⟨_, hreach, rfl, fun a ha b hb hab => ?_⟩
  exact ((subnets_disjoint twoNodes_prefixes hwf bothCreate hreach).1 a ha b hb hab).2

end VirtueStack.Ipam.IPv6
