import VirtueStack.Ipam.IPv4
import VirtueStack.Txn.Walk

/-!
# IPv4 addresses are exclusive, and none is handed out

Any number of calls that allocate and release addresses, interleaved statement by statement.

* `Move` **what a statement can do**: assign a row that is available, release one that is assigned.
  No statement makes a row available again.
-/

set_option linter.unusedSectionVars false

namespace VirtueStack.Ipam
open Txn Call Table List
open Compute (IPSet IPStatus)
open IPAMService

/-! ## what a statement can do -/

inductive Move (db : Db) : List Write → Prop
  | assign {ip : IPAddress} (vmID customerID : String) (now : Int) : ip ∈ db.addresses.rows →
      ip.status = .available → Move db [.assign (ip.assignTo vmID customerID now)]
  | release {ip : IPAddress} (now : Int) : ip ∈ db.addresses.rows → ip.status = .assigned →
      Move db [.release (ip.release now)]

variable {db : Db}

lemma available_some {ipSetID : String} {locked : String → Bool} {ip : IPAddress}
    (h : db.available ipSetID locked = some ip) :
    ip ∈ db.addresses.rows ∧ ip.status = .available := by
  have hmem := (mem_insertionSort _).mp (mem_of_mem_head? h)
  obtain ⟨hrow, hp⟩ := mem_filter.mp hmem
  exact ⟨hrow, (of_decide_eq_true hp).2.1⟩

variable {ws : List Write}

lemma exec_allocateIPv4 {ipSetID vmID customerID : String} {x : Inp} {a : Option IPAddress}
    (h : exec (.allocateIPv4 ipSetID vmID customerID) x x db = .ok (a, ws)) :
    (∃ ip, a = some ip ∧ ws = [.assign ip] ∧ Move db ws) ∨ a = none ∧ ws = [] := by
  simp only [exec] at h
  split at h
  · rename_i ip hip
    split at h
    · cases h
    · cases h
      obtain ⟨hrow, hs⟩ := available_some hip
      exact .inl ⟨_, rfl, rfl, .assign vmID customerID x.now hrow hs⟩
  · cases h
    exact .inr ⟨rfl, rfl⟩

lemma exec_move {q : Stmt} {x : Inp} {a : q.Ans} (h : exec q x x db = .ok (a, ws)) (hne : ws ≠ []) :
    Move db ws := by
  cases q with
  | allocateIPv4 ipSetID vmID customerID =>
    obtain ⟨ip, -, -, hmove⟩ | ⟨-, rfl⟩ := exec_allocateIPv4 h
    · exact hmove
    · exact absurd rfl hne
  | releaseIPv4 ipID =>
    simp only [exec] at h
    split at h
    · rename_i ip hip
      split at h
      · rename_i hs
        cases h
        exact .release x.now (find_some hip).1 hs
      · cases h
        exact absurd rfl hne
    · cases h
      exact absurd rfl hne
  | listIPSets locationID ipVersion lastID limit | getIPAddressByID id =>
    cases h
    exact absurd rfl hne

/-! ## the abstract machine -/

section
variable {ι : Type}

def leasing (ι : Type) (db₀ : Db) : Protocol store ι where
  init m := m = ⟨db₀, []⟩
  may _ _ ws m := Move m.db ws
  allow := always

/-- a row has a VM exactly when it is assigned -/
def Consistent (db : Db) : Prop := ∀ ip ∈ db.addresses.rows, ip.vmID.isSome ↔ ip.status = .assigned

/-- an address that was assigned or released is not available -/
def Spent (m : Mem store ι) : Prop :=
  ∀ b ∈ m.wal, ∀ w ∈ b.2, ∀ ip ∈ m.db.addresses.rows, ip.address = (Write.row w).address →
    ip.status ≠ .available

/-- the row that a move puts, and the one it replaces -/
structure Replaces (db : Db) (w : Write) (ip : IPAddress) : Prop where
  mem : ip ∈ db.addresses.rows
  keys : ip.keys = w.row.keys
  status : w.row.status ≠ .available
  consistent : w.row.vmID.isSome ↔ w.row.status = .assigned

variable {db : Db} {w : Write} {ip : IPAddress} {ok : Stmt → Prop} {ipID : String}

lemma Move.replaces (h : Move db ws) : ∃ w ip, ws = [w] ∧ Replaces db w ip := by
  cases h with
  | @assign ip vmID customerID now hrow hs =>
    exact ⟨_, ip, rfl, hrow, rfl, (fun h => by cases h), ⟨fun _ => rfl, fun _ => rfl⟩⟩
  | @release ip now hrow hs =>
    exact ⟨_, ip, rfl, hrow, rfl, (fun h => by cases h),
      ⟨(fun h => by cases h), (fun h => by cases h)⟩⟩

lemma Consistent.apply (h : Consistent db) (hw : Replaces db w ip) : Consistent (db.apply w) := by
  intro b hb
  rcases mem_rows_put hb with rfl | hb
  · exact hw.consistent
  · exact h b hb

lemma Replaces.eq_of_address {b : IPAddress} (hw : Replaces db w ip)
    (hb : b ∈ (db.apply w).addresses.rows) (ha : b.address = w.row.address) : b = w.row := by
  rcases eq_or_of_mem_rows_put hb with rfl | ⟨hold, hkeys⟩
  · rfl
  · have hip : AddressKey.address b.address ∈ ip.keys := by
      rw [hw.keys, ha]
      simp [IPAddress.keys]
    have hsame : b = ip := eq_of_key hold hw.mem (by simp [IPAddress.keys]) hip
    exact absurd (hsame ▸ hw.keys) hkeys

variable {m : Mem store ι}

lemma Spent.publish (h : Spent m) (i : ι) (hw : Replaces m.db w ip) : Spent (m.publish i [w]) := by
  intro b hb w' hw' row hrow ha
  have hdb : row ∈ (m.db.apply w).addresses.rows := hrow
  rcases eq_or_of_mem_rows_put hdb with rfl | ⟨hold, -⟩
  · exact hw.status
  · rcases mem_append.mp hb with hb | hb
    · exact h b hb w' hw' row hold ha
    · obtain rfl := mem_singleton.mp hb
      obtain rfl := mem_singleton.mp hw'
      rw [hw.eq_of_address hdb ha]
      exact hw.status

/-- before an address is assigned nothing happened to it -/
def Fresh (pre : List (ι × List Write)) (b : ι × List Write) : Prop :=
  ∀ ip, .assign ip ∈ b.2 → ∀ b' ∈ pre, ∀ w ∈ b'.2, (Write.row w).address ≠ ip.address

lemma Spent.fresh (h : Spent m) (i : ι) (hm : Move m.db ws) : Fresh m.wal (i, ws) := by
  intro ip hip b hb w hw ha
  cases hm with
  | @assign row vmID customerID now hrow hs =>
    cases mem_singleton.mp hip
    exact h b hb w hw row hrow ha.symm hs
  | release now hrow hs => cases mem_singleton.mp hip

/-- what was assigned was available at the beginning -/
def Given (db₀ : Db) (b : ι × List Write) : Prop :=
  ∀ ip, .assign ip ∈ b.2 → ∀ row ∈ db₀.addresses.rows, row.address = ip.address →
    row.status = .available

lemma given_of_move {db₀ : Db} (h : ∀ ip ∈ db.addresses.rows, ip.status = .available →
    ip ∈ db₀.addresses.rows) (i : ι) (hm : Move db ws) : Given db₀ (i, ws) := by
  intro ip hip row hrow ha
  cases hm with
  | @assign old vmID customerID now hold hs =>
    cases mem_singleton.mp hip
    have hkey : AddressKey.address row.address ∈ old.keys := by
      rw [ha]
      simp [IPAddress.keys, IPAddress.assignTo]
    rw [eq_of_key hrow (h old hold hs) (by simp [IPAddress.keys]) hkey]
    exact hs
  | release now hrow hs => cases mem_singleton.mp hip

/-- what holds in every state of the abstract machine -/
structure Leased (db₀ : Db) (m : Mem store ι) : Prop where
  consistent : Consistent db₀ → Consistent m.db
  spent : Spent m
  fresh : ∀ pre b post, m.wal = pre ++ b :: post → Fresh pre b
  untouched : ∀ ip ∈ m.db.addresses.rows, ip.status = .available → ip ∈ db₀.addresses.rows
  given : ∀ b ∈ m.wal, Given db₀ b
  length : m.db.addresses.rows.length = db₀.addresses.rows.length

lemma leased_of_reach {db₀ : Db} (h : (leasing ι db₀).Reach m) : Leased db₀ m := by
  refine h.invariant (I := Leased db₀) ?_ ?_
  · rintro m rfl
    refine ⟨fun hc => hc, (fun b hb => by cases hb), fun pre b post hwal => ?_, fun _ hip _ => hip,
      (fun b hb => by cases hb), rfl⟩
    cases pre <;> cases hwal
  · intro m i H ws _ hI hne _ hmove
    have hfresh := hI.spent.fresh i hmove
    have hgiven := given_of_move hI.untouched i hmove
    obtain ⟨w, ip, rfl, hw⟩ := Move.replaces hmove
    refine ⟨fun hc => (hI.consistent hc).apply hw, hI.spent.publish i hw, ?_, ?_, ?_, ?_⟩
    · rw [Mem.publish_wal hne]
      exact forall_split_concat.mpr ⟨hI.fresh, hfresh⟩
    · intro row hrow hs
      rcases mem_rows_put hrow with rfl | hrow
      · exact absurd hs hw.status
      · exact hI.untouched row hrow hs
    · rw [Mem.publish_wal hne]
      exact forall_mem_append.mpr ⟨hI.given, fun b hb => mem_singleton.mp hb ▸ hgiven⟩
    · show (m.db.addresses.rows.map _).length = _
      rw [length_map, hI.length]

/-! ## the calls keep to it -/

inductive Request where
  | allocateIPv4 (ipSetID vmID customerID : String)
  | releaseIPv4 (ipID : String)
  /-- the calls of the service -/
  | ipamAllocate (locationID vmID customerID : String)
  | ipamRelease (ipID : String)

/-- the call, with the address that was handed out -/
def Request.run : Request → Op (Option IPAddress)
  | .allocateIPv4 ipSetID vmID customerID =>
    Call.bind (IPRepository.allocateIPv4 ipSetID vmID customerID) fun ip => .pure (some ip)
  | .releaseIPv4 ipID => Call.bind (IPRepository.releaseIPv4 ipID) fun _ => .pure none
  | .ipamAllocate locationID vmID customerID =>
    Call.bind (IPAMService.allocateIPv4 locationID vmID customerID) fun ip => .pure (some ip)
  | .ipamRelease ipID => Call.bind (IPAMService.releaseIPv4 ipID) fun _ => .pure none

variable {db₀ : Db} {i : ι} {m : Mem store ι}

/-- the address that is returned was assigned by this call -/
def Handed (i : ι) (r : Except GoError IPAddress) (m : Mem store ι) : Prop :=
  ∀ ip, r = .ok ip → (i, [Write.assign ip]) ∈ m.wal

lemma settled_handed {r : Except GoError IPAddress} (h : Handed i r m) :
    Settled (leasing ι db₀) i (Handed i r) m := fun _ hr _ =>
  hr.stable (I := Handed i r) (fun m j _ ws _ _ _ _ _ h ip hip =>
    (Mem.wal_prefix_publish m j ws).subset (h ip hip)) h

lemma handed_error (e : GoError) : Handed i (.error e) m := fun _ h => by cases h

lemma allocateIPv4_idle (ipSetID vmID customerID : String) :
    Idle (leasing ι db₀) i (IPRepository.allocateIPv4 ipSetID vmID customerID) (Handed i) m := by
  unfold IPRepository.allocateIPv4
  rw [bind_eq_attempt]
  refine Idle.stmt (fun e m' _ _ => Idle.fail (settled_handed (handed_error _))) ?_
  intro m' x a ws _ _ _ hx
  obtain ⟨ip, rfl, rfl, hmove⟩ | ⟨rfl, rfl⟩ := exec_allocateIPv4 hx
  · refine ⟨fun _ => hmove, Idle.pure (settled_handed fun ip' h => ?_)⟩
    cases h
    exact mem_append_right _ (mem_singleton_self _)
  · exact silent (Idle.fail (settled_handed (handed_error _)))

lemma tryIPSets_idle (locationID vmID customerID : String) (ipSets : List IPSet)
    (lastErr : Option GoError) :
    Idle (leasing ι db₀) i (tryIPSets locationID vmID customerID ipSets lastErr) (Handed i) m := by
  induction ipSets generalizing lastErr m with
  | nil => exact Idle.fail (settled_handed (handed_error _))
  | cons ipSet rest ih =>
    refine Idle.attempt (allocateIPv4_idle ipSet.id vmID customerID) fun r m _ hr => ?_
    cases r with
    | ok ip => exact Idle.pure hr
    | error e => exact ih (some e)

lemma keeps_of_all {α : Type} {c : Op α} (h : c.All fun _ => True) : Keeps (leasing ι db₀) i c m :=
  h.keeps fun _ _ _ _ _ _ _ _ hx hne => exec_move hx hne

lemma ipam_allocateIPv4_idle (locationID vmID customerID : String) :
    Idle (leasing ι db₀) i (allocateIPv4 locationID vmID customerID) (Handed i) m := by
  refine Idle.attempt (keeps_of_all (All.bind (All.stmt trivial) fun _ => All.ret _))
    fun r m _ _ => ?_
  cases r with
  | error e => exact Idle.fail (settled_handed (handed_error _))
  | ok page =>
    show Idle _ _ (allocateFrom locationID vmID customerID page.1) _ _
    unfold allocateFrom
    by_cases hl : page.1.length = 0
    · rw [if_pos hl]
      exact Idle.fail (settled_handed (handed_error _))
    · rw [if_neg hl]
      exact tryIPSets_idle locationID vmID customerID page.1 none

@[simp] lemma all_affected (n : Nat) :
    (IPRepository.affected ipID n).All ok := by cases n <;> trivial

@[simp] lemma all_found (a : Option IPAddress) :
    (IPRepository.found ipID a).All ok := by cases a <;> trivial

lemma releaseIPv4_all (h : ok (.releaseIPv4 ipID)) : (IPRepository.releaseIPv4 ipID).All ok := by
  simp [IPRepository.releaseIPv4, bind_eq_attempt, h]

lemma ipam_releaseIPv4_all (hget : ok (.getIPAddressByID ipID))
    (hrelease : ok (.releaseIPv4 ipID)) : (releaseIPv4 ipID).All ok := by
  simp [releaseIPv4, releaseAssigned, IPRepository.getIPAddressByID, bind_eq_attempt,
    releaseIPv4_all, hget, hrelease]

def Returned (i : ι) (r : Except GoError (Option IPAddress)) (m : Mem store ι) : Prop :=
  ∀ ip, r = .ok (some ip) → (i, [Write.assign ip]) ∈ m.wal

lemma idle_handed {c : Op IPAddress} (h : Idle (leasing ι db₀) i c (Handed i) m) :
    Idle (leasing ι db₀) i (Call.bind c fun ip => .pure (some ip)) (Returned i) m := by
  refine Idle.bind h (fun ip m _ hr => Idle.pure (hr.mono fun m _ hm ip' h' => ?_))
    fun e m _ _ _ _ _ ip h' => ?_
  · cases h'
    exact hm ip rfl
  · cases h'

lemma idle_nothing {c : Op Unit} (h : c.All fun _ => True) :
    Idle (leasing ι db₀) i (Call.bind c fun _ => .pure none) (Returned i) m := by
  refine Idle.bind (keeps_of_all h) (fun _ m _ _ => Idle.pure fun m _ _ ip h' => ?_)
    fun e m _ _ _ _ _ ip h' => ?_
  · cases h'
  · cases h'

lemma run_idle (q : Request) : Idle (leasing ι db₀) i q.run (Returned i) m := by
  cases q with
  | allocateIPv4 ipSetID vmID customerID =>
      exact idle_handed (allocateIPv4_idle ipSetID vmID customerID)
  | releaseIPv4 ipID => exact idle_nothing (releaseIPv4_all trivial)
  | ipamAllocate locationID vmID customerID =>
    exact idle_handed (ipam_allocateIPv4_idle locationID vmID customerID)
  | ipamRelease ipID => exact idle_nothing (ipam_releaseIPv4_all trivial trivial)

/-! ## whole runs -/

variable [DecidableEq ι]

lemma leased_of_reaches {req : ι → Request} {s : State store ι (Except GoError (Option IPAddress))}
    (h : Reaches always (State.init db₀ fun i => (req i).run) s) :
    Leased db₀ s.mem ∧ ∀ i r, s.prog i = some (.ret r) → Returned i r s.mem := by
  have h0 : (leasing ι db₀).init ⟨db₀, []⟩ := rfl
  obtain ⟨hreach, hret⟩ := Idle.adequate h0 (fun i => run_idle (req i)) h
  exact ⟨leased_of_reach hreach, hret⟩

/-- of two assignments in the log one is the earlier -/
lemma Leased.address_ne {i j : ι} {a b : IPAddress} (h : Leased db₀ m) (hij : i ≠ j)
    (hi : (i, [Write.assign a]) ∈ m.wal) (hj : (j, [Write.assign b]) ∈ m.wal) :
    a.address ≠ b.address := by
  obtain ⟨pre, post, hwal⟩ := mem_iff_append.mp hi
  rw [hwal] at hj
  rcases mem_append.mp hj with hj | hj
  · have hfresh := h.fresh pre _ post hwal a (mem_singleton_self _) _ hj _ (mem_singleton_self _)
    exact fun he => hfresh he.symm
  · rcases mem_cons.mp hj with hj | hj
    · exact absurd (congrArg Prod.fst hj).symm hij
    · obtain ⟨mid, rest, rfl⟩ := mem_iff_append.mp hj
      have hwal' : m.wal = (pre ++ (i, [Write.assign a]) :: mid) ++
          (j, [Write.assign b]) :: rest := by
        rw [hwal, append_assoc]
        rfl
      exact h.fresh _ _ _ hwal' b (mem_singleton_self _) (i, [.assign a])
        (mem_append_right _ mem_cons_self) _ (mem_singleton_self _)

/-- **IPv4 addresses are exclusive.** In every state of every run a row has a VM exactly when it is
assigned, if that was so at the beginning. Two calls never return the same address. Nor does a call
return an address that was released, or in cooldown at the beginning, whatever the clock shows: no
statement ever makes an address available again. No row is added or lost. -/
theorem ipv4_exclusive (req : ι → Request) {s : State store ι (Except GoError (Option IPAddress))}
    (h : Reaches always (State.init db₀ fun i => (req i).run) s) :
    (Consistent db₀ → Consistent s.mem.db) ∧
    (∀ i a, s.prog i = some (.ret (.ok (some a))) → (i, [Write.assign a]) ∈ s.mem.wal) ∧
    (∀ i j a b, i ≠ j → s.prog i = some (.ret (.ok (some a))) →
      s.prog j = some (.ret (.ok (some b))) → a.address ≠ b.address) ∧
    (∀ pre i a post, s.mem.wal = pre ++ (i, [Write.assign a]) :: post → ∀ b ∈ pre,
      (∀ a', Write.assign a' ∈ b.2 → a'.address ≠ a.address) ∧
      (∀ r, Write.release r ∈ b.2 → r.address ≠ a.address)) ∧
    (∀ i a, (i, [Write.assign a]) ∈ s.mem.wal → ∀ ip ∈ db₀.addresses.rows, ip.address = a.address →
      ip.status = .available) ∧
    s.mem.db.addresses.rows.length = db₀.addresses.rows.length := by
  obtain ⟨hleased, hret⟩ := leased_of_reaches h
  refine ⟨hleased.consistent, fun i a hi => hret i _ hi a rfl, ?_, ?_,
    fun i a hi => hleased.given _ hi a (mem_singleton_self _), hleased.length⟩
  · intro i j a b hij hi hj
    exact hleased.address_ne hij (hret i _ hi a rfl) (hret j _ hj b rfl)
  · intro pre i a post hwal b hb
    have hfresh := hleased.fresh pre _ post hwal a (mem_singleton_self _) b hb
    exact ⟨fun a' ha' => hfresh _ ha', fun r hr => hfresh _ hr⟩

end

def twoAddresses : Db where
  ipSets := [⟨"set", some "ams", 4⟩]
  addresses :=
    (empty.insert ⟨"ip-1", "set", 10, none, none, false, .available, none, none, none⟩).insert
      ⟨"ip-2", "set", 11, none, none, false, .available, none, none, none⟩

def bothAllocate (i : Bool) : Request :=
  .allocateIPv4 "set" (if i then "vm-1" else "vm-2") "customer"

def unlocked : Event store := .ok ⟨0, fun _ => false⟩

/-- Two calls, one after the other, get two addresses. -/
theorem ipv4_exclusive_twice : ∃ s : State store Bool (Except GoError (Option IPAddress)),
    Reaches always (State.init twoAddresses fun i => (bothAllocate i).run) s ∧
    ∃ a b, s.prog true = some (.ret (.ok (some a))) ∧ s.prog false = some (.ret (.ok (some b))) ∧
      a.address ≠ b.address := by
  have hrun : (run (State.init twoAddresses fun i => (bothAllocate i).run)
      [(true, .ev unlocked), (false, .ev unlocked)]).isSome = true := by rfl
  have hreach := reaches_run (run_get hrun)
  exact ⟨_, hreach, _, _, rfl, rfl, (ipv4_exclusive bothAllocate hreach).2.2.1 true false _ _
    (by decide) rfl rfl⟩

/-! ## the service finds no set -/

/-- an IPv4 set of the location has an address that is available, or whose time in cooldown is
over -/
def Allocatable (db : Db) (locationID : String) (now : Int) : Prop :=
  ∃ ipSet ∈ db.ipSets, ipSet.locationID = some locationID ∧ ipSet.ipVersion = 4 ∧
    ∃ ip ∈ db.addresses.rows, ip.ipSetID = ipSet.id ∧
      (ip.status = .available ∨ ip.status = .cooldown ∧ ∃ t ∈ ip.cooldownUntil, t < now)

lemma trimPage_zero {α : Type} (rows : List α) : (trimPage 0 rows).1 = [] := by
  unfold trimPage
  by_cases h : 0 < rows.length
  · rw [if_pos h]
    rfl
  · rw [if_neg h]
    exact length_eq_zero_iff.mp (Nat.eq_zero_of_not_pos h)

section
variable (o : Stmt → Event store) (db : Db) (locationID vmID customerID : String)

lemma ipam_allocateIPv4_fails :
    ∃ e, ((allocateIPv4 locationID vmID customerID).alone o db).1 = .error e := by
  unfold allocateIPv4
  rw [alone_attempt]
  cases hr : (IPRepository.listIPSets (ipSetFilter locationID)).alone o db with
  | mk r db' =>
    cases r with
    | error e => exact ⟨_, rfl⟩
    | ok page =>
      have hpage : page.1 = [] := by
        obtain ⟨rows, db1, -, hpure⟩ := alone_bind_eq_ok.mp hr
        cases hpure
        exact trimPage_zero rows
      refine ⟨.new ("no IPv4 IP set found for location " ++ locationID), ?_⟩
      show ((allocateFrom locationID vmID customerID page.1).alone o db').1 = _
      rw [hpage]
      rfl

/-- **The service hands out an address, where there is one, on no input.** The list of sets it asks
for is a page of size zero. -/
theorem allocateIPv4_complete_iff (now : Int) : (Allocatable db locationID now →
      ∃ ip, ((IPAMService.allocateIPv4 locationID vmID customerID).alone o db).1 = .ok ip) ↔
    ¬ Allocatable db locationID now := by
  obtain ⟨e, he⟩ := ipam_allocateIPv4_fails o db locationID vmID customerID
  constructor
  · intro h hall
    obtain ⟨ip, hip⟩ := h hall
    cases he.symm.trans hip
  · exact fun h hall => absurd hall h

end

/-- Two addresses are available, and the call fails. -/
theorem allocateIPv4_finds_nothing : Allocatable twoAddresses "ams" 0 ∧
    ((IPAMService.allocateIPv4 "ams" "vm-1" "customer").alone (fun _ => unlocked) twoAddresses).1 =
      .error (.new "no IPv4 IP set found for location ams") := by
  refine ⟨⟨⟨"set", some "ams", 4⟩, mem_singleton_self _, rfl, rfl,
    ⟨"ip-1", "set", 10, none, none, false, .available, none, none, none⟩, ?_, rfl, .inl rfl⟩, rfl⟩
  decide

end VirtueStack.Ipam
