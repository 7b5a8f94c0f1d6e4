import VirtueStack.Compute.Effects

/-!
# What the address management does to the addresses of a VM
-/

namespace VirtueStack.Compute
open Txn Call Op Table Store List Option

section
variable {α : Type} {id : α → String}

lemma firstPage_zero (rows : List α) : firstPage id 0 rows = [] := by
  unfold firstPage trimPage
  by_cases h : 0 < ((rows.insertionSort fun a b => id b ≤ id a).take 1).length
  · rw [if_pos h]
    rfl
  · rw [if_neg h]
    exact eq_nil_of_length_eq_zero (Nat.eq_zero_of_not_pos h)

lemma firstPage_sublist (n : Nat) (rows : List α) :
    (firstPage id n rows).Sublist (rows.insertionSort fun a b => id b ≤ id a) := by
  unfold firstPage trimPage
  split
  · exact (take_sublist _ _).trans (take_sublist _ _)
  · exact take_sublist _ _

variable {rows : List α}

lemma mem_of_mem_firstPage {n : Nat} {a : α} (h : a ∈ firstPage id n rows) : a ∈ rows :=
  (perm_insertionSort _ rows).mem_iff.mp ((firstPage_sublist n rows).subset h)

lemma length_firstPage_le (n : Nat) (rows : List α) : (firstPage id n rows).length ≤ n := by
  unfold firstPage trimPage
  split
  · rw [length_take]
    exact Nat.min_le_left _ _
  · rename_i h
    exact Nat.not_lt.mp h

lemma nodup_firstPage (h : rows.Nodup) (n : Nat) : (firstPage id n rows).Nodup :=
  (firstPage_sublist n rows).nodup ((perm_insertionSort _ rows).nodup_iff.mpr h)

lemma mem_firstPage {n : Nat} {a : α} (hn : rows.length ≤ n) (h : a ∈ rows) :
    a ∈ firstPage id n rows := by
  have hlen : (rows.insertionSort fun a b => id b ≤ id a).length ≤ n := by
    rw [length_insertionSort]
    exact hn
  have htake : (rows.insertionSort fun a b => id b ≤ id a).take (n + 1) =
      rows.insertionSort fun a b => id b ≤ id a := take_of_length_le (Nat.le_succ_of_le hlen)
  unfold firstPage trimPage
  rw [htake, if_neg (Nat.not_lt.mpr hlen)]
  exact (perm_insertionSort _ rows).mem_iff.mpr h

end

def IPAddress.assignedTo (ip : IPAddress) (v : String) : Prop :=
  ip.vmID = some v ∧ ip.status = .assigned

variable {o : Oracle} {db : Db} {v : String}

variable {ip : IPAddress}

lemma mem_listIPAddresses (h : ip ∈ db.listIPAddresses v) :
    ip ∈ db.ips.rows ∧ ip.vmID = some v := by
  have hf := mem_of_mem_firstPage h
  obtain ⟨hmem, hv⟩ := mem_filter.mp hf
  exact ⟨hmem, of_decide_eq_true hv⟩

/-! ## allocation -/

/-- **No IPv4 address is allocated.** -/
theorem allocateIPv4_alone (o : Oracle) (db : Db) (locationID v customerID : String) :
    ∃ e, (IPAM.allocateIPv4 locationID v customerID).alone o db = (.error e, db) := by
  unfold IPAM.allocateIPv4
  cases hs : served o (.listIPSets locationID 4 0) with
  | false =>
    obtain ⟨e, he⟩ :=
      query_not_served hs db ("finding IP set for location " ++ locationID ++ ": listing IP sets")
    exact ⟨e, alone_bind_error he⟩
  | true =>
    obtain ⟨x, hx⟩ := served_iff.mp hs
    have hq : (query (.listIPSets locationID 4 0)
        ("finding IP set for location " ++ locationID ++ ": listing IP sets")).alone o db =
          (.ok [], db) := by
      refine (query_eq_ok rfl).mpr ⟨⟨x, hx, ?_⟩, rfl⟩
      show Except.ok (db.listIPSets locationID 4 0, []) = Except.ok ([], [])
      unfold Db.listIPSets
      rw [firstPage_zero]
    exact ⟨_, alone_bind_ok hq⟩

def newSubnet (o : Oracle) (db : Db) (v nodeID : String) : Option VMIPv6Subnet :=
  if served o (.getIPv6Prefix nodeID) then
    (db.prefixes.find? fun p => p.nodeID = nodeID).bind fun p =>
      match o (.createIPv6Subnet v p.id) with
      | .ok x =>
        if 65536 ≤ db.nextSubnetIndex p.id then none
        else some ⟨x.fresh, v, p.id, db.nextSubnetIndex p.id⟩
      | .fail _ => none
  else none

lemma newSubnet_vmID {nodeID : String} {s : VMIPv6Subnet} (h : newSubnet o db v nodeID = some s) :
    s.vmID = v := by
  unfold newSubnet at h
  split at h
  · obtain ⟨p, -, hp⟩ := bind_eq_some_iff.mp h
    split at hp
    · split at hp
      · cases hp
      · cases hp
        rfl
    · cases hp
  · cases h

def Db.addSubnet (db : Db) (s : Option VMIPv6Subnet) : Db :=
  { db with subnets := db.subnets ++ s.toList }

lemma addSubnet_none (db : Db) : db.addSubnet none = db := by
  unfold Db.addSubnet
  rw [toList_none, append_nil]

lemma createIPv6Subnet_alone {p : IPv6Prefix} (hp : p ∈ db.prefixes) (context : String) :
    ∃ r, (query (.createIPv6Subnet v p.id) context).alone o db = (r, db.addSubnet
      (match o (.createIPv6Subnet v p.id) with
      | .ok x =>
        if 65536 ≤ db.nextSubnetIndex p.id then none
        else some ⟨x.fresh, v, p.id, db.nextSubnetIndex p.id⟩
      | .fail _ => none)) := by
  have hany : db.prefixes.any (fun q => q.id = p.id) = true :=
    any_eq_true.mpr ⟨p, hp, decide_eq_true rfl⟩
  rw [alone_query]
  cases ho : o (.createIPv6Subnet v p.id) with
  | fail e => exact ⟨_, congrArg _ (addSubnet_none db).symm⟩
  | ok x =>
    by_cases hi : 65536 ≤ db.nextSubnetIndex p.id
    · have hex : exec (.createIPv6Subnet v p.id) x x db =
          .ok (.error "IPv6 prefix is exhausted (no available /64 subnets)", []) := by
        simp only [exec, if_pos hany, if_pos hi]
      rw [answer_of_ok (S := store) hex]
      refine ⟨_, congrArg _ ?_⟩
      simp only [if_pos hi]
      exact (addSubnet_none db).symm
    · have hex : exec (.createIPv6Subnet v p.id) x x db =
        .ok (.ok ⟨x.fresh, v, p.id, db.nextSubnetIndex p.id⟩,
            [.insertSubnet ⟨x.fresh, v, p.id, db.nextSubnetIndex p.id⟩]) := by
        simp only [exec, if_pos hany, if_neg hi]
      rw [answer_of_ok (S := store) hex]
      refine ⟨_, congrArg _ ?_⟩
      simp only [if_neg hi]
      rfl

lemma allocateIPv6_alone (nodeID : String) :
    ((IPAM.allocateIPv6 v nodeID).alone o db).2 = db.addSubnet (newSubnet o db v nodeID) := by
  unfold IPAM.allocateIPv6 newSubnet
  cases hs : served o (.getIPv6Prefix nodeID) with
  | false =>
    obtain ⟨e, he⟩ := query_not_served hs db ("getting IPv6 prefix for node " ++ nodeID)
    rw [alone_bind_error he]
    exact (addSubnet_none db).symm
  | true =>
    obtain ⟨x, hx⟩ := served_iff.mp hs
    have hq :
      (query (.getIPv6Prefix nodeID) ("getting IPv6 prefix for node " ++ nodeID)).alone o db =
        (.ok (db.prefixes.find? fun p => p.nodeID = nodeID), db) :=
      (query_eq_ok rfl).mpr ⟨⟨x, hx, rfl⟩, rfl⟩
    rw [alone_bind_ok hq]
    cases hp : db.prefixes.find? fun p => p.nodeID = nodeID with
    | none => exact (addSubnet_none db).symm
    | some p =>
      obtain ⟨r, hr⟩ :=
        createIPv6Subnet_alone (o := o) (v := v) (mem_of_find?_eq_some hp) "allocating IPv6 subnet"
      cases r with
      | error e => exact congrArg Prod.snd (alone_bind_error hr)
      | ok r =>
        cases r with
        | ok s | error t => exact congrArg Prod.snd (alone_bind_ok hr)

/-! ## release -/

/-- an address that was assigned goes into cooldown -/
def IPAddress.unassigned (ip : IPAddress) : IPAddress :=
  if ip.status = .assigned then { ip with status := .cooldown, vmID := none, customerID := none }
  else ip

lemma unassigned_of_not (h : ip.status ≠ .assigned) : ip.unassigned = ip := if_neg h

lemma unassigned_status (ip : IPAddress) : ip.unassigned.status ≠ .assigned := by
  unfold IPAddress.unassigned
  by_cases h : ip.status = .assigned
  · rw [if_pos h]
    exact fun hs => by cases hs
  · rwa [if_neg h]

lemma map_unassigned_twice (a : Option IPAddress) :
    (a.map IPAddress.unassigned).map IPAddress.unassigned = a.map IPAddress.unassigned := by
  cases a with
  | none => rfl
  | some ip => exact congrArg some (unassigned_of_not (unassigned_status ip))

def releasedIP (t : Table IPAddress.keys) (ipID : String) : Table IPAddress.keys :=
  match (t.find ipID).filter fun ip => ip.status = .assigned with
  | some ip => t.put ip.unassigned
  | none => t

lemma find_releasedIP (t : Table IPAddress.keys) (ipID k : String) : (releasedIP t ipID).find k =
    if k = ipID then (t.find k).map IPAddress.unassigned else t.find k := by
  unfold releasedIP
  cases hf : (t.find ipID).filter fun ip => ip.status = .assigned with
  | some ip =>
    obtain ⟨hfind, -⟩ := filter_eq_some_iff.mp hf
    have hid : ipID = ip.id := (key_of_find hfind).symm
    have hkeys : ip.keys = ip.unassigned.keys := by
      unfold IPAddress.unassigned
      split <;> rfl
    by_cases hk : k = ipID
    · subst hk
      rw [if_pos rfl, find_put_self hfind hkeys, hfind]
      rfl
    · rw [if_neg hk]
      refine find_put_of_notMem fun hmem => hk ?_
      rw [← hkeys] at hmem
      rw [mem_singleton.mp hmem, hid]
  | none =>
    by_cases hk : k = ipID
    · subst hk
      rw [if_pos rfl]
      cases hfind : t.find k with
      | none => rfl
      | some ip =>
        have hs : ip.status ≠ .assigned := by
          intro hs
          rw [hfind, filter_some, if_pos (decide_eq_true hs)] at hf
          cases hf
        exact congrArg some (unassigned_of_not hs).symm
    · rw [if_neg hk]

lemma releaseIPv4_alone (ipID : String) : ((IPAM.releaseIPv4 ipID).alone o db).2 =
    if served o (.releaseIPv4 ipID) then { db with ips := releasedIP db.ips ipID } else db := by
  unfold IPAM.releaseIPv4 affecting
  cases hs : served o (.releaseIPv4 ipID) with
  | false =>
    obtain ⟨e, he⟩ := query_not_served hs db ("releasing IP address " ++ ipID)
    rw [alone_bind_error he]
    rfl
  | true =>
    obtain ⟨x, hx⟩ := served_iff.mp hs
    rw [if_pos rfl]
    cases hf : (db.ips.find ipID).filter fun ip => ip.status = .assigned with
    | some ip =>
      have hst : ip.status = .assigned := of_decide_eq_true (filter_eq_some_iff.mp hf).2
      have hex : exec (.releaseIPv4 ipID) x x db = .ok (true, [.putIP ip.unassigned]) := by
        simp only [exec, hf, IPAddress.unassigned, if_pos hst]
      have hq : (query (.releaseIPv4 ipID) ("releasing IP address " ++ ipID)).alone o db =
          (.ok true, { db with ips := releasedIP db.ips ipID }) := by
        rw [alone_query, hx, answer_of_ok (S := store) hex]
        unfold releasedIP
        rw [hf]
        rfl
      rw [alone_bind_ok hq]
      rfl
    | none =>
      have hex : exec (.releaseIPv4 ipID) x x db = .ok (false, []) := by
        simp only [exec, hf]
      have hq : (query (.releaseIPv4 ipID) ("releasing IP address " ++ ipID)).alone o db =
          (.ok false, { db with ips := releasedIP db.ips ipID }) := by
        rw [alone_query, hx, answer_of_ok (S := store) hex]
        unfold releasedIP
        rw [hf]
        rfl
      rw [alone_bind_ok hq]
      rfl

/-- `releaseEach` asks for the release of this address, and gets it -/
def releases (o : Oracle) (ip : IPAddress) : Bool :=
  ip.status = .assigned && served o (.releaseIPv4 ip.id)

def releasedIPs (o : Oracle) (t : Table IPAddress.keys) : List IPAddress → Table IPAddress.keys
  | [] => t
  | ip :: rest => releasedIPs o (if releases o ip then releasedIP t ip.id else t) rest

lemma releaseEach_alone (o : Oracle) (db : Db) (errs : List GoError) (ips : List IPAddress) :
    ((IPAM.releaseEach errs ips).alone o db).2 = { db with ips := releasedIPs o db.ips ips } ∧
      ∃ errs', ((IPAM.releaseEach errs ips).alone o db).1 = .ok errs' := by
  induction ips generalizing errs db with
  | nil => exact ⟨rfl, errs, rfl⟩
  | cons ip rest ih =>
    unfold IPAM.releaseEach releasedIPs releases
    by_cases hst : ip.status = .assigned
    · rw [if_pos hst, alone_attempt, releaseIPv4_alone, decide_eq_true hst, Bool.true_and]
      have hdb :
        (if served o (.releaseIPv4 ip.id) then { db with ips := releasedIP db.ips ip.id } else db) =
          { db with
            ips := if served o (.releaseIPv4 ip.id) then releasedIP db.ips ip.id else db.ips } := by
        split <;> rfl
      rw [hdb]
      cases ((IPAM.releaseIPv4 ip.id).alone o db).1 with
      | ok a | error e => exact ih _ _
    · rw [if_neg hst, decide_eq_false hst, Bool.false_and]
      exact ih _ _

lemma find_releasedIPs (t : Table IPAddress.keys) (ips : List IPAddress) (k : String) :
    (releasedIPs o t ips).find k =
      if ∃ ip ∈ ips, ip.id = k ∧ releases o ip = true then
        (t.find k).map IPAddress.unassigned else t.find k := by
  induction ips generalizing t with
  | nil =>
    rw [if_neg fun ⟨ip, hip, _⟩ => by cases hip]
    rfl
  | cons ip rest ih =>
    unfold releasedIPs
    rw [ih]
    by_cases hr : releases o ip = true
    · rw [if_pos hr, find_releasedIP]
      by_cases hk : k = ip.id
      · have hin : ∃ ip' ∈ ip :: rest, ip'.id = k ∧ releases o ip' = true :=
          ⟨ip, mem_cons_self, hk.symm, hr⟩
        rw [if_pos hk, if_pos hin, map_unassigned_twice, ite_self]
      · rw [if_neg hk]
        refine if_congr ⟨?_, ?_⟩ rfl rfl
        · rintro ⟨ip', hmem, hp⟩
          exact ⟨ip', mem_cons_of_mem _ hmem, hp⟩
        · rintro ⟨ip', hmem, hid, hr'⟩
          rcases mem_cons.mp hmem with rfl | hmem
          · exact absurd hid.symm hk
          · exact ⟨ip', hmem, hid, hr'⟩
    · rw [if_neg hr]
      refine if_congr ⟨?_, ?_⟩ rfl rfl
      · rintro ⟨ip', hmem, hp⟩
        exact ⟨ip', mem_cons_of_mem _ hmem, hp⟩
      · rintro ⟨ip', hmem, hid, hr'⟩
        rcases mem_cons.mp hmem with rfl | hmem
        · exact absurd hr' hr
        · exact ⟨ip', hmem, hid, hr'⟩

def Db.released (o : Oracle) (db : Db) (v : String) : Db :=
  if served o (.listIPAddresses v) then
    { db with
      ips := releasedIPs o db.ips (db.listIPAddresses v)
      subnets := if served o (.deleteIPv6Subnets v) then db.subnets.filter fun s => s.vmID ≠ v
        else db.subnets }
  else db

lemma deleteIPv6Subnets_alone (context : String) :
    ((query (.deleteIPv6Subnets v) context).alone o db).2 = { db with
      subnets := if served o (.deleteIPv6Subnets v) then db.subnets.filter fun s => s.vmID ≠ v
        else db.subnets } := by
  cases hs : served o (.deleteIPv6Subnets v) with
  | false =>
    obtain ⟨e, he⟩ := query_not_served hs db context
    rw [he]
    rfl
  | true =>
    obtain ⟨x, hx⟩ := served_iff.mp hs
    have hex : exec (.deleteIPv6Subnets v) x x db = .ok ((), [.deleteSubnets v]) := rfl
    rw [alone_query, hx, answer_of_ok (S := store) hex]
    rfl

lemma releaseIPsByVM_alone : ((IPAM.releaseIPsByVM v).alone o db).2 = db.released o v := by
  unfold IPAM.releaseIPsByVM Db.released
  cases hs : served o (.listIPAddresses v) with
  | false =>
    obtain ⟨e, he⟩ :=
      query_not_served hs db ("listing IPs for VM " ++ v ++ ": listing IP addresses")
    rw [alone_bind_error he]
    rfl
  | true =>
    obtain ⟨x, hx⟩ := served_iff.mp hs
    have hq : (query (.listIPAddresses v)
      ("listing IPs for VM " ++ v ++ ": listing IP addresses")).alone o db =
          (.ok (db.listIPAddresses v), db) := (query_eq_ok rfl).mpr ⟨⟨x, hx, rfl⟩, rfl⟩
    obtain ⟨hdb, errs, herrs⟩ := releaseEach_alone o db [] (db.listIPAddresses v)
    have heach : (IPAM.releaseEach [] (db.listIPAddresses v)).alone o db =
        (.ok errs, { db with ips := releasedIPs o db.ips (db.listIPAddresses v) }) :=
        Prod.ext herrs hdb
    rw [alone_bind_ok hq, alone_bind_ok heach, alone_bind_ok (alone_logged _),
      deleteIPv6Subnets_alone, if_pos rfl]
    -- the errors of the releases only decide what is returned
    cases errs with
    | nil => rfl
    | cons e errs => rfl

/-- **What is left of the addresses that had a VM**: all but the ones on the page whose release was
asked for and carried out. -/
theorem mem_released {w : String} (hw : ip.vmID = some w) : ip ∈ (db.released o v).ips.rows ↔
    ip ∈ db.ips.rows ∧
      ¬ (served o (.listIPAddresses v) = true ∧ ip ∈ db.listIPAddresses v ∧
        releases o ip = true) := by
  unfold Db.released
  cases hs : served o (.listIPAddresses v) with
  | false =>
    constructor
    · exact fun h => ⟨h, fun h' => by cases h'.1⟩
    · exact fun h => h.1
  | true =>
    have hrow : ∀ {t : Table IPAddress.keys}, ip ∈ t.rows ↔ t.find ip.id = some ip := by
      intro t
      rw [find_eq_some]
      exact ⟨fun h => ⟨h, mem_singleton_self _⟩, fun h => h.1⟩
    rw [if_pos rfl, hrow, find_releasedIPs]
    by_cases hc : ∃ ip' ∈ db.listIPAddresses v, ip'.id = ip.id ∧ releases o ip' = true
    · rw [if_pos hc]
      obtain ⟨ip', hmem, hid, hrel⟩ := hc
      have hfind : db.ips.find ip.id = some ip' :=
        find_eq_some.mpr ⟨(mem_listIPAddresses hmem).1, hid ▸ mem_singleton_self _⟩
      constructor
      · intro h
        -- the row was released, and has no VM any more
        rw [hfind] at h
        obtain rfl : ip'.unassigned = ip := Option.some.inj h
        rw [IPAddress.unassigned, if_pos (of_decide_eq_true (Bool.and_eq_true_iff.mp hrel).1)] at hw
        cases hw
      · rintro ⟨hip, hno⟩
        rw [hrow, hfind] at hip
        cases hip
        exact absurd ⟨rfl, hmem, hrel⟩ hno
    · rw [if_neg hc, ← hrow]
      exact ⟨fun h => ⟨h, fun h' => hc ⟨ip, h'.2.1, rfl, h'.2.2⟩⟩, fun h => h.1⟩

/-- **What is left of the addresses of the VM**: the ones beyond the page, and the ones whose
release failed. -/
theorem assigned_released : ip ∈ (db.released o v).ips.rows ∧ ip.assignedTo v ↔
    (ip ∈ db.ips.rows ∧ ip.assignedTo v) ∧
      ¬ (served o (.listIPAddresses v) = true ∧ ip ∈ db.listIPAddresses v ∧
        served o (.releaseIPv4 ip.id) = true) := by
  have hrel : ip.assignedTo v → (releases o ip = true ↔ served o (.releaseIPv4 ip.id) = true) := by
    intro h
    rw [releases, decide_eq_true h.2, Bool.true_and]
  constructor
  · rintro ⟨hip, hass⟩
    obtain ⟨hmem, hno⟩ := (mem_released hass.1).mp hip
    exact ⟨⟨hmem, hass⟩, fun h => hno ⟨h.1, h.2.1, (hrel hass).mpr h.2.2⟩⟩
  · rintro ⟨⟨hmem, hass⟩, hno⟩
    exact ⟨(mem_released hass.1).mpr ⟨hmem, fun h => hno ⟨h.1, h.2.1, (hrel hass).mp h.2.2⟩⟩, hass⟩

def Db.subnetsOf (db : Db) (v : String) : List VMIPv6Subnet := db.subnets.filter fun s => s.vmID = v

lemma subnetsOf_released : (db.released o v).subnetsOf v =
    if served o (.listIPAddresses v) = true ∧ served o (.deleteIPv6Subnets v) = true then
      [] else db.subnetsOf v := by
  unfold Db.released
  cases hl : served o (.listIPAddresses v) with
  | false =>
    rw [if_neg (by decide), if_neg fun h => by cases h.1]
  | true =>
    rw [if_pos rfl]
    cases hd : served o (.deleteIPv6Subnets v) with
    | false =>
      show db.subnetsOf v = _
      rw [if_neg fun h => by cases h.2]
    | true =>
      show (db.subnets.filter fun s => s.vmID ≠ v).filter (fun s => s.vmID = v) = _
      rw [if_pos ⟨rfl, rfl⟩, filter_eq_nil_iff]
      intro s hmem hs
      exact of_decide_eq_true (mem_filter.mp hmem).2 (of_decide_eq_true hs)

lemma subnetsOf_addSubnet {nodeID : String} : (db.addSubnet (newSubnet o db v nodeID)).subnetsOf v =
    db.subnetsOf v ++ (newSubnet o db v nodeID).toList := by
  unfold Db.subnetsOf Db.addSubnet
  rw [filter_append]
  congr 1
  cases hn : newSubnet o db v nodeID with
  | none => rfl
  | some s =>
    rw [toList_some, filter_singleton, newSubnet_vmID hn, decide_eq_true rfl]
    rfl

end VirtueStack.Compute
