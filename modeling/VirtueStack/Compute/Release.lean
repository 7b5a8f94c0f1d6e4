import VirtueStack.Compute.Addresses

/-!
# Releasing the addresses of a VM

`ReleaseIPsByVM` works on one page of the addresses of the VM.
-/

namespace VirtueStack.Compute
open Txn Call Op Table List

variable {o : Oracle} {db : Db} {v : String}

/-! ## what is returned -/

/-- every statement is carried out -/
def Serves (o : Oracle) : Prop := ∀ q, served o q = true

lemma releaseIPv4_ok {ip : IPAddress} (ho : Serves o) (hfind : db.ips.find ip.id = some ip)
    (hst : ip.status = .assigned) :
    (IPAM.releaseIPv4 ip.id).alone o db = (.ok (), { db with ips := releasedIP db.ips ip.id }) := by
  refine Prod.ext ?_ (by rw [releaseIPv4_alone, if_pos (ho _)])
  obtain ⟨x, hx⟩ := served_iff.mp (ho (.releaseIPv4 ip.id))
  have hf : (db.ips.find ip.id).filter (fun ip => ip.status = .assigned) = some ip := by
    rw [hfind, Option.filter_some, if_pos (decide_eq_true hst)]
  have hex : exec (.releaseIPv4 ip.id) x x db = .ok (true, [.putIP ip.unassigned]) := by
    simp only [exec, hf, IPAddress.unassigned, if_pos hst]
  have hq : (query (.releaseIPv4 ip.id) ("releasing IP address " ++ ip.id)).alone o db =
      (.ok true, store.apply db (.putIP ip.unassigned)) := by
    rw [alone_query, hx, Store.answer_of_ok (S := store) hex]
    rfl
  unfold IPAM.releaseIPv4 affecting
  rw [alone_bind_ok hq]
  rfl

/-- the rows of the page are still there, each as it was read, when their turn comes -/
lemma releaseEach_ok (ho : Serves o) (errs : List GoError) {ips : List IPAddress}
    (hnd : (ips.map (·.id)).Nodup) (hin : ∀ ip ∈ ips, db.ips.find ip.id = some ip) :
    ((IPAM.releaseEach errs ips).alone o db).1 = .ok errs := by
  induction ips generalizing db with
  | nil => rfl
  | cons ip rest ih =>
    obtain ⟨hnew, hrest⟩ := nodup_cons.mp hnd
    unfold IPAM.releaseEach
    by_cases hst : ip.status = .assigned
    · rw [if_pos hst, alone_attempt, releaseIPv4_ok ho (hin ip mem_cons_self) hst]
      refine ih hrest fun ip' hmem => ?_
      have hne : ip'.id ≠ ip.id := by
        intro he
        exact hnew (mem_map.mpr ⟨ip', hmem, he⟩)
      rw [find_releasedIP, if_neg hne]
      exact hin ip' (mem_cons_of_mem _ hmem)
    · rw [if_neg hst]
      exact ih hrest fun ip' hmem => hin ip' (mem_cons_of_mem _ hmem)

lemma nodup_rows (t : Table IPAddress.keys) : (t.rows.map (·.id)).Nodup :=
  nodup_map fun a _ h => ⟨a.id, mem_singleton_self _, h ▸ mem_singleton_self _⟩

lemma nodup_listIPAddresses (db : Db) (v : String) : ((db.listIPAddresses v).map (·.id)).Nodup := by
  have hrows : ((db.ips.rows.filter fun ip => ip.vmID = some v).map (·.id)).Nodup :=
    (filter_sublist.map _).nodup (nodup_rows db.ips)
  refine List.Nodup.map_on ?_ (nodup_firstPage (List.Nodup.of_map _ hrows) _)
  intro a ha b hb h
  exact eq_of_key (mem_listIPAddresses ha).1 (mem_listIPAddresses hb).1 (mem_singleton_self _)
    (h ▸ mem_singleton_self _)

lemma releaseIPsByVM_ok (ho : Serves o) (db : Db) (v : String) :
    (IPAM.releaseIPsByVM v).alone o db = (.ok (), db.released o v) := by
  refine Prod.ext ?_ releaseIPsByVM_alone
  obtain ⟨x, hx⟩ := served_iff.mp (ho (.listIPAddresses v))
  have hq : (query (.listIPAddresses v)
    ("listing IPs for VM " ++ v ++ ": listing IP addresses")).alone o db =
        (.ok (db.listIPAddresses v), db) := (query_eq_ok rfl).mpr ⟨⟨x, hx, rfl⟩, rfl⟩
  have heach : (IPAM.releaseEach [] (db.listIPAddresses v)).alone o db =
      (.ok [], { db with ips := releasedIPs o db.ips (db.listIPAddresses v) }) :=
    Prod.ext (releaseEach_ok ho [] (nodup_listIPAddresses db v) fun ip hip => find_eq_some.mpr
      ⟨(mem_listIPAddresses hip).1, mem_singleton_self _⟩) (releaseEach_alone o db [] _).1
  unfold IPAM.releaseIPsByVM
  rw [alone_bind_ok hq, alone_bind_ok heach, alone_bind_ok (alone_logged _)]
  rfl

/-! ## what is left -/

/-- nothing has the VM any more, and what the other VMs have is as before -/
structure Freed (db db' : Db) (v : String) : Prop where
  addresses : ∀ ip ∈ db'.ips.rows, ip.vmID ≠ some v
  subnets : ∀ s ∈ db'.subnets, s.vmID ≠ v
  otherAddresses : ∀ ip w, ip.vmID = some w → w ≠ v → (ip ∈ db'.ips.rows ↔ ip ∈ db.ips.rows)
  otherSubnets : ∀ s, s.vmID ≠ v → (s ∈ db'.subnets ↔ s ∈ db.subnets)

def Db.addressesOf (db : Db) (v : String) : List IPAddress :=
  db.ips.rows.filter fun ip => ip.vmID = some v

/-- the addresses of the VM fit on one page, and all of them are assigned -/
def OnePage (db : Db) (v : String) : Prop :=
  (db.addressesOf v).length ≤ defaultPerPage ∧ ∀ ip ∈ db.addressesOf v, ip.status = .assigned

lemma subnets_released (ho : Serves o) : (db.released o v).subnets = db.subnets.filter fun s =>
    s.vmID ≠ v := by
  unfold Db.released
  rw [if_pos (ho _)]
  exact if_pos (ho _)

lemma releases_iff (ho : Serves o) (ip : IPAddress) : releases o ip = true ↔
    ip.status = .assigned := by
  rw [releases, ho, Bool.and_true, decide_eq_true_eq]

lemma gone_iff (ho : Serves o) {ip : IPAddress} (hip : ip ∈ db.addressesOf v) :
    ip ∉ (db.released o v).ips.rows ↔ ip ∈ db.listIPAddresses v ∧ ip.status = .assigned := by
  obtain ⟨hmem, hv⟩ := mem_filter.mp hip
  rw [mem_released (of_decide_eq_true hv), releases_iff ho]
  constructor
  · intro h
    by_contra hno
    exact h ⟨hmem, fun h' => hno h'.2⟩
  · exact fun h hno => hno.2 ⟨ho _, h⟩

lemma length_le_of_subset (h : ∀ ip ∈ db.addressesOf v, ip ∈ db.listIPAddresses v) :
    (db.addressesOf v).length ≤ defaultPerPage := by
  have hnd : (db.addressesOf v).Nodup :=
    filter_sublist.nodup (List.Nodup.of_map _ (nodup_rows db.ips))
  calc (db.addressesOf v).length ≤ (db.listIPAddresses v).length :=
        List.Nodup.length_le_of_subset hnd h
    _ ≤ defaultPerPage := length_firstPage_le _ _

lemma freed_iff (ho : Serves o) : Freed db (db.released o v) v ↔ OnePage db v := by
  constructor
  · intro h
    have hgone : ∀ ip ∈ db.addressesOf v, ip ∈ db.listIPAddresses v ∧ ip.status = .assigned := by
      intro ip hip
      exact (gone_iff ho hip).mp fun hin =>
        h.addresses ip hin (of_decide_eq_true (mem_filter.mp hip).2)
    exact ⟨length_le_of_subset fun ip hip => (hgone ip hip).1, fun ip hip => (hgone ip hip).2⟩
  · rintro ⟨hlen, hst⟩
    refine ⟨fun ip hin hv => ?_, fun s hs => ?_, fun ip w hw hne => ?_, fun s hs => ?_⟩
    · have hip : ip ∈ db.addressesOf v :=
        mem_filter.mpr ⟨((mem_released hv).mp hin).1, decide_eq_true hv⟩
      exact (gone_iff ho hip).mpr ⟨mem_firstPage hlen hip, hst ip hip⟩ hin
    · rw [subnets_released ho] at hs
      exact of_decide_eq_true (mem_filter.mp hs).2
    · rw [mem_released hw, and_iff_left_iff_imp]
      rintro - ⟨-, hpage, -⟩
      exact hne (Option.some.inj (hw.symm.trans (mem_listIPAddresses hpage).2))
    · rw [subnets_released ho, mem_filter, and_iff_left (decide_eq_true hs)]

/-- **Releasing a VM frees what is on the first page.** All statements carried out, a call that
returns nil has freed the VM exactly when at most twenty addresses have the VM and all of them are
assigned. -/
theorem releaseIPsByVM_frees_iff (o : Oracle) (ho : Serves o) (db : Db) (v : String) :
    (((IPAM.releaseIPsByVM v).alone o db).1 = .ok () →
      Freed db ((IPAM.releaseIPsByVM v).alone o db).2 v) ↔
    OnePage db v := by
  rw [releaseIPsByVM_ok ho]
  exact ⟨fun h => (freed_iff ho).mp (h rfl), fun h _ => (freed_iff ho).mpr h⟩

/-! ## twenty-one addresses -/

def letters : List String :=
  ["a", "b", "c", "d", "e", "f", "g", "h", "i", "j", "k", "l", "m", "n", "o", "p", "q", "r",
    "s", "t", "u"]

/-- the VM `v` with an address for each of the names, and a subnet -/
def withAddresses (ids : List String) : Db :=
  { oneVM (vmIn "v" .running storageBackendCeph) with
    ips := ids.foldl (fun t id => t.insert ⟨id, "set", id, some "v", some "c", .assigned⟩) empty
    subnets := [⟨"s", "v", "p", 0⟩] }

lemma serves_calm : Serves fun _ => .ok calm := fun _ => rfl

/-- Twenty-one addresses are assigned to the VM; the call returns nil and one is left. -/
theorem releaseIPsByVM_leaves_one :
    ((IPAM.releaseIPsByVM "v").alone (fun _ => .ok calm) (withAddresses letters)).1 = .ok () ∧
    ¬ Freed (withAddresses letters)
      ((IPAM.releaseIPsByVM "v").alone (fun _ => .ok calm) (withAddresses letters)).2 "v" := by
  rw [releaseIPsByVM_ok serves_calm, freed_iff serves_calm]
  have hlen : ((withAddresses letters).addressesOf "v").length = 21 := by decide +kernel
  refine ⟨rfl, fun h => ?_⟩
  rw [OnePage, hlen] at h
  exact absurd h.1 (by decide)

/-- Two addresses are both released. -/
theorem releaseIPsByVM_frees_two : OnePage (withAddresses ["a", "b"]) "v" ∧
    Freed (withAddresses ["a", "b"])
      ((IPAM.releaseIPsByVM "v").alone (fun _ => .ok calm) (withAddresses ["a", "b"])).2 "v" := by
  have hpage : OnePage (withAddresses ["a", "b"]) "v" := ⟨by decide, by decide⟩
  refine ⟨hpage, (releaseIPsByVM_frees_iff _ serves_calm _ _).mpr hpage ?_⟩
  rw [releaseIPsByVM_ok serves_calm]

end VirtueStack.Compute
