import VirtueStack.Compute.Capacity

/-!
# What the operations leave alone, in every run of any number of them
-/

namespace VirtueStack.Compute
open Txn Call Op VMService

/-- whose VM it is, and what it was created with -/
def VM.origin (vm : VM) : String × Option Int × String :=
  (vm.customerID, vm.externalServiceID, vm.storageBackend)

/-- no VM is lost or given away, and none changes once it is deleted; of a task the status changes,
of a node no capacity -/
structure Later (db db' : Db) : Prop where
  vm : ∀ v row, db.vms.find v = some row → ∃ row', db'.vms.find v = some row' ∧
    row'.origin = row.origin ∧ (row.deletedAt ≠ none → row' = row)
  task : ∀ id t, db.tasks.find id = some t → ∃ status, db'.tasks.find id =
    some { t with status := status }
  counters : db'.counters = db.counters

section
variable {ι : Type} {db₀ : Db} {ops : ι → Operation} {m : Mem store ι} {i : ι}
  {P : Protocol store ι} {α : Type}

lemma later_of_reach (h : (operating db₀ ops always).Reach m) : Later db₀ m.db := by
  refine h.invariant (I := fun m => Later db₀ m.db) ?_ ?_
  · rintro m rfl
    exact ⟨fun _ row h => ⟨row, h, rfl, fun _ => rfl⟩, fun _ t h => ⟨t.status, h⟩, rfl⟩
  · rintro m i H ws - hI - - ⟨q, x, a, hq, -, hx⟩
    rw [Mem.publish_db]
    refine ⟨fun v row hrow => ?_, fun id t ht => ?_, (counters_exec hq hx).trans hI.counters⟩
    · obtain ⟨row', hrow', ho, hd⟩ := hI.vm v row hrow
      rcases exec_row hx hrow' with hsame | ⟨u, -, hnone, -, -, hset⟩
      · exact ⟨row', hsame, ho, hd⟩
      · have hset' : (u.set x.now row').origin = row'.origin := by cases u <;> rfl
        refine ⟨_, hset, hset'.trans ho, fun hdel => ?_⟩
        rw [hd hdel] at hnone
        exact absurd hnone hdel
    · obtain ⟨status, ht'⟩ := hI.task id t ht
      have hstep := exec_find_task hx ht'
      exact hstep

/-! ## the VMs of others -/

/-- the VM and the customer of a request that no administrator makes -/
def Operation.ofCustomer : Operation → Option (String × String)
  | .startVM v c false => some (v, c)
  | .stopVM v c _ false => some (v, c)
  | .restartVM v c false => some (v, c)
  | .reinstallVM v _ c false => some (v, c)
  | .resizeVM v c _ _ false => some (v, c)
  | .deleteVM v c false => some (v, c)
  | _ => none

def Refused (i : ι) (r : Except GoError α) (m : Mem store ι) : Prop :=
  (∃ e, r = .error e) ∧ m.Silent i

lemma idle_refused {e : GoError} (hm : m.Silent i) :
    Idle P i (Prog.ret (.error e) : Op α) (Refused i) m :=
  Idle.ret ((settled_silent hm).mono fun _ _ h => ⟨⟨e, rfl⟩, h⟩)

lemma refused_of_check {get : Op (Option VM)} {Q : Option VM → Mem store ι → Prop}
    {context context' : String}
    {g : GoError → GoError} {check : VM → Except GoError Unit} {f : VM → Op α}
    (hget : Reads P i get Q)
    (hQ : ∀ vm m, P.Reach m → Q (some vm) m → ∃ e, check vm = .error e) (hm : m.Silent i) :
    Idle P i (wrapping context (do
      let vm ← replacing g (found context' get)
      lift (check vm)
      return vm) >>= f) (Refused i) m := by
  show Idle P i (Call.bind (attempt (Call.bind (attempt (Call.bind get _) _) _) _) f) _ m
  rw [bind_eq_attempt, bind_eq_attempt, bind_eq_attempt get]
  rw [attempt_attempt, attempt_attempt, attempt_attempt, attempt_attempt]
  refine hget _ _ _ _ (fun e m' hr _ => idle_refused (hr.silent hm)) fun a m' hr hR ha => ?_
  cases a with
  | none => exact idle_refused (hr.silent hm)
  | some vm =>
    obtain ⟨e, he⟩ := hQ vm m' hR ha
    show Idle P i (attempt (Call.bind (lift (check vm)) _) _) _ m'
    rw [he]
    exact idle_refused (hr.silent hm)

lemma refused_void {c : Op α} (h : Idle P i c (Refused i) m) : Idle P i (void c) (Refused i) m := by
  refine Idle.bind h (fun a m hR ha => ?_) fun e m _ he => he.mono fun _ _ h => ⟨⟨e, rfl⟩, h.2⟩
  obtain ⟨⟨e, he⟩, -⟩ := ha m (.refl m) hR
  cases he

variable {v c : String} {row : VM} (hop : (ops i).ofCustomer = some (v, c))
  (hrow : db₀.vms.find v = some row) (hc : row.customerID ≠ c)
include hop hrow hc

lemma foreign_idle (hm : m.Silent i) :
    Idle (operating db₀ ops always) i (ops i).run (Refused i) m := by
  have hforeign : ∀ vm (m : Mem store ι), (operating db₀ ops always).Reach m →
    (Db.vms m.db).find v = some vm → ¬ false = true ∧ vm.customerID ≠ c := fun vm m hR hvm => by
    obtain ⟨row', hrow', ho, -⟩ := (later_of_reach hR).vm v row hrow
    cases hvm.symm.trans hrow'
    have howner : vm.customerID = row.customerID := congrArg Prod.fst ho
    exact ⟨Bool.false_ne_true, howner ▸ hc⟩
  have hverify : ∀ {α : Type} {context : String} {f : VM → Op α}, Idle (operating db₀ ops always) i
      (wrapping context (getVMAndVerifyOwnership v c false) >>= f) (Refused i) m := by
    refine refused_of_check (Reads.stmt fun _ _ _ _ _ hx => ?_) (fun vm m hR hq => ?_) hm
    · cases hx
      exact ⟨rfl, rfl⟩
    · obtain ⟨x, hx⟩ := hq
      have hvm : Db.vm m.db v = some vm := congrArg Prod.fst (Except.ok.inj hx)
      exact ⟨_, if_pos (hforeign vm m hR (Db.vm_eq_some.mp hvm).1)⟩
  have hdelete : Idle (operating db₀ ops always) i (deleteVM v c false) (Refused i) m := by
    refine refused_of_check (Reads.stmt fun _ _ _ _ _ hx => ?_) (fun vm m hR hq => ?_) hm
    · cases hx
      exact ⟨rfl, rfl⟩
    · obtain ⟨x, hx⟩ := hq
      exact ⟨_, if_pos (hforeign vm m hR (congrArg Prod.fst (Except.ok.inj hx)))⟩
  generalize ops i = op at hop
  unfold Operation.ofCustomer at hop
  split at hop <;> cases hop
  exacts [hverify, hverify, hverify, refused_void hverify, refused_void hverify,
    refused_void hdelete]

variable [DecidableEq ι] {s : State store ι (Except GoError Unit)}
  (h : Reaches always (State.init db₀ fun i => (ops i).run) s)
include h

omit hop hrow hc in
/-- **No operation takes a VM from its owner.** In every state of a run no VM is lost, none has
another owner than at the start, and one that was deleted is as it was; a task has its payload, and
a node its capacity. -/
theorem later_of_reaches : Later db₀ s.mem.db :=
  later_of_reach (Idle.adequate (P := operating db₀ ops always) rfl (fun _ => run_keeps rfl) h).1

/-- **A customer has no part in the VM of another.** Whatever else runs, the request ends with an
error and has changed nothing. -/
theorem foreign_refused {r : Except GoError Unit} (hr : s.prog i = some (.ret r)) :
    (∃ e, r = .error e) ∧ ChangedNothing (State.init db₀ fun i => (ops i).run) s i := by
  have hidle : ∀ j, Idle (operating db₀ ops always) j (ops j).run (fun r m => j = i → Refused i r m)
      ⟨db₀, []⟩ := by
    intro j
    by_cases hj : j = i
    · subst hj
      exact (foreign_idle hop hrow hc fun _ hb => absurd hb List.not_mem_nil).mono fun _ _ _ h _ =>
        h
    · exact (run_keeps rfl).mono fun _ _ _ _ h => absurd h hj
  obtain ⟨he, hs⟩ := (Idle.adequate rfl hidle h).2 i r hr rfl
  exact ⟨he, hs.changedNothing _⟩

end

def deletionBy (customerID : String) : State store Unit (Except GoError Unit) :=
  State.init (oneVM cephVM) fun _ => Operation.run (.deleteVM "v" customerID false)

theorem later_of_reaches_deletion : ∃ s, Reaches always (deletionBy "c") s ∧
    s.prog () = some (.ret (.ok ())) ∧ Later (oneVM cephVM) s.mem.db := by
  have h : (run (deletionBy "c") (List.replicate 3 ((), .ev (.ok calm)))).isSome = true := by rfl
  have hreach := reaches_run (run_get h)
  exact ⟨_, hreach, rfl, later_of_reaches hreach⟩

theorem foreign_refused_deletion : ∃ s, Reaches always (deletionBy "d") s ∧
    (∃ e, s.prog () = some (.ret (.error e))) ∧ ChangedNothing (deletionBy "d") s () := by
  have h : (run (deletionBy "d") [((), .ev (.ok calm))]).isSome = true := by rfl
  have hreach := reaches_run (run_get h)
  have hrow : (oneVM cephVM).vms.find "v" = some cephVM := rfl
  exact ⟨_, hreach, ⟨_, rfl⟩, (foreign_refused rfl hrow (by decide) hreach rfl).2⟩

end VirtueStack.Compute
