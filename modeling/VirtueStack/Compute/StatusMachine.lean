import VirtueStack.Compute.Moves
import VirtueStack.Compute.MigrateRetry

/-!
# The status of a VM follows the table of transitions

* `Timely` the condition on a run: where `MigrateVM` and `CancelMigration` write a status without
  looking at the one that is there, that one is still what the request has checked;
* `Doomed` a VM that is deleted or being deleted;
* `Tidy` the invariant: a VM whose deletion has a task is doomed, and so is a VM that a request has
  marked; as long as the request has not published the task there is none, and no other
  request has marked the VM.
-/

namespace VirtueStack.Compute
open Txn Mem Option
open Billing (VMStatus)

/-- the row still has a status that the request is meant for -/
def Stmt.timely (db : Db) : Operation → Stmt → Bool
  | .migrateVM req _, .updateVM v (.status .migrating) =>
    (db.vm v).all fun vm =>
      (MigrationService.validateVMStatusForMigration vm.status req.live).toBool
  | .migrateVM _ _, .updateVM v (.status _) => (db.vm v).all fun vm => vm.status = .migrating
  | .cancelMigration _, .updateVM v (.status _) => (db.vm v).all fun vm => vm.status = .migrating
  | _, _ => true

section
variable {ι : Type}

def Timely (ops : ι → Operation) : ι → Req store → Loc store → Mem store ι → Prop
  | i, .run q, _, m => Stmt.timely m.db (ops i) q = true
  | _, _, _, _ => True

instance (ops : ι → Operation) (i : ι) (r : Req store) (l : Loc store) (m : Mem store ι) :
    Decidable (Timely ops i r l m) :=
  match r with
  | .run q => inferInstanceAs (Decidable (Stmt.timely m.db (ops i) q = true))
  | .begin => .isTrue trivial
  | .commit => .isTrue trivial
  | .rollback => .isTrue trivial

/-! ## the end of a VM -/

def Deleting (db : Db) (v : String) : Prop := ∃ vm, db.vm v = some vm ∧ vm.status = .deleting

def Doomed (db : Db) (v : String) : Prop := Deleted db v ∨ Deleting db v

def Asked (db : Db) (v : String) : Prop :=
  ∃ t ∈ db.tasks.rows, t.type = .vmDelete ∧ VMDeletePayload.decode t.payload = .ok ⟨v⟩

structure Tidy (db₀ : Db) (ops : ι → Operation) (m : Mem store ι) : Prop where
  asked : ∀ v, Asked m.db v → Doomed m.db v
  marked : ∀ i v st, (ops i).isDelete = true → MarkedBy db₀ m i v st → Deleted m.db v ∨
    Deleting m.db v ∧ ¬ Asked m.db v ∧
      ∀ j st', (ops j).isDelete = true → MarkedBy db₀ m j v st' → j = i

variable {db₀ db : Db} {ops : ι → Operation} {m : Mem store ι} {i : ι} {v : String}
  {q : Stmt} {x : Inp} {a : q.Ans} {ws : List Write}

variable {vm : VM} {st : VMStatus} {u : VMUpdate}

lemma not_doomed_of_vm (h : db.vm v = some vm) (hst : vm.status ≠ .deleting) : ¬ Doomed db v := by
  rintro (hd | ⟨vm', hvm', hst'⟩)
  · exact not_deleted_of_vm h hd
  · obtain rfl : vm = vm' := mem_unique h hvm'
    exact hst hst'

lemma follows_deleting_ne (h : Follows st .deleting) : st ≠ .deleting := by
  rintro rfl
  exact absurd h (by decide)

lemma Stmt.Lawful.update (h : (Stmt.updateVM v u).Lawful) :
    (∃ src dst, u = .transition src dst ∧ Follows src dst ∧ src ≠ .deleting) ∨
      ∀ now vm, (u.set now vm).status = vm.status ∧ (u.set now vm).deletedAt = vm.deletedAt := by
  cases u with
  | status st | softDelete => exact h.elim
  | transition src dst => exact .inl ⟨src, dst, rfl, h⟩
  | node n | resources c mem d | plan p | template t | macAddress mac =>
    exact .inr fun _ _ => ⟨rfl, rfl⟩

lemma transition_source {src dst : VMStatus} (h : (VMUpdate.transition src dst).applies vm = true) :
    vm.status = src :=
  of_decide_eq_true (Bool.and_eq_true_iff.mp h).2

lemma timely_follows {op : Operation} (hop : op.isMigration = true)
    (hq : (Stmt.updateVM v (.status st)).Migrates) (hvm : db.vm v = some vm)
    (h : Stmt.timely db op (.updateVM v (.status st)) = true) :
    (vm.status = st ∨ Follows vm.status st) ∧ vm.status ≠ .deleting := by
  have hback : vm.status = .migrating → (vm.status = st ∨ Follows vm.status st) ∧
      vm.status ≠ .deleting := by
    intro hm
    rw [hm]
    refine ⟨?_, by decide⟩
    cases hq with
    | lawful h => exact h.elim
    | marked => exact .inl rfl
    | restored _ hst => rcases hst with rfl | rfl | rfl <;> exact .inr (by decide)
  cases op with
  | migrateVM req adminID =>
    by_cases hst : st = .migrating
    · subst hst
      simp only [Stmt.timely, hvm, all_some] at h
      have hvalid : MigrationService.Migratable vm.status := by
        cases hv : MigrationService.validateVMStatusForMigration vm.status req.live with
        | ok u => exact MigrationService.migratable_of_valid hv
        | error e =>
          rw [hv] at h
          cases h
      rcases hvalid with hs | hs | hs <;> rw [hs] <;> exact ⟨.inr (by decide), by decide⟩
    · refine hback ?_
      have hall : ((db.vm v).all fun vm => decide (vm.status = .migrating)) = true := by
        cases st <;> first | exact h | exact absurd rfl hst
      rw [hvm] at hall
      exact of_decide_eq_true hall
  | cancelMigration w =>
    refine hback ?_
    have hall : ((db.vm v).all fun vm => decide (vm.status = .migrating)) = true := h
    rw [hvm] at hall
    exact of_decide_eq_true hall
  | _ => cases hop

/-! ## what a move does to a VM that is doomed -/

lemma lawful_deleting {now : Int} {db' : Db} (h : (Stmt.updateVM v u).Lawful)
    (happ : u.applies vm = true) (hd : vm.deletedAt = none) (hst : vm.status = .deleting)
    (hfind : db'.vms.find v = some (u.set now vm)) : Deleting db' v := by
  rcases h.update with ⟨src, dst, rfl, -, hsrc⟩ | hkeep
  · exact absurd ((transition_source happ).symm.trans hst) hsrc
  · obtain ⟨hs, hdel⟩ := hkeep now vm
    exact ⟨_, Db.vm_eq_some.mpr ⟨hfind, hdel.trans hd⟩, hs.trans hst⟩

/-- **A VM that is being deleted** stays so or is deleted, unless the request that marked it takes
the mark back. -/
theorem deleting_exec (hq : Move db₀ (ops i) i m q) (hallow : Timely ops i (.run q) .idle m)
    (hx : exec q x x m.db = .ok (a, ws)) (h : Deleting m.db v) :
    Doomed (store.view m.db ws) v ∨ (ops i).isDelete = true ∧ ∃ st, MarkedBy db₀ m i v st := by
  obtain ⟨vm, hvm, hst⟩ := h
  obtain ⟨hfind, hd⟩ := Db.vm_eq_some.mp hvm
  rcases exec_row hx hfind with hsame | ⟨u, rfl, -, happ, -, hset⟩
  · exact .inl (.inr ⟨vm, Db.vm_eq_some.mpr ⟨hsame, hd⟩, hst⟩)
  · cases hq with
    | lawful hop h => exact .inl (.inr (lawful_deleting h happ hd hst hset))
    | cleaned hop h | finished hop h ht hp => exact .inl (.inl (softDelete_deleted hset))
    | marked hop v h =>
      exact absurd ((transition_source happ).symm.trans hst) (follows_deleting_ne h)
    | restored hop h => exact .inr ⟨hop, _, h⟩
    | migrating hop h =>
      cases h with
      | lawful h => exact .inl (.inr (lawful_deleting h happ hd hst hset))
      | marked => exact absurd hst (timely_follows hop (.marked v) hvm hallow).2
      | restored _ h => exact absurd hst (timely_follows hop (.restored v h) hvm hallow).2

lemma asked_exec (hq : Move db₀ (ops i) i m q) (hx : exec q x x m.db = .ok (a, ws))
    (h : Asked (store.view m.db ws) v) : Asked m.db v ∨ (ops i).isDelete = true ∧
      (∃ st, MarkedBy db₀ m i v st) ∧ (store.view m.db ws).vms = Db.vms m.db := by
  obtain ⟨t, ht, htype, hdec⟩ := h
  rcases exec_task hx ht with ⟨t', ht', hsame⟩ | ⟨rfl, -⟩
  · rw [hsame] at htype hdec
    exact .inl ⟨t', ht', htype, hdec⟩
  · have hvms : (store.view m.db ws).vms = Db.vms m.db := by
      obtain ⟨-, rfl, -⟩ := exec_createTask hx
      rfl
    rw [htype] at hq
    generalize t.idempotencyKey = key at hq
    cases hq with
    | lawful hop h => exact absurd rfl h
    | published hop h hdoc =>
      cases hdoc.symm.trans hdec
      exact .inr ⟨hop, ⟨_, h⟩, hvms⟩
    | migrating hop h =>
      cases h with
      | lawful h => exact absurd rfl h

lemma markedBy_publish {j : ι} (hR : m.db = store.replay db₀ m.wal) (hne : ws ≠ [])
    (h : MarkedBy db₀ (m.publish i ws) j v st) : j ≠ i ∧ MarkedBy db₀ m j v st ∨
      j = i ∧ ¬ Doomed m.db v ∧ Deleting (store.view m.db ws) v := by
  obtain ⟨pre, vm, hlast, hvm, hst, hf⟩ := h
  rcases last_of_publish hne hlast with ⟨rfl, rfl, rfl⟩ | ⟨hj, hlast⟩
  · rw [← hR] at hvm
    refine .inr ⟨rfl, not_doomed_of_vm hvm (by rw [hst]; exact follows_deleting_ne hf), ?_⟩
    exact ⟨_, Db.setVM_vm hvm rfl (Db.vm_eq_some.mp hvm).2, rfl⟩
  · exact .inl ⟨hj, pre, vm, hlast, hvm, hst, hf⟩

/-! ## the invariant -/

lemma Doomed.of_vms {db' : Db} (h : Doomed db v) (hv : db'.vms = db.vms) : Doomed db' v := by
  unfold Doomed Deleted Deleting Db.vm at *
  rw [hv]
  exact h

lemma Tidy.doomed (h : Tidy db₀ ops m) (hop : (ops i).isDelete = true)
    (hm : MarkedBy db₀ m i v st) : Doomed m.db v := by
  rcases h.marked i v st hop hm with hd | ⟨hd, -⟩
  · exact .inl hd
  · exact .inr hd

section
variable (hR : m.db = store.replay db₀ m.wal) (h : Tidy db₀ ops m) (hq : Move db₀ (ops i) i m q)
  (hallow : Timely ops i (.run q) .idle m) (hx : exec q x x m.db = .ok (a, ws)) (hne : ws ≠ [])
include hR h hq hallow hx hne

omit hR hne in
lemma Tidy.asked_publish (hv : Asked (store.view m.db ws) v) : Doomed (store.view m.db ws) v := by
  rcases asked_exec hq hx hv with hold | ⟨hop, ⟨st, hm⟩, hvms⟩
  · rcases h.asked v hold with hd | hd
    · exact .inl (deleted_exec hx hd)
    · rcases deleting_exec hq hallow hx hd with hd' | ⟨hop, st, hm⟩
      · exact hd'
      · rcases h.marked i v st hop hm with hdel | ⟨-, hno, -⟩
        · exact .inl (deleted_exec hx hdel)
        · exact absurd hold hno
  · exact (h.doomed hop hm).of_vms hvms

omit hallow in
lemma Tidy.marked_self (hnew : ¬ Doomed m.db v) (hd : Deleting (store.view m.db ws) v) :
    Deleting (store.view m.db ws) v ∧ ¬ Asked (store.view m.db ws) v ∧
      ∀ j st, (ops j).isDelete = true → MarkedBy db₀ (m.publish i ws) j v st → j = i := by
  refine ⟨hd, fun hasked => ?_, fun j st hop hm => ?_⟩
  · rcases asked_exec hq hx hasked with hold | ⟨hop, ⟨st, hm⟩, -⟩
    · exact hnew (h.asked v hold)
    · exact hnew (h.doomed hop hm)
  · rcases markedBy_publish hR hne hm with ⟨-, hold⟩ | ⟨hj, -⟩
    · exact absurd (h.doomed hop hold) hnew
    · exact hj

lemma Tidy.marked_other {j : ι} {st : VMStatus} (hop : (ops j).isDelete = true) (hj : j ≠ i)
    (hm : MarkedBy db₀ m j v st) : Deleted (store.view m.db ws) v ∨
      Deleting (store.view m.db ws) v ∧ ¬ Asked (store.view m.db ws) v ∧
        ∀ k st', (ops k).isDelete = true → MarkedBy db₀ (m.publish i ws) k v st' → k = j := by
  rcases h.marked j v st hop hm with hd | ⟨hd, hno, hunique⟩
  · exact .inl (deleted_exec hx hd)
  have hnot : ¬ ((ops i).isDelete = true ∧ ∃ st, MarkedBy db₀ m i v st) := by
    rintro ⟨hop, st, hm⟩
    exact hj (hunique i st hop hm).symm
  rcases deleting_exec hq hallow hx hd with (hd' | hd') | hself
  · exact .inl hd'
  · refine .inr ⟨hd', fun hasked => ?_, fun k st' hk hmk => ?_⟩
    · rcases asked_exec hq hx hasked with hold | ⟨hop, hmi, -⟩
      · exact hno hold
      · exact hnot ⟨hop, hmi⟩
    · rcases markedBy_publish hR hne hmk with ⟨-, hold⟩ | ⟨-, hnew, -⟩
      · exact hunique k st' hk hold
      · exact absurd (.inr hd) hnew
  · exact absurd hself hnot

lemma Tidy.publish : Tidy db₀ ops (m.publish i ws) := by
  constructor
  · intro v hv
    rw [publish_db] at hv ⊢
    exact Tidy.asked_publish h hq hallow hx hv
  · intro j v st hop hm
    rw [publish_db]
    rcases markedBy_publish hR hne hm with ⟨hj, hold⟩ | ⟨rfl, hnew, hd⟩
    · exact Tidy.marked_other hR h hq hallow hx hne hop hj hold
    · exact .inr (Tidy.marked_self hR h hq hx hne hnew hd)

end

/-- **The invariant holds in every state.** -/
theorem tidy_of_reach (h₀ : ∀ v, Asked db₀ v → Doomed db₀ v)
    (hR : (operating db₀ ops (Timely ops)).Reach m) : Tidy db₀ ops m := by
  refine hR.invariant (I := Tidy db₀ ops) ?_ ?_
  · rintro _ rfl
    refine ⟨h₀, ?_⟩
    rintro i v st - ⟨pre, vm, ⟨post, hwal, -⟩, -⟩
    exact absurd hwal (by simp)
  · rintro m i H ws hm h hne - ⟨q, x, a, hq, hallow, hx⟩
    exact Tidy.publish (reach_replay hm) h hq hallow hx hne

/-! ## the theorem -/

/-- a change of status, as the table or the way back from a failed request has it -/
inductive StatusChange (db₀ : Db) (op : Operation) (i : ι) (m : Mem store ι) (v : String) :
    VMStatus → VMStatus → Prop
  | follows {src dst : VMStatus} (h : Follows src dst) : StatusChange db₀ op i m v src dst
  /-- the task of a new VM could not be published: the insertion is still the last thing the request
  did -/
  | cleaned {src : VMStatus} (hop : op.isCreate = true) (h : InsertedBy m i v) :
      StatusChange db₀ op i m v src .deleted
  /-- the task of a deletion could not be published: the mark is still the last thing the request
  did -/
  | unmarked {dst : VMStatus} (hop : op.isDelete = true) (h : MarkedBy db₀ m i v dst) :
      StatusChange db₀ op i m v .deleting dst

lemma lawful_change {op : Operation} {now : Int} {row : VM} (h : (Stmt.updateVM v u).Lawful)
    (happ : u.applies row = true) (hne : row.status ≠ (u.set now row).status) :
    StatusChange db₀ op i m v row.status (u.set now row).status := by
  rcases h.update with ⟨src, dst, rfl, hf, -⟩ | hkeep
  · rw [transition_source happ]
    exact .follows hf
  · exact absurd (hkeep now row).1.symm hne

lemma change_of_move {row row' : VM} (h : Tidy db₀ ops m) (hq : Move db₀ (ops i) i m q)
    (hallow : Timely ops i (.run q) .idle m) (hx : exec q x x m.db = .ok (a, ws))
    (hrow : (Db.vms m.db).find v = some row) (hrow' : (store.view m.db ws).vms.find v = some row')
    (hne : row.status ≠ row'.status) : StatusChange db₀ (ops i) i m v row.status row'.status := by
  rcases exec_row hx hrow with hsame | ⟨u, rfl, hd, happ, -, hset⟩
  · cases hsame.symm.trans hrow'
    exact absurd rfl hne
  obtain rfl : u.set x.now row = row' := mem_unique hset hrow'
  have hvm : Db.vm m.db v = some row := Db.vm_eq_some.mpr ⟨hrow, hd⟩
  have hdeleting : Doomed m.db v → row.status = .deleting := fun hdoomed => by
    by_contra hst
    exact not_doomed_of_vm hvm hst hdoomed
  cases hq with
  | lawful hop h => exact lawful_change h happ hne
  | cleaned hop hlast => exact .cleaned hop ⟨_, _, hlast, rfl⟩
  | marked hop v hf =>
    rw [transition_source happ]
    exact .follows hf
  | restored hop hm =>
    rw [hdeleting (h.doomed hop hm)]
    exact .unmarked hop hm
  | finished hop ht htype hp =>
    rw [hdeleting (h.asked _ ⟨_, ht, htype, hp⟩)]
    exact .follows (by decide : Follows .deleting .deleted)
  | migrating hop hmig =>
    have hstatus : ∀ {st : VMStatus}, u = .status st → StatusChange db₀ (ops i) i m v row.status
        (u.set x.now row).status := by
      rintro st rfl
      rcases (timely_follows hop hmig hvm hallow).1 with hst | hf
      · exact absurd hst hne
      · exact .follows hf
    cases hmig with
    | lawful h => exact lawful_change h happ hne
    | marked | restored _ _ => exact hstatus rfl

variable [DecidableEq ι] {s s' : State store ι (Except GoError Unit)}

/-- **The status of a VM follows the table**, in every run of any number of operations in which the
steps are timely: each change is in the table of transitions, which has the deletion of a VM that is
being deleted, or `CreateVM` deletes the VM whose task it could not publish, or `DeleteVM` gives the
VM whose task it could not publish its status back. -/
theorem status_follows (h₀ : ∀ v, Asked db₀ v → Doomed db₀ v)
    (h : Reaches (Timely ops) (State.init db₀ fun i => (ops i).run) s) {l : Label store}
    (ha : Allowed (Timely ops) s i) (hs : step s i l = some s') {row row' : VM}
    (hrow : (Db.vms s.mem.db).find v = some row) (hrow' : (Db.vms s'.mem.db).find v = some row')
    (hne : row.status ≠ row'.status) :
    StatusChange db₀ (ops i) i s.mem v row.status row'.status := by
  obtain ⟨hR, hmem | ⟨ws, q, x, a, -, hq, hallow, hx, hmem⟩⟩ := move_of_step h ha hs
  · rw [hmem] at hrow'
    cases hrow.symm.trans hrow'
    exact absurd rfl hne
  · rw [hmem, publish_db] at hrow'
    exact change_of_move (tidy_of_reach h₀ hR) hq hallow hx hrow hrow' hne

end

/-! ## a request on its own, and two at a time -/

def deletion : Unit → Operation := fun _ => .deleteVM "v" "c" false

def deletionFrom : State store Unit (Except GoError Unit) :=
  State.init (oneVM cephVM) fun i => (deletion i).run

def deletionRead : List (Unit × Label store) := [((), .ev (.ok calm))]

theorem status_follows_marked : ∃ s s', Reaches (Timely deletion) deletionFrom s ∧
    step s () (.ev (.ok calm)) = some s' ∧
    StatusChange (oneVM cephVM) (deletion ()) () s.mem "v" .running .deleting := by
  have hread : (run deletionFrom deletionRead).isSome = true := by rfl
  have hreach : Reaches (Timely deletion) deletionFrom
    ((run deletionFrom deletionRead).get hread) :=
    reaches_checked (run_get hread) (by rfl)
  have hmark :
    (step ((run deletionFrom deletionRead).get hread) () (.ev (.ok calm))).isSome = true := by rfl
  refine ⟨_, _, hreach, (some_get hmark).symm, ?_⟩
  have h0 : ∀ v, Asked (oneVM cephVM) v → Doomed (oneVM cephVM) v := by
    rintro v ⟨t, ht, -⟩
    cases ht
  have hallowed : Allowed (Timely deletion) ((run deletionFrom deletionRead).get hread) () := by
    intro r k hp
    cases hp
    rfl
  have hrow : (Db.vms ((run deletionFrom deletionRead).get hread).mem.db).find "v" =
    some cephVM := by rfl
  have hrow' : (Db.vms ((step ((run deletionFrom deletionRead).get hread) () (.ev (.ok calm))).get
    hmark).mem.db).find "v" = some { cephVM with status := .deleting } := by rfl
  exact status_follows h0 hreach hallowed (some_get hmark).symm hrow hrow' (by decide)

/-- the VM is marked, and its task cannot be published -/
def unpublished : List (Unit × Label store) :=
  [((), .ev (.ok calm)), ((), .ev (.ok calm)), ((), .ev (.fail "connection reset"))]

def both : Bool → Operation
  | true => .migrateVM ⟨"v", some "t", true⟩ "admin"
  | false => deletion ()

/-- the migration has made its checks when the deletion marks the VM -/
def interleaved : List (Bool × Label store) :=
  List.replicate 3 (true, .ev (.ok calm)) ++ List.replicate 2 (false, .ev (.ok calm))

/-- **From deleting back to running**, which is not in the table: the way back of a request whose
task cannot be published. And from deleting to migrating, where the status that was checked is gone
by the time it is written. -/
theorem status_leaves_table : (∃ s s', Reaches always deletionFrom s ∧ Step always s s' ∧
      (Db.vm s.mem.db "v").map (·.status) = some .deleting ∧
      (Db.vm s'.mem.db "v").map (·.status) = some .running ∧ ¬ Follows .deleting .running) ∧
    ∃ s s', Reaches always (State.init (twoNodes cephVM .shared) fun i => (both i).run) s ∧
      Step always s s' ∧ (Db.vm s.mem.db "v").map (·.status) = some .deleting ∧
      (Db.vm s'.mem.db "v").map (·.status) = some .migrating ∧ ¬ Follows .deleting .migrating := by
  constructor
  · have h : (run deletionFrom unpublished).isSome = true := by rfl
    have h' :
      (step ((run deletionFrom unpublished).get h) () (.ev (.ok calm))).isSome = true := by rfl
    exact ⟨_, _, reaches_run (run_get h), ⟨(), _, fun _ _ _ => trivial, (some_get h').symm⟩,
      rfl, rfl, by decide⟩
  · have h : (run (State.init (twoNodes cephVM .shared) fun i => (both i).run) interleaved).isSome =
      true := by rfl
    have h' : (step
      ((run (State.init (twoNodes cephVM .shared) fun i => (both i).run) interleaved).get h) true
      (.ev (.ok calm))).isSome = true := by rfl
    exact ⟨_, _, reaches_run (run_get h), ⟨true, _, fun _ _ _ => trivial, (some_get h').symm⟩,
      rfl, rfl, by decide⟩

end VirtueStack.Compute
