import VirtueStack.Tasks.Worker

/-!
# A completed task

Any number of deliveries of the messages of the tasks and of passes of the scanner, interleaved
statement by statement, each free to fail or crash anywhere. No statement looks at the status it
overwrites, so a second delivery sets a completed task back to running and executes its handler
again (`task_executed_again`).

* `Busy i msg m` delivery `i` has the message, and its task is not completed;
* `undisturbed` the condition: a message is delivered only when it is not out with a worker,
  and the scanner writes only while the task is running.
-/

namespace VirtueStack.Tasks
open Txn Call Table Mem Option

def Completed (db : Db) (id : String) : Prop :=
  ∃ t, db.tasks.find id = some t ∧ t.status = .completed

instance (db : Db) (id : String) : Decidable (Completed db id) :=
  decidable_of_iff ((db.tasks.find id).any fun t => t.status = .completed)
    (by simp [Completed, any_eq_true])

/-- no two messages are for one task, and a message that can be delivered is for a task that is not
completed -/
structure OneMessage (db : Db) : Prop where
  unique : ∀ a ∈ db.stream.rows, ∀ b ∈ db.stream.rows, ∀ ta ∈ a.data, ∀ tb ∈ b.data,
    ta.id = tb.id → a.seq = b.seq
  ready : ∀ a ∈ db.stream.rows, a.state = .ready → ∀ task ∈ a.data, ¬ Completed db task.id

/-! ## what a write leaves alone -/

lemma apply_find_message {seq : Nat} (db : Db) (w : Write) (h : Lock.message seq ∉ w.guards) :
    (db.apply w).stream.find seq = db.stream.find seq := by
  cases w with
  | putMessage msg =>
    refine find_put_of_notMem fun hk => h ?_
    rw [List.mem_singleton.mp hk]
    exact List.mem_singleton_self _
  | _ => rfl

variable {id : String}

lemma apply_find_task (db : Db) (w : Write) (h : Lock.task id ∉ w.guards) :
    (db.apply w).tasks.find id = db.tasks.find id := by
  cases w with
  | putTask t =>
    refine find_put_of_notMem fun hk => h ?_
    rw [List.mem_singleton.mp hk]
    exact List.mem_singleton_self _
  | _ => rfl

variable {t : Task}

lemma message_notMem_putTask {seq : Nat} :
    Lock.message seq ∉ (Write.putTask t).guards := fun h => by cases List.mem_singleton.mp h

variable {db : Db}

lemma completed_apply {w : Write} (h : Lock.task id ∉ w.guards) :
    Completed (db.apply w) id ↔ Completed db id := by
  unfold Completed
  rw [apply_find_task db w h]

lemma completed_putTask (ht : t.status ≠ .completed)
    (h : Completed (db.apply (.putTask t)) id) : Completed db id := by
  obtain ⟨t', hf, hs⟩ := h
  have hf : (db.tasks.find id).map (swap Task.keys t) = some t' := find_put.symm.trans hf
  obtain ⟨t0, h₀, hsw⟩ := map_eq_some_iff.mp hf
  unfold swap at hsw
  split at hsw
  · exact absurd (hsw ▸ hs) ht
  · exact ⟨t0, h₀, hsw ▸ hs⟩

/-! ## the message of a delivery -/

section
variable {ι : Type}

abbrev TMem (ι : Type) : Type := Mem store ι

def delivers (seq : Nat) : Write → Bool
  | .putMessage msg => msg.seq = seq ∧ msg.state = .waiting
  | _ => false

/-- the session the message was delivered to last -/
def holder (m : TMem ι) (seq : Nat) : Option ι :=
  (m.wal.reverse.find? fun b => b.2.any (delivers seq)).map Prod.fst

lemma holder_publish (m : TMem ι) (i : ι) (w : Write) (seq : Nat) :
    holder (m.publish i [w]) seq = if delivers seq w then some i else holder m seq := by
  unfold holder
  rw [publish_wal (List.cons_ne_nil _ _), List.reverse_append, List.reverse_singleton,
    List.singleton_append, List.find?_cons]
  by_cases h : delivers seq w = true
  · simp [h]
  · simp [h]

/-- the message is out with session `i` -/
structure Holds (i : ι) (msg : Message) (m : TMem ι) : Prop where
  holder : holder m msg.seq = some i
  current : m.db.stream.find msg.seq = some msg
  waiting : msg.state = .waiting

structure Busy (i : ι) (msg : Message) (m : TMem ι) : Prop extends Holds i msg m where
  notCompleted : ∀ task ∈ msg.data, ¬ Completed m.db task.id

variable {i : ι} {m : TMem ι} {msg : Message}

lemma Holds.publish (h : Holds i msg m) (j : ι) {w : Write}
    (hw : Lock.message msg.seq ∉ w.guards) : Holds i msg (m.publish j [w]) := by
  have hd : delivers msg.seq w = false := by
    cases w with
    | putMessage x =>
      have hne : x.seq ≠ msg.seq := fun e => hw (e ▸ List.mem_singleton_self _)
      simp [delivers, hne]
    | _ => rfl
  refine ⟨?_, (apply_find_message m.db w hw).trans h.current, h.waiting⟩
  rw [holder_publish, hd]
  exact h.holder

/-! ## the steps -/

/-- what session `i` does to the tables in one step -/
inductive TaskStep (i : ι) (m : TMem ι) : List Write → Prop
  | deliver {msg : Message} (now : Int) : m.db.stream.find msg.seq = some msg →
      msg.state = .ready → TaskStep i m [.putMessage (msg.delivered now)]
  | update {msg : Message} {task : TaskData} {t : Task} : Busy i msg m → msg.data = some task →
      t.id = task.id → TaskStep i m [.putTask t]
  | execute {msg : Message} {task : TaskData} : Busy i msg m → msg.data = some task →
      TaskStep i m [.execute task.id]
  | ack {msg : Message} : Holds i msg m → TaskStep i m [.putMessage msg.acknowledged]
  | nak {msg : Message} (visibleAt : Int) : Busy i msg m →
      TaskStep i m [.putMessage (msg.givenBack visibleAt)]
  | scan {t t' : Task} : m.db.tasks.find t.id = some t → t.status = .running → t'.id = t.id →
      t'.status ≠ .completed → TaskStep i m [.putTask t']

def undisturbed (_ : ι) (r : Req store) (_ : Loc store) (m : TMem ι) : Bool :=
  match r with
  | .run (.deliver seq) => (m.db.stream.find seq).all fun msg => msg.state ≠ .waiting
  | .run (.setFailed id _) => (m.db.tasks.find id).all fun t => t.status = .running
  | .run (.resetTask id) => (m.db.tasks.find id).all fun t => t.status = .running
  | _ => true

def taskSystem (ι : Type) (db₀ : Db) : Protocol store ι where
  init m := m = ⟨db₀, []⟩
  may i _ ws m := TaskStep i m ws
  allow i r l m := undisturbed i r l m = true

/-! ## the messages after a step -/

lemma OneMessage.putMessage {msg' : Message} (h : OneMessage db)
    (hm : db.stream.find msg.seq = some msg) (hseq : msg'.seq = msg.seq)
    (hdata : msg'.data = msg.data)
    (hr : msg'.state = .ready → ∀ task ∈ msg.data, ¬ Completed db task.id) :
    OneMessage (db.apply (.putMessage msg')) := by
  -- every message stands for one of before, with the same number and the same task
  have hold : ∀ a ∈ (db.stream.put msg').rows, ∃ a0 ∈ db.stream.rows, a0.seq = a.seq ∧
      a0.data = a.data := by
    intro a ha
    rcases mem_rows_put ha with rfl | ha
    · exact ⟨msg, (find_some hm).1, hseq.symm, hdata.symm⟩
    · exact ⟨a, ha, rfl, rfl⟩
  refine ⟨fun a ha b hb ta hta tb htb hid => ?_, fun a ha hs task htask => ?_⟩
  · obtain ⟨a0, ha0, hsa, hda⟩ := hold a ha
    obtain ⟨b0, hb0, hsb, hdb⟩ := hold b hb
    rw [← hsa, ← hsb]
    exact h.unique a0 ha0 b0 hb0 ta (hda ▸ hta) tb (hdb ▸ htb) hid
  · rcases mem_rows_put ha with rfl | ha
    · exact hr hs task (hdata ▸ htask)
    · exact h.ready a ha hs task htask

/-- the one message of a task that is being completed is out with its worker -/
lemma OneMessage.update {task : TaskData} (h : OneMessage db)
    (hm : db.stream.find msg.seq = some msg) (hw : msg.state = .waiting)
    (hd : msg.data = some task) (hid : t.id = task.id) : OneMessage (db.apply (.putTask t)) := by
  refine ⟨h.unique, fun a ha hs task' htask' hc => ?_⟩
  by_cases he : task'.id = t.id
  · have hmem := (find_some hm).1
    have hseq := h.unique a ha msg hmem task' htask' task hd (he.trans hid)
    have ha' : db.stream.find msg.seq = some a :=
      find_eq_some.mpr ⟨ha, hseq ▸ List.mem_singleton_self _⟩
    obtain rfl : msg = a := mem_unique hm ha'
    rw [hw] at hs
    cases hs
  · refine h.ready a ha hs task' htask' ((completed_apply fun hl => he ?_).mp hc)
    exact (Lock.task.inj (List.mem_singleton.mp hl))

lemma OneMessage.step {ws : List Write} (h : OneMessage m.db)
    (hs : TaskStep i m ws) : OneMessage (store.view m.db ws) := by
  cases hs with
  | deliver now hm _ => exact h.putMessage hm rfl rfl fun hr => by cases hr
  | update hb hd hid => exact h.update hb.current hb.waiting hd hid
  | execute hb hd => exact ⟨h.unique, h.ready⟩
  | ack hh => exact h.putMessage hh.current rfl rfl fun hr => by cases hr
  | nak t hb => exact h.putMessage hb.current rfl rfl fun _ => hb.notCompleted
  | scan ht hr hid hs =>
    exact ⟨h.unique, fun a ha hr task htask hc => h.ready a ha hr task htask
      (completed_putTask hs hc)⟩

lemma taskSystem_reach {db₀ : Db} (h₀ : OneMessage db₀) (h : (taskSystem ι db₀).Reach m) :
    OneMessage m.db := by
  refine Protocol.Reach.invariant (I := fun m => OneMessage m.db) ?_ ?_ h
  · rintro m rfl
    exact h₀
  · rintro m i H ws - hI - - hs
    rw [publish_db]
    exact hI.step hs

/-! ## what the others leave alone -/

section
variable {i j : ι} {m : TMem ι} {msg : Message} {ws : List Write}

lemma Holds.other (h : Holds i msg m) (hij : j ≠ i) (hs : TaskStep j m ws) :
    Holds i msg (m.publish j ws) := by
  have hmine : ∀ {x : Message}, Holds j x m → x.seq ≠ msg.seq := fun hx e =>
    hij (Option.some.inj (hx.holder.symm.trans (e ▸ h.holder)))
  cases hs with
  | @deliver x now hx hr =>
    refine h.publish j fun hl => ?_
    have hseq : msg.seq = x.seq := Lock.message.inj (List.mem_singleton.mp hl)
    obtain rfl : msg = x := Option.some.inj (h.current.symm.trans (hseq ▸ hx))
    rw [h.waiting] at hr
    cases hr
  | update _ _ _ | scan _ _ _ _ => exact h.publish j message_notMem_putTask
  | execute _ _ => exact h.publish j fun hl => by cases hl
  | ack hh =>
    exact h.publish j fun hl => hmine hh (Lock.message.inj (List.mem_singleton.mp hl)).symm
  | nak t hb =>
    exact h.publish j fun hl => hmine hb.toHolds (Lock.message.inj (List.mem_singleton.mp hl)).symm

lemma Busy.other (h : Busy i msg m) (hI : OneMessage m.db) (hij : j ≠ i) (hs : TaskStep j m ws) :
    Busy i msg (m.publish j ws) := by
  refine ⟨h.toHolds.other hij hs, fun task htask hc => h.notCompleted task htask ?_⟩
  rw [publish_db] at hc
  cases hs with
  | deliver _ _ _ | execute _ _ | ack _ | nak _ _ => exact hc
  | @update x task' t hx hd hid =>
    -- one message for a task, and this one is not out with `j`
    have hc : Completed (m.db.apply (.putTask t)) task.id := hc
    refine (completed_apply fun hl => hij ?_).mp hc
    have he : task.id = task'.id := (Lock.task.inj (List.mem_singleton.mp hl)).trans hid
    have hseq :=
      hI.unique msg (find_some h.current).1 x (find_some hx.current).1 task htask task' hd he
    exact Option.some.inj (hx.holder.symm.trans (hseq ▸ h.holder))
  | scan _ _ _ hs => exact completed_putTask hs hc

lemma Busy.rely {db₀ : Db} (h₀ : OneMessage db₀) {H : Set Lock} {m' : TMem ι} (h : Busy i msg m)
    (hr : (taskSystem ι db₀).Rely i H m m') : Busy i msg m' :=
  hr.stable (I := Busy i msg)
    (fun _ _ _ _ hij _ _ hs hR hb => hb.other (taskSystem_reach h₀ hR) hij hs) h

lemma busy_delivered (hI : OneMessage m.db) (hm : m.db.stream.find msg.seq = some msg)
    (hs : msg.state = .ready) (now : Int) :
    Busy i (msg.delivered now) (m.publish i [.putMessage (msg.delivered now)]) := by
  refine ⟨⟨?_, find_put_self hm rfl, rfl⟩, fun task htask => ?_⟩
  · rw [holder_publish]
    exact if_pos (by simp [delivers, Message.delivered])
  · exact hI.ready msg (find_some hm).1 hs task htask

lemma Busy.update (h : Busy i msg m) (ht : t.status ≠ .completed) :
    Busy i msg (m.publish i [.putTask t]) :=
  ⟨h.toHolds.publish i message_notMem_putTask, fun task htask hc => h.notCompleted task htask
    (completed_putTask ht hc)⟩

end

/-! ## the sessions take these steps -/

section
variable {db₀ : Db} (h₀ : OneMessage db₀) {i : ι} {m : TMem ι} {msg : Message} {task : TaskData}
  {α : Type}

variable {f : Except GoError Unit → Op α}

omit h₀ in
lemma ack_keeps (h : Holds i msg m) (hf : ∀ r m, Keeps (taskSystem ι db₀) i (f r) m) :
    Keeps (taskSystem ι db₀) i (attempt msg.ack f) m := by
  refine Idle.stmt (fun _ _ _ _ => hf _ _) fun m' x a ws hr _ _ hx => ⟨fun _ => ?_, hf _ _⟩
  have hh := hr.stable (I := Holds i msg) (fun _ _ _ _ hij _ _ hs _ hh => hh.other hij hs) h
  simp only [exec, hh.current] at hx
  cases hx
  exact .ack hh

include h₀

section
variable (h : Busy i msg m)
include h

lemma nak_keeps (hf : ∀ r m, Keeps (taskSystem ι db₀) i (f r) m) :
    Keeps (taskSystem ι db₀) i (attempt msg.nak f) m := by
  refine Idle.stmt (fun _ _ _ _ => hf _ _) fun m' x a ws hr _ _ hx => ⟨fun _ => ?_, hf _ _⟩
  have hb := h.rely h₀ hr
  simp only [exec, hb.current] at hx
  rw [filter_some_pos (by simp [hb.waiting])] at hx
  cases hx
  exact .nak _ hb

/-- after a status update the session still has the message, and unless it was the last one, its
task is not completed -/
lemma update_keeps (hd : msg.data = some task) {deadline : Int}
    {status : TaskStatus} {result errMsg : Option String}
    (hf : ∀ r m, Holds i msg m → (status ≠ .completed → Busy i msg m) →
      Keeps (taskSystem ι db₀) i (f r) m) : Keeps (taskSystem ι db₀) i
      (attempt (updateTaskStatus deadline task.id status result errMsg) f) m := by
  refine Idle.stmt (fun e m' hr _ => ?_) fun m' x a ws hr _ _ hx => ?_
  · have hb := h.rely h₀ hr
    exact hf _ _ hb.toHolds fun _ => hb
  have hb := h.rely h₀ hr
  simp only [exec] at hx
  split at hx
  · cases hx
  cases ht : m'.db.tasks.find task.id with
  | none =>
    rw [ht] at hx
    cases hx
    exact silent (hf _ _ hb.toHolds fun _ => hb)
  | some t =>
    rw [ht] at hx
    cases hx
    have hid : t.id = task.id := find_task_id ht
    exact ⟨fun _ => .update hb hd hid,
      hf _ _ (hb.toHolds.publish i message_notMem_putTask) fun hs => hb.update hs⟩

lemma Busy.settled : Settled (taskSystem ι db₀) i (Busy i msg) m :=
  fun _ hr _ => h.rely h₀ hr

lemma runHandler_spec (hd : msg.data = some task) :
    Idle (taskSystem ι db₀) i (runHandler task.id) (fun _ => Busy i msg) m := by
  have hcall : Idle (taskSystem ι db₀) i (stmt (S := store) (.callHandler task.id) GoError.pg)
      (fun _ => Busy i msg) m := by
    rw [← attempt_ret (stmt _ _)]
    refine Idle.stmt (fun e m' hr _ => Idle.ret ((h.rely h₀ hr).settled h₀))
      fun m' x a ws hr _ _ hx => ?_
    cases hx
    have hb := h.rely h₀ hr
    have hb' : Busy i msg (m'.publish i [.execute task.id]) :=
      ⟨hb.toHolds.publish i List.not_mem_nil, hb.notCompleted⟩
    exact ⟨fun _ => .execute hb hd, Idle.ret (hb'.settled h₀)⟩
  refine Idle.bind hcall (fun _ m hR hs => ?_) fun _ _ _ hs => hs
  refine Idle.read (fun _ _ _ _ _ hx => ?_) (fun _ _ hr _ => Idle.ret (hs.stable hr))
    fun m' x r hr _ _ _ => ?_
  · cases hx; exact ⟨rfl, rfl⟩
  · cases r with
    | ok result | error text => exact Idle.ret (hs.stable hr)

lemma finishTask_keeps (hd : msg.data = some task) (deadline : Int)
    (r : Except GoError (Option String)) :
    Keeps (taskSystem ι db₀) i (finishTask msg task.id deadline r) m := by
  cases r with
  | error e =>
    refine update_keeps h₀ h hd fun _ m' _ hb => ?_
    exact nak_keeps h₀ (hb (by decide)) fun _ _ => Keeps.ret _
  | ok result =>
    exact update_keeps h₀ h hd fun _ m' hh _ => ack_keeps hh fun _ _ => Keeps.ret _

lemma processTask_keeps (hd : msg.data = some task) (handlers : List String)
    (deadline : Int) : Keeps (taskSystem ι db₀) i (processTask handlers msg task deadline) m := by
  refine update_keeps h₀ h hd fun r m' _ hb => ?_
  have hb := hb (by decide)
  cases r with
  | error e => exact nak_keeps h₀ hb fun _ _ => Keeps.ret _
  | ok _ =>
    show Keeps _ i (if task.type ∈ handlers then _ else _) m'
    by_cases ht : task.type ∈ handlers
    · rw [if_pos ht]
      exact Idle.attempt (runHandler_spec h₀ hb hd) fun r m hR hs =>
        finishTask_keeps h₀ (hs m (.refl m) hR) hd deadline r
    · rw [if_neg ht]
      exact update_keeps h₀ hb hd fun _ _ hh _ => ack_keeps hh fun _ _ => Keeps.ret _

lemma processMessage_keeps (handlers : List String) :
    Keeps (taskSystem ι db₀) i (processMessage handlers msg) m := by
  unfold processMessage
  cases hd : msg.data with
  | none => exact ack_keeps h.toHolds fun _ _ => Keeps.ret _
  | some task =>
    refine Idle.read (fun _ _ _ _ _ hx => ?_) (fun _ _ _ _ => Keeps.ret _)
      fun m' x now hr _ _ _ => ?_
    · cases hx; exact ⟨rfl, rfl⟩
    · exact processTask_keeps h₀ (h.rely h₀ hr) hd handlers _

end

omit h₀ in
lemma recoverTask_keeps {q : Stmt} (context : String) (g : Task → Int → Task)
    (hq : ∀ x₀ x db a ws, exec q x₀ x db = .ok (a, ws) →
      ws = updated (db.tasks.find id) fun t => g t x.now)
    (hg : ∀ t now, (g t now).id = t.id ∧ (g t now).status ≠ .completed)
    (ha : ∀ l m, undisturbed i (.run q) l m = true →
      (m.db.tasks.find id).all (fun t => t.status = .running) = true) :
    Keeps (taskSystem ι db₀) i (Op.query q context) m := by
  rw [← attempt_ret (Op.query q context)]
  refine Idle.stmt (fun _ _ _ _ => Keeps.ret _) fun m' x a ws _ _ hal hx =>
    ⟨fun hne => ?_, Keeps.ret _⟩
  have hrun := ha _ m' hal
  obtain rfl := hq _ _ _ _ _ hx
  cases ht : m'.db.tasks.find id with
  | none => rw [ht] at hne; exact absurd rfl hne
  | some t =>
    rw [ht] at hrun
    obtain ⟨hid, hs⟩ := hg t x.now
    exact .scan (by rw [find_task_id ht]; exact ht) (of_decide_eq_true hrun) hid hs

omit h₀ in
lemma affecting_keeps {context : String} {q : Op Bool} (h : Keeps (taskSystem ι db₀) i q m) :
    Keeps (taskSystem ι db₀) i (affecting context q) m := by
  refine Keeps.bind h fun b m => ?_
  cases b <;> exact Keeps.ret _

omit h₀ in
lemma recoverTasks_keeps (tasks : List Task) :
    Keeps (taskSystem ι db₀) i (recoverTasks tasks) m := by
  induction tasks generalizing m with
  | nil => exact Keeps.ret _
  | cons task tasks ih =>
    refine Keeps.attempt ?_ fun _ m => ih
    by_cases hr : maxTaskRetries ≤ task.retryCount
    · rw [if_pos hr]
      refine affecting_keeps (recoverTask_keeps _ (·.setFailed stuckTaskRecoveredMessage ·)
        (fun _ _ _ _ _ hx => by cases hx; rfl) (fun _ _ => ⟨rfl, ?_⟩) fun _ _ h => h)
      exact fun h => by cases h
    · rw [if_neg hr]
      refine affecting_keeps (recoverTask_keeps _ (fun t _ => t.reset)
        (fun _ _ _ _ _ hx => by cases hx; rfl) (fun _ _ => ⟨rfl, ?_⟩) fun _ _ h => h)
      exact fun h => by cases h

lemma TaskSession.run_keeps (handlers : List String) (session : TaskSession) :
    Keeps (taskSystem ι db₀) i (session.run handlers) m := by
  cases session with
  | delivery seq =>
    refine Idle.stmt (fun _ _ _ _ => Keeps.ret _) fun m' x a ws _ hR hal hx => ?_
    simp only [exec] at hx
    split at hx
    · rename_i msg hmsg
      split at hx
      · rename_i hdel
        cases hx
        -- a message that can be delivered and is not out is ready
        have hready : msg.state = .ready := by
          have hnw : (m'.db.stream.find seq).all (fun msg => msg.state ≠ .waiting) = true := hal
          rw [hmsg] at hnw
          obtain ⟨hna, -⟩ := of_decide_eq_true hdel
          have hnw := of_decide_eq_true hnw
          cases hs : msg.state with
          | ready => rfl
          | waiting => exact absurd hs hnw
          | acked => exact absurd hs hna
        have hm : m'.db.stream.find msg.seq = some msg := by
          rw [find_message_seq hmsg]; exact hmsg
        exact ⟨fun _ => .deliver _ hm hready,
          processMessage_keeps h₀ (busy_delivered (taskSystem_reach h₀ hR) hm hready _) handlers⟩
      · cases hx
    · cases hx
  | scan threshold =>
    refine Idle.read (fun _ _ _ _ _ hx => ?_) (fun _ _ _ _ => Keeps.ret _)
      fun m' x tasks _ _ _ _ => recoverTasks_keeps tasks
    cases hx; exact ⟨rfl, rfl⟩

end

/-! ## a completed task is final -/

/-- the completed tasks of `m` are completed in `m'`, and were not executed in between -/
def Kept (m m' : TMem ι) : Prop :=
  ∀ id, Completed m.db id →
    Completed m'.db id ∧ m'.db.executions.count id = m.db.executions.count id

lemma TaskStep.kept {ws : List Write} (h : TaskStep i m ws) : Kept m (m.publish i ws) := by
  intro id hc
  rw [publish_db]
  -- a row that is put is the row of another task
  have hput : ∀ {t : Task}, t.id ≠ id → Completed (m.db.apply (.putTask t)) id := fun ht =>
    (completed_apply fun hl => ht (Lock.task.inj (List.mem_singleton.mp hl)).symm).mpr hc
  cases h with
  | deliver _ _ _ | ack _ | nak _ _ => exact ⟨hc, rfl⟩
  | update hb hd hid =>
    exact ⟨hput fun he => hb.notCompleted _ hd (hid ▸ he ▸ hc), rfl⟩
  | @execute msg task hb hd =>
    refine ⟨hc, ?_⟩
    have hne : task.id ≠ id := fun he => hb.notCompleted _ hd (he ▸ hc)
    show (m.db.executions ++ [task.id]).count id = _
    rw [List.count_append, List.count_singleton, beq_eq_false_iff_ne.mpr hne]
    rfl
  | scan ht hr hid _ =>
    refine ⟨hput fun he => ?_, rfl⟩
    obtain ⟨t0, hf, hs⟩ := hc
    rw [← he, hid, ht] at hf
    cases hf
    rw [hr] at hs
    cases hs

variable [DecidableEq ι]

def taskStart (db₀ : Db) (handlers : List String) (sessions : ι → TaskSession) :
    State store ι (Except GoError Unit) :=
  State.init db₀ fun i => (sessions i).run handlers

/-- **A completed task is final, if nothing overtakes it.** In every interleaving in which a message
is delivered only when it is not out with a worker, and the scanner writes only while the task is
running, a completed task stays completed and its handler is not executed again. -/
theorem completed_final (db₀ : Db) (h₀ : OneMessage db₀) (handlers : List String)
    (sessions : ι → TaskSession) {s s' : State store ι (Except GoError Unit)}
    (h : Reaches (fun i r l m => undisturbed i r l m = true) (taskStart db₀ handlers sessions) s)
    (h' : Reaches (fun i r l m => undisturbed i r l m = true) s s') (id : String)
    (hc : Completed s.mem.db id) : Completed s'.mem.db id ∧
      s'.mem.db.executions.count id = s.mem.db.executions.count id := by
  refine Idle.adequate_rel (P := taskSystem ι db₀) (R := fun _ _ _ => True) (r := Kept) rfl
    (fun i => (sessions i).run_keeps h₀ handlers) (fun _ _ hc => ⟨hc, rfl⟩) ?_
    (fun _ _ _ _ _ hs => hs.kept) h h' id hc
  intro a b c hab hbc id hc
  obtain ⟨hb, he⟩ := hab id hc
  obtain ⟨hc', he'⟩ := hbc id hb
  exact ⟨hc', he'.trans he⟩

end

/-! ## the second delivery -/

def oneTask : Db where
  tasks := ⟨[⟨"t", "vm.create", .pending, none, none, 0, none, none⟩], List.pairwise_singleton _ _⟩
  stream := ⟨[⟨1, some ⟨"t", "vm.create"⟩, 0, .ready, 0⟩], List.pairwise_singleton _ _⟩
  executions := []

def twoDeliveries : Bool → TaskSession := fun _ => .delivery 1

/-- all requests of a session up to the completed status -/
def completing (i : Bool) (now : Int) : List (Bool × Label store) :=
  List.replicate 6 (i, .ev (.ok ⟨now, .ok none⟩))

def deliveriesStart : State store Bool (Except GoError Unit) :=
  taskStart oneTask ["vm.create"] twoDeliveries

/-- the first delivery, whose handler fails, and the second one -/
def retried : List (Bool × Label store) :=
  List.replicate 7 (true, .ev (.ok ⟨0, .error "no space left on device"⟩)) ++
    completing false ackWait

theorem completed_final_acked : ∃ s s', run deliveriesStart retried = some s ∧
      run s [(false, .ev (.ok ⟨ackWait, .ok none⟩))] = some s' ∧ s.mem.db.executions = ["t", "t"] ∧
      Completed s.mem.db "t" ∧ Completed s'.mem.db "t" ∧
      s'.mem.db.executions.count "t" = s.mem.db.executions.count "t" := by
  have h : (run deliveriesStart retried).isSome = true := by decide
  have h' : (run ((run deliveriesStart retried).get h)
    [(false, .ev (.ok ⟨ackWait, .ok none⟩))]).isSome = true := by decide +revert
  have hc : Completed ((run deliveriesStart retried).get h).mem.db "t" := by decide +revert
  refine ⟨_, _, run_get h, run_get h', by decide +revert, hc, ?_⟩
  exact completed_final oneTask ⟨by decide, by decide⟩ ["vm.create"] twoDeliveries
    (reaches_checked (run_get h) (by decide))
    (reaches_checked (run_get h') (by decide +revert)) "t" hc

/-- **A completed task is executed again.** The acknowledgement of the first delivery is lost, and
the message is delivered again after `ackWait`. -/
theorem task_executed_again : ∃ s s', Reaches always deliveriesStart s ∧ Reaches always s s' ∧
      Completed s.mem.db "t" ∧ s.mem.db.executions = ["t"] ∧
      ¬ Completed s'.mem.db "t" ∧ s'.mem.db.executions = ["t", "t"] := by
  have h : (run deliveriesStart (completing false 0 ++ [(false, .ev (.fail "timeout"))])).any
      (fun s => decide (Completed s.mem.db "t" ∧ s.mem.db.executions = ["t"]) &&
        (run s ((completing true ackWait).take 4)).any fun s' =>
          decide (¬ Completed s'.mem.db "t" ∧ s'.mem.db.executions = ["t", "t"])) = true := by
    decide
  obtain ⟨s, hs, hp⟩ := exists_reaches h
  obtain ⟨hc, hp⟩ := Bool.and_eq_true_iff.mp hp
  obtain ⟨s', hs', hp'⟩ := exists_reaches hp
  obtain ⟨hc, he⟩ := of_decide_eq_true hc
  obtain ⟨hc', he'⟩ := of_decide_eq_true hp'
  exact ⟨s, s', hs, hs', hc, he, hc', he'⟩

end VirtueStack.Tasks
