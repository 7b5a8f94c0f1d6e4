import VirtueStack.Agent.DiskNames
import VirtueStack.Backup.SnapshotRemoval

/-!
# Removing backups is safe where the code has nothing to lose
-/

namespace VirtueStack.Backup
open Txn BackupService Call Op Table List Option

variable {cl : Client} {db db₁ : Db} {b : Backup}

-- `simp` walks a call
attribute [local simp] Op.query Op.withContext Op.wrapping Op.foundIn Op.found Op.affected
Op.affecting Option.forall BackupRepository.deleteBackup

/-! ## rows -/

/-- nothing but rows of backups has gone -/
structure LessRows (db db₁ : Db) : Prop where
  same : db₁ = { db with backups := db₁.backups }
  rows : ∀ b ∈ db₁.backups.rows, b ∈ db.backups.rows

lemma lessRows_refl (db : Db) : LessRows db db := ⟨rfl, fun _ hb => hb⟩

lemma LessRows.data (h : LessRows db db₁) (b : Backup) (node : String) :
    b.data cl db₁ node = b.data cl db node := by
  rw [h.same]
  rfl

lemma LessRows.stored (h : LessRows db db₁) (b : Backup) : b.Stored cl db₁ ↔ b.Stored cl db := by
  rw [h.same]
  exact Iff.rfl

lemma mem_deleteBackup {id : String} : b ∈ (db.apply (.deleteBackup id)).backups.rows ↔
    b ∈ db.backups.rows ∧ b.id ≠ id := by
  show b ∈ db.backups.rows.filter _ ↔ _
  rw [mem_filter, decide_eq_true_iff]

lemma LessRows.delete (h : LessRows db db₁) (id : String) :
    LessRows db (db₁.apply (.deleteBackup id)) := by
  refine ⟨?_, fun b hb => h.rows b (mem_deleteBackup.mp hb).1⟩
  have hsame := h.same
  exact congrArg (fun d : Db => d.apply (.deleteBackup id)) hsame

lemma eq_of_id {b b' : Backup} (hb : b ∈ db.backups.rows) (hb' : b' ∈ db.backups.rows)
    (h : b.id = b'.id) :
    b = b' := eq_of_key hb hb' (mem_singleton_self _) (by rw [h]; exact mem_singleton_self _)

lemma find_backup (hb : b ∈ db.backups.rows) : db.backups.find b.id = some b :=
  find_of_mem hb

lemma mem_of_find {id : String} (h : db.backups.find id = some b) :
    b ∈ db.backups.rows ∧ b.id = id := by
  obtain ⟨hb, hid⟩ := find_some h
  exact ⟨hb, (mem_singleton.mp hid).symm⟩

/-- a row goes only if nothing of its backup is stored -/
def RowSafe (cl : Client) (q : Stmt) (e : Event store) (db : Db) : Prop :=
  ∀ b, Deletes b ⟨q, e, db⟩ → ¬ b.Stored cl db

lemma rowSafe_reads {q : Stmt} {e : Event store} {db : Db} (hq : q.reads = true) :
    RowSafe cl q e db := by
  rintro b ⟨rfl, -⟩
  cases hq

section
variable {A : Stmt → Event store → Db → Prop} {S : Backup → Prop}

/-- rows among those to remove have gone, and no other -/
structure Less (S : Backup → Prop) (db db₁ : Db) : Prop extends LessRows db db₁ where
  others : ∀ b ∈ db.backups.rows, ¬ S b → b ∈ db₁.backups.rows

lemma less_refl (db : Db) : Less S db db := ⟨lessRows_refl db, fun _ hb _ => hb⟩

lemma Less.delete (h : Less S db db₁) (hb : b ∈ db.backups.rows) (hS : S b) :
    Less S db (db₁.apply (.deleteBackup b.id)) := by
  refine ⟨h.toLessRows.delete b.id, fun b' hb' hno =>
    mem_deleteBackup.mpr ⟨h.others b' hb' hno, fun hid => ?_⟩⟩
  rw [eq_of_id hb' hb hid] at hno
  exact hno hS

lemma each_deleteRow (h : Less S db db₁) (hb : b ∈ db.backups.rows) (hS : S b)
    (hsafe : ¬ b.Stored cl db) : (BackupRepository.deleteBackup b.id).Each A (RowSafe cl)
    (fun _ (db' : Db) => Less S db db') db₁ := by
  have hrow : ∀ e, RowSafe cl (.deleteBackup b.id) e db₁ := by
    rintro e b' ⟨hq, hfind, -⟩
    have hid : b.id = b'.id := Stmt.deleteBackup.inj hq
    have hb' := h.rows b' (mem_of_find hfind).1
    rw [h.stored, ← eq_of_id hb hb' hid]
    exact hsafe
  have hstmt : (query (.deleteBackup b.id) ("deleting backup " ++ b.id)).Each A (RowSafe cl)
      (fun _ (db' : Db) => Less S db db') db₁ := by
    refine each_stmt.mpr fun e _ => ⟨hrow e, ?_⟩
    cases e with
    | fail text => exact h
    | ok x => exact h.delete hb hS
  refine hstmt.bind (fun done db' h' => ?_) fun _ _ h' => h'
  unfold affected
  split
  · exact h'
  · exact h'

lemma each_wrapping {α : Type} {I : Stmt → Event store → Db → Prop} {context : String} {c : Op α}
    {K : Db → Prop} (hc : c.Each A I (fun _ db' => K db') db₁) :
    (wrapping context c).Each A I (fun _ db' => K db') db₁ := by
  refine hc.attempt fun r db' h => ?_
  cases r with
  | ok a => exact h
  | error e => exact h

variable (hS : ∀ b, S b → b ∈ db.backups.rows ∧ ¬ b.Stored cl db)
include hS

lemma each_deleteRows {rows : List Backup} (hrows : ∀ b ∈ rows, S b) (h : Less S db db₁) :
    (deleteRows rows).Each A (RowSafe cl) (fun _ (db' : Db) => Less S db db') db₁ := by
  induction rows generalizing db₁ with
  | nil => exact h
  | cons b rows ih =>
    have hb := hrows b mem_cons_self
    exact (each_wrapping (each_deleteRow h (hS b hb).1 hb (hS b hb).2)).bind
      (fun _ _ h' => ih (fun b' hb' => hrows b' (mem_cons_of_mem _ hb')) h') fun _ _ h' => h'

lemma each_deleteExpired {rows : List Backup} (deleted : Int) (hrows : ∀ b ∈ rows, S b)
    (h : Less S db db₁) :
    (deleteExpired rows deleted).Each A (RowSafe cl) (fun _ (db' : Db) => Less S db db') db₁ := by
  induction rows generalizing db₁ deleted with
  | nil => exact h
  | cons b rows ih =>
    have hb := hrows b mem_cons_self
    exact (each_deleteRow h (hS b hb).1 hb (hS b hb).2).attempt
      fun _ _ h' => ih _ (fun b' hb' => hrows b' (mem_cons_of_mem _ hb')) h'

end

/-! ## rows that go -/

def LosesRow (cl : Client) (b : Backup) (q : Stmt) (e : Event store) (db : Db) : Prop :=
  Deletes b ⟨q, e, db⟩ ∧ b.Stored cl db

lemma fair_calls (s : Sent store) (h : Fair s) : OnlyCallsFail s.stmt s.event s.db := h.2

lemma can_deleteRow (h : b ∈ db.backups.rows) :
    Can (BackupRepository.deleteBackup b.id) db (.ok ()) (db.apply (.deleteBackup b.id)) := by
  have hq : Can (query (.deleteBackup b.id) ("deleting backup " ++ b.id)) db (.ok true)
      (db.apply (.deleteBackup b.id)) := by
    have hexec : exec (.deleteBackup b.id) calm calm db = .ok (true, [.deleteBackup b.id]) := by
      show Except.ok ((db.backups.find b.id).isSome, _) = _
      rw [find_backup h]
      rfl
    exact can_query (.deleteBackup b.id) calm rfl hexec
  exact hq.bind (can_ret _)

lemma mayIf_deleteRow (h : b ∈ db.backups.rows) (hst : b.Stored cl db) :
    (BackupRepository.deleteBackup b.id).MayIf OnlyCallsFail (LosesRow cl b) db :=
  MayIf.bind (mayIf_stmt (.ok calm) (onlyCallsFail_ok _ calm db) ⟨⟨rfl, find_backup h, rfl⟩, hst⟩)

variable {rows : List Backup} {r : Except GoError Unit} {db' : Db}

lemma less_step {x : Backup} (hids : ((x :: rows).map Backup.id).Nodup)
    (hrows : ∀ b ∈ x :: rows, b ∈ db₁.backups.rows) (h : LessRows db db₁) :
    (∀ b ∈ rows, b ∈ (db₁.apply (.deleteBackup x.id)).backups.rows) ∧ LessRows db
      (db₁.apply (.deleteBackup x.id)) := by
  refine ⟨fun b hb => mem_deleteBackup.mpr ⟨hrows b (mem_cons_of_mem _ hb), fun hid => ?_⟩,
    h.delete x.id⟩
  rw [map_cons, nodup_cons, ← hid] at hids
  exact hids.1 (mem_map_of_mem hb)

section
variable (hids : (rows.map Backup.id).Nodup) (hrows : ∀ b ∈ rows, b ∈ db₁.backups.rows)
  (h : LessRows db db₁) (hb : b ∈ rows) (hst : b.Stored cl db)
include hids hrows h hb hst

lemma mayIf_deleteRows : (deleteRows rows).MayIf OnlyCallsFail (LosesRow cl b) db₁ := by
  induction rows generalizing db₁ with
  | nil => cases hb
  | cons x rows ih =>
    rcases mem_cons.mp hb with rfl | hb
    · exact MayIf.bind
        (MayIf.attempt (mayIf_deleteRow (hrows b mem_cons_self) ((h.stored b).mpr hst)))
    · obtain ⟨hrows', h'⟩ := less_step hids hrows h
      exact (can_wrapping (can_deleteRow (hrows x mem_cons_self))).mayIf_bind fair_calls
        (ih hids.of_cons hrows' h' hb)

lemma mayIf_deleteExpired (deleted : Int) :
    (deleteExpired rows deleted).MayIf OnlyCallsFail (LosesRow cl b) db₁ := by
  induction rows generalizing db₁ deleted with
  | nil => cases hb
  | cons x rows ih =>
    rcases mem_cons.mp hb with rfl | hb
    · exact MayIf.attempt (mayIf_deleteRow (hrows b mem_cons_self) ((h.stored b).mpr hst))
    · obtain ⟨hrows', h'⟩ := less_step hids hrows h
      exact (can_deleteRow (hrows x mem_cons_self)).mayIf_attempt fair_calls
        (ih hids.of_cons hrows' h' hb _)

end

/-! ## the two removals of rows -/

lemma nodup_ids (db : Db) : (db.backups.rows.map Backup.id).Nodup :=
  nodup_map fun a b h => ⟨a.id, mem_singleton_self _, by rw [h]; exact mem_singleton_self _⟩

lemma nodup_sorted {p : Backup → Bool} {r : Backup → Backup → Prop} [DecidableRel r] :
    (((db.backups.rows.filter p).insertionSort r).map Backup.id).Nodup := by
  rw [((perm_insertionSort r _).map Backup.id).nodup_iff]
  exact (nodup_ids db).sublist (filter_sublist.map Backup.id)

lemma mem_backupsByVM {vmID : String} (h : b ∈ db.backupsByVM vmID) : b ∈ db.backups.rows :=
  (mem_filter.mp ((mem_insertionSort _).mp h)).1

lemma mem_expiredBackups {now : Int} :
    b ∈ db.expiredBackups now ↔ b ∈ db.backups.rows ∧ ∃ t ∈ b.expiresAt, t ≤ now := by
  unfold Db.expiredBackups
  rw [mem_insertionSort, mem_filter, decide_eq_true_iff]

lemma removesSafely_of {removal : Removal} (h : ∀ tr r db', (removal.op cl).Run db tr r db' →
      (∀ s ∈ tr, OnlyCallsFail s.stmt s.event s.db) → (∀ s ∈ tr, RowSafe cl s.stmt s.event s.db) ∧
        ∃ S : Backup → Prop, (∀ b ∈ db.backups.rows, S b → removal.Selects db tr b) ∧
          Less S db db') : removal.RemovesSafely cl db := by
  intro tr r db' hrun htr
  obtain ⟨hsafe, S, hS, hless⟩ := h tr r db' hrun htr
  refine ⟨fun s hs b hb => hsafe s hs b hb, fun b hb hno =>
    ⟨hless.others b hb fun hc => hno (hS b hb hc), ?_⟩⟩
  exact hless.data b

lemma not_mayIf_of_removesSafely {removal : Removal} {ok : Stmt → Prop}
    (hall : (removal.op cl).All ok) (h : removal.RemovesSafely cl db) :
    ¬ (removal.op cl).MayIf OnlyCallsFail (LosesRow cl b) db := by
  intro hmay
  obtain ⟨tr, r, db', hrun, htr, s, hs, hdel, hst⟩ := hmay.run hall fun q db =>
    ⟨.ok calm, onlyCallsFail_ok q calm db⟩
  exact (h tr r db' hrun htr).1 s hs b hdel hst

section
variable {vmID : String} {retention : Int}

lemma each_applyRetentionPolicy {A : Stmt → Event store → Db → Prop}
    (h : (Removal.applyRetentionPolicy vmID retention).Harmless cl db) :
    (applyRetentionPolicy vmID retention).Each A (RowSafe cl)
      (fun _ (db' : Db) => Less (fun b => 0 ≤ retention ∧
        b ∈ (db.backupsByVM vmID).drop retention.toNat) db db') db := by
  unfold applyRetentionPolicy
  split
  · exact less_refl db
  · next hneg =>
    have hlist : (BackupRepository.listBackupsByVM vmID).Each A (RowSafe cl)
        (Kept db fun rows => rows = db.backupsByVM vmID) db := by
      refine kept_query (q := .listBackupsByVM vmID) (fun _ _ _ => rowSafe_reads) rfl
        fun e a ha => ?_
      cases e with
      | fail text => cases ha
      | ok x => cases ha; rfl
    refine (kept_wrapping hlist).kept_bind (fun rows hrows => ?_) fun _ => less_refl db
    unfold retain
    split
    · exact less_refl db
    · rw [hrows]
      refine each_deleteRows (fun b hb => ?_) (fun b hb => ⟨not_lt.mp hneg, hb⟩) (less_refl db)
      exact ⟨mem_backupsByVM (mem_of_mem_drop hb.2), h hb.1 b hb.2⟩

lemma all_deleteRows (rows : List Backup) : (deleteRows rows).All fun _ : Stmt => True := by
  induction rows with
  | nil => trivial
  | cons b rows ih => simp [deleteRows, ih]

lemma all_applyRetentionPolicy :
    (applyRetentionPolicy vmID retention).All fun _ : Stmt => True := by
  simp [applyRetentionPolicy, BackupRepository.listBackupsByVM, retain, all_deleteRows]

lemma mayIf_applyRetentionPolicy (hpos : 0 ≤ retention)
    (hb : b ∈ (db.backupsByVM vmID).drop retention.toNat) (hst : b.Stored cl db) :
    (applyRetentionPolicy vmID retention).MayIf OnlyCallsFail (LosesRow cl b) db := by
  unfold applyRetentionPolicy
  rw [if_neg (not_lt.mpr hpos)]
  have hlist : Can (BackupRepository.listBackupsByVM vmID) db (.ok (db.backupsByVM vmID)) db :=
    can_read (.listBackupsByVM vmID) calm rfl rfl
  refine (can_wrapping hlist).mayIf_bind fair_calls ?_
  have hlen := length_pos_of_mem hb
  rw [length_drop] at hlen
  unfold retain
  rw [if_neg (by omega)]
  refine mayIf_deleteRows ?_ (fun x hx => mem_backupsByVM (mem_of_mem_drop hx))
    (lessRows_refl db) hb hst
  exact nodup_sorted.sublist ((drop_sublist _ _).map Backup.id)

lemma removesSafely_applyRetentionPolicy :
    (Removal.applyRetentionPolicy vmID retention).RemovesSafely cl db ↔
    (Removal.applyRetentionPolicy vmID retention).Harmless cl db := by
  constructor
  · intro h hpos b hb hst
    exact not_mayIf_of_removesSafely all_applyRetentionPolicy h
      (mayIf_applyRetentionPolicy hpos hb hst)
  · intro h
    refine removesSafely_of fun tr r db' hrun htr => ?_
    obtain ⟨hsafe, hless⟩ := hrun.each_of htr (each_applyRetentionPolicy h)
    exact ⟨hsafe, _, fun _ _ hb => hb, hless⟩

end

def ExpiredAt (db : Db) (t : Int) (b : Backup) : Prop := b ∈ db.expiredBackups t

def BackupService.processExpiredAt (t : Int) : Op Int := do
  let expired ← wrapping "listing expired backups" (BackupRepository.listExpiredBackups t)
  deleteExpired expired 0

variable {A : Stmt → Event store → Db → Prop}

lemma each_processExpiredAt (t : Int) (h : Removal.processExpiredBackups.Harmless cl db) :
    (processExpiredAt t).Each A (RowSafe cl)
    (fun _ (db' : Db) => Less (ExpiredAt db t) db db') db := by
  have hlist : (BackupRepository.listExpiredBackups t).Each A (RowSafe cl)
      (Kept db fun rows => rows = db.expiredBackups t) db := by
    refine kept_query (q := .listExpiredBackups t) (fun _ _ _ => rowSafe_reads) rfl fun e a ha => ?_
    cases e with
    | fail text => cases ha
    | ok x => cases ha; rfl
  refine (kept_wrapping hlist).kept_bind (fun rows hrows => ?_) fun _ => less_refl db
  rw [hrows]
  refine each_deleteExpired (fun b hb => ?_) 0 (fun b hb => hb) (less_refl db)
  obtain ⟨hb, u, hu, -⟩ := mem_expiredBackups.mp hb
  exact ⟨hb, h b hb (isSome_of_mem hu)⟩

lemma mayIf_processExpired {t : Int} (hb : b ∈ db.expiredBackups t) (hst : b.Stored cl db) :
    (Removal.processExpiredBackups.op cl).MayIf OnlyCallsFail (LosesRow cl b) db := by
  have hlist : Can (BackupRepository.listExpiredBackups t) db (.ok (db.expiredBackups t)) db :=
    can_read (.listExpiredBackups t) calm rfl rfl
  refine MayIf.bind
    ((can_now t "").mayIf_bind fair_calls ((can_wrapping hlist).mayIf_bind fair_calls ?_))
  exact mayIf_deleteExpired nodup_sorted (fun x hx => (mem_expiredBackups.mp hx).1)
    (lessRows_refl db) hb hst 0

lemma all_deleteExpired (rows : List Backup) (deleted : Int) :
    (deleteExpired rows deleted).All fun _ : Stmt => True := by
  induction rows generalizing deleted with
  | nil => trivial
  | cons b rows ih => simp [deleteExpired, ih]

lemma all_processExpired : (Removal.processExpiredBackups.op cl).All fun _ : Stmt => True := by
  simp [Removal.op, processExpiredBackups, now, BackupRepository.listExpiredBackups,
    all_deleteExpired]

section
variable {tr : List (Sent store)} {db' : Db} {r : Except GoError Int}

lemma lists_of_run {t : Int} (h : (processExpiredAt t).Run db tr r db') :
    ∃ s ∈ tr, s.stmt = .listExpiredBackups t := by
  obtain ⟨tr1, _, _, tr2, h1, -, rfl⟩ := run_attempt h
  obtain ⟨tr3, _, _, tr4, h3, -, rfl⟩ := run_attempt h1
  obtain ⟨e, rfl, -⟩ := run_stmt h3
  exact ⟨_, mem_append_left _ (mem_append_left _ mem_cons_self), rfl⟩

lemma safe_processExpired (h : Removal.processExpiredBackups.Harmless cl db)
    (hrun : processExpiredBackups.Run db tr r db') : (∀ s ∈ tr, RowSafe cl s.stmt s.event s.db) ∧
      ∃ S : Backup → Prop,
      (∀ b ∈ db.backups.rows, S b → Removal.processExpiredBackups.Selects db tr b) ∧
        Less S db db' := by
  rcases run_bind hrun with ⟨tr1, t, db₁, tr2, hnow, hrest, rfl⟩ | ⟨e, hnow, -⟩
  · obtain ⟨e, rfl, -, rfl⟩ := run_stmt hnow
    rw [view_reads rfl] at hrest
    obtain ⟨hsafe, hless⟩ := hrest.each (each_processExpiredAt t.1 h)
    obtain ⟨s, hs, hlist⟩ := lists_of_run hrest
    refine ⟨fun s' hs' => ?_, ExpiredAt db t.1, fun b _ hb => ?_, hless⟩
    · rcases mem_cons.mp hs' with rfl | hs'
      · exact rowSafe_reads rfl
      · exact hsafe s' hs'
    · exact ⟨s, mem_cons_of_mem _ hs, t.1, hlist, (mem_expiredBackups.mp hb).2⟩
  · obtain ⟨e', rfl, -, rfl⟩ := run_stmt hnow
    refine ⟨fun s' hs' => ?_, fun _ => False, fun _ _ hb => hb.elim, ?_⟩
    · rw [mem_singleton.mp hs']
      exact rowSafe_reads rfl
    · rw [view_reads rfl]
      exact less_refl db

end

lemma removesSafely_processExpired : Removal.processExpiredBackups.RemovesSafely cl db ↔
    Removal.processExpiredBackups.Harmless cl db := by
  constructor
  · intro h b hb hexp hst
    obtain ⟨t, ht⟩ := isSome_iff_exists.mp hexp
    exact not_mayIf_of_removesSafely all_processExpired h
      (mayIf_processExpired (mem_expiredBackups.mpr ⟨hb, t, ht, le_refl t⟩) hst)
  · intro h
    refine removesSafely_of fun tr r db' hrun _ => ?_
    rcases run_bind hrun with ⟨tr1, n, db₁, tr2, h1, h2, rfl⟩ | ⟨e, h1, -⟩
    · cases h2
      rw [append_nil]
      exact safe_processExpired h h1
    · exact safe_processExpired h h1

/-! ## the removal of one backup -/

def Stmt.KeepsRows (q : Stmt) : Prop := ∀ id, q ≠ .deleteBackup id

lemma keepsRows_reads (q : Stmt) (hq : q.reads = true) : q.KeepsRows := by
  rintro id rfl
  cases hq

lemma rowSafe_each {α : Type} {Q : Except GoError α → Db → Prop} {c : Op α}
    (hall : c.All Stmt.KeepsRows) (hc : c.Each A (fun _ _ _ => True) Q db) :
    c.Each A (RowSafe cl) Q db := by
  have hkeeps : c.Each A (RowSafe cl) (fun _ _ => True) db :=
    Each.of_all (K := fun _ => True) hall
      (fun q hq e db _ _ => ⟨fun b hb => absurd hb.1 (hq b.id), trivial⟩) trivial
  exact Prog.Each.imp (fun _ _ _ h => h.1) (fun _ _ h => h.2) (Prog.Each.and hkeeps hc)

section
variable {vm : Compute.VM} {nodeID : String}

lemma all_deleteStoredOn : (deleteStoredOn cl b vm nodeID).All Stmt.KeepsRows := by
  have hagent : ∀ q, Agent.Only (fun _ => True) q → Stmt.KeepsRows (.agent nodeID q) :=
    fun q _ id hq => (by cases hq)
  have hqcow : ∀ path snap, (NodeAgent.deleteQCOWSnapshot cl nodeID vm.id path snap).All
    Stmt.KeepsRows :=
    fun _ _ => all_call keepsRows_reads hagent (Agent.all_deleteDiskSnapshot trivial)
  have hrbd : ∀ snap, (NodeAgent.deleteSnapshot cl nodeID b.vmID snap).All Stmt.KeepsRows :=
    fun _ => all_call keepsRows_reads hagent (Agent.all_deleteSnapshot _ trivial)
  have hfile : ∀ path, (NodeAgent.deleteQCOWBackupFile cl nodeID path).All Stmt.KeepsRows :=
    fun _ => all_deleteBackupFile keepsRows_reads _ _ _
  unfold deleteStoredOn deleteRBDStored deleteQCOWStored deleteQCOWSnapshotOf
  cases qcowFile b <;> cases b.rbdSnapshot <;> cases b.snapshotName <;> simp [hfile, hqcow, hrbd]

lemma all_deleteStored (r : Except GoError Compute.VM) :
    (deleteStored cl b r).All Stmt.KeepsRows := by
  cases r with
  | error e => trivial
  | ok vm =>
    show (deleteStoredAt cl b vm vm.nodeID).All _
    cases vm.nodeID with
    | none => trivial
    | some nodeID => exact all_deleteStoredOn

lemma kept_deleteQCOWBackupFile (path : String) :
    (NodeAgent.deleteQCOWBackupFile cl nodeID path).Each A (fun _ _ _ => True)
    (Kept db fun _ => False) db := by
  refine (kept_call (Q := Agent.Refused) fun node _ => ?_).mono fun r db' h => ⟨h.1, fun a ha => ?_⟩
  · unfold Agent.deleteVM
    rw [Agent.Job.require_true (by simp)]
    exact ⟨_, rfl⟩
  · obtain ⟨e, he⟩ := h.2 a ha
    cases he

end

/-- the rows and the data of the others are there; if it has gone well, the data of the backup is
gone -/
structure Gone (cl : Client) (db : Db) (b : Backup) (r : Except GoError Unit) (db' : Db) :
    Prop where
  backups : db'.backups = db.backups
  others : ∀ other ∈ db.backups.rows, other.id ≠ b.id → ∀ node, other.data cl db' node =
    other.data cl db node
  gone : ∀ a, r = .ok a → ¬ b.Stored cl db'

lemma gone_refl (h : ∀ a, r = .ok a → ¬ b.Stored cl db) : Gone cl db b r db :=
  ⟨rfl, fun _ _ _ _ => rfl, h⟩

lemma gone_error (e : GoError) : Gone cl db b (.error e) db := gone_refl fun a ha => (by cases ha)

lemma Gone.error (h : Gone cl db b r db') (e : GoError) : Gone cl db b (.error e) db' :=
  ⟨h.backups, h.others, fun a ha => (by cases ha)⟩

section
variable {A : Stmt → Event store → Db → Prop} {vm : Compute.VM} {nodeID : String}

lemma gone_wrapping {context : String} {c : Op Unit}
    (hc : c.Each A (fun _ _ _ => True) (Gone cl db b) db) :
    (wrapping context c).Each A (fun _ _ _ => True) (Gone cl db b) db := by
  refine hc.attempt fun r db' h => ?_
  cases r with
  | ok a => exact h
  | error e => exact h.error _

section
variable (hnode : (db.vm b.vmID).bind Compute.VM.nodeID = some nodeID)
include hnode

lemma gone_deleteRBDStored (h : OneSnapshot cl db nodeID b) :
    (deleteRBDStored cl b nodeID).Each A (fun _ _ _ => True) (Gone cl db b) db := by
  unfold OneSnapshot at h
  unfold deleteRBDStored
  cases hname : b.rbdSnapshot with
  | none =>
    rw [hname] at h
    exact gone_refl fun _ _ => h
  | some name =>
    rw [hname] at h
    refine gone_wrapping (each_deleteSnapshot.mono fun r db' hr => ?_)
    rcases hr with ⟨rfl, e, rfl⟩ | hafter
    · exact gone_error e
    · obtain ⟨p, hp, rfl⟩ := map_eq_some_iff.mp hafter
      obtain ⟨hgone, hothers⟩ := (sole_iff hp hnode).mp (h p hp)
      exact ⟨rfl, hothers, fun _ _ => hgone⟩

lemma gone_deleteStoredOn (h : (qcowFile b).isSome = true ∨ OneSnapshot cl db nodeID b) :
    (deleteStoredOn cl b vm nodeID).Each A (fun _ _ _ => True) (Gone cl db b) db := by
  unfold deleteStoredOn
  cases hfile : qcowFile b with
  | some path =>
    exact (kept_wrapping (kept_deleteQCOWBackupFile path)).kept_bind
      (fun _ hno => hno.elim) gone_error
  | none =>
    rw [hfile] at h
    exact gone_deleteRBDStored hnode (h.resolve_left fun hc => (by cases hc))

end

lemma each_getVM (id : String) : (VMRepository.getByID id).Each OnlyCallsFail (fun _ _ _ => True)
    (fun r (db' : Db) => db' = db ∧ r.toOption = db.vm id) db := by
  have hq : (query (.getVM id) ("getting VM " ++ id)).Each OnlyCallsFail (fun _ _ _ => True)
      (fun r (db' : Db) => db' = db ∧ r = .ok (db.vm id)) db := by
    refine (each_stmt (S := store) (q := .getVM id)).mpr ?_
    rintro e ⟨x, rfl⟩
    exact ⟨trivial, rfl, rfl⟩
  refine hq.bind (fun found db' h => ?_) fun e db' h => (by cases h.2)
  obtain ⟨hdb, h⟩ := h
  cases h
  rw [hdb]
  cases db.vm id with
  | none | some vm => exact ⟨rfl, rfl⟩

lemma gone_deleteStored (h : HarmlessRow cl db b) :
    (attempt (VMRepository.getByID b.vmID) (deleteStored cl b)).Each OnlyCallsFail
      (fun _ _ _ => True) (Gone cl db b) db := by
  refine (each_getVM b.vmID).attempt fun r db' hr => ?_
  obtain ⟨rfl, hr⟩ := hr
  unfold HarmlessRow at h
  rw [← hr] at h
  cases r with
  | error e => exact gone_refl fun _ _ => h
  | ok vm =>
    change HarmlessAt cl db' b vm.nodeID at h
    show (deleteStoredAt cl b vm vm.nodeID).Each _ _ _ _
    cases hnode : vm.nodeID with
    | none =>
      rw [hnode] at h
      exact gone_refl fun _ _ => h
    | some nodeID =>
      rw [hnode] at h
      refine gone_deleteStoredOn ?_ h
      rw [← hr]
      exact hnode

end

/-- one backup is gone, and the others are as they were -/
structure OneLess (cl : Client) (db : Db) (id : String) (db' : Db) : Prop where
  rows : ∀ b ∈ db.backups.rows, b.id ≠ id → b ∈ db'.backups.rows
  data : ∀ b ∈ db.backups.rows, b.id ≠ id → ∀ node, b.data cl db' node = b.data cl db node

lemma oneLess_refl (id : String) : OneLess cl db id db := ⟨fun _ hb _ => hb, fun _ _ _ _ => rfl⟩

lemma Gone.oneLess (h : Gone cl db b r db') : OneLess cl db b.id db' := by
  refine ⟨fun b' hb' _ => ?_, h.others⟩
  rw [h.backups]
  exact hb'

section
variable {A : Stmt → Event store → Db → Prop} {id : String}

lemma kept_foundBackup : (attempt (BackupRepository.getBackupByID id) (backupFound id)).Each A
    (RowSafe cl) (Kept db fun b => db.backups.find id = some b) db := by
  have hget : (BackupRepository.getBackupByID id).Each A (RowSafe cl)
      (Kept db fun b => db.backups.find id = some b) db := by
    refine kept_found (P := fun found => db.backups.find id = found)
      (kept_query (q := .getBackup id) (fun _ _ _ => rowSafe_reads) rfl fun e a ha => ?_)
    cases e with
    | fail text => cases ha
    | ok x => cases ha; rfl
  refine hget.attempt fun r db' h => ?_
  rw [h.1]
  cases r with
  | ok b => exact ⟨rfl, fun a ha => h.2 a (by cases ha; rfl)⟩
  | error e =>
    by_cases hnf : e.is .notFound = true
    · rw [show backupFound id (.error e) = _ from if_pos hnf]
      exact ⟨rfl, fun a ha => (by cases ha)⟩
    · rw [show backupFound id (.error e) = _ from if_neg hnf]
      exact ⟨rfl, fun a ha => (by cases ha)⟩

lemma each_deleteOne (hb : db.backups.find id = some b) (h : Gone cl db b (.ok ()) db₁) :
    (wrapping "deleting backup" (BackupRepository.deleteBackup id)).Each A (RowSafe cl)
      (fun _ (db' : Db) => OneLess cl db id db') db₁ := by
  have hid := (mem_of_find hb).2
  have hone : OneLess cl db id db₁ := by
    rw [← hid]
    exact h.oneLess
  have hstmt : (query (.deleteBackup id) ("deleting backup " ++ id)).Each A (RowSafe cl)
      (fun _ (db' : Db) => OneLess cl db id db') db₁ := by
    refine each_stmt.mpr fun e _ => ⟨?_, ?_⟩
    · rintro b' ⟨hq, hfind, -⟩
      have hid' : id = b'.id := Stmt.deleteBackup.inj hq
      change db₁.backups.find b'.id = some b' at hfind
      rw [h.backups, ← hid', hb] at hfind
      cases hfind
      exact h.gone () rfl
    · cases e with
      | fail text => exact hone
      | ok x => exact ⟨fun b hb hid => mem_deleteBackup.mpr ⟨hone.rows b hb hid, hid⟩,
          fun b hb hid node => (((lessRows_refl _).delete _).data b node).trans
          (hone.data b hb hid node)⟩
  refine each_wrapping (hstmt.bind (fun done db' h' => ?_) fun _ _ h' => h')
  unfold affected
  split
  · exact h'
  · exact h'

lemma each_deleteBackup (h : (Removal.deleteBackup id).Harmless cl db) :
    (deleteBackup cl id).Each OnlyCallsFail (RowSafe cl)
    (fun _ (db' : Db) => OneLess cl db id db') db := by
  refine kept_foundBackup.kept_bind (fun b hb => ?_) fun _ => oneLess_refl id
  have hid := (mem_of_find hb).2
  have hall : (attempt (VMRepository.getByID b.vmID) (deleteStored cl b)).All Stmt.KeepsRows :=
    All.attempt (all_getVM keepsRows_reads b.vmID) all_deleteStored
  refine (rowSafe_each hall (gone_deleteStored (h b hb))).bind
    (fun _ db₁ hgone => each_deleteOne hb hgone) fun e db₁ hgone => ?_
  rw [← hid]
  exact hgone.oneLess

/-! ### the other direction -/

lemma can_foundBackup (hb : db.backups.find id = some b) :
    Can (attempt (BackupRepository.getBackupByID id) (backupFound id)) db (.ok b) db := by
  have hget : Can (BackupRepository.getBackupByID id) db (.ok b) db := by
    refine can_found (can_read (.getBackup id) calm rfl ?_)
    show Except.ok (db.backups.find id, []) = _
    rw [hb]
  exact hget.attempt (can_ret _)

lemma can_deleteStored_none (h : (db.vm b.vmID).bind Compute.VM.nodeID = none) :
    Can (attempt (VMRepository.getByID b.vmID) (deleteStored cl b)) db (.ok ()) db := by
  cases hvm : db.vm b.vmID with
  | none =>
    have hq : Can (query (.getVM b.vmID) ("getting VM " ++ b.vmID)) db (.ok none) db := by
      refine can_read (.getVM b.vmID) calm rfl ?_
      show Except.ok (db.vm b.vmID, []) = _
      rw [hvm]
    have hget : Can (VMRepository.getByID b.vmID) db
        (.error (.wrap ("getting VM " ++ b.vmID) (.sentinel .notFound))) db := hq.bind (can_ret _)
    exact hget.attempt (can_ret _)
  | some vm =>
    rw [hvm] at h
    refine (can_getVM hvm).attempt ?_
    show Can (deleteStoredAt cl b vm vm.nodeID) db _ db
    rw [show vm.nodeID = none from h]
    exact can_ret _

variable {db' : Db}

lemma can_deleteStored_some {nodeID : String}
    (h : (db.vm b.vmID).bind Compute.VM.nodeID = some nodeID)
    (hfile : qcowFile b = none) (hcan : Can (deleteRBDStored cl b nodeID) db (.ok ()) db') :
    Can (attempt (VMRepository.getByID b.vmID) (deleteStored cl b)) db (.ok ()) db' := by
  obtain ⟨vm, hvm, hnode⟩ := bind_eq_some_iff.mp h
  refine (can_getVM hvm).attempt ?_
  show Can (deleteStoredAt cl b vm vm.nodeID) db _ db'
  rw [hnode]
  show Can (deleteStoredOn cl b vm nodeID) db _ db'
  unfold deleteStoredOn
  rw [hfile]
  exact hcan

lemma all_deleteBackup : (deleteBackup cl id).All fun _ : Stmt => True := by
  have hstored : ∀ b r, (deleteStored cl b r).All fun _ : Stmt => True :=
    fun b r => Prog.All.mono (fun _ _ => trivial) (all_deleteStored r)
  simp [deleteBackup, BackupRepository.getBackupByID, backupFound, VMRepository.getByID, hstored]

section
variable (h : (Removal.deleteBackup id).RemovesSafely cl db) (hb : db.backups.find id = some b)
  (hbackups : db'.backups = db.backups)
  (hcan : Can (attempt (VMRepository.getByID b.vmID) (deleteStored cl b)) db (.ok ()) db')
include h hb hbackups hcan

lemma not_stored_of_removesSafely : ¬ b.Stored cl db' := by
  intro hst
  obtain ⟨hmem, rfl⟩ := mem_of_find hb
  refine not_mayIf_of_removesSafely all_deleteBackup h ((can_foundBackup hb).mayIf_bind fair_calls
    (hcan.mayIf_bind fair_calls (MayIf.attempt (mayIf_deleteRow ?_ hst))))
  rw [hbackups]
  exact hmem

lemma others_of_removesSafely :
    ∀ other ∈ db.backups.rows, other.id ≠ id → ∀ node, other.data cl db' node =
      other.data cl db node := by
  obtain ⟨hmem, rfl⟩ := mem_of_find hb
  rw [← hbackups] at hmem
  have hall : Can (deleteBackup cl b.id) db (.ok ()) (db'.apply (.deleteBackup b.id)) :=
    (can_foundBackup hb).bind (hcan.bind (can_wrapping (can_deleteRow hmem)))
  obtain ⟨tr, hrun, htr⟩ := hall
  intro other hother hid node
  have hsame := ((h tr _ _ hrun fun s hs => (htr s hs).2).2 other hother hid).2 node
  rw [← hsame, ((lessRows_refl db').delete b.id).data]

end

lemma harmless_of_removesSafely (h : (Removal.deleteBackup id).RemovesSafely cl db) :
    (Removal.deleteBackup id).Harmless cl db := by
  intro b hb
  unfold HarmlessRow
  cases hnode : (db.vm b.vmID).bind Compute.VM.nodeID with
  | none => exact not_stored_of_removesSafely h hb rfl (can_deleteStored_none hnode)
  | some nodeID =>
    cases hfile : qcowFile b with
    | some path => exact .inl (by rw [hfile]; rfl)
    | none =>
      refine .inr ?_
      unfold OneSnapshot
      cases hname : b.rbdSnapshot with
      | none =>
        refine not_stored_of_removesSafely h hb rfl (can_deleteStored_some hnode hfile ?_)
        unfold deleteRBDStored
        rw [hname]
        exact can_ret _
      | some name =>
        intro p hp
        have hcan : Can (deleteRBDStored cl b nodeID) db (.ok ())
            (db.apply (.host nodeID (without p))) := by
          unfold deleteRBDStored
          rw [hname]
          exact can_wrapping (can_deleteSnapshot (map_eq_some_iff.mpr ⟨p, hp, rfl⟩))
        have hstored := can_deleteStored_some hnode hfile hcan
        refine (sole_iff hp hnode).mpr ⟨not_stored_of_removesSafely h hb rfl hstored, ?_⟩
        rw [(mem_of_find hb).2]
        exact others_of_removesSafely h hb rfl hstored

end

/-- **A removal never leaves data behind without its row, and never touches another backup, exactly
where it has nothing to lose.** -/
theorem removesSafely_iff (removal : Removal) : removal.RemovesSafely cl db ↔
    removal.Harmless cl db := by
  cases removal with
  | deleteBackup id =>
    refine ⟨harmless_of_removesSafely, fun h tr r db' hrun htr => ?_⟩
    obtain ⟨hsafe, hone⟩ := hrun.each_of htr (each_deleteBackup h)
    exact ⟨fun s hs b hb => hsafe s hs b hb, fun b hb hid =>
      ⟨hone.rows b hb hid, hone.data b hb hid⟩⟩
  | applyRetentionPolicy vmID retention => exact removesSafely_applyRetentionPolicy
  | processExpiredBackups => exact removesSafely_processExpired

/-- an expired backup whose snapshot is in the image of the VM -/
def expiredBackup : Backup where
  id := "b"
  vmID := "v"
  method := .full
  source := "manual"
  adminScheduleID := none
  storageBackend := "ceph"
  rbdSnapshot := some "s"
  filePath := none
  snapshotName := none
  storagePath := none
  sizeBytes := none
  status := .completed
  createdAt := 0
  expiresAt := some 0

def withExpired : Db :=
  { oneVM "ceph" ⟨fun _ => none, fun _ => some ⟨[], 0, [⟨"s", [], false⟩], none⟩, []⟩ with
    backups := empty.insert expiredBackup }

theorem expired_row_lost :
    ¬ Removal.processExpiredBackups.RemovesSafely (clientOf Agent.cephNode) withExpired := by
  rw [removesSafely_processExpired]
  intro h
  refine h expiredBackup mem_cons_self rfl ⟨"n", fun n hn => ?_, [], mem_cons_self⟩
  exact Option.some.inj hn

end VirtueStack.Backup
