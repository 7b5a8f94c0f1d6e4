import VirtueStack.Backup.Removal

/-!
# Removing a snapshot through the agent
-/

namespace VirtueStack.Backup
open Txn Call List Option Agent

variable {A : Stmt → Event store → Db → Prop} {α : Type} {db : Db} {after : Option Db}
  {nodeID : String}

/-- all is as it was, and it has failed; or the state is the one after -/
def Removes (db : Db) (after : Option Db) (r : Except GoError α) (db' : Db) : Prop :=
  db' = db ∧ (∃ e, r = .error e) ∨ after = some db'

lemma removes_error (e : GoError) : Removes db after (.error e : Except GoError α) db :=
  .inl ⟨rfl, e, rfl⟩

/-! ## on the host -/

lemma embed_reads_bind {β : Type} {c : Agent.Job β} {f : β → Agent.Job α}
    {Q : Except GoError α → Db → Prop} (hc : c.All (Agent.Only fun _ => False))
    (hf : ∀ a, ((f a).embed (onNode nodeID)).Each A (fun _ _ _ => True) Q db)
    (herr : ∀ e, Q (.error e) db) :
    ((c >>= f).embed (onNode nodeID)).Each A (fun _ _ _ => True) Q db := by
  rw [embed_bind]
  exact (kept_embed (kept_reads hc)).kept_bind (fun a _ => hf a) herr

variable {context : String} {c : Agent.Job α}

lemma removes_attempt {f : Except GoError α → Agent.Job α} (hok : ∀ a, f (.ok a) = Call.pure a)
    (herr : ∀ e, ∃ e', f (.error e) = fail e')
    (hc : (c.embed (onNode nodeID)).Each A (fun _ _ _ => True) (Removes db after) db) :
    ((c.attempt f).embed (onNode nodeID)).Each A (fun _ _ _ => True) (Removes db after) db := by
  rw [embed_attempt]
  refine hc.attempt fun r db' h => ?_
  cases r with
  | ok a =>
    rw [hok]
    exact h
  | error e =>
    obtain ⟨e', he⟩ := herr e
    rw [he]
    exact h.imp (fun h => ⟨h.1, _, rfl⟩) id

lemma removes_cmd {q : Cmd} (hq : ∀ x a ws, Agent.exec q x x (db.hosts nodeID) = .ok (a, ws) →
      after = some (store.view db (ws.map (.host nodeID)))) :
    ((cmd context q).embed (onNode nodeID)).Each A (fun _ _ _ => True) (Removes db after) db := by
  refine each_embed_stmt (L := onNode nodeID) (q := q) ?_
  intro e _
  refine ⟨trivial, ?_⟩
  show Removes db after _ (store.view db (store.answer (.agent nodeID q) db e).2)
  rw [(answer_agent nodeID q db e).2]
  cases e with
  | fail text => exact .inl ⟨rfl, _, rfl⟩
  | ok x =>
    show Removes db after ((Agent.store.answer q (db.hosts nodeID) (.ok x.host)).1.mapError _)
      (store.view db ((Agent.store.answer q (db.hosts nodeID) (.ok x.host)).2.map _))
    cases hx : Agent.exec q x.host x.host (db.hosts nodeID) with
    | error err =>
      rw [Store.answer_of_error hx]
      exact .inl ⟨rfl, _, rfl⟩
    | ok p =>
      rw [Store.answer_of_ok hx]
      exact .inr (hq _ _ _ hx)

/-- the write that removes a snapshot -/
def without (p : Obj × Image × Snap) : Agent.Write :=
  .object p.1 (some { p.2.1 with snaps := p.2.1.snaps.erase p.2.2 })

/-- the state after the agent has removed a snapshot of the disk, if it can -/
def withoutSnapshot (cl : Client) (db : Db) (nodeID vmID name : String) : Option Db :=
  (removable cl db nodeID vmID name).map fun p => db.apply (.host nodeID (without p))

section
variable {h : Host} {vmID name : String} {x : Agent.Inp}

variable {obj : Obj}

lemma removableSnap_eq {storage : StorageBackend} {im : Image} {s : Snap}
    (hobj : diskObject vmID storage = some obj) (him : h.objects obj = some im)
    (hs : im.snap name = some s)
    (hbusy : isBusy s storage = false) : removableSnap storage h vmID name = some (obj, im, s) := by
  unfold removableSnap
  rw [hobj, bind_some, him, bind_some, hs, bind_some, if_neg (by rw [hbusy]; decide)]

lemma exec_removeSnapshot (m : RBDManager) {a : Unit} {ws : List Agent.Write}
    (hx : Agent.exec (.removeSnapshot m.pool (vmDiskName vmID) name) x x h = .ok (a, ws)) :
    ∃ p, removableSnap (.ceph m) h vmID name = some p ∧ ws = [without p] := by
  obtain ⟨im, s, him, hs, hf⟩ := Host.withSnap_eq_ok hx
  split at hf
  · cases hf
  · next hfree =>
    cases hf
    exact ⟨_, removableSnap_eq rfl him hs (Bool.eq_false_iff.mpr hfree), rfl⟩

end

/-! ## the request -/

section
variable {cl : Client} {vmID name : String}

lemma removes_deleteSnapshot {storage : StorageBackend}
    (hafter : ∀ p, removableSnap storage (db.hosts nodeID) vmID name = some p →
      after = some (db.apply (.host nodeID (without p)))) :
    ((storage.deleteSnapshot (storage.diskIdentifier vmID) name).embed (onNode nodeID)).Each A
      (fun _ _ _ => True) (Removes db after) db := by
  cases storage with
  | ceph m =>
    refine embed_reads_bind (by simp) (fun _ => ?_) removes_error
    refine embed_reads_bind (by simp) (fun _ => ?_) removes_error
    refine removes_cmd fun x a ws hx => ?_
    obtain ⟨p, hp, rfl⟩ := exec_removeSnapshot m hx
    exact hafter p hp
  | qcow m =>
    refine embed_reads_bind (by simp) (fun _ => ?_) removes_error
    refine removes_attempt (fun _ => rfl) (fun _ => ⟨_, rfl⟩) (removes_cmd fun x a ws hx => ?_)
    obtain ⟨im, s, him, hs, hf⟩ := Host.withSnap_eq_ok hx
    cases hf
    exact hafter _ (removableSnap_eq rfl him hs rfl)
  | lvm m =>
    -- the identifier of a disk is a path, which is no name of a volume
    obtain ⟨e, he⟩ := LVMManager.diskIdentifier_refused m vmID
    show ((LVMManager.deleteSnapshot m (m.diskIdentifier vmID) name).embed (onNode nodeID)).Each _ _
      _ _
    unfold LVMManager.deleteSnapshot
    rw [LVMManager.validating_refused he]
    exact removes_error _

lemma removes_job {node : Compute.Node} (hnode : db.nodes.find nodeID = some node) :
    ((Agent.deleteSnapshot (cl.agents nodeID) vmID name).embed (onNode nodeID)).Each A
      (fun _ _ _ => True) (Removes db (withoutSnapshot cl db nodeID vmID name)) db := by
  unfold Agent.deleteSnapshot
  by_cases hargs : vmID = "" ∨ name = ""
  · rw [Agent.Job.require_true (decide_eq_true hargs)]
    exact removes_error _
  · have hsome : ¬ (vmID = "" ∨ name = "" ∨ (db.nodes.find nodeID).isNone = true) := by
      rw [hnode]
      rintro (h | h | h)
      · exact hargs (.inl h)
      · exact hargs (.inr h)
      · cases h
    unfold withoutSnapshot removable
    rw [Agent.Job.require_false (decide_eq_false hargs), if_neg hsome]
    refine embed_reads_bind (Agent.Job.all_internal StorageBackend.all_listSnapshots)
      (fun snaps => ?_) removes_error
    unfold deleteListed
    split
    · refine removes_attempt (fun _ => rfl) (fun _ => ⟨_, rfl⟩)
        (removes_deleteSnapshot fun p hp => ?_)
      rw [hp]
      rfl
    · exact removes_error _

/-- **The request removes the snapshot, or it fails and changes nothing.** -/
theorem each_deleteSnapshot :
    (NodeAgent.deleteSnapshot cl nodeID vmID name).Each A (fun _ _ _ => True)
    (Removes db (withoutSnapshot cl db nodeID vmID name)) db := by
  refine each_withNode (fun _ _ _ _ => trivial) (fun node hnode => ?_) removes_error
  refine (removes_job hnode).attempt fun r db' h => ?_
  rcases h with ⟨rfl, e, rfl⟩ | h
  · refine (kept_answering (P := fun _ => False) (fun _ _ _ _ => trivial) fun a ha =>
      (by cases ha)).mono fun r' db' hr => ?_
    cases r' with
    | ok a => exact (hr.2 a rfl).elim
    | error e' => exact .inl ⟨hr.1, e', rfl⟩
  · refine (kept_answering (P := fun _ => True) (fun _ _ _ _ => trivial) fun _ _ => trivial).mono
      fun r' db'' hr => ?_
    rw [hr.1]
    exact .inr h

end

/-! ## the snapshot is removed -/

section
variable {h : Host} {vmID name : String} {im : Image} {m : RBDManager}

lemma can_checkSnapshots {image : String} (him : h.objects (.image m.pool image) = some im)
    {names : List String} (hnames : ∀ n ∈ names, ∃ s, im.snap n = some s) :
    Agent.Can (m.checkSnapshots image names) h (.ok ()) h := by
  induction names with
  | nil => exact can_ret _
  | cons n names ih =>
    obtain ⟨s, hs⟩ := hnames n mem_cons_self
    have hread : Agent.Can (cmd ("checking protection of " ++ image ++ "@" ++ n)
        (.isProtected m.pool image n)) h
        (.ok s.isProtected) h := Agent.can_read (Host.withSnap_some him hs)
    exact hread.bind (ih fun n' hn' => hnames n' (mem_cons_of_mem _ hn'))

lemma snap_of_mem {n : String} (hn : n ∈ im.snaps.map Snap.name) : ∃ s, im.snap n = some s := by
  obtain ⟨s, hs, rfl⟩ := mem_map.mp hn
  exact isSome_iff_exists.mp (find?_isSome.mpr ⟨s, hs, decide_eq_true rfl⟩)

lemma mem_of_snap {n : String} {s : Snap} (hs : im.snap n = some s) :
    n ∈ im.snaps.map Snap.name := by
  have hname : s.name = n := by simpa using find?_some hs
  rw [← hname]
  exact mem_map_of_mem (mem_of_find?_eq_some hs)

lemma can_open {context context' image : String}
    (him : h.objects (.image m.pool image) = some im) {r : Except GoError α} {h' : Host}
    (hc : Agent.Can c h r h') : Agent.Can (do
      Agent.Job.wrapping context (RBDManager.openIOContext m.pool)
      cmd context' (.openImage m.pool image)
      c) h r h' := by
  have hctx : Agent.Can (RBDManager.openIOContext m.pool) h (.ok ()) h := Agent.can_read rfl
  have hopen : Agent.Can (cmd context' (.openImage m.pool image)) h (.ok ()) h :=
    Agent.can_read (Host.withObject_some him)
  exact (Agent.can_wrapping hctx).bind (hopen.bind hc)

variable {storage : StorageBackend}

lemma can_listSnapshots {obj : Obj} (hobj : diskObject vmID storage = some obj)
    (him : h.objects obj = some im) :
    Agent.Can (storage.listSnapshots (storage.diskIdentifier vmID)) h
      (.ok (im.snaps.map Snap.name)) h := by
  cases storage with
  | ceph m =>
    cases hobj
    have hnames : Agent.Can (cmd ("getting snapshot names for " ++ vmDiskName vmID)
        (.getSnapshotNames m.pool (vmDiskName vmID))) h (.ok (im.snaps.map Snap.name)) h :=
      Agent.can_read (Host.withObject_some him)
    show Agent.Can (m.listSnapshots (vmDiskName vmID)) h _ h
    exact can_open him
      (hnames.bind ((can_checkSnapshots him fun _ hn => snap_of_mem hn).bind (can_ret _)))
  | qcow m =>
    cases hobj
    exact (QCOWManager.can_verifyImage him).bind
      (Agent.can_wrapping (Agent.can_read (Host.withObject_some him)))
  | lvm m => cases hobj

lemma can_deleteSnap {obj : Obj} {s : Snap}
    (hobj : diskObject vmID storage = some obj) (him : h.objects obj = some im)
    (hs : im.snap name = some s) (hbusy : isBusy s storage = false) :
    ∃ h', Agent.Can (storage.deleteSnapshot (storage.diskIdentifier vmID) name) h (.ok ()) h' := by
  cases storage with
  | ceph m =>
    cases hobj
    have hremove : Agent.exec (.removeSnapshot m.pool (vmDiskName vmID) name) quiet quiet h =
        Host.put (.image m.pool (vmDiskName vmID)) { im with snaps := im.snaps.erase s } := by
      refine (Host.withSnap_some him hs).trans (if_neg ?_)
      exact Bool.eq_false_iff.mp hbusy
    have hcan : Agent.Can (m.deleteSnapshot (vmDiskName vmID) name) h (.ok ()) _ :=
      can_open him (can_cmd quiet hremove)
    exact ⟨_, hcan⟩
  | qcow m =>
    cases hobj
    exact ⟨_, (QCOWManager.can_verifyImage him).bind
      (Agent.can_wrapping (Agent.can_cmd quiet (Host.withSnap_some him hs)))⟩
  | lvm m => cases hobj

variable {p : Obj × Image × Snap}

lemma removableSnap_some (hp : removableSnap storage h vmID name = some p) :
    diskObject vmID storage = some p.1 ∧
      h.objects p.1 = some p.2.1 ∧ p.2.1.snap name = some p.2.2 ∧ isBusy p.2.2 storage = false := by
  unfold removableSnap at hp
  obtain ⟨obj, hobj, hp⟩ := bind_eq_some_iff.mp hp
  obtain ⟨im, him, hp⟩ := bind_eq_some_iff.mp hp
  obtain ⟨s, hs, hp⟩ := bind_eq_some_iff.mp hp
  split at hp
  · cases hp
  · next hbusy =>
    cases hp
    exact ⟨hobj, him, hs, Bool.eq_false_of_not_eq_true hbusy⟩

variable {cl : Client} {db' : Db}

lemma removable_some (hp : removable cl db nodeID vmID name = some p) :
    ¬ (vmID = "" ∨ name = "") ∧ (∃ node, db.nodes.find nodeID = some node) ∧
      removableSnap (cl.agents nodeID).storage (db.hosts nodeID) vmID name = some p := by
  unfold removable at hp
  split at hp
  · cases hp
  · next hno =>
    refine ⟨fun h => hno (h.imp id .inl), ?_, hp⟩
    cases hnode : db.nodes.find nodeID with
    | none => exact absurd (.inr (.inr (by rw [hnode]; rfl))) hno
    | some node => exact ⟨node, rfl⟩

/-- **A snapshot that can be removed is removed, in some run.** -/
theorem can_deleteSnapshot (hafter : withoutSnapshot cl db nodeID vmID name = some db') :
    Can (NodeAgent.deleteSnapshot cl nodeID vmID name) db (.ok ()) db' := by
  obtain ⟨p, hp, -⟩ := map_eq_some_iff.mp hafter
  obtain ⟨hargs, ⟨node, hnode⟩, hp⟩ := removable_some hp
  obtain ⟨hobj, him, hs, hbusy⟩ := removableSnap_some hp
  obtain ⟨h', hdel⟩ := can_deleteSnap hobj him hs hbusy
  have hjob : Agent.Can (Agent.deleteSnapshot (cl.agents nodeID) vmID name) (db.hosts nodeID)
      (.ok ()) h' := by
    unfold Agent.deleteSnapshot
    rw [Agent.Job.require_false (decide_eq_false hargs)]
    refine (can_internal (can_listSnapshots hobj him)).bind ?_
    unfold deleteListed
    rw [if_pos (mem_of_snap hs)]
    exact can_internal hdel
  obtain ⟨db'', hcan, -⟩ := can_embed hjob
  have hcall : Can (NodeAgent.deleteSnapshot cl nodeID vmID name) db (.ok ()) db'' :=
    can_withNode hnode (can_send hcan)
  obtain ⟨tr, hrun, -⟩ := id hcall
  rcases (hrun.each each_deleteSnapshot).2 with ⟨-, e, he⟩ | hend
  · cases he
  · rw [hafter] at hend
    cases hend
    exact hcall

end

/-! ## what goes with a snapshot -/

section
variable {cl : Client} {db : Db} {nodeID vmID name node : String} {p : Obj × Image × Snap}
  {piece : Piece}

lemma find_erase_ne (snaps : List Snap) (s : Snap) {name : String} (h : s.name ≠ name) :
    (snaps.erase s).find? (fun t => t.name = name) = snaps.find? fun t => t.name = name := by
  induction snaps with
  | nil => rfl
  | cons t rest ih =>
    by_cases ht : t = s
    · subst ht
      rw [erase_cons_head, find?_cons_of_neg (by simpa using h)]
    · rw [erase_cons_tail (by simpa using ht), find?_cons, find?_cons, ih]

lemma seenOn_iff : SeenOn nodeID p.1 node ↔ node = nodeID ∨ isShared (without p) = true := by
  obtain ⟨obj, im, s⟩ := p
  cases obj <;> exact Iff.rfl

lemma content_seen (hnode : SeenOn nodeID p.1 node) (hobj : piece.obj = p.1) :
    piece.content ((db.apply (.host nodeID (without p))).hosts node) =
      piece.contentIn { p.2.1 with snaps := p.2.1.snaps.erase p.2.2 } := by
  have hhost : (db.apply (.host nodeID (without p))).hosts node = (db.hosts node).apply
    (without p) :=
    if_pos (seenOn_iff.mp hnode)
  unfold Piece.content
  rw [hhost, hobj]
  show (Function.update (db.hosts node).objects p.1 _ p.1).bind _ = _
  rw [Function.update_self]
  rfl

lemma content_unseen (h : ¬ (SeenOn nodeID p.1 node ∧ piece.obj = p.1)) :
    piece.content ((db.apply (.host nodeID (without p))).hosts node) =
      piece.content (db.hosts node) := by
  show piece.content (applyHost _ _ _ _) = _
  unfold applyHost
  split
  · next hnode =>
    unfold Piece.content
    have hobj : piece.obj ≠ p.1 := fun hobj => h ⟨seenOn_iff.mpr hnode, hobj⟩
    show (Function.update (db.hosts node).objects p.1 _ piece.obj).bind _ = _
    rw [Function.update_of_ne hobj]
  · rfl

variable {b : Backup}

lemma data_eq_iff :
    (∀ node, b.data cl (db.apply (.host nodeID (without p))) node = b.data cl db node) ↔
    ∀ node, SeenOn nodeID p.1 node → ∀ piece, some piece ∈ b.pieces cl db node → piece.obj = p.1 →
      piece.content (db.hosts node) =
        piece.contentIn { p.2.1 with snaps := p.2.1.snaps.erase p.2.2 } := by
  constructor
  · intro h node hnode piece hpiece hobj
    rw [← content_seen hnode hobj]
    exact (map_inj_left.mp (h node) _ hpiece).symm
  · intro h node
    refine map_inj_left.mpr fun piece hpiece => ?_
    cases piece with
    | none => rfl
    | some piece =>
      by_cases hseen : SeenOn nodeID p.1 node ∧ piece.obj = p.1
      · exact (content_seen hseen.1 hseen.2).trans (h node hseen.1 piece hpiece hseen.2).symm
      · exact content_unseen hseen

/-- of the pieces on the node only the snapshot is lost -/
lemma content_none_iff (hp : removable cl db nodeID vmID name = some p) :
    piece.content ((db.apply (.host nodeID (without p))).hosts nodeID) = none ↔
      piece.content (db.hosts nodeID) = none ∨
      piece = .snap p.1 p.2.2.name ∧ ∀ other ∈ p.2.1.snaps.erase p.2.2, other.name ≠
        p.2.2.name := by
  obtain ⟨-, him, hs, -⟩ := removableSnap_some (removable_some hp).2.2
  have hname : p.2.2.name = name := by simpa using find?_some hs
  by_cases hobj : piece.obj = p.1
  · rw [content_seen (.inl rfl) hobj]
    have hbefore : piece.content (db.hosts nodeID) = piece.contentIn p.2.1 := by
      unfold Piece.content
      rw [hobj, him]
      rfl
    rw [hbefore]
    cases piece with
    | whole obj => simp [Piece.contentIn]
    | snap obj name' =>
      cases hobj
      simp only [Piece.contentIn, Image.snap, map_eq_none_iff, Piece.snap.injEq]
      by_cases hn : p.2.2.name = name'
      · have hfound : p.2.1.snaps.find? (fun s => s.name = name') ≠ none := by
          rw [← hn, hname]
          exact fun h => some_ne_none _ (hs.symm.trans h)
        simp [hfound, hn]
      · rw [find_erase_ne _ _ hn]
        simp [Ne.symm hn]
  · rw [content_unseen fun h => hobj h.2]
    exact ⟨.inl, fun h => h.resolve_right fun hsnap => hobj (by rw [hsnap.1]; rfl)⟩

lemma stored_iff (hnode : (db.vm b.vmID).bind Compute.VM.nodeID = some nodeID) :
    b.Stored cl db ↔ ∃ piece, some piece ∈ b.pieces cl db nodeID ∧
      piece.content (db.hosts nodeID) ≠ none := by
  constructor
  · rintro ⟨node, hat, content, h⟩
    cases hat nodeID hnode
    obtain ⟨piece, hmem, hpiece⟩ := mem_map.mp h
    obtain ⟨piece, rfl, hcontent⟩ := bind_eq_some_iff.mp hpiece
    exact ⟨piece, hmem, by rw [hcontent]; exact some_ne_none _⟩
  · rintro ⟨piece, hmem, hcontent⟩
    obtain ⟨content, hcontent⟩ := ne_none_iff_exists'.mp hcontent
    exact ⟨nodeID, fun n hn => some.inj (hnode.symm.trans hn), content,
      mem_map.mpr ⟨_, hmem, hcontent⟩⟩

/-- a backup goes with a snapshot, and no other one does, iff the snapshot is all of it -/
lemma sole_iff (hp : removable cl db nodeID vmID name = some p)
    (hnode : (db.vm b.vmID).bind Compute.VM.nodeID = some nodeID) :
    Sole cl db nodeID b p.1 p.2.1 p.2.2 ↔ ¬ b.Stored cl (db.apply (.host nodeID (without p))) ∧
      ∀ other ∈ db.backups.rows, other.id ≠ b.id → ∀ node,
        other.data cl (db.apply (.host nodeID (without p))) node = other.data cl db node := by
  have hnode' : ((db.apply (.host nodeID (without p))).vm b.vmID).bind Compute.VM.nodeID =
    some nodeID := hnode
  have hgone : ¬ b.Stored cl (db.apply (.host nodeID (without p))) ↔
    ∀ piece, some piece ∈ b.pieces cl db nodeID →
      piece.content ((db.apply (.host nodeID (without p))).hosts nodeID) = none := by
    rw [stored_iff hnode']
    simp only [not_exists, not_and, not_not]
    exact Iff.rfl
  rw [hgone]
  simp only [content_none_iff hp, data_eq_iff]
  exact ⟨fun h => ⟨h.own, h.others⟩, fun h => ⟨h.1, h.2⟩⟩

end

end VirtueStack.Backup
