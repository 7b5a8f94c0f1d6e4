import VirtueStack.Compute.DeletionLog

/-!
# vm.delete: what the order depends on

The handler takes any error for the absence of a thing whose text says "not found", or whose gRPC
status does, and the release of addresses goes by one page and leaves out the errors about subnets.

* `idle_*` the functions of the handler keep to the protocol of deeds, in order if every request is
  faithful.
-/

namespace VirtueStack.Compute.Deletion
open Txn Call Table Mem List Bool

/-! ## requests -/

/-- the handler would take this failure of the request for the absence of something -/
def takenForAbsence : Stmt → Status → Bool
  | .db (.getNode _), status => Mentions "not found" status.message
  | .db (.getVMIncludingDeleted _), status => Mentions "not found" status.message
  | .db (.listIPAddresses _), status => Mentions "not found" status.message
  | .db (.releaseIPv4 _), status => Mentions "not found" status.message
  | .connect _, status => Mentions "not found" status.message
  | .deleteVM _ _, status => status.code = .notFound ∨ Mentions "not found" status.message
  | _, _ => false

/-- the request does what it is for, or its failure is seen as one -/
def faithful (db : Compute.Db) : Stmt → Event store → Bool
  | .db (.getNode id), .ok _ => (db.nodes.find id).isSome
  | .db (.listIPAddresses v), .ok _ =>
    (db.ips.rows.filter fun ip => ip.vmID = some v).length ≤ defaultPerPage
  | .db (.deleteIPv6Subnets _), .fail _ => false
  | .deleteVM node req, .ok x =>
    ¬ Mentions "not found" x.pathError ∧ x.lost.all fun status =>
      !takenForAbsence (.deleteVM node req) status
  | q, .fail status => !takenForAbsence q status
  | _, .ok _ => true

/-- the hook is a call, which has an answer -/
def answers : Stmt → Event store → Bool
  | .onVMDeleted _, .fail _ => false
  | _, _ => true

section
variable {ι : Type}

def Answers : ι → Req store → Label store → Mem store ι → Prop
  | _, .run q, .ev e, _ => answers q e = true
  | _, _, _, _ => True

instance :
    ∀ (i : ι) (r : Req store) (a : Label store) (m : Mem store ι), Decidable (Answers i r a m)
  | _, .run _, .ev _, _ => inferInstanceAs (Decidable (_ = _))
  | _, .run _, .crash, _ => .isTrue trivial
  | _, .begin, _, _ => .isTrue trivial
  | _, .commit, _, _ => .isTrue trivial
  | _, .rollback, _, _ => .isTrue trivial

def Faithful : ι → Req store → Label store → Mem store ι → Prop
  | _, .run q, .ev e, m => answers q e = true ∧ faithful (Db.main m.db) q e = true
  | _, _, _, _ => True

instance :
    ∀ (i : ι) (r : Req store) (a : Label store) (m : Mem store ι), Decidable (Faithful i r a m)
  | _, .run _, .ev _, _ => inferInstanceAs (Decidable (_ ∧ _))
  | _, .run _, .crash, _ => .isTrue trivial
  | _, .begin, _, _ => .isTrue trivial
  | _, .commit, _, _ => .isTrue trivial
  | _, .rollback, _, _ => .isTrue trivial

/-- the condition on a run, `strict` or not -/
def Meets (strict : Prop) (i : ι) (r : Req store) (a : Label store) (m : Mem store ι) : Prop :=
  Answers i r a m ∧ (strict → Faithful i r a m)

end

/-! ## errors -/

variable {e : GoError}

lemma isAlreadyAbsent_iff :
    isAlreadyAbsent e = true ↔ (e.is .notFound = true ∨ e.code = .notFound) ∨
      Mentions "not found" e.text := by
  unfold isAlreadyAbsent
  rw [or_eq_true, or_eq_true, beq_iff_eq, decide_eq_true_iff]

lemma absent_wrap {c : String} (h : isAlreadyAbsent (.wrap c e) = true) :
    Mentions "not found" c ∨ isAlreadyAbsent e = true := by
  rcases isAlreadyAbsent_iff.mp h with h | h
  · exact .inr (isAlreadyAbsent_iff.mpr (.inl h))
  · rcases mentions_wrap (by decide) (by decide) h with h | h
    · exact .inl h
    · exact .inr (isAlreadyAbsent_iff.mpr (.inr h))

lemma absent_new {t : String} (h : isAlreadyAbsent (.new t) = true) : Mentions "not found" t := by
  rcases isAlreadyAbsent_iff.mp h with (h | h) | h
  · cases h
  · cases h
  · exact h

lemma absent_fault {t : String} (h : isAlreadyAbsent (.pg (.fault t)) = true) :
    Mentions "not found" t := by
  rcases isAlreadyAbsent_iff.mp h with (h | h) | h
  · cases h
  · cases h
  · exact h

lemma opens_status (code : Code) :
    opens "not found" ("rpc error: code = " ++ code.text ++ " desc = ") = true := by
  cases code <;> decide

lemma absent_status {status : Status} (h : isAlreadyAbsent status.error = true) :
    status.code = .notFound ∨ Mentions "not found" status.message := by
  rcases isAlreadyAbsent_iff.mp h with (h | h) | h
  · cases h
  · exact .inl h
  · exact .inr (mentions_after (opens_status status.code) h)

/-! ## programs of the controller -/

section
variable {α β : Type}

lemma embed_bind (p : Prog Compute.store α) (f : α → Prog Compute.store β) :
    embed (p.bind f) = (embed p).bind fun a => embed (f a) := by
  induction p with
  | ret a => rfl
  | req r k ih =>
    cases r with
    | run q | begin | commit | rollback => exact congrArg (Prog.req _) (funext fun r => ih _)

lemma ofDb_attempt (c : Compute.Op α) (f : Except GoError α → Compute.Op β) :
    ofDb (c.attempt f) = (ofDb c).attempt fun r => ofDb (f r) := embed_bind c f

lemma ofDb_bind (c : Compute.Op α) (f : α → Compute.Op β) :
    ofDb (c >>= f) = ofDb c >>= fun a => ofDb (f a) := by
  refine (embed_bind (β := Except GoError β) c _).trans
    (congrArg (Prog.bind (S := store) (embed c)) ?_)
  funext r
  cases r with
  | ok a => rfl
  | error e => rfl

lemma ofDb_query (q : Compute.Stmt) (context : String) :
    ofDb (Op.query q context) = stmt (S := store) (.db q) fun e => .wrap context
      (.pg e.pgError) := by
  refine congrArg (Prog.req (S := store) _) (funext fun r => ?_)
  cases r with
  | ok a => rfl
  | error e => rfl

lemma embed_all {ok : Compute.Stmt → Prop} {p : Prog Compute.store α} (h : p.All ok) :
    (embed p).All fun q => ∃ q', q = Stmt.db q' ∧ ok q' := by
  induction p with
  | ret a => trivial
  | req r k ih =>
    cases r with
    | run q => exact ⟨⟨q, rfl, h.1⟩, fun r => ih _ (h.2 _)⟩
    | begin | commit | rollback => exact h.elim

lemma exec_db {q : Compute.Stmt} {x : Inp} {db : Db} {a : q.Ans} {ws : List Write}
    (h : exec (.db q) x x db = .ok (a, ws)) :
    ∃ ws', ws = ws'.map .db ∧ Compute.exec q x.main x.main db.main = .ok (a, ws') := by
  simp only [exec] at h
  split at h
  · rename_i a' ws' hx
    cases h
    exact ⟨ws', rfl, hx⟩
  · cases h

end

/-! ## what a session knows -/

section
variable {ι : Type} {strict : Prop} {db₀ : Db} {m m' : Mem store ι} {i : ι} {α β : Type}

variable {H : Set store.Lock} {context taskID : String} {q : Compute.Stmt}
  {hs : List HostWrite} {h : Hosts}
variable {req : DeleteVMRequest} {x : Inp} {status : Status} {vm vm₀ : VM} {ips : List IPAddress}
variable {providers : Option (String → Bool)}

/-- the call of session `i` keeps to the protocol, and ends with `R` -/
abbrev Goes (strict : Prop) (db₀ : Db) (i : ι) (c : Op α)
    (R : Except GoError α → Mem store ι → Prop) (m : Mem store ι) :
    Prop := IdleIf (deleting strict db₀) (Meets strict) i c R m

lemma rely_shrinks (h : (deleting strict db₀).Rely i H m m') :
    Shrinks (Db.main m.db) (Db.main m'.db) := by
  refine h.stable (I := fun x => Shrinks (Db.main m.db) (Db.main x.db)) ?_ (Shrinks.refl _)
  intro x j H' ws _ _ _ (hdeed : Deed strict db₀ j x ws) _ hx
  rw [publish_db]
  exact hx.trans hdeed.shrinks

lemma rely_wal (h : (deleting strict db₀).Rely i H m m') : m.wal <+: m'.wal :=
  h.stable (I := fun x => m.wal <+: x.wal)
    (fun x j _ ws _ _ _ _ _ hx => hx.trans (wal_prefix_publish x j ws)) prefix_rfl

/-- what deeds cannot undo -/
def Lasting (K : Mem store ι → Prop) : Prop :=
  ∀ m m', Shrinks (Db.main m.db) (Db.main m'.db) → m.wal <+: m'.wal → K m → K m'

variable {K : Mem store ι → Prop}

lemma Lasting.rely (hK : Lasting K) (h : (deleting strict db₀).Rely i H m m') (hm : K m) :
    K m' := hK m m' (rely_shrinks h) (rely_wal h) hm

lemma Lasting.settled (hK : Lasting K) (hm : K m) : Settled (deleting strict db₀) i K m :=
  fun _ hr _ => hK.rely hr hm

lemma Lasting.keep (hK : Lasting K) {c : Op α} {R : Except GoError α → Mem store ι → Prop}
    (h : Goes strict db₀ i c R m) (hm : K m) : Goes strict db₀ i c (fun r m => R r m ∧ K m) m := by
  refine IdleIf.keep (fun m j _ ws (hdeed : Deed strict db₀ j m ws) hm => ?_) h hm
  refine hK m _ ?_ (wal_prefix_publish m j ws) hm
  rw [publish_db]
  exact hdeed.shrinks

/-- a value with `Q`, or an error with `E` -/
def Ends (Q : α → Mem store ι → Prop) (E : GoError → Prop) : Except GoError α → Mem store ι → Prop
  | .ok a, m => Q a m
  | .error e, _ => E e

/-- the error is not taken for the absence of something, if it must not -/
def Seen (strict : Prop) (e : GoError) : Prop := strict → isAlreadyAbsent e = false

variable {Q : α → Mem store ι → Prop} {E : GoError → Prop}

lemma settled_error (h : E e) : Settled (deleting strict db₀) i (Ends Q E (.error e)) m :=
  fun _ _ _ => h

lemma idle_query {Q : q.Ans → Mem store ι → Prop}
    (hfail : ∀ status m', (deleting strict db₀).Rely i ∅ m m' →
      Meets strict i (.run (.db q)) (.ev (.fail status)) m' →
        E (.wrap context (.pg (.fault status.message))))
    (herr : ∀ x db e, Compute.exec q x x db = .error e → E (.wrap context (.pg e)))
    (hok : ∀ m' x a ws, (deleting strict db₀).Rely i ∅ m m' → (deleting strict db₀).Reach m' →
      Meets strict i (.run (.db q)) (.ev (.ok x)) m' → Compute.exec q x.main x.main
        (Db.main m'.db) = .ok (a, ws) →
      (ws ≠ [] → Deed strict db₀ i m' (ws.map .db)) ∧
        Settled (deleting strict db₀) i (Q a) (m'.publish i (ws.map .db))) :
    Goes strict db₀ i (ofDb (Op.query q context)) (Ends Q E) m := by
  rw [ofDb_query, ← attempt_ret (stmt (S := store) _ _)]
  refine IdleIf.stmt (fun status m' hr _ hm => ?_) (fun m' x e _ _ hx => ?_)
    fun m' x a ws hr hR hm hx => ?_
  · exact IdleIf.ret (settled_error (hfail status m' hr hm))
  · refine IdleIf.ret (settled_error ?_)
    have hx' : exec (.db q) x x m'.db = .error e := hx
    simp only [exec] at hx'
    split at hx'
    · cases hx'
    · rename_i e' he
      cases hx'
      exact herr x.main _ e' he
  · obtain ⟨ws', rfl, hx'⟩ := exec_db hx
    obtain ⟨hdeed, hset⟩ := hok m' x a ws' hr hR hm hx'
    exact ⟨fun hne => hdeed fun h => hne (by rw [h]; rfl), IdleIf.ret hset⟩

lemma idle_read {Q : q.Ans → Mem store ι → Prop} (hq : q.table = none)
    (hfail : ∀ status m', (deleting strict db₀).Rely i ∅ m m' →
      Meets strict i (.run (.db q)) (.ev (.fail status)) m' →
        E (.wrap context (.pg (.fault status.message))))
    (herr : ∀ x db e, Compute.exec q x x db = .error e → E (.wrap context (.pg e)))
    (hok : ∀ m' x a, (deleting strict db₀).Rely i ∅ m m' → (deleting strict db₀).Reach m' →
      Meets strict i (.run (.db q)) (.ev (.ok x)) m' →
      Compute.exec q x.main x.main (Db.main m'.db) = .ok (a, []) →
        Settled (deleting strict db₀) i (Q a) m') :
    Goes strict db₀ i (ofDb (Op.query q context)) (Ends Q E) m := by
  refine idle_query hfail herr fun m' x a ws hr hR hm hx => ?_
  obtain rfl := exec_nil hx hq
  exact silent (hok m' x a hr hR hm hx)

lemma idle_found {c : Compute.Op (Option α)} {T : Option α → Mem store ι → Prop}
    (hc : Goes strict db₀ i (ofDb c) (Ends T E) m)
    (hsome : ∀ a m, T (some a) m → Q a m) (hnone : ∀ m, (deleting strict db₀).Reach m →
      Settled (deleting strict db₀) i (T none) m → E (.wrap context (.sentinel .notFound))) :
    Goes strict db₀ i (ofDb (Op.found context c)) (Ends Q E) m := by
  unfold Op.found
  rw [ofDb_bind]
  refine IdleIf.bind hc (fun r m hR hr => ?_) fun e m _ he => he
  cases r with
  | some a => exact IdleIf.ret (Settled.mono hr fun m _ h => hsome a m h)
  | none => exact IdleIf.ret (settled_error (hnone m hR hr))

lemma idle_wrapping {c : Op α} {F : GoError → Prop} (hc : Goes strict db₀ i c (Ends Q F) m)
    (hE : ∀ e, F e → E (.wrap context e)) :
    Goes strict db₀ i (Op.wrapping context c) (Ends Q E) m := by
  refine IdleIf.attempt hc fun r m hR hr => ?_
  cases r with
  | ok a => exact IdleIf.ret hr
  | error e => exact IdleIf.ret (settled_error (hE e (hr m (.refl m) hR)))

variable {c : Compute.Op α}

lemma idle_ofWrapping {F : GoError → Prop} (hc : Goes strict db₀ i (ofDb c) (Ends Q F) m)
    (hE : ∀ e, F e → E (.wrap context e)) :
    Goes strict db₀ i (ofDb (Compute.Op.wrapping context c)) (Ends Q E) m := by
  have hwrapping : ofDb (Compute.Op.wrapping context c) = Op.wrapping context (ofDb c) :=
    (ofDb_attempt c _).trans (congrArg _ (funext fun r => by cases r <;> rfl))
  rw [hwrapping]
  exact idle_wrapping hc hE

/-! ## calls that touch neither VMs nor addresses -/

def Minor (q : Compute.Stmt) : Prop := ∀ t, q.table = some t → t ≠ .vms ∧ t ≠ .ips ∧ t ≠ .subnets

lemma idle_minor (hc : c.All Minor) : Goes strict db₀ i (ofDb c) (fun _ _ => True) m := by
  have hall : All (fun q => ∃ q', q = Stmt.db q' ∧ Minor q') (ofDb c) := embed_all hc
  refine Idle.toIf (fun _ _ _ _ => trivial) (hall.keeps ?_)
  rintro _ ⟨q, rfl, hq⟩ m x a ws - - hx -
  obtain ⟨ws', rfl, hx'⟩ := exec_db hx
  exact Deed.minor fun w hw => hq w.table (exec_table hx' hw)

lemma idle_minor_bind (hc : c.All Minor) (hK : Lasting K) (hm : K m) {f : α → Op β}
    {Q : β → Mem store ι → Prop} (hf : ∀ a m, (deleting strict db₀).Reach m → K m →
      Goes strict db₀ i (f a) (Ends Q fun _ => True) m) :
    Goes strict db₀ i (ofDb c >>= f) (Ends Q fun _ => True) m :=
  IdleIf.bind (hK.keep (idle_minor hc) hm) (fun a m hR h => hf a m hR (h m (.refl m) hR).2)
    fun _ _ _ _ => settled_error trivial

section
attribute [local simp] Minor Stmt.table

lemma progress_minor (taskID : String) (percent : Int) (message : String) :
    (progress taskID percent message).All Minor := by simp [progress]

lemma complete_minor (taskID : String) :
    (VMDeletion.complete taskID).All Minor := by simp [VMDeletion.complete]

lemma completeIfRecordMissing_minor (taskID vmID : String) (e : GoError) :
    (VMDeletion.completeIfRecordMissing taskID vmID e).All Minor := by
  simp [VMDeletion.completeIfRecordMissing, VMDeletion.complete]

lemma stopIfRunning_minor (nodeID : String) (vm : VM) :
    (VMDeletion.stopIfRunning nodeID vm).All Minor := by
  simp [VMDeletion.stopIfRunning, VMDeletion.stopVM]

end

/-! ## the client of the agents -/

/-- a text that does not say that something is missing -/
def Plain (s : String) : Prop := ¬ Mentions "not found" s

instance (s : String) : Decidable (Plain s) := inferInstanceAs (Decidable (¬ _))

lemma plain_of_not {s : String} (h : (!decide (Mentions "not found" s)) = true) : Plain s :=
  of_decide_eq_false (by simpa using h)

lemma Meets.faithful {q : Stmt} {e : Event store} (h : Meets strict i (.run q) (.ev e) m)
    (hs : strict) : Deletion.faithful (Db.main m.db) q e = true := (h.2 hs).2

lemma seen_fault {a b t : String} (ha : Plain a) (hb : Plain b) (ht : strict → Plain t) :
    Seen strict (.wrap a (.wrap b (.pg (.fault t)))) := by
  intro hs
  refine eq_false_iff.mpr fun h => ?_
  rcases absent_wrap h with h | h
  · exact ha h
  · rcases absent_wrap h with h | h
    · exact hb h
    · exact ht hs (absent_fault h)

variable {node v : String}

lemma plain_node (h : Plain node) : Plain ("getting node " ++ node) :=
  fun hm => h (mentions_after (by decide) hm)

lemma plain_vm (h : Plain v) : Plain ("getting VM " ++ v) :=
  fun hm => h (mentions_after (by decide) hm)

lemma plain_vmIncludingDeleted (h : Plain v) : Plain ("getting VM " ++ v ++ " including deleted") :=
  fun hm => plain_vm h (mentions_before (by decide) hm)

lemma idle_getNode (hnode : Plain node) :
    Goes strict db₀ i (Op.wrapping ("getting node " ++ node) (ofDb (NodeRepository.getByID node)))
      (Ends (fun _ _ => True) (Seen strict)) m := by
  refine idle_wrapping (F := fun e => Seen strict (.wrap ("getting node " ++ node) e)) ?_ fun _ h =>
    h
  refine idle_found (T := fun r _ => strict → r ≠ none) (idle_read rfl ?_ ?_ ?_)
    (fun _ _ _ => trivial) ?_
  · exact fun status m' _ hm =>
      seen_fault (plain_node hnode) (plain_node hnode) fun hs => plain_of_not (hm.faithful hs)
  · intro x db e hx
    cases hx
  · intro m' x a hr hR hmeets hx _ _ _ hs
    have hfound : ((Db.main m'.db).nodes.find node).isSome = true := hmeets.faithful hs
    cases hx
    exact Option.isSome_iff_ne_none.mp hfound
  · exact fun m hR h hs => absurd rfl (h m (.refl m) hR hs)

lemma idle_getConnection (hnode : Plain node) :
    Goes strict db₀ i (Op.wrapping ("connecting to node " ++ node) (NodeAgent.getConnection node))
      (Ends (fun _ _ => True) (Seen strict)) m := by
  refine idle_wrapping (F := fun e => Seen strict (.wrap ("connecting to node " ++ node) e))
    ?_ fun _ h => h
  unfold NodeAgent.getConnection
  rw [← attempt_ret (stmt (S := store) _ _)]
  refine IdleIf.stmt (fun status m' _ _ hmeets => ?_) (fun m' x e _ _ hx => ?_)
    fun m' x a ws hr _ _ hx => ?_
  · refine IdleIf.ret (settled_error fun hs => eq_false_iff.mpr fun h => ?_)
    rcases absent_wrap h with h | h
    · exact hnode (mentions_after (by decide) h)
    · rcases absent_wrap h with h | h
      · exact hnode (mentions_after (by decide) h)
      · exact plain_of_not (hmeets.faithful hs) (absent_new h)
  · cases hx
  · cases hx
    exact silent (IdleIf.ret fun _ _ _ => trivial)

def Present (v : String) (m : Mem store ι) : Prop := (Db.main m.db).vms.find v ≠ none

lemma lasting_present : Lasting (Present v : Mem store ι → Prop) := by
  intro m m' hs _ hm
  obtain ⟨row, hrow⟩ := Option.ne_none_iff_exists'.mp hm
  obtain ⟨row', hrow', -⟩ := hs.vms v row hrow
  exact fun h => by cases h.symm.trans hrow'

lemma idle_deleteVMRequest (hv : Plain v) (hm : Present v m) :
    Goes strict db₀ i (NodeAgent.deleteVMRequest v)
      (Ends (fun req _ => req.vmID = v) (Seen strict)) m := by
  refine IdleIf.bind (R := Ends (fun vm _ => vm.id = v) (Seen strict)) ?_
    (fun vm m _ h => ?_) fun e m _ he => he
  · refine idle_wrapping (F := fun e => Seen strict (.wrap ("getting VM " ++ v) e)) ?_ fun _ h => h
    refine idle_found (T := fun r _ => ∃ vm, r = some vm ∧ vm.id = v) (idle_read rfl ?_ ?_ ?_) ?_ ?_
    · exact fun status m' _ hm =>
        seen_fault (plain_vm hv) (plain_vmIncludingDeleted hv) fun hs =>
          plain_of_not (hm.faithful hs)
    · intro x db e hx
      cases hx
    · intro m' x a hr _ _ hx
      obtain ⟨row, hrow⟩ := Option.ne_none_iff_exists'.mp (lasting_present.rely hr hm)
      cases hx
      exact fun _ _ _ => ⟨row, hrow, key_of_find hrow⟩
    · rintro a m ⟨vm, hvm, hid⟩
      cases hvm
      exact hid
    · intro m hR h
      obtain ⟨vm, hvm, -⟩ := h m (.refl m) hR
      cases hvm
  · exact IdleIf.ret h

lemma undefineVM_ok {broken : HostOp → Bool} {u : Unit}
    (hu : h.undefineVM broken node v = (.ok u, hs)) : (h.after hs).domains (node, v) = none := by
  unfold Hosts.undefineVM at hu
  split at hu
  · cases hu
  · split at hu
    · rename_i hd
      cases hu
      exact hd
    · split at hu
      · split at hu
        · cases hu
        · cases hu
          exact Function.update_self _ _ _
      · split at hu
        · cases hu
        · split at hu
          · cases hu
          · cases hu
            exact Function.update_self _ _ _
      · split at hu
        · cases hu
        · cases hu

/-- **The agent answers with success only if there is no domain.** -/
theorem agentDeleteVM_ok {u : Unit} (ha : agentDeleteVM h x node req = (.ok u, hs)) :
    (h.after hs).domains (node, req.vmID) = none := by
  unfold agentDeleteVM at ha
  split at ha
  · cases ha
  · rename_i hs1 hu
    split at ha
    · cases ha
    · rename_i hs2 hd
      cases ha
      have hdomains : ((h.after hs1).after (h.removeDisk x.main.broken node req).2).domains =
        (h.after hs1).domains :=
        Hosts.removeDisk_domains _ req
      rw [hd] at hdomains
      rw [Hosts.after_append, hdomains]
      exact undefineVM_ok hu

lemma plain_disk (backend : String) :
    Plain ("deleting " ++ diskName backend ++ " disk failed") := by
  unfold diskName
  split
  · exact (by decide : Plain ("deleting " ++ "QCOW" ++ " disk failed"))
  · split
    · exact (by decide : Plain ("deleting " ++ "LVM" ++ " disk failed"))
    · exact (by decide : Plain ("deleting " ++ "RBD" ++ " disk failed"))

lemma agentDeleteVM_error (ha : agentDeleteVM h x node req = (.error status, hs))
    (hx : Plain x.pathError) : status.code ≠ .notFound ∧ Plain status.message := by
  unfold agentDeleteVM at ha
  split at ha
  · cases ha
    unfold undefineStatus
    split
    · exact ⟨by decide, by decide⟩
    · exact ⟨by decide, by decide⟩
  · split at ha
    · cases ha
      unfold diskStatus
      dsimp only
      split
      · exact ⟨Code.noConfusion, fun hm => hx (mentions_after (by decide) hm)⟩
      · exact ⟨Code.noConfusion, plain_disk _⟩
    · cases ha

lemma seen_status (h : strict → status.code ≠ .notFound ∧ Plain status.message) :
    Seen strict (.wrap "calling DeleteVM" status.error) := by
  intro hs
  refine eq_false_iff.mpr fun ha => ?_
  rcases absent_wrap ha with ha | ha
  · exact absurd ha (by decide)
  · rcases absent_status ha with ha | ha
    · exact (h hs).1 ha
    · exact (h hs).2 ha

lemma plain_of_taken (h : (!takenForAbsence (.deleteVM node req) status) = true) :
    status.code ≠ .notFound ∧ Plain status.message := by
  have ht : takenForAbsence (.deleteVM node req) status = false := by simpa using h
  have hn : ¬ (status.code = .notFound ∨ Mentions "not found" status.message) :=
    of_decide_eq_false ht
  exact ⟨fun hc => hn (.inl hc), fun hm => hn (.inr hm)⟩

lemma deed_hosts (hs : List HostWrite) :
    Deed strict db₀ i m (hs.map (fun w => Write.db (.host w)) ++ []) := by
  have hmap : hs.map (fun w => Write.db (.host w)) ++ [] = (hs.map Compute.Write.host).map .db := by
    rw [append_nil, map_map]
    rfl
  rw [hmap]
  refine .minor fun w hw => ?_
  obtain ⟨w', -, rfl⟩ := mem_map.mp hw
  exact ⟨TableName.noConfusion, TableName.noConfusion, TableName.noConfusion⟩

lemma lasting_confirmed : Lasting (fun m : Mem store ι => Confirmed m.wal node v) := by
  rintro m m' - hwal ⟨b, hb, hw⟩
  exact ⟨b, hwal.subset hb, hw⟩

/-- what the client knows from the answer to its request -/
def Told (strict : Prop) (node v : String) : Except Status Unit → Mem store ι → Prop
  | .ok _, m => Confirmed m.wal node v
  | .error status, _ => strict → status.code ≠ .notFound ∧ Plain status.message

lemma deleteVM_told {a : Except Status Unit} {ws : List Write}
    (hmeets : Meets strict i (.run (.deleteVM node req)) (.ev (.ok x)) m)
    (hx : exec (.deleteVM node req) x x m.db = .ok (a, ws)) :
    Deed strict db₀ i m ws ∧ Settled (deleting strict db₀) i (Told strict node req.vmID a)
    (m.publish i ws) := by
  have hfaithful : ∀ hs : strict, Plain x.pathError ∧
      (x.lost.all fun status => !takenForAbsence (.deleteVM node req) status) = true :=
    fun hs => of_decide_eq_true (hmeets.faithful hs)
  simp only [exec] at hx
  cases ha : agentDeleteVM (Db.main m.db).hosts x node req with
  | mk answer hs =>
    simp only [ha] at hx
    cases hl : x.lost with
    | some status =>
      simp only [delivered, hl] at hx
      cases hx
      refine ⟨deed_hosts hs, fun _ _ _ hstrict => ?_⟩
      have hall := (hfaithful hstrict).2
      rw [hl] at hall
      exact plain_of_taken hall
    | none =>
      cases answer with
      | error status =>
        simp only [delivered, hl] at hx
        cases hx
        exact ⟨deed_hosts hs, fun _ _ _ hstrict => agentDeleteVM_error ha (hfaithful hstrict).1⟩
      | ok u =>
        simp only [delivered, hl] at hx
        cases hx
        refine ⟨.confirmed (agentDeleteVM_ok ha), lasting_confirmed.settled ?_⟩
        have hne : hs.map (fun w => Write.db (.host w)) ++
          [Write.confirmed node req.vmID] ≠ [] := by simp
        rw [publish_wal hne]
        exact ⟨_, mem_append_right _ (mem_singleton_self _), by simp⟩

lemma idle_callDeleteVM : Goes strict db₀ i (NodeAgent.callDeleteVM node req)
      (Ends (fun _ m => Confirmed m.wal node req.vmID) (Seen strict)) m := by
  refine IdleIf.bind (R := Ends (Told strict node req.vmID) (Seen strict)) ?_
    (fun a m hR h => ?_) fun e m _ he => he
  · rw [← attempt_ret (stmt (S := store) _ _)]
    refine IdleIf.stmt (fun status m' _ _ hmeets => ?_) (fun m' x e _ _ hx => ?_)
      fun m' x a ws _ _ hmeets hx => ?_
    · exact IdleIf.ret (settled_error (seen_status fun hs => plain_of_taken (hmeets.faithful hs)))
    · cases hx
    · have hboth : Deed strict db₀ i m' ws ∧ _ := deleteVM_told hmeets hx
      obtain ⟨hdeed, htold⟩ := hboth
      exact ⟨fun _ => hdeed, IdleIf.ret htold⟩
  · cases a with
    | ok u => exact IdleIf.ret h
    | error status => exact IdleIf.ret (settled_error (seen_status (h m (.refl m) hR)))

/-- **The client returns nil only after the answer of the agent**, and if every request is faithful
no error of its is taken for the absence of the VM. -/
theorem idle_deleteVM (hnode : Plain node) (hv : Plain v) (hm : Present v m) :
    Goes strict db₀ i (NodeAgent.deleteVM node v)
    (Ends (fun _ m => Confirmed m.wal node v) (Seen strict)) m := by
  refine IdleIf.bind (lasting_present.keep (idle_getNode hnode) hm) (fun _ m hR h => ?_)
    fun e m _ he => he.mono fun _ _ h => h.1
  refine IdleIf.bind (lasting_present.keep (idle_getConnection hnode) (h m (.refl m) hR).2)
    (fun _ m hR h => ?_) fun e m _ he => he.mono fun _ _ h => h.1
  refine IdleIf.bind (idle_deleteVMRequest hv (h m (.refl m) hR).2)
    (fun req m hR h => ?_) fun e m _ he => he
  obtain rfl : req.vmID = v := h m (.refl m) hR
  exact idle_callDeleteVM

/-! ## the steps of the handler -/

lemma idle_unlessAbsent {c : Op Unit} {Q : Mem store ι → Prop}
    (hc : Goes strict db₀ i c (Ends (fun _ => Q) (Seen strict)) m) :
    Goes strict db₀ i (attempt c (VMDeletion.unlessAbsent context))
    (Ends (fun _ m => strict → Q m) fun _ => True) m := by
  refine IdleIf.attempt hc fun r m hR h => ?_
  cases r with
  | ok u => exact IdleIf.ret fun m' hr hR' _ => h m' hr hR'
  | error e =>
    unfold VMDeletion.unlessAbsent
    dsimp only
    split
    · rename_i habsent
      refine IdleIf.ret fun _ _ _ hs => ?_
      cases habsent.symm.trans (h m (.refl m) hR hs)
    · exact IdleIf.ret (settled_error trivial)

/-- the ids of the VM and of its node, as UUIDs are -/
structure PlainIDs (db₀ : Db) (v : String) : Prop where
  vm : Plain v
  node : ∀ vm node, db₀.main.vms.find v = some vm → vm.nodeID = some node → Plain node

lemma lasting_cleared : Lasting (fun m : Mem store ι => strict → Cleared db₀ m.wal v) := by
  rintro m m' - hwal hm hs vm node hvm hnode
  obtain ⟨b, hb, hw⟩ := hm hs vm node hvm hnode
  exact ⟨b, hwal.subset hb, hw⟩

lemma idle_cleanupNode (hids : PlainIDs db₀ vm.id) (hm : Present vm.id m)
    (hvm₀ : db₀.main.vms.find vm.id = some vm₀) (hnode : vm₀.nodeID = vm.nodeID) :
    Goes strict db₀ i ((deletion providers).cleanupNode taskID vm)
      (Ends (fun _ m => strict → Cleared db₀ m.wal vm.id) fun _ => True) m := by
  unfold VMDeletion.cleanupNode
  cases hn : vm.nodeID with
  | none =>
    refine IdleIf.ret fun _ _ _ _ vm' node hvm' hnode' => ?_
    obtain rfl : vm₀ = vm' := Option.mem_unique hvm₀ hvm'
    cases (hnode.trans hn).symm.trans hnode'
  | some node =>
    have hplain : Plain node := hids.node vm₀ node hvm₀ (hnode.trans hn)
    refine idle_minor_bind (progress_minor _ _ _) lasting_present hm fun _ m _ hm => ?_
    refine idle_minor_bind (stopIfRunning_minor _ _) lasting_present hm fun _ m _ hm => ?_
    refine idle_minor_bind (progress_minor _ _ _) lasting_present hm fun _ m _ hm => ?_
    refine IdleIf.mono (idle_unlessAbsent (idle_deleteVM hplain hids.vm hm)) fun r m _ h => ?_
    cases r with
    | error e => trivial
    | ok u =>
      intro hs vm' node' hvm' hnode'
      obtain rfl : vm₀ = vm' := Option.mem_unique hvm₀ hvm'
      obtain rfl : node = node' := Option.some.inj ((hnode.trans hn).symm.trans hnode')
      exact h hs

/-! ## the release of the addresses -/

section
variable (v : String) (ips : List IPAddress) (m : Mem store ι)

/-- what of these is assigned is an address of the VM -/
def Owned : Prop :=
  ∀ ip ∈ ips, ∀ row, (Db.main m.db).ips.find ip.id = some row → row.status = .assigned →
    row.assignedTo v

/-- the IPv4 addresses of the VM are among these -/
def Pending : Prop :=
  ∀ id, Holds (Db.main m.db) v (.ipv4 id) → ∃ ip ∈ ips, ip.id = id ∧ ip.status = .assigned

end

lemma lasting_owned : Lasting (Owned v ips : Mem store ι → Prop) :=
  fun _ _ hs _ hm ip hip row hrow ha => hm ip hip row (hs.ips ip.id row hrow ha) ha

lemma lasting_pending : Lasting (Pending v ips : Mem store ι → Prop) :=
  fun _ _ hs _ hm id hid => hm id (hs.holds hid)

lemma lasting_not_holds {a : Address} :
    Lasting (fun m : Mem store ι => ¬ Holds (Db.main m.db) v a) :=
  fun _ _ hs _ hm ha => hm (hs.holds ha)

lemma Lasting.and {K' : Mem store ι → Prop} (hK : Lasting K) (hK' : Lasting K') :
    Lasting fun m => K m ∧ K' m :=
  fun m m' hs hw hm => ⟨hK m m' hs hw hm.1, hK' m m' hs hw hm.2⟩

lemma Lasting.imp {p : Prop} (hK : p → Lasting K) : Lasting fun m => p → K m :=
  fun m m' hs hw hm hp => hK hp m m' hs hw (hm hp)

lemma plain_text {c t : String} (hc : Plain c) (ht : Plain t) : Plain (c ++ ": " ++ t) := by
  intro h
  rcases mentions_wrap (by decide) (by decide) h with h | h
  · exact hc h
  · exact ht h

variable {id : String}

lemma idle_releaseIPv4 (hid : Plain id)
    (hm : (strict → Cleared db₀ m.wal v) ∧ ∀ row, (Db.main m.db).ips.find id = some row →
      row.status = .assigned → row.assignedTo v) : Goes strict db₀ i (ofDb (IPAM.releaseIPv4 id))
      (Ends (fun _ m => ¬ Holds (Db.main m.db) v (.ipv4 id)) fun e => strict → Plain e.text) m := by
  have hcontext : Plain ("releasing IP address " ++ id) :=
    fun h => hid (mentions_after (by decide) h)
  have hlasting : Lasting (fun m : Mem store ι => (strict → Cleared db₀ m.wal v) ∧
      ∀ row, (Db.main m.db).ips.find id = some row → row.status = .assigned → row.assignedTo v) :=
    lasting_cleared.and fun _ _ hs _ hm row hrow ha => hm row (hs.ips id row hrow ha) ha
  unfold IPAM.releaseIPv4 Op.affecting
  rw [ofDb_bind]
  refine IdleIf.bind (R := Ends (fun done m => done = true → ¬ Holds (Db.main m.db) v (.ipv4 id))
    fun e => strict → Plain e.text) (idle_query ?_ ?_ ?_) (fun done m hR h => ?_) fun e m _ he => he
  · exact fun status m' _ hmeets hs => plain_text hcontext (plain_of_not (hmeets.faithful hs))
  · intro x db e hx
    simp only [Compute.exec] at hx
    split at hx
    · cases hx
    · cases hx
  · intro m' x a ws hr hR _ hx
    obtain ⟨hcleared, howned⟩ := hlasting.rely hr hm
    simp only [Compute.exec] at hx
    split at hx
    · rename_i ip hip
      cases hx
      obtain ⟨hfind, hassigned⟩ := Option.filter_eq_some_iff.mp hip
      have hidip : ip.id = id := key_of_find hfind
      subst hidip
      have hdeed : Deed strict db₀ i m'
          ([Compute.Write.putIP
            { ip with status := .cooldown, vmID := none, customerID := none }].map .db) :=
        Deed.freedIP hfind (howned ip hfind (of_decide_eq_true hassigned)) hcleared
      refine ⟨fun _ => hdeed, Settled.mono (lasting_not_holds.settled ?_) fun _ _ h _ => h⟩
      rw [publish_db]
      rintro ⟨row, hrow, hv⟩
      have hput : (Db.main (store.view m'.db
          [.db (.putIP
            { ip with status := .cooldown, vmID := none, customerID := none })])).ips.find ip.id =
          some { ip with status := .cooldown, vmID := none, customerID := none } :=
          find_put_self hfind rfl
      obtain rfl := Option.mem_unique hput hrow
      cases hv.2
    · cases hx
      exact silent (fun _ _ _ h => by cases h)
  · cases done with
    | true => exact IdleIf.ret (Settled.mono h fun _ _ h => h rfl)
    | false => exact IdleIf.ret (settled_error fun _ => plain_text hcontext (by decide))

/-- an error of the list: it begins with "releasing", and does not say that something is missing -/
def Reported (strict : Prop) (e : GoError) : Prop :=
  e.text.toList.head? = some 'r' ∧ (strict → Plain e.text)

lemma reported_release (hid : Plain id) (he : strict → Plain e.text) :
    Reported strict (.wrap ("releasing IP " ++ id) e) := by
  refine ⟨?_, fun hs => plain_text (fun h => hid (mentions_after (by decide) h)) (he hs)⟩
  show ("releasing IP " ++ id ++ ": " ++ e.text).toList.head? = some 'r'
  rw [String.toList_append, String.toList_append, String.toList_append]
  rfl

lemma idle_releaseEach {errs : List GoError}
    (hids : ∀ ip ∈ ips, ip.status = .assigned → Plain ip.id) (herrs : ∀ e ∈ errs, Reported strict e)
    (hm : ((strict → Cleared db₀ m.wal v) ∧ Owned v ips m) ∧
      (strict → errs = [] → Pending v ips m)) : Goes strict db₀ i (ofDb (IPAM.releaseEach errs ips))
      (Ends (fun errs m => (∀ e ∈ errs, Reported strict e) ∧ (strict → errs = [] → Pending v [] m))
        fun _ => False)
      m := by
  induction ips generalizing errs m with
  | nil =>
    refine IdleIf.ret
      (Settled.mono (Lasting.settled (K := fun m => strict → errs = [] → Pending v [] m) ?_ hm.2)
      fun _ _ h => ⟨herrs, h⟩)
    exact Lasting.imp fun _ => Lasting.imp fun _ => lasting_pending
  | cons ip rest ih =>
    have hrest : ∀ ip ∈ rest, ip.status = .assigned → Plain ip.id :=
      fun ip h => hids ip (mem_cons_of_mem _ h)
    have howned : ∀ m : Mem store ι, Owned v (ip :: rest) m → Owned v rest m :=
      fun m h ip' hip' => h ip' (mem_cons_of_mem _ hip')
    unfold IPAM.releaseEach
    split
    · rename_i hassigned
      have hplain : Plain ip.id := hids ip mem_cons_self hassigned
      rw [ofDb_attempt]
      have hlasting : Lasting fun m : Mem store ι =>
        ((strict → Cleared db₀ m.wal v) ∧ Owned v (ip :: rest) m) ∧
          (strict → errs = [] → Pending v (ip :: rest) m) :=
        (lasting_cleared.and lasting_owned).and
          (Lasting.imp fun _ => Lasting.imp fun _ => lasting_pending)
      refine IdleIf.attempt (hlasting.keep (idle_releaseIPv4 hplain
        ⟨hm.1.1, fun row => hm.1.2 ip mem_cons_self row⟩) hm) fun r m hR hr => ?_
      obtain ⟨hend, ⟨hcleared, hown⟩, hpend⟩ := hr m (.refl m) hR
      cases r with
      | ok u =>
        refine ih hrest herrs ⟨⟨hcleared, howned m hown⟩, fun hs he id hid => ?_⟩
        obtain ⟨ip', hip', hid', ha'⟩ := hpend hs he id hid
        rcases mem_cons.mp hip' with rfl | hip'
        · exact absurd (hid' ▸ hid) hend
        · exact ⟨ip', hip', hid', ha'⟩
      | error e =>
        refine ih hrest (fun e' he' => ?_)
          ⟨⟨hcleared, howned m hown⟩, fun _ he => absurd he (by simp)⟩
        rcases mem_append.mp he' with he' | he'
        · exact herrs e' he'
        · rw [mem_singleton.mp he']
          exact reported_release hplain hend
    · rename_i hassigned
      refine ih hrest herrs ⟨⟨hm.1.1, howned m hm.1.2⟩, fun hs he id hid => ?_⟩
      obtain ⟨ip', hip', hid', ha'⟩ := hm.2 hs he id hid
      rcases mem_cons.mp hip' with rfl | hip'
      · exact absurd ha' hassigned
      · exact ⟨ip', hip', hid', ha'⟩

lemma idle_deleteSubnets (hm : strict → Cleared db₀ m.wal v) :
    Goes strict db₀ i (ofDb (Compute.Op.logged (Op.query (.deleteIPv6Subnets v) context)))
      (Ends (fun _ m => strict → ∀ id, ¬ Holds (Db.main m.db) v (.ipv6 id)) fun _ => False) m := by
  unfold Compute.Op.logged
  rw [ofDb_attempt]
  refine IdleIf.attempt
    (R := Ends (fun _ m => ∀ id, ¬ Holds (Db.main m.db) v (.ipv6 id)) fun _ => ¬ strict)
    (idle_query ?_ ?_ ?_) fun r m hR hr => ?_
  · intro status m' _ hmeets hs
    cases hmeets.faithful hs
  · intro x db e hx
    cases hx
  · intro m' x a ws hr _ _ hx
    cases hx
    have hdeed : Deed strict db₀ i m' ([Compute.Write.deleteSubnets v].map .db) :=
      Deed.freedSubnets (lasting_cleared.rely hr hm)
    have hlasting : Lasting fun m : Mem store ι => ∀ id, ¬ Holds (Db.main m.db) v (.ipv6 id) :=
      fun m1 m2 hs hw h id => lasting_not_holds m1 m2 hs hw (h id)
    refine ⟨fun _ => hdeed, hlasting.settled ?_⟩
    rw [publish_db]
    rintro id ⟨s, hs, -, hv⟩
    exact of_decide_eq_true (mem_filter.mp hs).2 hv
  · cases r with
    | ok u => exact IdleIf.ret (Settled.mono hr fun _ _ h _ => h)
    | error e => exact IdleIf.ret fun _ _ _ hs => absurd hs (hr m (.refl m) hR)

lemma seen_errors {errs : List GoError} (hv : Plain v) (herrs : ∀ e ∈ errs, Reported strict e) :
    Seen strict (.new ("errors releasing IPs for VM " ++ v ++ ": [" ++
      String.intercalate " " (errs.map GoError.text) ++ "]")) := by
  intro hs
  refine eq_false_iff.mpr fun h => ?_
  rcases mentions_brackets (by decide) (by decide) (by decide) (absent_new h) with h | h | h
  · exact hv (mentions_after (by decide) h)
  · exact absurd h (by decide)
  · have hhead : ∀ t ∈ errs.map GoError.text, ∃ c, t.toList.head? = some c ∧
        c.toLower ∉ "not found".toList := by
      intro t ht
      obtain ⟨e, he, rfl⟩ := mem_map.mp ht
      exact ⟨'r', (herrs e he).1, by decide⟩
    obtain ⟨t, ht, hm⟩ := mentions_intercalate (by decide) (by decide) hhead h
    obtain ⟨e, he, rfl⟩ := mem_map.mp ht
    exact (herrs e he).2 hs hm

lemma listed (hR : (deleting strict db₀).Reach m) (hips : ∀ ip ∈ db₀.main.ips.rows, Plain ip.id)
    (hpage : strict → ((Db.main m.db).ips.rows.filter fun ip => ip.vmID = some v).length ≤
      defaultPerPage) :
    (∀ ip ∈ (Db.main m.db).listIPAddresses v, ip.status = .assigned → Plain ip.id) ∧
      Owned v ((Db.main m.db).listIPAddresses v) m ∧
        (strict → Pending v ((Db.main m.db).listIPAddresses v) m) := by
  have hfind : ∀ ip ∈ (Db.main m.db).listIPAddresses v, (Db.main m.db).ips.find ip.id =
    some ip := fun ip hip =>
    find_of_mem (mem_listIPAddresses hip).1
  refine ⟨fun ip hip ha => ?_, fun ip hip row hrow ha => ?_, fun hs id hid => ?_⟩
  · exact hips ip (find_some ((reach_shrinks hR).ips ip.id ip (hfind ip hip) ha)).1
  · obtain rfl : ip = row := Option.some.inj ((hfind ip hip).symm.trans hrow)
    exact ⟨(mem_listIPAddresses hip).2, ha⟩
  · obtain ⟨ip, hip, hv, ha⟩ := hid
    obtain ⟨hmem, hkey⟩ := find_some hip
    refine ⟨ip, mem_firstPage (hpage hs) (mem_filter.mpr ⟨hmem, decide_eq_true hv⟩), ?_, ha⟩
    exact (mem_singleton.mp hkey).symm

/-- **The release returns nil only after the addresses are released**, if every request is
faithful. -/
theorem idle_releaseIPsByVM (hv : Plain v) (hips : ∀ ip ∈ db₀.main.ips.rows, Plain ip.id)
    (hm : strict → Cleared db₀ m.wal v) : Goes strict db₀ i (ofDb (IPAM.releaseIPsByVM v))
      (Ends (fun _ m => strict → Released (Db.main m.db) v) (Seen strict)) m := by
  unfold IPAM.releaseIPsByVM
  rw [ofDb_bind]
  have hcontext : Plain ("listing IPs for VM " ++ v ++ ": listing IP addresses") := by
    have hsplit : ": listing IP addresses" = ": " ++ "listing IP addresses" := rfl
    rw [hsplit, ← String.append_assoc]
    exact plain_text (fun h => hv (mentions_after (by decide) h)) (by decide)
  have hlist : Lasting fun m : Mem store ι => strict → Cleared db₀ m.wal v := lasting_cleared
  refine IdleIf.bind
    (R := fun r m => Ends (fun ips m => (∀ ip ∈ ips, ip.status = .assigned → Plain ip.id) ∧
    Owned v ips m ∧ (strict → Pending v ips m)) (Seen strict) r m ∧ (strict → Cleared db₀ m.wal v))
    (hlist.keep (idle_read rfl ?_ ?_ ?_) hm) (fun ips m hR h => ?_) fun e m _ he =>
      he.mono fun _ _ h => h.1
  · intro status m' _ hmeets hs
    refine eq_false_iff.mpr fun h => ?_
    rcases absent_wrap h with h | h
    · exact hcontext h
    · exact plain_of_not (hmeets.faithful hs) (absent_fault h)
  · intro x db e hx
    cases hx
  · intro m' x a hr hR hmeets hx
    cases hx
    have hK := listed (v := v) hR hips fun hs => of_decide_eq_true (hmeets.faithful hs)
    have hlasting : Lasting fun m : Mem store ι => Owned v ((Db.main m'.db).listIPAddresses v) m ∧
        (strict → Pending v ((Db.main m'.db).listIPAddresses v) m) :=
      lasting_owned.and (Lasting.imp fun _ => lasting_pending)
    exact Settled.mono (hlasting.settled hK.2) fun _ _ h => ⟨hK.1, h⟩
  · obtain ⟨⟨hids, howned, hpend⟩, hcleared⟩ := h m (.refl m) hR
    rw [ofDb_bind]
    refine IdleIf.bind (hlist.keep (idle_releaseEach hids (fun _ he => by cases he)
      ⟨⟨hcleared, howned⟩, fun hs _ => hpend hs⟩) hcleared)
        (fun errs m hR h => ?_) fun e m hR he => ?_
    · obtain ⟨⟨herrs, hdone⟩, hcleared⟩ := h m (.refl m) hR
      rw [ofDb_bind]
      have hlasting : Lasting fun m : Mem store ι => strict → errs = [] → Pending v [] m :=
        Lasting.imp fun _ => Lasting.imp fun _ => lasting_pending
      refine IdleIf.bind (hlasting.keep (idle_deleteSubnets hcleared) hdone)
        (fun _ m hR h => ?_) fun e m hR he => ?_
      · cases errs with
        | cons e errs => exact IdleIf.ret (settled_error (seen_errors hv herrs))
        | nil =>
          refine IdleIf.ret (Settled.mono h fun m _ h hs a ha => ?_)
          cases a with
          | ipv4 id =>
            obtain ⟨ip, hip, -⟩ := h.2 hs rfl id ha
            cases hip
          | ipv6 id => exact h.1 hs id ha
      · exact (he m (.refl m) hR).1.elim
    · exact (he m (.refl m) hR).1.elim

/-! ## the row and the hook -/

lemma idle_softDelete (hm : strict → Released (Db.main m.db) v) :
    Goes strict db₀ i (ofDb (VMRepository.softDelete v))
      (Ends (fun _ m => JustDeleted db₀ m i v) fun _ => True) m := by
  have hlasting : Lasting fun m : Mem store ι => strict → Released (Db.main m.db) v :=
    Lasting.imp fun _ _ _ hs _ h => hs.released h
  unfold VMRepository.softDelete VMRepository.update Op.affecting
  rw [ofDb_bind]
  refine IdleIf.bind (R := Ends (fun done m => done = true → JustDeleted db₀ m i v) fun _ => True)
    (idle_query (fun _ _ _ _ => trivial) (fun _ _ _ _ => trivial) ?_)
      (fun done m _ h => ?_) fun e m _ he => he
  · intro m' x a ws hr hR _ hx
    rcases exec_updateVM hx with ⟨rfl, rfl⟩ | ⟨vm, hvm, -, rfl, rfl⟩
    · exact silent (fun _ _ _ h => by cases h)
    · refine ⟨fun _ => Deed.deleted hvm (hlasting.rely hr hm), ?_⟩
      refine Settled.mono (settled_last (last_publish (cons_ne_nil _ _))) fun _ _ h _ =>
        ⟨m'.wal, vm, x.main.now, h, ?_⟩
      rw [← reach_main hR]
      exact hvm
  · cases done with
    | true => exact IdleIf.ret (Settled.mono h fun _ _ h => h rfl)
    | false => exact IdleIf.ret (settled_error trivial)

lemma idle_callHook (hm : Settled (deleting strict db₀) i (fun m => JustDeleted db₀ m i vm.id) m) :
    Goes strict db₀ i (callHook vm) (fun _ _ => True) m := by
  refine IdleIf.stmt (fun status m' _ _ hmeets => ?_) (fun m' x e _ _ hx => ?_)
    fun m' x a ws hr hR _ hx => ?_
  · cases hmeets.1
  · cases hx
  · cases hx
    exact ⟨fun _ => Deed.hooked (hm m' hr hR), IdleIf.ret fun _ _ _ => trivial⟩

lemma billingHook_reads (registered : String → Bool) (customerID : String) :
    (billingHook registered customerID).All fun q => ∃ id, q = Stmt.getCustomer id := by
  refine All.bind ?_ fun customer => ?_
  · refine All.attempt (All.bind (All.stmt ⟨customerID, rfl⟩) fun r => ?_) fun r => ?_
    · cases r <;> trivial
    · cases r <;> trivial
  · cases forCustomer registered (customer.billingProvider.getD "") <;> trivial

lemma idle_notifyBilling
    (hm : Settled (deleting strict db₀) i (fun m => JustDeleted db₀ m i vm.id) m) :
    Goes strict db₀ i (notifyBilling providers vm) (fun _ _ => True) m := by
  cases providers with
  | none => exact IdleIf.ret fun _ _ _ => trivial
  | some registered =>
    have hreads : ∀ q, (∃ id, q = Stmt.getCustomer id) → ∀ x db a ws, store.exec q x x db =
        .ok (a, ws) → ws = [] := by
      rintro _ ⟨id, rfl⟩ x db a ws hx
      cases hx
      rfl
    refine IdleIf.attempt (Idle.toIf (fun _ _ _ _ => trivial)
      ((billingHook_reads registered vm.customerID).does.idle_settled hreads hm)) fun r m _ h => ?_
    cases r with
    | ok u => exact idle_callHook (Settled.mono h fun _ _ h => h.2)
    | error e => exact IdleIf.ret fun _ _ _ => trivial

lemma idle_removeRecord (hm : strict → Released (Db.main m.db) vm.id) :
    Goes strict db₀ i ((deletion providers).removeRecord vm)
    (Ends (fun _ _ => True) fun _ => True) m := by
  unfold VMDeletion.removeRecord
  split
  · exact IdleIf.ret fun _ _ _ => trivial
  · refine IdleIf.bind
      (idle_ofWrapping (E := fun _ => True) (idle_softDelete hm) fun _ _ => trivial)
      (fun _ m _ h => ?_) fun _ _ _ _ => settled_error trivial
    exact IdleIf.mono (idle_notifyBilling h) fun r _ _ _ => by cases r <;> trivial

/-! ## the handler -/

def isUUID (id : String) : Bool := id.toList.all fun c => "0123456789abcdef-".toList.contains c

lemma plain_of_isUUID (h : isUUID id = true) : Plain id := by
  have hall : ("0123456789abcdef-".toList.all fun c => c.toLower != 'n') = true := by rfl
  refine not_mentions (x := 'n') (by decide) fun c hc hn => ?_
  have hmem := contains_iff_mem.mp (List.all_eq_true.mp h c hc)
  exact bne_iff_ne.mp (List.all_eq_true.mp hall c hmem) hn

/-- the columns of the ids that appear in errors -/
structure UUIDs (db : Compute.Db) : Prop where
  vms : ∀ vm ∈ db.vms.rows, isUUID vm.id = true ∧ ∀ node ∈ vm.nodeID, isUUID node = true
  ips : ∀ ip ∈ db.ips.rows, isUUID ip.id = true

lemma UUIDs.plainIDs (h : UUIDs db₀.main) (hvm : db₀.main.vms.find v = some vm₀) :
    PlainIDs db₀ v := by
  obtain ⟨hmem, hkey⟩ := find_some hvm
  have hid : v = vm₀.id := mem_singleton.mp hkey
  refine ⟨hid ▸ plain_of_isUUID (h.vms vm₀ hmem).1, fun vm node hvm' hnode => ?_⟩
  obtain rfl : vm₀ = vm := Option.mem_unique hvm hvm'
  exact plain_of_isUUID ((h.vms vm₀ hmem).2 node hnode)

lemma idle_removeVM (hdb : UUIDs db₀.main)
    (hm : Present vm.id m) (hvm₀ : db₀.main.vms.find vm.id = some vm₀)
    (hnode : vm₀.nodeID = vm.nodeID) : Goes strict db₀ i ((deletion providers).removeVM taskID vm)
    (Ends (fun _ _ => True) fun _ => True) m := by
  have hids := hdb.plainIDs hvm₀
  refine IdleIf.bind (idle_cleanupNode hids hm hvm₀ hnode) (fun _ m hR h => ?_) fun _ _ _ _ =>
    settled_error trivial
  refine idle_minor_bind (progress_minor _ _ _) lasting_cleared
    (h m (.refl m) hR) fun _ m _ hcleared => ?_
  refine IdleIf.bind (idle_unlessAbsent (idle_releaseIPsByVM hids.vm
    (fun ip hip => plain_of_isUUID (hdb.ips ip hip)) hcleared))
    (fun _ m hR h => ?_) fun _ _ _ _ => settled_error trivial
  have hlasting : Lasting fun m : Mem store ι => strict → Released (Db.main m.db) vm.id :=
    Lasting.imp fun _ _ _ hs _ h => hs.released h
  refine idle_minor_bind (progress_minor _ _ _) hlasting (fun hs => h m (.refl m) hR hs hs)
    fun _ m _ hreleased => ?_
  refine IdleIf.bind (idle_removeRecord hreleased) (fun _ m _ _ => ?_) fun _ _ _ _ =>
    settled_error trivial
  refine idle_minor_bind (K := fun _ => True) (progress_minor _ _ _) (fun _ _ _ _ h => h) trivial
    fun _ m _ _ => ?_
  exact IdleIf.mono (idle_minor (complete_minor taskID)) fun r _ _ _ => by cases r <;> trivial

lemma idle_execute {payload : VMDeletePayload} (hdb : UUIDs db₀.main) :
    Goes strict db₀ i ((deletion providers).execute taskID payload)
    (Ends (fun _ _ => True) fun _ => True) m := by
  refine idle_minor_bind (K := fun _ => True) (progress_minor _ _ _) (fun _ _ _ _ h => h) trivial
    fun _ m _ _ => ?_
  refine IdleIf.attempt
    (R := Ends (fun vm m => Present vm.id m ∧ ∃ vm₀, db₀.main.vms.find vm.id = some vm₀ ∧
    vm₀.nodeID = vm.nodeID) fun _ => True) ?_ fun r m hR h => ?_
  · refine idle_found (T := fun r m => ∀ vm, r = some vm → Present vm.id m ∧
      ∃ vm₀, db₀.main.vms.find vm.id = some vm₀ ∧ vm₀.nodeID = vm.nodeID)
      (idle_read rfl (fun _ _ _ _ => trivial) (fun _ _ _ _ => trivial) ?_) (fun vm _ h => h vm rfl)
      fun _ _ _ => trivial
    intro m' x a hr hR _ hx m'' hr' _ vm hvm
    have hfind : (Db.main m'.db).vms.find payload.vmID = some vm := by
      cases hx
      exact hvm
    have hid : payload.vmID = vm.id := (key_of_find hfind).symm
    rw [hid] at hfind
    have hpresent : Present vm.id m' := fun h => by cases h.symm.trans hfind
    exact ⟨lasting_present.rely hr' hpresent, (reach_shrinks hR).row hfind⟩
  · cases r with
    | ok vm =>
      obtain ⟨hpresent, vm₀, hvm0, hnode⟩ := h m (.refl m) hR
      exact idle_removeVM hdb hpresent hvm0 hnode
    | error e =>
      refine IdleIf.mono (idle_minor (completeIfRecordMissing_minor taskID payload.vmID e))
        fun r _ _ _ => ?_
      cases r <;> trivial

lemma idle_handleVMDelete {doc : Json} (hdb : UUIDs db₀.main) :
    Goes strict db₀ i (handleVMDelete providers taskID doc)
    (Ends (fun _ _ => True) fun _ => True) m := by
  unfold handleVMDelete VMDeletion.handle
  cases VMDeletePayload.decode doc with
  | error e => exact IdleIf.ret fun _ _ _ => trivial
  | ok payload => exact idle_execute hdb

end

/-! ## every run -/

section
variable {ι : Type} [DecidableEq ι] {strict : Prop} {db₀ : Db} {providers : Option (String → Bool)}
  {deliveries : ι → String × Json}

def deliver (providers : Option (String → Bool)) (deliveries : ι → String × Json) (i : ι) :
    Op Unit :=
  handleVMDelete providers (deliveries i).1 (deliveries i).2

lemma reaches_order (hdb : UUIDs db₀.main) {s : State store ι (Except GoError Unit)}
    (h : ReachesIf (Meets strict) (State.init db₀ (deliver providers deliveries)) s) :
    (∀ v, (s.mem.authors (hookOf v)).length ≤ 1) ∧
      (∀ pre b post, s.mem.wal = pre ++ b :: post → Marked db₀ pre b) ∧
        (strict → ∀ pre b post, s.mem.wal = pre ++ b :: post → InOrder db₀ pre b) := by
  have hreach :=
    (IdleIf.adequate (P := deleting strict db₀) (R := fun _ => Ends (fun _ _ => True) fun _ => True)
    rfl (fun i => idle_handleVMDelete hdb) h).1
  obtain ⟨hhook, hmarked, horder⟩ := reach_order hreach
  exact ⟨fun v => (hhook v).length_le, hmarked, horder⟩

/-- **The order of a deletion.** However many deliveries there are, of one task or of several, in
turn or at once: in every run the hook is called at most once for a VM, by a session that has
soft-deleted its row before, and the agent confirms only what is so. In a run of faithful requests
the addresses of a VM go only after the agent of its node has confirmed that it has no domain, and
the row only after the addresses. -/
theorem deletion_order (providers : Option (String → Bool)) (db₀ : Db) (hdb : UUIDs db₀.main)
    (deliveries : ι → String × Json) :
    (∀ s, ReachesIf Answers (State.init db₀ (deliver providers deliveries)) s →
      (∀ v, (s.mem.authors (hookOf v)).length ≤ 1) ∧ ∀ pre b post, s.mem.wal = pre ++ b :: post →
        Marked db₀ pre b) ∧
      ∀ s, ReachesIf Faithful (State.init db₀ (deliver providers deliveries)) s →
        (∀ v, (s.mem.authors (hookOf v)).length ≤ 1) ∧
          ∀ pre b post, s.mem.wal = pre ++ b :: post → Marked db₀ pre b ∧ InOrder db₀ pre b := by
  refine ⟨fun s h => ?_, fun s h => ?_⟩
  · have h' : ReachesIf (Meets False) (State.init db₀ (deliver providers deliveries)) s :=
      h.mono fun _ _ _ _ hok => ⟨hok, False.elim⟩
    obtain ⟨hhook, hmarked, -⟩ := reaches_order hdb h'
    exact ⟨hhook, hmarked⟩
  · have hanswers : ∀ (i : ι) r a m, Faithful i r a m → Answers i r a m := by
      intro i r a m hok
      cases r with
      | run q =>
        cases a with
        | ev e => exact hok.1
        | crash => trivial
      | begin | commit | rollback => trivial
    have h' : ReachesIf (Meets True) (State.init db₀ (deliver providers deliveries)) s :=
      h.mono fun i r a m hok => ⟨hanswers i r a m hok, fun _ => hok⟩
    obtain ⟨hhook, hmarked, horder⟩ := reaches_order hdb h'
    exact ⟨hhook, fun pre b post hwal => ⟨hmarked pre b post hwal, horder trivial pre b post hwal⟩⟩

end

/-! ## runs of one delivery -/

-- the text of an error is searched letter by letter
set_option maxRecDepth 4000

/-- the VM `a` on the node `b`, with one address of each kind and a domain that runs -/
def oneAddress : Db where
  main :=
    { oneVM { vmIn "a" .running storageBackendCeph with nodeID := some "b", customerID := "f" } with
    nodes := empty.insert ⟨"b", "h", none, .online, 8, 8192, 0, 0, "", "", ""⟩
    ips := empty.insert ⟨"c", "e", "192.0.2.1", some "a", some "f", .assigned⟩
    subnets := [⟨"d", "a", "e", 0⟩]
    tasks := empty.insert ⟨"0", .vmDelete, .running, .obj [("vm_id", .str "a")], none⟩
    hosts := { emptyHosts with
      domains := fun k => if k = ("b", "a") then some ⟨.running, .shared⟩ else none } }
  customers := [⟨"f", false, some "native"⟩]

lemma uuids_oneAddress : UUIDs oneAddress.main where
  vms := by
    intro vm hvm
    obtain rfl := mem_singleton.mp hvm
    refine ⟨rfl, fun node hnode => ?_⟩
    cases hnode
    rfl
  ips := by
    intro ip hip
    obtain rfl := mem_singleton.mp hip
    rfl

def native : Option (String → Bool) := some fun provider => provider = "native"

def deleteA : Unit → String × Json := fun _ => ("0", .obj [("vm_id", .str "a")])

def goes : Unit × Label store := ((), .ev (.ok ⟨calm, "", none, .ok ()⟩))

def breaksWith (code : Code) (message : String) : Unit × Label store :=
  ((), .ev (.fail ⟨code, message⟩))

def deletionOf (db₀ : Db) : State store Unit (Except GoError Unit) :=
  State.init db₀ (deliver native deleteA)

def smooth : List (Unit × Label store) := List.replicate 19 goes

theorem deletion_order_once : ∃ s, ReachesIf Faithful (deletionOf oneAddress) s ∧
    s.prog () = some (.ret (.ok ())) ∧ Deleted (Db.main s.mem.db) "a" ∧
      s.mem.authors (hookOf "a") = [()] ∧
    ∀ pre b post, s.mem.wal = pre ++ b :: post → Marked oneAddress pre b ∧
      InOrder oneAddress pre b := by
  have hrun : (run (deletionOf oneAddress) smooth).isSome = true := by rfl
  have hreach : ReachesIf Faithful (deletionOf oneAddress)
    ((run (deletionOf oneAddress) smooth).get hrun) :=
    reaches_checkedIf (run_get hrun) (by rfl)
  exact ⟨_, hreach, rfl, ⟨_, rfl, fun h => by cases h⟩, rfl,
    ((deletion_order native oneAddress uuids_oneAddress deleteA).2 _ hreach).2⟩

/-- every request to the agent ends in an answer of something in between -/
def notTheAgent : List (Unit × Label store) :=
  let answer :=
    breaksWith .unimplemented "unexpected HTTP status code received from server: 404 (Not Found)"
  List.replicate 3 goes ++ [answer, answer] ++ List.replicate 4 goes ++
    answer :: List.replicate 3 goes

def subnetsKept : List (Unit × Label store) :=
  List.replicate 12 goes ++ breaksWith .unknown "deadlock detected" :: List.replicate 2 goes

/-- **An error for a confirmation.** The address of the VM is released while its domain runs and its
agent has answered nothing, if the requests get their answer from something else; and a failure to
delete its subnets does not keep the row from being soft-deleted. -/
theorem deletion_out_of_order : (∃ s, ReachesIf Answers (deletionOf oneAddress) s ∧
      (Db.main s.mem.db).hosts.domains ("b", "a") = some ⟨.running, .shared⟩ ∧
      ¬ ∀ pre b post, s.mem.wal = pre ++ b :: post →
        ∀ v a, Holds (after oneAddress pre) v a → ¬ Holds (after oneAddress (pre ++ [b])) v a →
          Cleared oneAddress pre v) ∧
    ∃ s, ReachesIf Answers (deletionOf oneAddress) s ∧ ¬ ∀ pre b post, s.mem.wal =
      pre ++ b :: post →
        ∀ v, ¬ Deleted (after oneAddress pre) v → Deleted (after oneAddress (pre ++ [b])) v →
          Released (after oneAddress pre) v := by
  constructor
  · have hrun : (run (deletionOf oneAddress) notTheAgent).isSome = true := by rfl
    refine ⟨_, reaches_checkedIf (run_get hrun) (by rfl), rfl, fun h => ?_⟩
    refine absurd (h [] _ [] rfl "a" (.ipv4 "c") ⟨_, rfl, rfl, rfl⟩ ?_ _ "b" rfl rfl) ?_
    · rintro ⟨ip, hip, hv⟩
      cases hip
      cases hv.2
    · rintro ⟨b, hb, -⟩
      cases hb
  · have hrun : (run (deletionOf oneAddress) subnetsKept).isSome = true := by rfl
    refine ⟨_, reaches_checkedIf (run_get hrun) (by rfl), fun h => ?_⟩
    refine h [_, _, _] _ [] rfl "a" ?_ ⟨_, rfl, fun h => by cases h⟩ (.ipv6 "d")
      ⟨_, mem_cons_self, rfl, rfl⟩
    rintro ⟨row, hrow, hd⟩
    cases hrow
    exact hd rfl

end VirtueStack.Compute.Deletion
