import VirtueStack.Nodes.Heartbeats
import Mathlib.Data.Finset.Card

/-!
# What the counter of missed heartbeats counts

Any number of heartbeats and passes of the checker, interleaved statement by statement.

* `Counted` **the invariant**: the counter is at most the number of passes that wrote it since the
  last heartbeat, and each of them observed first.
-/

set_option linter.unusedSectionVars false

namespace VirtueStack.Nodes
open Txn Call Table Mem List Bool
open Compute (NodeStatus)

/-! ## the log since the last heartbeat -/

section
variable {ι : Type}

section
variable (n : String)

def Write.isBeat : Write → Bool
  | .beat row => row.id = n
  | _ => false

def Write.isMisses : Write → Bool
  | .misses row => row.id = n
  | _ => false

def Write.lists : Write → Bool
  | .listed rows => rows.any fun row => row.id = n
  | _ => false

/-- a heartbeat of the node `n` is committed -/
def beats (b : ι × List Write) : Bool := b.2.any (Write.isBeat n)

def since (wal : List (ι × List Write)) : List (ι × List Write) :=
  wal.foldl (fun log b => if beats n b then [] else log ++ [b]) []

lemma since_concat (wal : List (ι × List Write)) (b : ι × List Write) :
    since n (wal ++ [b]) = if beats n b then [] else since n wal ++ [b] := by
  unfold since
  rw [foldl_append]
  rfl

end

variable {n : String} {b : ι × List Write} {wal : List (ι × List Write)} {i : ι} {timeout : Int}
variable {m : Mem store ι}

lemma since_append {post : List (ι × List Write)} (wal : List (ι × List Write))
    (h : ∀ b ∈ post, beats n b = false) : since n (wal ++ post) = since n wal ++ post := by
  induction post generalizing wal with
  | nil => rw [append_nil, append_nil]
  | cons b post ih =>
    have hb := h b mem_cons_self
    rw [append_cons, ih _ fun c hc => h c (mem_cons_of_mem _ hc), since_concat, hb,
      if_neg Bool.false_ne_true, append_assoc]
    rfl

lemma mem_since (h : b ∈ since n wal) : b ∈ wal := by
  induction wal using reverseRecOn with
  | nil => cases h
  | append_singleton wal c ih =>
    rw [since_concat] at h
    by_cases hc : beats n c = true
    · rw [if_pos hc] at h
      cases h
    · rw [if_neg hc] at h
      rcases mem_append.mp h with h | h
      · exact mem_append_left _ (ih h)
      · exact mem_append_right _ h

/-- the pass `i` has read, since the last heartbeat of the node, that there is none or that it is
older than the timeout -/
def ObservedStale (timeout : Int) (n : String) (log : List (ι × List Write)) (i : ι) : Prop :=
  ∃ rows row t, (i, [Write.listed rows]) ∈ log ∧ row ∈ rows ∧ row.id = n ∧
    (i, [Write.clock t]) ∈ log ∧ row.Stale (t - timeout)

lemma ObservedStale.mono {log log' : List (ι × List Write)}
    (h : ObservedStale timeout n log i) (hlog : log ⊆ log') : ObservedStale timeout n log' i := by
  obtain ⟨rows, row, t, hrows, hrow, hid, ht, hstale⟩ := h
  exact ⟨rows, row, t, hlog hrows, hrow, hid, hlog ht, hstale⟩

/-! ## the condition -/

variable [DecidableEq ι]

/-- after every reading of the node by the pass `i` the log has no heartbeat of it -/
def quietSince (i : ι) (n : String) : List (ι × List Write) → Bool
  | [] => true
  | b :: rest => (¬ (b.1 = i ∧ b.2.any (Write.lists n)) || rest.all fun c => ¬ beats n c) &&
    quietSince i n rest

variable {rows : List Node}

lemma quietSince_split {pre post : List (ι × List Write)} {row : Node}
    (h : quietSince i n (pre ++ (i, [.listed rows]) :: post) = true) (hrow : row ∈ rows)
    (hid : row.id = n) : ∀ b ∈ post, beats n b = false := by
  induction pre with
  | nil =>
    have hlists : Write.lists n (.listed rows) = true := any_eq_true.mpr ⟨row, hrow, by simp [hid]⟩
    simp only [nil_append, quietSince, hlists, any_cons, any_nil, Bool.or_false] at h
    intro b hb
    simpa using (List.all_eq_true.mp ((or_eq_true _ _).mp (and_eq_true_iff.mp h).1 |>.resolve_left
      (by simp)) b hb)
  | cons c pre ih =>
    rw [cons_append, quietSince, and_eq_true_iff] at h
    exact ih h.2

/-- a pass that is about to write the counter of a node has read the node after its last
heartbeat -/
def Undisturbed (i : ι) : Req store → Loc store → Mem store ι → Prop
  | .run (.updateHeartbeatMisses n _), _, m => quietSince i n m.wal = true
  | _, _, _ => True

instance (i : ι) (r : Req store) (l : Loc store) (m : Mem store ι) :
    Decidable (Undisturbed i r l m) :=
  match r with
  | .run (.updateHeartbeatMisses n _) => inferInstanceAs (Decidable (quietSince i n m.wal = true))
  | .run (.listByStatus _) => .isTrue trivial
  | .run .timeNow => .isTrue trivial
  | .run (.updateStatus _ _) => .isTrue trivial
  | .run (.insertHeartbeat _) => .isTrue trivial
  | .run (.updateLastHeartbeat _) => .isTrue trivial
  | .begin => .isTrue trivial
  | .commit => .isTrue trivial
  | .rollback => .isTrue trivial

/-! ## what a request can do -/

/-- the pass has written no counter yet -/
def Early (i : ι) (m : Mem store ι) : Prop :=
  ∀ b ∈ m.wal, b.1 = i → ∀ n, b.2.any (Write.isMisses n) = false

inductive Batch (timeout : Int) (i : ι) (m : Mem store ι) : List Write → Prop
  | listed (status : NodeStatus) :
  Early i m → Batch timeout i m [.listed (m.db.listByStatus status)]
  | clock (now : Int) : Batch timeout i m [.clock now]
  | inserted (nodeID : String) (now : Int) : Batch timeout i m [.insertHeartbeat nodeID now]
  | beat {row : Node} (now : Int) : m.db.nodes.find row.id = some row →
      Batch timeout i m [.insertHeartbeat row.id now, .beat (row.beat now)]
  | misses {row read : Node} (rows : List Node) (t : Int) : m.db.nodes.find row.id = some row →
      (i, [Write.listed rows]) ∈ since row.id m.wal → read ∈ rows → read.id = row.id →
      (i, [Write.clock t]) ∈ since row.id m.wal → read.Stale (t - timeout) →
      Batch timeout i m [.misses (row.withMisses (read.consecutiveHeartbeatMisses + 1))]
  | status {row : Node} (st : NodeStatus) : m.db.nodes.find row.id = some row →
      Batch timeout i m [.status (row.withStatus st)]

def watching (timeout : Int) (db₀ : Db) : Protocol store ι where
  init m := m = ⟨db₀, []⟩
  may i _ ws m := Batch timeout i m ws
  allow := Undisturbed

/-! ## the invariant -/

/-- the passes that wrote the counter of the node since its last heartbeat -/
def writers (n : String) (wal : List (ι × List Write)) : Finset ι :=
  (((since n wal).filter fun b => b.2.any (Write.isMisses n)).map Prod.fst).toFinset

lemma writers_of_beats (h : beats n b = true) : writers n (wal ++ [b]) = ∅ := by
  unfold writers
  rw [since_concat, if_pos h]
  rfl

lemma writers_of_quiet (h : beats n b = false)
    (hm : b.2.any (Write.isMisses n) = false) : writers n (wal ++ [b]) = writers n wal := by
  unfold writers
  rw [since_concat, h, if_neg Bool.false_ne_true, filter_append, filter_cons_of_neg (by simp [hm])]
  simp

lemma writers_of_misses (h : beats n b = false) (hm : b.2.any (Write.isMisses n) = true) :
    writers n (wal ++ [b]) = insert b.1 (writers n wal) := by
  unfold writers
  rw [since_concat, h, if_neg Bool.false_ne_true, filter_append, filter_cons_of_pos (by simp [hm])]
  ext i
  simp

lemma Early.notMem_writers (h : Early i m) (n : String) : i ∉ writers n m.wal := by
  intro hi
  obtain ⟨b, hb, rfl⟩ := mem_map.mp (mem_toFinset.mp hi)
  obtain ⟨hb, hm⟩ := mem_filter.mp hb
  rw [h b (mem_since hb) rfl n] at hm
  cases hm

structure Counted (timeout : Int) (n : String) (m : Mem store ι) : Prop where
  misses : ∀ row, m.db.nodes.find n = some row → row.consecutiveHeartbeatMisses ≤
    (writers n m.wal).card
  observed : ∀ i ∈ writers n m.wal, ObservedStale timeout n (since n m.wal) i
  /-- what a pass has read is at most the number of the other passes that wrote -/
  read : ∀ i rows row, (i, [Write.listed rows]) ∈ since n m.wal → row ∈ rows → row.id = n →
    row.consecutiveHeartbeatMisses ≤ ((writers n m.wal).erase i).card
  /-- and the heartbeat it has read is still the last one -/
  last : ∀ i rows row cur, (i, [Write.listed rows]) ∈ since n m.wal → row ∈ rows → row.id = n →
    m.db.nodes.find n = some cur → row.lastHeartbeatAt = cur.lastHeartbeatAt

section
variable {timeout : Int} {n : String} {m m' : Mem store ι} {i : ι} {ws : List Write}

lemma Counted.other (h : Counted timeout n m) (hwal : m'.wal = m.wal ++ [(i, ws)])
    (hbeats : ws.any (Write.isBeat n) = false) (hmisses : ws.any (Write.isMisses n) = false)
    (hlisted : ∀ rows, ws ≠ [.listed rows])
    (hrow : ∀ row', m'.db.nodes.find n = some row' → ∃ row, m.db.nodes.find n = some row ∧
      row'.consecutiveHeartbeatMisses = row.consecutiveHeartbeatMisses ∧
      row'.lastHeartbeatAt = row.lastHeartbeatAt) : Counted timeout n m' := by
  have hsince : since n m'.wal = since n m.wal ++ [(i, ws)] := by
    rw [hwal, since_concat, if_neg]
    exact fun hb => false_ne_true (hbeats.symm.trans hb)
  have hwriters : writers n m'.wal = writers n m.wal := by
    rw [hwal]
    exact writers_of_quiet hbeats hmisses
  have hread : ∀ j rows, (j, [Write.listed rows]) ∈ since n m'.wal → (j, [Write.listed rows]) ∈
      since n m.wal := by
    intro j rows hj
    rw [hsince] at hj
    rcases mem_append.mp hj with hj | hj
    · exact hj
    · exact absurd (congrArg Prod.snd (mem_singleton.mp hj)).symm (hlisted rows)
  refine ⟨fun row' hr => ?_, fun j hj => ?_, fun j rows row hj => ?_,
    fun j rows row cur hj hm hid hcur => ?_⟩
  · obtain ⟨row, hf, hcount, -⟩ := hrow row' hr
    rw [hwriters, hcount]
    exact h.misses row hf
  · rw [hwriters] at hj
    rw [hsince]
    exact (h.observed j hj).mono (subset_append_left _ _)
  · rw [hwriters]
    exact h.read j rows row (hread j rows hj)
  · obtain ⟨row', hf, -, hlast⟩ := hrow cur hcur
    rw [hlast]
    exact h.last j rows row row' (hread j rows hj) hm hid hf

lemma Counted.listed (h : Counted timeout n m) (hwal : m'.wal = m.wal ++ [(i, [.listed rows])])
    (hdb : m'.db = m.db) (hi : i ∉ writers n m.wal)
    (hrows : ∀ row ∈ rows, row.id = n → m.db.nodes.find n = some row) : Counted timeout n m' := by
  have hsince : since n m'.wal = since n m.wal ++ [(i, [.listed rows])] := by
    rw [hwal, since_concat]
    rfl
  have hwriters : writers n m'.wal = writers n m.wal := by
    rw [hwal]
    exact writers_of_quiet rfl rfl
  have hnew : ∀ j rows', (j, [Write.listed rows']) ∈ since n m'.wal →
      (j, [Write.listed rows']) ∈ since n m.wal ∨ j = i ∧ rows' = rows := by
    intro j rows' hj
    rw [hsince] at hj
    rcases mem_append.mp hj with hj | hj
    · exact .inl hj
    · cases mem_singleton.mp hj
      exact .inr ⟨rfl, rfl⟩
  refine ⟨?_, fun j hj => ?_, fun j rows' row hj hm hid => ?_,
    fun j rows' row cur hj hm hid hcur => ?_⟩
  · rw [hdb, hwriters]
    exact h.misses
  · rw [hwriters] at hj
    rw [hsince]
    exact (h.observed j hj).mono (subset_append_left _ _)
  · rw [hwriters]
    rcases hnew j rows' hj with hj | ⟨rfl, rfl⟩
    · exact h.read j rows' row hj hm hid
    · -- the pass itself has written nothing yet
      rw [Finset.erase_eq_of_notMem hi]
      exact h.misses row (hrows row hm hid)
  · rw [hdb] at hcur
    rcases hnew j rows' hj with hj | ⟨rfl, rfl⟩
    · exact h.last j rows' row cur hj hm hid hcur
    · rw [hrows row hm hid] at hcur
      rw [Option.some.inj hcur]

lemma counted_beat (hwal : m'.wal = m.wal ++ [(i, ws)]) (hbeats : ws.any (Write.isBeat n) = true)
    (hrow : ∀ row, m'.db.nodes.find n = some row → row.consecutiveHeartbeatMisses = 0) :
    Counted timeout n m' := by
  have hsince : since n m'.wal = [] := by
    rw [hwal, since_concat]
    exact if_pos hbeats
  have hwriters : writers n m'.wal = ∅ := by
    rw [hwal]
    exact writers_of_beats hbeats
  refine ⟨fun row hr => ?_, fun j hj => ?_, fun j rows row hj => ?_, fun j rows row cur hj => ?_⟩
  · rw [hrow row hr, hwriters]
    exact Int.le_refl 0
  · rw [hwriters] at hj
    exact absurd hj (Finset.notMem_empty j)
  · rw [hsince] at hj
    cases hj
  · rw [hsince] at hj
    cases hj

/-- the writing of a pass that has read since the last heartbeat -/
lemma Counted.written (h : Counted timeout n m) {row read : Node} {t : Int}
    (hwal : m'.wal = m.wal ++
      [(i, [.misses (row.withMisses (read.consecutiveHeartbeatMisses + 1))])])
    (hid : row.id = n) (hold : m.db.nodes.find n = some row)
    (hfind : m'.db.nodes.find n = some (row.withMisses (read.consecutiveHeartbeatMisses + 1)))
    (hlisted : (i, [Write.listed rows]) ∈ since n m.wal) (hread : read ∈ rows) (hrid : read.id = n)
    (hclock : (i, [Write.clock t]) ∈ since n m.wal) (hstale : read.Stale (t - timeout)) :
    Counted timeout n m' := by
  have hsince : since n m'.wal =
      since n m.wal ++ [(i, [.misses (row.withMisses (read.consecutiveHeartbeatMisses + 1))])] := by
    rw [hwal, since_concat]
    rfl
  have hwriters : writers n m'.wal = insert i (writers n m.wal) := by
    rw [hwal]
    exact writers_of_misses rfl (by simp [Write.isMisses, Node.withMisses, hid])
  have hkeep : ∀ j rows', (j, [Write.listed rows']) ∈ since n m'.wal → (j, [Write.listed rows']) ∈
      since n m.wal := by
    intro j rows' hj
    rw [hsince] at hj
    rcases mem_append.mp hj with hj | hj
    · exact hj
    · cases mem_singleton.mp hj
  refine ⟨fun row' hr => ?_, fun j hj => ?_, fun j rows' r hj hm hid' => ?_,
    fun j rows' r cur hj hm hid' hcur => ?_⟩
  · rw [hfind] at hr
    cases hr
    have hle := h.read i rows read hlisted hread hrid
    have hcard : ((writers n m.wal).erase i).card + 1 = (insert i (writers n m.wal)).card := by
      rw [← Finset.erase_insert_eq_erase, Finset.card_erase_add_one (Finset.mem_insert_self i _)]
    rw [hwriters, ← hcard]
    show read.consecutiveHeartbeatMisses + 1 ≤ _
    push_cast
    omega
  · rw [hsince]
    rw [hwriters] at hj
    rcases Finset.mem_insert.mp hj with rfl | hj
    · have hobs : ObservedStale timeout n (since n m.wal) j :=
        ⟨rows, read, t, hlisted, hread, hrid, hclock, hstale⟩
      exact hobs.mono (subset_append_left _ _)
    · exact (h.observed j hj).mono (subset_append_left _ _)
  · have hle := h.read j rows' r (hkeep j rows' hj) hm hid'
    have hsub :=
      Finset.card_le_card (Finset.erase_subset_erase j (Finset.subset_insert i (writers n m.wal)))
    rw [hwriters]
    omega
  · rw [hfind] at hcur
    cases hcur
    exact h.last j rows' r row (hkeep j rows' hj) hm hid' hold

end

lemma find_put_row {db : Db} {row : Node} (h : db.nodes.find row.id = some row) (row' : Node)
    (hid : row'.id = row.id) (n : String) :
    (db.nodes.put row').find n = if row.id = n then some row' else db.nodes.find n := by
  have hkeys : row.keys = row'.keys := by
    unfold Node.keys
    rw [hid]
  by_cases hn : row.id = n
  · subst hn
    rw [if_pos rfl]
    exact find_put_self h hkeys
  · rw [if_neg hn]
    refine find_put_of_notMem fun hk => hn ?_
    rw [mem_singleton.mp hk, hid]

/-- **Every batch keeps the invariant.** -/
theorem Counted.publish {ws : List Write}
    (h : Counted timeout n m) (hb : Batch timeout i m ws) : Counted timeout n (m.publish i ws) := by
  have same : ∀ db : Db, db.nodes.find n = m.db.nodes.find n → ∀ row', db.nodes.find n = some row' →
      ∃ row, m.db.nodes.find n = some row ∧
        row'.consecutiveHeartbeatMisses = row.consecutiveHeartbeatMisses ∧
        row'.lastHeartbeatAt = row.lastHeartbeatAt :=
      fun db hdb row' hr => ⟨row', hdb ▸ hr, rfl, rfl⟩
  cases hb with
  | listed status hearly =>
    refine h.listed rfl rfl (hearly.notMem_writers n) fun row hrow hid => ?_
    have hmem := mem_of_mem_filter ((mem_insertionSort _).mp hrow)
    exact find_eq_some.mpr ⟨hmem, by simp [Node.keys, hid]⟩
  | clock now | inserted nodeID now =>
    exact h.other rfl rfl rfl (fun rows hr => by cases hr) (same _ rfl)
  | @beat row now hfind =>
    have hput := find_put_row hfind (row.beat now) rfl n
    by_cases hn : row.id = n
    · refine counted_beat rfl (by simp [Write.isBeat, Node.beat, hn]) fun row' hr => ?_
      have hr' : (m.db.nodes.put (row.beat now)).find n = some row' := hr
      rw [hput, if_pos hn] at hr'
      cases hr'
      rfl
    · refine h.other rfl (by simp [Write.isBeat, Node.beat, hn]) rfl
        (fun rows hr => by cases hr) (same _ ?_)
      exact hput.trans (if_neg hn)
  | @misses row read rows t hfind hlisted hread hrid hclock hstale =>
    have hput := find_put_row hfind (row.withMisses (read.consecutiveHeartbeatMisses + 1)) rfl n
    by_cases hn : row.id = n
    · subst hn
      exact h.written rfl rfl hfind (hput.trans (if_pos rfl)) hlisted hread hrid hclock hstale
    · refine h.other rfl rfl (by simp [Write.isMisses, Node.withMisses, hn])
        (fun rows hr => by cases hr) (same _ ?_)
      exact hput.trans (if_neg hn)
  | @status row st hfind =>
    have hput := find_put_row hfind (row.withStatus st) rfl n
    refine h.other rfl rfl rfl (fun rows hr => by cases hr) fun row' hr => ?_
    have hr' : (m.db.nodes.put (row.withStatus st)).find n = some row' := hr
    rw [hput] at hr'
    by_cases hn : row.id = n
    · subst hn
      rw [if_pos rfl] at hr'
      cases hr'
      exact ⟨row, hfind, rfl, rfl⟩
    · rw [if_neg hn] at hr'
      exact ⟨row', hr', rfl, rfl⟩

lemma counted_of_reach {db₀ : Db}
    (h₀ : ∀ row, db₀.nodes.find n = some row → row.consecutiveHeartbeatMisses = 0)
    (h : (watching timeout db₀).Reach m) : Counted timeout n m := by
  refine h.invariant (I := Counted timeout n) ?_ fun m i _ ws _ hI _ _ hb => hI.publish hb
  rintro m rfl
  refine ⟨fun row hr => ?_, fun j hj => ?_, fun j rows row hj => ?_, fun j rows row cur hj => ?_⟩
  · rw [h₀ row hr]
    exact Int.le_refl 0
  · exact absurd hj (Finset.notMem_empty j)
  · cases hj
  · cases hj

/-! ## the pass keeps to it -/

section
variable {timeout : Int} {db₀ : Db} {i : ι} {m : Mem store ι}

/-- the pass has read the node, and then the clock -/
def Seen (timeout : Int) (i : ι) (cutoff : Int) (node : Node) (m : Mem store ι) : Prop :=
  ∃ pre rows post t, m.wal = pre ++ (i, [Write.listed rows]) :: post ∧ node ∈ rows ∧
    (i, [Write.clock t]) ∈ post ∧ cutoff = t - timeout

variable {cutoff : Int} {nodes : List Node} {ws : List Write}

lemma Seen.publish {node : Node} (h : Seen timeout i cutoff node m) (j : ι) (ws : List Write) :
    Seen timeout i cutoff node (m.publish j ws) := by
  by_cases hws : ws = []
  · rw [hws, publish_nil]
    exact h
  · obtain ⟨pre, rows, post, t, hwal, hnode, hclock, hcut⟩ := h
    refine ⟨pre, rows, post ++ [(j, ws)], t, ?_, hnode, mem_append_left _ hclock, hcut⟩
    rw [publish_wal hws, hwal, append_assoc]
    rfl

/-- the statements of the loop over the nodes -/
inductive LoopStmt (cutoff : Int) (nodes : List Node) : Stmt → Prop
  | misses {node : Node} : node ∈ nodes → node.Stale cutoff →
      LoopStmt cutoff nodes (.updateHeartbeatMisses node.id (node.consecutiveHeartbeatMisses + 1))
  | status (nodeID : String) (st : NodeStatus) : LoopStmt cutoff nodes (.updateStatus nodeID st)

lemma affected_does {ok : Stmt → Prop} (context : String) (k : Nat) :
    (affected context k).Does ok fun _ => True := by
  cases k with
  | zero => exact Does.fail _
  | succ k => exact Does.pure trivial

lemma degrade_does (cutoff : Int) (nodes : List Node) (node : Node) :
    (degrade node).Does (LoopStmt cutoff nodes) fun _ => True := by
  have hupdate : (updateStatus node.id .degraded).Does (LoopStmt cutoff nodes) fun _ => True :=
    Does.bind (Does.stmt (.status node.id .degraded)) fun k _ => affected_does _ k
  unfold degrade
  refine Does.ite (fun _ => ?_) fun _ => Does.pure trivial
  exact Does.attempt hupdate (fun _ _ => Does.pure trivial) fun _ => Does.pure trivial

lemma checkNode_does {node : Node} (hnode : node ∈ nodes) :
    (checkNode cutoff node).Does (LoopStmt cutoff nodes) fun _ => True := by
  have hupdate : node.Stale cutoff →
    (updateHeartbeatMisses node.id (node.consecutiveHeartbeatMisses + 1)).Does
      (LoopStmt cutoff nodes) fun _ => True := fun hs =>
    Does.bind (Does.stmt (.misses hnode hs)) fun k _ => affected_does _ k
  unfold checkNode
  cases hlast : node.lastHeartbeatAt with
  | none =>
    have hs : node.Stale cutoff := fun h hh => by
      rw [hlast] at hh
      cases hh
    exact Does.attempt (hupdate hs) (fun _ _ => Does.pure trivial) fun _ => Does.pure trivial
  | some h =>
    refine Does.ite (fun hlt => ?_) fun _ => Does.pure trivial
    have hs : node.Stale cutoff := fun h' hh => by
      rw [hlast] at hh
      cases hh
      exact hlt
    exact Does.attempt (hupdate hs) (fun _ _ => degrade_does cutoff nodes node) fun _ =>
      Does.pure trivial

lemma checkNodes_does {rest : List Node} (h : ∀ node ∈ rest, node ∈ nodes) :
    (checkNodes cutoff rest).Does (LoopStmt cutoff nodes) fun _ => True := by
  induction rest with
  | nil => exact Does.pure trivial
  | cons node rest ih =>
    refine Does.bind (checkNode_does (h node mem_cons_self)) fun _ _ => ?_
    exact ih fun node' hn => h node' (mem_cons_of_mem _ hn)

/-- a write of the loop is backed by what the pass has read, if no heartbeat came in between -/
lemma loop_batch {q : Stmt} {x : Inp} {a : q.Ans}
    (hseen : ∀ node ∈ nodes, Seen timeout i cutoff node m) (hq : LoopStmt cutoff nodes q)
    (ha : Undisturbed i (.run q) .idle m) (hx : exec q x x m.db = .ok (a, ws)) (hne : ws ≠ []) :
    Batch timeout i m ws := by
  cases hq with
  | status nodeID st =>
    cases hx
    cases hf : m.db.nodes.find nodeID with
    | none => exact absurd (by rw [Db.updates, hf]; rfl) hne
    | some row =>
      obtain rfl := find_id hf
      rw [Db.updates, hf]
      exact Batch.status st hf
  | @misses node hnode hstale =>
    cases hx
    cases hf : m.db.nodes.find node.id with
    | none => exact absurd (by rw [Db.updates, hf]; rfl) hne
    | some row =>
      obtain ⟨pre, rows, post, t, hwal, hrow, hclock, rfl⟩ := hseen node hnode
      have hid : row.id = node.id := find_id hf
      have hquiet : ∀ b ∈ post, beats node.id b = false := by
        have hq : quietSince i node.id m.wal = true := ha
        rw [hwal] at hq
        exact quietSince_split hq hrow rfl
      have hsince : since node.id m.wal = since node.id pre ++
        (i, [Write.listed rows]) :: post := by
        rw [hwal]
        refine since_append pre fun b hb => ?_
        rcases mem_cons.mp hb with rfl | hb
        · rfl
        · exact hquiet b hb
      rw [Db.updates, hf]
      refine Batch.misses rows t (hid ▸ hf) ?_ hrow hid.symm ?_ hstale
      · rw [hid, hsince]
        exact mem_append_right _ mem_cons_self
      · rw [hid, hsince]
        exact mem_append_right _ (mem_cons_of_mem _ hclock)

lemma checkNodes_keeps (hseen : ∀ node ∈ nodes, Seen timeout i cutoff node m) :
    Keeps (watching timeout db₀) i (checkNodes cutoff nodes) m := by
  refine Idle.mono (Does.idle (K := fun m => ∀ node ∈ nodes, Seen timeout i cutoff node m) ?_
    (checkNodes_does fun _ h => h) ?_ hseen) fun _ _ _ _ => trivial
  · exact fun m j _ ws _ _ hm node hn => (hm node hn).publish j ws
  · exact fun q hq m x a ws _ hm ha hx hne => loop_batch hm hq ha hx hne

/-- the pass has read the nodes, and written nothing -/
structure Reading (i : ι) (nodes : List Node) (m : Mem store ι) : Prop where
  early : Early i m
  rows : ∀ node ∈ nodes, ∃ rows, (i, [Write.listed rows]) ∈ m.wal ∧ node ∈ rows

lemma Early.publish (h : Early i m) {j : ι}
    (hws : j = i → ∀ n, ws.any (Write.isMisses n) = false) : Early i (m.publish j ws) := by
  intro b hb hbi
  by_cases hne : ws = []
  · rw [hne, publish_nil] at hb
    exact h b hb hbi
  · rw [publish_wal hne] at hb
    rcases mem_append.mp hb with hb | hb
    · exact h b hb hbi
    · obtain rfl := mem_singleton.mp hb
      exact hws hbi

lemma Reading.publish (h : Reading i nodes m) {j : ι}
    (hws : j = i → ∀ n, ws.any (Write.isMisses n) = false) : Reading i nodes (m.publish j ws) := by
  refine ⟨h.early.publish hws, fun node hn => ?_⟩
  obtain ⟨rows, hrows, hnode⟩ := h.rows node hn
  exact ⟨rows, (wal_prefix_publish m j ws).subset hrows, hnode⟩

lemma Reading.rely {m' : Mem store ι} (h : Reading i nodes m)
    (hr : (watching timeout db₀).Rely i ∅ m m') : Reading i nodes m' :=
  hr.stable (I := Reading i nodes) (fun _ _ _ _ hj _ _ _ _ h => h.publish fun hji =>
    absurd hji hj) h

lemma Reading.listed (h : Reading i nodes m) :
    Reading i (nodes ++ rows) (m.publish i [.listed rows]) := by
  have hkeep : Reading i nodes (m.publish i [.listed rows]) := h.publish fun _ _ => rfl
  refine ⟨hkeep.early, fun node hn => ?_⟩
  rcases mem_append.mp hn with hn | hn
  · exact hkeep.rows node hn
  · exact ⟨rows, mem_append_right _ (mem_singleton_self _), hn⟩

lemma Reading.clock (h : Reading i nodes m) (t : Int) :
    ∀ node ∈ nodes, Seen timeout i (t - timeout) node (m.publish i [.clock t]) := by
  intro node hn
  obtain ⟨rows, hrows, hnode⟩ := h.rows node hn
  obtain ⟨pre, post, hwal⟩ := mem_iff_append.mp hrows
  refine ⟨pre, rows, post ++ [(i, [.clock t])], t, ?_, hnode,
    mem_append_right _ (mem_singleton_self _), rfl⟩
  show m.wal ++ [(i, [.clock t])] = _
  rw [hwal, append_assoc]
  rfl

lemma checkListed_keeps (h : Reading i nodes m) :
    Keeps (watching timeout db₀) i (checkListed timeout nodes) m := by
  unfold checkListed
  rw [bind_eq_attempt]
  refine Idle.stmt (fun e m' _ _ => Keeps.ret _) fun m' x a ws hr _ _ hx => ?_
  cases hx
  exact ⟨fun _ => Batch.clock x.now, checkNodes_keeps ((h.rely hr).clock x.now)⟩

lemma checkAllNodes_keeps (h : Early i m) :
    Keeps (watching timeout db₀) i (checkAllNodes timeout) m := by
  have hstart : Reading i [] m := ⟨h, fun node hn => by cases hn⟩
  refine Idle.stmt (fun e m' _ _ => Keeps.ret _) fun m1 x a ws hr1 _ _ hx => ?_
  cases hx
  have hread := hstart.rely hr1
  refine ⟨fun _ => Batch.listed .online hread.early, ?_⟩
  refine Idle.stmt (fun e m' hr _ => ?_) fun m2 x' a' ws' hr2 _ _ hx' => ?_
  · exact checkListed_keeps (by rw [listedOr, append_nil]; exact hread.listed.rely hr)
  · cases hx'
    have hread2 := hread.listed.rely hr2
    exact ⟨fun _ => Batch.listed .degraded hread2.early, checkListed_keeps hread2.listed⟩

/-! ## the heartbeat keeps to it -/

lemma find_apply_of_unlocked (n : String) (db : Db) (w : Write) (h : n ∉ w.guards) :
    (db.apply w).nodes.find n = db.nodes.find n := by
  have hput : ∀ row : Node, n ∉ [row.id] → (db.nodes.put row).find n = db.nodes.find n :=
    fun row hn =>
    find_put_of_notMem hn
  cases w with
  | beat row | misses row | status row => exact hput row h
  | insertHeartbeat nodeID now | listed rows | clock now => rfl

lemma recordHeartbeat_keeps (nodeID : String) :
    Keeps (watching timeout db₀) i (recordHeartbeat nodeID) m := by
  have hnothing : ∀ {m : Mem store ι}, Settled (watching timeout db₀) i (fun _ => True) m :=
    fun _ _ _ => trivial
  refine Idle.withTx (fun e => hnothing) fun m1 x0 _ _ => ?_
  refine InTx.stmt (fun e => hnothing) fun m2 x a ws _ _ _ hx => ?_
  simp only [exec] at hx
  split at hx
  · cases hx
    refine InTx.stmt (fun e => hnothing) fun m3 x' a' ws' _ _ _ hx' => ?_
    cases hx'
    refine InTx.commit (fun e => hnothing) fun m4 hr4 _ _ => ⟨fun _ => ?_, hnothing⟩
    have hview : (store.view m3.db [.insertHeartbeat nodeID x0.now]).nodes.find nodeID =
      m3.db.nodes.find nodeID :=
      rfl
    have hlocked : m4.db.nodes.find nodeID = m3.db.nodes.find nodeID := by
      refine hr4.frame (f := fun db : Db => db.nodes.find nodeID) (x := nodeID) (.inr ?_) ?_
      · exact mem_singleton_self nodeID
      · exact find_apply_of_unlocked nodeID
    show Batch timeout i m4 ([.insertHeartbeat nodeID x0.now] ++
      (((store.view m3.db [.insertHeartbeat nodeID x0.now]).nodes.find nodeID).map _).toList)
    rw [hview]
    cases hf : m3.db.nodes.find nodeID with
    | none => exact Batch.inserted nodeID x0.now
    | some row =>
      obtain rfl := find_id hf
      exact Batch.beat x0.now (hlocked.trans hf)
  · cases hx

lemma request_keeps (q : Request) : Keeps (watching timeout db₀) i (q.run timeout) ⟨db₀, []⟩ := by
  cases q with
  | heartbeat nodeID => exact recordHeartbeat_keeps nodeID
  | check => exact checkAllNodes_keeps fun b hb => by cases hb

/-! ## whole runs -/

lemma counted_of_reaches {n : String} {req : ι → Request} {s : State store ι (Except GoError Unit)}
    (h₀ : ∀ row, db₀.nodes.find n = some row → row.consecutiveHeartbeatMisses = 0)
    (h : Reaches Undisturbed (State.init db₀ fun i => (req i).run timeout) s) :
    Counted timeout n s.mem := by
  have hinit : (watching timeout db₀).init (⟨db₀, []⟩ : Mem store ι) := rfl
  exact counted_of_reach h₀ (Idle.adequate hinit (fun i => request_keeps (req i)) h).1

/-- **Heartbeats prevent failover, where none comes between the reading of a pass and its writing.**
If the counter of a node is `m`, at least `m` passes have observed, since the last heartbeat of the
node, that it is missing or older than the timeout. So a node whose last heartbeat is newer than the
timeout, at a time that no pass has read later, is below the threshold of the monitor and not in the
failed state. -/
theorem misses_observed {n : String} (req : ι → Request) {s : State store ι (Except GoError Unit)}
    (h₀ : ∀ row, db₀.nodes.find n = some row → row.consecutiveHeartbeatMisses = 0)
    (h : Reaches Undisturbed (State.init db₀ fun i => (req i).run timeout) s) :
    ∀ row, s.mem.db.nodes.find n = some row →
      (∃ passes : Finset ι, row.consecutiveHeartbeatMisses ≤ passes.card ∧
        ∀ i ∈ passes, ObservedStale timeout n (since n s.mem.wal) i) ∧
      ∀ now, (∀ i t, (i, [Write.clock t]) ∈ s.mem.wal → t ≤ now) →
        (∃ last, row.lastHeartbeatAt = some last ∧ now - timeout ≤ last) →
        (∀ nodes threshold, 0 < threshold → row ∉ filterNodesNeedingFailover nodes threshold) ∧
        inFailedState row = false := by
  have hcounted := counted_of_reaches h₀ h
  intro row hrow
  have hcount := hcounted.misses row hrow
  refine ⟨⟨writers n s.mem.wal, hcount, hcounted.observed⟩, ?_⟩
  rintro now hnow ⟨last, hlast, hfresh⟩
  -- a pass that wrote the counter would have found this heartbeat too old
  have hempty : writers n s.mem.wal = ∅ := by
    refine Finset.eq_empty_of_forall_notMem fun i hi => ?_
    obtain ⟨rows, read, t, hlisted, hread, hid, hclock, hstale⟩ := hcounted.observed i hi
    have hsame := hcounted.last i rows read row hlisted hread hid hrow
    have hold : last < t - timeout := hstale last (by rw [hsame, hlast]; rfl)
    have ht := hnow i t (mem_since hclock)
    omega
  rw [hempty, Finset.card_empty] at hcount
  have hzero : row.consecutiveHeartbeatMisses ≤ 0 := hcount
  constructor
  · intro nodes threshold hpos hmem
    have hge := of_decide_eq_true (mem_filter.mp hmem).2
    omega
  · refine decide_eq_false fun hge => ?_
    unfold failoverHeartbeatThreshold at hge
    omega

end

end

/-! ## one node, three passes and a heartbeat -/

/-- the last heartbeat was at 0 -/
def oneNode : Db where
  nodes := empty.insert ⟨"node", "host", .online, some 0, 0⟩
  heartbeats := []

/-- the last session is the heartbeat -/
def fourRequests (i : Fin 4) : Request := if i = 3 then .heartbeat "node" else .check

/-- the times are in seconds, the timeout is that of the default configuration -/
def startNodes : State store (Fin 4) (Except GoError Unit) :=
  State.init oneNode fun i => (fourRequests i).run 300

/-- the requests of one session, all answered at one time -/
def answered (i : Fin 4) (k : Nat) (now : Int) : List (Fin 4 × Label store) :=
  List.replicate k (i, .ev (.ok ⟨now⟩))

/-- a pass, the heartbeat, and another pass too long after it -/
def inTurn : List (Fin 4 × Label store) := answered 0 4 400 ++ answered 3 5 500 ++ answered 1 4 900

/-- The second pass finds the heartbeat too old and counts it; what the first one counted is
gone. -/
theorem misses_observed_once : ∃ s row, Reaches Undisturbed startNodes s ∧
    s.mem.db.nodes.find "node" = some row ∧
    row.lastHeartbeatAt = some 500 ∧ row.consecutiveHeartbeatMisses = 1 ∧
    ∃ passes : Finset (Fin 4), 1 ≤ passes.card ∧
      ∀ i ∈ passes, ObservedStale 300 "node" (since "node" s.mem.wal) i := by
  have hrun : (run startNodes inTurn).isSome = true := by rfl
  have hreach : Reaches Undisturbed startNodes _ := reaches_checked (run_get hrun) (by rfl)
  have hzero : ∀ row, oneNode.nodes.find "node" = some row → row.consecutiveHeartbeatMisses = 0 :=
    fun row hr => by
    cases hr
    rfl
  obtain ⟨passes, hcard, hobs⟩ :=
    (misses_observed fourRequests hzero hreach ⟨"node", "host", .online, some 500, 1⟩ rfl).1
  exact ⟨_, _, hreach, rfl, rfl, rfl, passes, Int.ofNat_le.mp hcard, hobs⟩

/-- two passes, the third one up to the clock, the heartbeat, and the rest of the third pass -/
def overtaken : List (Fin 4 × Label store) :=
  answered 0 4 400 ++ answered 1 4 400 ++ answered 2 3 400 ++ answered 3 5 500 ++ answered 2 1 500

/-- A heartbeat comes between the reading of the third pass and its writing: the counter is at the
threshold, and no pass has observed anything since that heartbeat. -/
theorem misses_after_heartbeat : ∃ s row, Reaches always startNodes s ∧
    s.mem.db.nodes.find "node" = some row ∧
    row.consecutiveHeartbeatMisses = 3 ∧ row.lastHeartbeatAt = some 500 ∧
    filterNodesNeedingFailover [row] 3 = [row] ∧ inFailedState row = true ∧
    ∀ i, ¬ ObservedStale 300 "node" (since "node" s.mem.wal) i := by
  have hrun : (run startNodes overtaken).isSome = true := by rfl
  refine ⟨(run startNodes overtaken).get hrun, ⟨"node", "host", .online, some 500, 3⟩,
    reaches_run (run_get hrun), rfl, rfl, rfl, rfl, rfl, ?_⟩
  rintro i ⟨rows, row, t, hlisted, -⟩
  have hsince : since "node" ((run startNodes overtaken).get hrun).mem.wal =
      [(2, [.misses ⟨"node", "host", .online, some 500, 3⟩])] := by rfl
  rw [hsince] at hlisted
  cases mem_singleton.mp hlisted

end VirtueStack.Nodes
