import Mathlib.Data.List.AList

/-!
# The pool of gRPC connections

A step is a critical section of `NodeClient`, or the look at the state of a connection, for which
there is no lock.

* `NodeClient.step` what a call does in one step, and `PoolState.run` the interleaving that a list
  of steps names.
-/

namespace VirtueStack.Nodes
open List Option AList

/-! ## the calls -/

/-- a connection, by its number in the order of creation -/
abbrev ClientConn : Type := Nat

inductive PoolCall
  | getConnection (nodeID : String)
  | removeConnection (nodeID : String)
  | close
  deriving DecidableEq

structure NodeClient where
  conns : AList fun _ : String => ClientConn
  /-- the nodes that connections were created for -/
  created : List String
  /-- the call that has closed a connection -/
  closedBy : ClientConn → Option PoolCall

/-- where a call is: `dead` has seen that its connection is shut down, `create` has none -/
inductive Position
  | start
  | found (conn : ClientConn)
  | dead
  | create
  | returned (conn : ClientConn)
  | failed
  | finished
  deriving DecidableEq

namespace NodeClient
variable (nc : NodeClient)

/-- `conn.Close`; the error of a second one is only logged -/
def closeConns (call : PoolCall) (conns : List ClientConn) : NodeClient :=
  { nc with
    closedBy := fun conn => (nc.closedBy conn).or (if conn ∈ conns then some call else none) }

/-- a connection that is there by now is closed, and returned -/
def create (nodeID : String) (dials : Bool) : NodeClient × Position :=
  match nc.conns.lookup nodeID with
  | some conn => (nc.closeConns (.getConnection nodeID) [conn], .returned conn)
  | none =>
    if dials then
      ({ nc with
        conns := nc.conns.insert nodeID nc.created.length, created := nc.created ++ [nodeID] },
        .returned nc.created.length)
    else (nc, .failed)

def removeConnection (nodeID : String) : NodeClient :=
  { nc.closeConns (.removeConnection nodeID) (nc.conns.lookup nodeID).toList with
    conns := nc.conns.erase nodeID }

def close : NodeClient := { nc.closeConns .close (nc.conns.entries.map Sigma.snd) with conns := ∅ }

def step (dials : Bool) : PoolCall → Position → NodeClient × Position
  | .getConnection nodeID, .start => (nc, (nc.conns.lookup nodeID).elim .create .found)
  | .getConnection _, .found conn =>
    (nc, if (nc.closedBy conn).isSome then .dead else .returned conn)
  | .getConnection nodeID, .dead => ({ nc with conns := nc.conns.erase nodeID }, .create)
  | .getConnection nodeID, .create => nc.create nodeID dials
  | .removeConnection nodeID, .start => (nc.removeConnection nodeID, .finished)
  | .close, .start => (nc.close, .finished)
  | _, position => (nc, position)

end NodeClient

structure PoolState (ι : Type) where
  nc : NodeClient
  position : ι → Position

/-- `GetConnection` finds no connection for its node when it takes the write lock -/
def Unraced (nc : NodeClient) : PoolCall → Position → Prop
  | .getConnection nodeID, .dead => nc.conns.lookup nodeID = none
  | .getConnection nodeID, .create => nc.conns.lookup nodeID = none
  | _, _ => True

section
variable {ι : Type} [DecidableEq ι] (calls : ι → PoolCall)

namespace PoolState

def init : PoolState ι := ⟨⟨∅, [], fun _ => none⟩, fun _ => .start⟩

/-- a step of call `i`; the dialling of a new connection succeeds or not -/
def step (s : PoolState ι) (i : ι) (dials : Bool) : PoolState ι :=
  ⟨(s.nc.step dials (calls i) (s.position i)).1,
    Function.update s.position i (s.nc.step dials (calls i) (s.position i)).2⟩

def run (s : PoolState ι) (steps : List (ι × Bool)) : PoolState ι :=
  steps.foldl (fun s e => s.step calls e.1 e.2) s

def UnracedRun (s : PoolState ι) : List (ι × Bool) → Prop
  | [] => True
  | (i, dials) :: steps => Unraced s.nc (calls i) (s.position i) ∧
    UnracedRun (s.step calls i dials) steps

end PoolState

structure PoolSafe (s : PoolState ι) : Prop where
  returned : ∀ i nodeID conn call, calls i = .getConnection nodeID → s.position i = .returned conn →
    s.nc.closedBy conn = some call → call = .removeConnection nodeID ∨ call = .close
  kept : ∀ conn nodeID, s.nc.closedBy conn ≠ some (.getConnection nodeID)
  one : ∀ nodeID conn conn', ⟨nodeID, conn⟩ ∈ s.nc.conns.entries →
    ⟨nodeID, conn'⟩ ∈ s.nc.conns.entries → conn = conn'
  pooled : ∀ conn < s.nc.created.length,
    (∃ nodeID, ⟨nodeID, conn⟩ ∈ s.nc.conns.entries) ∨ (s.nc.closedBy conn).isSome

/-! ## one step -/

namespace NodeClient
variable {nc : NodeClient} {nodeID : String}

/-- the pool has the connections that are open, each for its node -/
structure Sound (nc : NodeClient) : Prop where
  pooled : ∀ n conn, nc.conns.lookup n = some conn ↔
    nc.created[conn]? = some n ∧ nc.closedBy conn = none
  closed : ∀ conn call, nc.closedBy conn = some call →
    ∃ n, nc.created[conn]? = some n ∧ (call = .removeConnection n ∨ call = .close)

lemma Sound.drop (h : nc.Sound) {conns : AList fun _ : String => ClientConn} {call : PoolCall}
    {closed : List ClientConn} (p : String → Prop)
    (hconns : ∀ n conn, conns.lookup n = some conn ↔ ¬ p n ∧ nc.conns.lookup n = some conn)
    (hclosed : ∀ conn, conn ∈ closed ↔ ∃ n, p n ∧ nc.conns.lookup n = some conn)
    (hcall : ∀ n, p n → call = .removeConnection n ∨ call = .close) :
    ({ nc.closeConns call closed with conns := conns } : NodeClient).Sound := by
  constructor
  · intro n conn
    have hmem : nc.created[conn]? = some n → nc.closedBy conn = none → (conn ∉ closed ↔ ¬ p n) := by
      intro hn hopen
      refine not_congr
        ((hclosed conn).trans ⟨?_, fun hp => ⟨n, hp, (h.pooled n conn).mpr ⟨hn, hopen⟩⟩⟩)
      rintro ⟨m, hm, hl⟩
      cases ((h.pooled m conn).mp hl).1.symm.trans hn
      exact hm
    rw [hconns, h.pooled]
    simp only [closeConns, or_eq_none_iff, ite_eq_right_iff, reduceCtorEq, imp_false]
    tauto
  · intro conn c hc
    simp only [closeConns, or_eq_some_iff, ite_none_right_eq_some, Option.some.injEq] at hc
    rcases hc with hc | ⟨-, hconn, rfl⟩
    · exact h.closed conn c hc
    · obtain ⟨n, hn, hl⟩ := (hclosed conn).mp hconn
      exact ⟨n, ((h.pooled n conn).mp hl).1, hcall n hn⟩

lemma Sound.removeConnection (h : nc.Sound) (nodeID : String) :
    (nc.removeConnection nodeID).Sound := by
  refine h.drop (fun n => n = nodeID) (fun n conn => ?_) (fun conn => ?_) fun n hn =>
    .inl (by rw [hn])
  · by_cases hn : n = nodeID
    · subst hn
      simp
    · simp [hn]
  · simp

lemma Sound.close (h : nc.Sound) : nc.close.Sound := by
  refine h.drop (fun _ => True) (fun n conn => ?_) (fun conn => ?_) fun _ _ => .inr rfl
  · simp
  · simp [← mem_lookup_iff]

lemma Sound.insert (h : nc.Sound) (hnone : nc.conns.lookup nodeID = none) :
    ({ nc with
      conns := nc.conns.insert nodeID nc.created.length, created := nc.created ++ [nodeID] } :
      NodeClient).Sound := by
  have hnew : nc.closedBy nc.created.length = none := by
    refine eq_none_iff_forall_ne_some.mpr fun call hc => ?_
    obtain ⟨n, hn, -⟩ := h.closed _ call hc
    simp at hn
  have hcreated : ∀ n conn, (nc.created ++ [nodeID])[conn]? = some n ↔
      nc.created[conn]? = some n ∨ conn = nc.created.length ∧ n = nodeID := by
    intro n conn
    rcases Nat.lt_trichotomy conn nc.created.length with hlt | rfl | hlt
    · simp [getElem?_append_left hlt, Nat.ne_of_lt hlt]
    · simp [eq_comm]
    · rw [getElem?_eq_none (by simp; omega), getElem?_eq_none (Nat.le_of_lt hlt)]
      simp [Nat.ne_of_gt hlt]
  constructor
  · intro n conn
    rw [hcreated]
    by_cases hn : n = nodeID
    · subst hn
      have hno := (h.pooled n conn).not.mp (by simp [hnone])
      rw [lookup_insert, Option.some.injEq]
      constructor
      · rintro rfl
        exact ⟨.inr ⟨rfl, rfl⟩, hnew⟩
      · rintro ⟨hc | ⟨rfl, -⟩, hopen⟩
        · exact absurd ⟨hc, hopen⟩ hno
        · rfl
    · rw [lookup_insert_ne hn, h.pooled]
      simp [hn]
  · intro conn call hc
    obtain ⟨n, hn, hcall⟩ := h.closed conn call hc
    exact ⟨n, (hcreated n conn).mpr (.inl hn), hcall⟩

/-- the connection that a call has in hand was created for its node -/
def Has (created : List String) : PoolCall → Position → Prop
  | .getConnection nodeID, .found conn => created[conn]? = some nodeID
  | .getConnection nodeID, .returned conn => created[conn]? = some nodeID
  | _, _ => True

variable {call : PoolCall} {position : Position}

lemma Has.mono {l l' : List String} (hl : l <+: l') (h : Has l call position) :
    Has l' call position := by
  obtain ⟨_, rfl⟩ := hl
  unfold Has at h ⊢
  split at h
  · exact (List.getElem?_append_left (List.getElem?_eq_some_iff.mp h).1).trans h
  · exact (List.getElem?_append_left (List.getElem?_eq_some_iff.mp h).1).trans h
  · trivial

/-- **A step that meets no other call keeps the pool sound.** -/
theorem Sound.step (h : nc.Sound) (dials : Bool) (hun : Unraced nc call position)
    (hhas : Has nc.created call position) :
    (nc.step dials call position).1.Sound ∧ nc.created <+: (nc.step dials call position).1.created ∧
      Has (nc.step dials call position).1.created call (nc.step dials call position).2 := by
  unfold NodeClient.step
  split
  · rename_i nodeID
    refine ⟨h, prefix_rfl, ?_⟩
    cases hl : nc.conns.lookup nodeID with
    | none => trivial
    | some conn => exact ((h.pooled nodeID conn).mp hl).1
  · refine ⟨h, prefix_rfl, ?_⟩
    dsimp only
    split
    · trivial
    · exact hhas
  · rename_i nodeID
    have hnone : nc.conns.lookup nodeID = none := hun
    have hrem := h.removeConnection nodeID
    unfold NodeClient.removeConnection closeConns at hrem
    rw [hnone] at hrem
    exact ⟨by simpa using hrem, prefix_rfl, trivial⟩
  · rename_i nodeID
    have hnone : nc.conns.lookup nodeID = none := hun
    unfold create
    rw [hnone]
    cases dials with
    | false => exact ⟨h, prefix_rfl, trivial⟩
    | true => exact ⟨h.insert hnone, prefix_append _ _, by simp [Has]⟩
  · exact ⟨h.removeConnection _, prefix_rfl, trivial⟩
  · exact ⟨h.close, prefix_rfl, trivial⟩
  · exact ⟨h, prefix_rfl, hhas⟩

end NodeClient

/-! ## whole runs -/

lemma PoolState.sound_run {s : PoolState ι} {steps : List (ι × Bool)} (hs : s.nc.Sound)
    (hhas : ∀ i, NodeClient.Has s.nc.created (calls i) (s.position i))
    (h : s.UnracedRun calls steps) : (s.run calls steps).nc.Sound ∧
      ∀ i, NodeClient.Has (s.run calls steps).nc.created (calls i)
      ((s.run calls steps).position i) := by
  induction steps generalizing s with
  | nil => exact ⟨hs, hhas⟩
  | cons e steps ih =>
    obtain ⟨i, dials⟩ := e
    obtain ⟨hun, hrest⟩ := h
    obtain ⟨hs', hl, hi⟩ := hs.step dials hun (hhas i)
    refine ih hs' (fun j => ?_) hrest
    by_cases hj : j = i
    · subst hj
      simpa [PoolState.step] using hi
    · simpa [PoolState.step, hj] using (hhas j).mono hl

/-- **The pool keeps its promise** in every run in which no `GetConnection` takes the write lock
while there is a connection for its node. -/
theorem pool_safe (steps : List (ι × Bool)) (h : PoolState.init.UnracedRun calls steps) :
    PoolSafe calls (PoolState.init.run calls steps) := by
  obtain ⟨hs, hhas⟩ :=
    PoolState.sound_run calls ⟨by simp [PoolState.init], by simp [PoolState.init]⟩
    (fun i => by cases calls i <;> trivial) h
  refine ⟨?_, ?_, ?_, ?_⟩
  · intro i nodeID conn call hcall hpos hclosed
    have hn := hhas i
    rw [hcall, hpos] at hn
    obtain ⟨m, hm, hc⟩ := hs.closed conn call hclosed
    cases hm.symm.trans hn
    exact hc
  · intro conn nodeID hclosed
    obtain ⟨m, -, hc | hc⟩ := hs.closed conn _ hclosed <;> cases hc
  · intro nodeID conn conn' hconn hconn'
    exact mem_unique (mem_lookup_iff.mpr hconn) (mem_lookup_iff.mpr hconn')
  · intro conn hconn
    cases hopen : (PoolState.init.run calls steps).nc.closedBy conn with
    | some call => exact .inr rfl
    | none =>
      have hl := (hs.pooled _ conn).mpr ⟨getElem?_eq_getElem hconn, hopen⟩
      exact .inl ⟨_, mem_lookup_iff.mp hl⟩

end

/-- two calls want a connection to `n`, and a third removes it -/
def getGetRemove (i : Nat) : PoolCall := if i < 2 then .getConnection "n" else .removeConnection "n"

/-- the first call creates a connection, the second finds it and it is removed; the second creates
another one -/
def removedInBetween : List (Nat × Bool) := [0, 0, 1, 2, 1, 1, 1].map fun i => (i, true)

theorem pool_safe_removed :
    (PoolState.init.run getGetRemove removedInBetween).position 0 = .returned 0 ∧
    (PoolState.init.run getGetRemove removedInBetween).position 1 = .returned 1 ∧
    (PoolState.init.run getGetRemove removedInBetween).nc.closedBy 0 =
      some (.removeConnection "n") ∧
    PoolSafe getGetRemove (PoolState.init.run getGetRemove removedInBetween) :=
  ⟨by decide, by decide, by decide, pool_safe _ _
    ⟨trivial, rfl, trivial, trivial, trivial, rfl, rfl, trivial⟩⟩

/-- Two calls find no connection; the second one closes that of the first. -/
theorem pool_closes_returned : ¬ PoolSafe (fun _ : Bool => .getConnection "n") (PoolState.init.run
    (fun _ => .getConnection "n") [(false, true), (true, true), (false, true), (true, true)]) :=
  fun h => h.kept 0 "n" rfl

/-! ## the node of a connection -/

/-- the connections of the pool are those of their nodes, also after a race -/
def NodeClient.Routed (nc : NodeClient) : Prop :=
  ∀ n conn, nc.conns.lookup n = some conn → nc.created[conn]? = some n

lemma NodeClient.Routed.erase {nc : NodeClient} (h : nc.Routed) (nodeID n : String)
    (conn : ClientConn)
    (hl : (nc.conns.erase nodeID).lookup n = some conn) : nc.created[conn]? = some n := by
  by_cases hn : n = nodeID
  · rw [hn, lookup_erase] at hl
    cases hl
  · exact h n conn ((lookup_erase_ne hn).symm.trans hl)

lemma NodeClient.Routed.step {nc : NodeClient} {call : PoolCall} {position : Position}
    (h : nc.Routed) (dials : Bool) (hhas : Has nc.created call position) :
    (nc.step dials call position).1.Routed ∧ nc.created <+:
    (nc.step dials call position).1.created ∧
      Has (nc.step dials call position).1.created call (nc.step dials call position).2 := by
  unfold NodeClient.step
  split
  · rename_i nodeID
    refine ⟨h, prefix_rfl, ?_⟩
    cases hl : nc.conns.lookup nodeID with
    | none => trivial
    | some conn => exact h nodeID conn hl
  · refine ⟨h, prefix_rfl, ?_⟩
    dsimp only
    split
    · trivial
    · exact hhas
  · exact ⟨h.erase _, prefix_rfl, trivial⟩
  · rename_i nodeID
    unfold create
    cases hl : nc.conns.lookup nodeID with
    | some conn => exact ⟨h, prefix_rfl, h nodeID conn hl⟩
    | none =>
      cases dials with
      | false => exact ⟨h, prefix_rfl, trivial⟩
      | true =>
        refine ⟨fun n conn hn => ?_, prefix_append _ _, by simp [Has]⟩
        by_cases hid : n = nodeID
        · subst hid
          cases (lookup_insert nc.conns).symm.trans hn
          simp
        · have hconn := h n conn ((lookup_insert_ne hid).symm.trans hn)
          exact (List.getElem?_append_left (List.getElem?_eq_some_iff.mp hconn).1).trans hconn
  · exact ⟨h.erase _, prefix_rfl, trivial⟩
  · exact ⟨fun _ _ hn => (by cases hn), prefix_rfl, trivial⟩
  · exact ⟨h, prefix_rfl, hhas⟩

lemma PoolState.routed_run {ι : Type} [DecidableEq ι] {calls : ι → PoolCall} {s : PoolState ι}
    (hs : s.nc.Routed)
    (hhas : ∀ i, NodeClient.Has s.nc.created (calls i) (s.position i)) (steps : List (ι × Bool)) :
    ∀ i, NodeClient.Has (s.run calls steps).nc.created (calls i)
    ((s.run calls steps).position i) := by
  induction steps generalizing s with
  | nil => exact hhas
  | cons e steps ih =>
    obtain ⟨hs', hl, hi⟩ := hs.step e.2 (hhas e.1)
    refine ih hs' fun j => ?_
    by_cases hj : j = e.1
    · subst hj
      simpa [PoolState.step] using hi
    · simpa [PoolState.step, hj] using (hhas j).mono hl

/-- **A call gets a connection to its own node**, in every interleaving, raced or not. -/
theorem pool_routed {ι : Type} [DecidableEq ι] (calls : ι → PoolCall)
    (steps : List (ι × Bool)) (i : ι) :
    NodeClient.Has (PoolState.init.run calls steps).nc.created (calls i)
      ((PoolState.init.run calls steps).position i) :=
  PoolState.routed_run (fun _ _ hn => by cases hn) (fun i => by cases calls i <;> trivial) steps i

end VirtueStack.Nodes
