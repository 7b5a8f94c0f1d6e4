import Mathlib.Data.Set.Basic
import Mathlib.Logic.Function.Basic

/-!
# Transactions: stores, and the programs that issue statements against them

A `Store` is a relational database seen from a client: committed states, row writes, statements,
and the locks a statement waits for. A `Prog` is a sequential client: it sends one request at a
time and goes on with the answer.

* `Req`, `Prog` `begin`, `commit`, `rollback` or one statement; an answer may be an error.

A statement that fails inside a transaction takes the whole transaction with it: the writes are
dropped, the locks are given back and every later statement of that transaction fails.
-/

namespace Txn
open List

/-- A database as its clients see it. `exec q x₀ x v` runs the statement `q` on the view `v`: `x`
is what the outside supplies to this statement (a generated id, a clock, the answer of a remote
service) and `x₀` is what it supplied when the transaction was opened. -/
structure Store where
  Db : Type
  Lock : Type
  Write : Type
  Stmt : Type
  Ans : Stmt → Type
  Inp : Type
  Err : Type
  /-- what can go wrong with any request: a lost connection, a deadlock, a timeout -/
  Fault : Type
  fault : Fault → Err
  decLock : DecidableEq Lock
  exec : (q : Stmt) → Inp → Inp → Db → Except Err (Ans q × List Write)
  /-- the row, index and advisory locks `q` waits for -/
  locks : Stmt → Inp → Db → List Lock
  apply : Db → Write → Db
  /-- the locks without which no session writes `w` -/
  guards : Write → List Lock
  exec_guarded : ∀ q x₀ x v a ws, exec q x₀ x v = .ok (a, ws) →
    ∀ w ∈ ws, ∀ l ∈ guards w, l ∈ locks q x v

instance (S : Store) : DecidableEq S.Lock := S.decLock

/-- `db` with the writes `ws` on top, the head of the list first -/
def Store.view (S : Store) (db : S.Db) (ws : List S.Write) : S.Db := ws.foldl S.apply db

section
variable {S : Store}

@[simp] lemma Store.view_cons (db : S.Db) (w : S.Write) (ws : List S.Write) :
    S.view db (w :: ws) = S.view (S.apply db w) ws := rfl
lemma Store.view_append (db : S.Db) (a b : List S.Write) :
    S.view db (a ++ b) = S.view (S.view db a) b := foldl_append

lemma Store.view_rel {r : S.Db → S.Db → Prop} (hr : ∀ db, r db db)
    (ht : ∀ a b c, r a b → r b c → r a c) (hs : ∀ db w, r db (S.apply db w)) (db : S.Db)
    (ws : List S.Write) : r db (S.view db ws) := by
  induction ws generalizing db with
  | nil => exact hr db
  | cons w ws ih => exact ht _ _ _ (hs db w) (ih (S.apply db w))

lemma Store.view_same {β : Type} {g : S.Db → β} {ws : List S.Write}
    (h : ∀ w ∈ ws, ∀ db, g (S.apply db w) = g db) (db : S.Db) : g (S.view db ws) = g db := by
  induction ws generalizing db with
  | nil => rfl
  | cons w ws ih =>
    rw [Store.view_cons, ih fun w' hw' => h w' (mem_cons_of_mem w hw')]
    exact h w mem_cons_self db

end

/-! ## requests and programs -/

inductive Req (S : Store) where
  | begin
  | commit
  | rollback
  | run (q : S.Stmt)

variable {S : Store}

/-- what the client gets back -/
def Req.Ans : Req S → Type
  | .begin => Except S.Err Unit
  | .commit => Except S.Err Unit
  | .rollback => Unit
  | .run q => Except S.Err (S.Ans q)

/-- a sequential client -/
inductive Prog (S : Store) (α : Type) where
  | ret (a : α)
  | req (r : Req S) (k : r.Ans → Prog S α)

def Prog.bind {α β : Type} : Prog S α → (α → Prog S β) → Prog S β
  | .ret a, f => f a
  | .req r k, f => .req r (fun x => (k x).bind f)

/-- a client that ends with a value or with an error of type `E` -/
def Call (S : Store) (E α : Type) : Type := Prog S (Except E α)

namespace Call
variable {S : Store} {E α β : Type}

def pure (a : α) : Call S E α := Prog.ret (.ok a)
def fail (e : E) : Call S E α := Prog.ret (.error e)

/-- go on with the value; an error ends the call -/
def bind (c : Call S E α) (f : α → Call S E β) : Call S E β :=
  Prog.bind c fun
    | .ok a => f a
    | .error e => Call.fail e

instance : Monad (Call S E) where
  pure := Call.pure
  bind := Call.bind

/-- one statement; `err` turns the error of the driver into the error of the caller -/
def stmt (q : S.Stmt) (err : S.Err → E) : Call S E (S.Ans q) :=
  Prog.req (.run q) fun
    | .ok a => Call.pure a
    | .error e => Call.fail (err e)

def commit (err : S.Err → E) : Call S E Unit :=
  Prog.req .commit fun
    | .ok _ => Call.pure ()
    | .error e => Call.fail (err e)

/-- go on with the outcome itself, value or error -/
def attempt (c : Call S E α) (f : Except E α → Call S E β) : Call S E β := Prog.bind c f

/-- open a transaction, run `body`, roll back whatever `body` did not commit -/
def withTx (err : S.Err → E) (body : Call S E α) : Call S E α :=
  Prog.req .begin fun
    | .ok _ => Prog.bind body fun r => Prog.req .rollback fun _ => Prog.ret r
    | .error e => Call.fail (err e)

end Call

/-! ## one request of one session -/

/-- no transaction, an open one (with what the outside supplied when it was opened), or one that a
failed statement has spoilt -/
inductive TxState (S : Store) where
  | idle
  | active (x₀ : S.Inp)
  | failed

/-- the private part of a session: its transaction and the writes not yet committed -/
structure Loc (S : Store) where
  tx : TxState S
  log : List S.Write

/-- a session outside any transaction -/
def Loc.idle : Loc S := ⟨.idle, []⟩

/-- how a request ends: the server carries it out, or it fails -/
inductive Event (S : Store) where
  | ok (x : S.Inp)
  | fail (e : S.Fault)

/-- the locks a request waited for are kept until the transaction ends, are given back at once, or
all locks of the session are given back -/
inductive LockMode where
  | take
  | keep
  | free

structure Out (S : Store) (r : Req S) where
  ans : r.Ans
  loc : Loc S
  /-- the writes that become public -/
  ws : List S.Write
  need : List S.Lock
  mode : LockMode

/-- what the request `r` of a session in state `l` does; `none` where the server cannot answer so -/
def Req.exec : (r : Req S) → Event S → Loc S → S.Db → Option (Out S r)
  | .begin, .ok x, l, _ =>
    match l.tx with
    | .idle => some ⟨.ok (), ⟨.active x, []⟩, [], [], .keep⟩
    | _ => none
  | .begin, .fail e, l, _ => some ⟨.error (S.fault e), l, [], [], .keep⟩
  | .commit, .ok _, l, _ =>
    match l.tx with
    | .active _ => some ⟨.ok (), .idle, l.log, [], .free⟩
    | _ => none
  | .commit, .fail e, _, _ => some ⟨.error (S.fault e), .idle, [], [], .free⟩
  | .rollback, _, _, _ => some ⟨(), .idle, [], [], .free⟩
  | .run q, .ok x, l, db =>
    match l.tx with
    | .idle =>
      match S.exec q x x db with
      | .ok (a, ws) => some ⟨.ok a, l, ws, S.locks q x db, .keep⟩
      | .error e => some ⟨.error e, l, [], [], .keep⟩
    | .active x₀ =>
      match S.exec q x₀ x (S.view db l.log) with
      | .ok (a, ws) =>
        some ⟨.ok a, ⟨.active x₀, l.log ++ ws⟩, [], S.locks q x (S.view db l.log), .take⟩
      | .error e => some ⟨.error e, ⟨.failed, []⟩, [], [], .free⟩
    | .failed => none
  | .run _, .fail e, l, _ =>
    match l.tx with
    | .idle => some ⟨.error (S.fault e), l, [], [], .keep⟩
    | _ => some ⟨.error (S.fault e), ⟨.failed, []⟩, [], [], .free⟩

end Txn
