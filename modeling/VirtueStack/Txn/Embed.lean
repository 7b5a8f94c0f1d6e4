import VirtueStack.Txn.Each

/-!
# Transactions: a store inside another one

A system has parts with states of their own: the statements of a part are statements of the whole,
and they see and change that part of its state.

* `Part S T` the store `S` as a part of the store `T`;
* `all_embed`, `each_embed` what is true of its runs, from what is true of the runs on the part;
* `Each.and` two things about all runs.

What a client of the part does to the rest of the whole is not said here: that follows from the
statements it sends (`Each.of_all`).
-/

namespace Txn

/-- the store `S` as a part of the store `T` -/
structure Part (S T : Store) where
  stmt : S.Stmt → T.Stmt
  /-- what the client of the part is told -/
  reply (q : S.Stmt) : Except T.Err (T.Ans (stmt q)) → Except S.Err (S.Ans q)
  db : T.Db → S.Db
  event : Event T → Event S
  reply_answer : ∀ q db₁ e,
    reply q (T.answer (stmt q) db₁ e).1 = (S.answer q (db db₁) (event e)).1
  db_view : ∀ q db₁ e,
    db (T.view db₁ (T.answer (stmt q) db₁ e).2) = S.view (db db₁) (S.answer q (db db₁) (event e)).2

section
variable {S T : Store} {ε α β : Type}

/-- a program of the part; one that opens transactions is not meant -/
def Prog.embed (L : Part S T) : Prog S α → Prog T α
  | .ret a => .ret a
  | .req (.run q) k => .req (.run (L.stmt q)) fun r => (k (L.reply q r)).embed L
  | .req .begin k => (k (.ok ())).embed L
  | .req .commit k => (k (.ok ())).embed L
  | .req .rollback k => (k ()).embed L

def Call.embed (L : Part S T) (c : Call S ε α) : Call T ε α := Prog.embed L c

variable {L : Part S T} {p : Prog S α} {ok' : T.Stmt → Prop} {ok : S.Stmt → Prop}

lemma Prog.all_embed (h : ∀ q, ok q → ok' (L.stmt q)) (hp : p.All ok) : (p.embed L).All ok' := by
  induction p, hp using Prog.All.rule with
  | ret a => trivial
  | run q k hq _ ih => exact ⟨h q hq, fun r => ih _⟩

section
variable {A I : S.Stmt → Event S → S.Db → Prop} {A' I' : T.Stmt → Event T → T.Db → Prop}

lemma Prog.each_embed {Q : α → S.Db → Prop} {db : T.Db}
    (hA : ∀ q e db, A' (L.stmt q) e db → A q (L.event e) (L.db db))
    (hI : ∀ q e db, I q (L.event e) (L.db db) → I' (L.stmt q) e db)
    (hp : p.Each A I Q (L.db db)) : (p.embed L).Each A' I' (fun a db => Q a (L.db db)) db := by
  induction p generalizing db with
  | ret a => exact hp
  | req r k ih =>
    cases r with
    | run q =>
      intro e he
      obtain ⟨hq, hk⟩ := hp (L.event e) (hA q e db he)
      refine ⟨hI q e db hq, ih (L.reply q (T.answer (L.stmt q) db e).1) ?_⟩
      rw [L.reply_answer, L.db_view]
      exact hk
    | begin | commit | rollback => exact hp.elim

end

/-! ## two things about all runs -/

variable {A I J : S.Stmt → Event S → S.Db → Prop}

lemma Prog.Each.and {Q R : α → S.Db → Prop} {db : S.Db} (hQ : p.Each A I Q db)
    (hR : p.Each A J R db) :
    p.Each A (fun q e db => I q e db ∧ J q e db) (fun a db => Q a db ∧ R a db) db := by
  induction p generalizing db with
  | ret a => exact ⟨hQ, hR⟩
  | req r k ih =>
    cases r with
    | run q =>
      intro e he
      exact ⟨⟨(hQ e he).1, (hR e he).1⟩, ih _ (hQ e he).2 (hR e he).2⟩
    | begin | commit | rollback => exact hQ.elim

namespace Call

variable {c : Call S ε α}

lemma all_embed (h : ∀ q, ok q → ok' (L.stmt q))
    (hc : c.All ok) : (c.embed L).All ok' := Prog.all_embed h hc

/-! ### from its parts -/

lemma embed_attempt (c : Call S ε α) (f : Except ε α → Call S ε β) :
    (c.attempt f).embed L = (c.embed L).attempt fun r => (f r).embed L := by
  show Prog.embed L (Prog.bind c f) = Prog.bind (Prog.embed L c) fun r => Prog.embed L (f r)
  induction c with
  | ret r => rfl
  | req r k ih =>
    cases r with
    | run q => exact congrArg (Prog.req (Req.run (L.stmt q))) (funext fun r => ih (L.reply q r))
    | begin | commit => exact ih (.ok ())
    | rollback => exact ih ()

lemma embed_bind (c : Call S ε α) (f : α → Call S ε β) :
    (c >>= f).embed L = c.embed L >>= fun a => (f a).embed L := by
  refine (embed_attempt c _).trans (congrArg (Call.attempt (Call.embed L c)) (funext fun r => ?_))
  cases r with
  | ok a => rfl
  | error e => rfl

lemma each_embed_stmt {A I : T.Stmt → Event T → T.Db → Prop} {q : S.Stmt} {err : S.Err → ε}
    {Q : Except ε (S.Ans q) → T.Db → Prop} {db : T.Db}
    (h : ∀ e, A (L.stmt q) e db → I (L.stmt q) e db ∧
      Q ((S.answer q (L.db db) (L.event e)).1.mapError err)
      (T.view db (T.answer (L.stmt q) db e).2)) : ((Call.stmt q err).embed L).Each A I Q db := by
  intro e he
  obtain ⟨hI, hQ⟩ := h e he
  refine ⟨hI, ?_⟩
  rw [← L.reply_answer] at hQ
  dsimp only
  cases hr : L.reply q (T.answer (L.stmt q) db e).1 with
  | ok a | error err' =>
    rw [hr] at hQ
    exact hQ

end Call

end

end Txn
