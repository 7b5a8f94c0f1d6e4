import VirtueStack.Agent.HandlerCells

/-!
# Disks under live domains

* `Host.liveDisk` the disk of a domain whose QEMU process is alive.

A graceful stop and a forced one are successes only when no process is left. A domain that is
deleted keeps its process if it was not running.
-/

namespace VirtueStack.Agent
open Txn Call Job Store Host List Function

/-! ## the disk of a live domain -/

def Host.liveDisk (h : Host) (name : String) : Option Obj :=
  match h.domains name with
  | some d => if d.qemu then some d.xml.disk else none
  | none => none

/-- the command writes to the disk of a domain that is alive -/
def Rewrites (name : String) (q : Cmd) (e : Event store) (h : Host) : Prop :=
  ∃ disk, h.liveDisk name = some disk ∧ ∃ w ∈ (store.answer q h e).2, w.cell = .object disk

variable {α : Type}

/-- no run sends such a command, and `Q` holds in the end -/
def Guarded (name : String) (Q : Except GoError α → Host → Prop) (c : Job α) (h : Host) : Prop :=
  c.Each (fun _ _ _ => True) (fun q e h => ¬ Rewrites name q e h) Q h

section
variable {name : String} {q : Cmd} {e : Event store} {h h₀ : Host} {α β : Type}

variable {d : Domain} {p : Cell → Prop} {c : Job α} {Q : Except GoError α → Host → Prop}

lemma liveDisk_of_alive (hd : h.domains name = some d) (hq : d.qemu = true) :
    h.liveDisk name = some d.xml.disk := by
  unfold liveDisk
  rw [hd]
  exact if_pos hq

lemma liveDisk_of_dead (hd : h.domains name = some d) (hq : d.qemu = false) :
    h.liveDisk name = none := by
  unfold liveDisk
  rw [hd]
  exact if_neg (by rw [hq]; exact Bool.false_ne_true)

lemma liveDisk_of_none (hd : h.domains name = none) : h.liveDisk name = none := by
  unfold liveDisk
  rw [hd]

lemma liveDisk_eq_some {disk : Obj} (hl : h.liveDisk name = some disk) :
    ∃ d, h.domains name = some d ∧ d.qemu = true ∧ d.xml.disk = disk := by
  cases hd : h.domains name with
  | none =>
    rw [liveDisk_of_none hd] at hl
    cases hl
  | some d =>
    cases hq : d.qemu with
    | false =>
      rw [liveDisk_of_dead hd hq] at hl
      cases hl
    | true =>
      rw [liveDisk_of_alive hd hq] at hl
      cases hl
      exact ⟨d, rfl, hq, rfl⟩

lemma liveDisk_of_shutoff (hd : h.domains name = some d) (hs : d.state = .shutoff) :
    h.liveDisk name = none := liveDisk_of_dead hd (d.shutoff_dead hs)

lemma not_rewrites (hq : Only p q) (hp : ∀ disk, h.liveDisk name = some disk → ¬ p (.object disk)) :
    ¬ Rewrites name q e h := by
  rintro ⟨disk, hdisk, w, hw, hcell⟩
  exact hp disk hdisk (hcell ▸ hq _ (answer_cells hw))

/-- the domain is as alive as it was, on the disk as it was -/
structure Unmoved (name : String) (h h' : Host) : Prop where
  live : h'.liveDisk name = h.liveDisk name
  disk : ∀ disk, h.liveDisk name = some disk → h'.objects disk = h.objects disk

lemma guarded_only (hall : c.All (Only p)) (hdom : ¬ p (.domain name))
    (hp : ∀ disk, h.liveDisk name = some disk → ¬ p (.object disk)) :
    Guarded name (fun _ h' => Unmoved name h h') c h := by
  refine Each.of_all (K := Unmoved name h) hall ?_ ⟨rfl, fun _ _ => rfl⟩
  intro q hq e h' _ hK
  refine ⟨not_rewrites hq fun disk hdisk => hp disk (hK.live ▸ hdisk), ?_, fun disk hdisk => ?_⟩
  · unfold liveDisk
    rw [answer_domains fun hmem => hdom (hq _ hmem)]
    exact hK.live
  · rw [answer_objects fun hmem => hp disk hdisk (hq _ hmem)]
    exact hK.disk disk hdisk

lemma Guarded.mono {Q' : Except GoError α → Host → Prop} (hc : Guarded name Q c h)
    (hQ : ∀ r h', Q r h' → Q' r h') : Guarded name Q' c h := Each.mono hQ hc

section
variable {R : Except GoError α → Host → Prop} {Q : Except GoError β → Host → Prop}

lemma Guarded.bind {f : α → Job β} (hc : Guarded name R c h)
    (hok : ∀ a h', R (.ok a) h' → Guarded name Q (f a) h')
    (herr : ∀ e h', R (.error e) h' → Q (.error e) h') : Guarded name Q (c >>= f) h :=
  Each.bind hc hok herr

lemma Guarded.attempt {f : Except GoError α → Job β} (hc : Guarded name R c h)
    (hf : ∀ r h', R r h' → Guarded name Q (f r) h') :
    Guarded name Q (c.attempt f) h := Each.attempt hc hf

end

lemma Guarded.attempt_error {f : Except GoError α → Job α}
    (hc : Guarded name Q c h) (hQ : ∀ e e' h', Q (.error e) h' → Q (.error e') h')
    (hok : ∀ a, f (.ok a) = Call.pure a)
    (herr : ∀ e, ∃ e', f (.error e) = fail e') : Guarded name Q (c.attempt f) h := by
  refine hc.attempt fun r h' hr => ?_
  cases r with
  | ok a =>
    rw [hok]
    exact hr
  | error e =>
    obtain ⟨e', he'⟩ := herr e
    rw [he']
    exact hQ e e' h' hr

lemma Guarded.internal {context : String}
    (hc : Guarded name Q c h) (hQ : ∀ e e' h', Q (.error e) h' → Q (.error e') h') :
    Guarded name Q (internal context c) h :=
  hc.attempt_error (f := statusOf .internal context) hQ (fun _ => rfl) fun _ => ⟨_, rfl⟩

lemma Guarded.mapError {operation : String}
    (hc : Guarded name Q c h) (hQ : ∀ e e' h', Q (.error e) h' → Q (.error e') h') :
    Guarded name Q (mapError operation c) h :=
  hc.attempt_error (f := mapped operation) hQ (fun _ => rfl) fun _ => ⟨_, rfl⟩

end

/-! ## stopping a domain -/

/-- a command that starts nothing and writes to no object -/
def Calm (name : String) (q : Cmd) : Prop :=
  q.cells = [] ∨ q = .destroyDomain name ∨ q = .undefineDomain name ∨ q = .tick name

/-- the domain has ended, or it is as it was; the objects are as they were -/
structure Calmed (name : String) (h h' : Host) : Prop where
  live : h'.liveDisk name = none ∨ h'.liveDisk name = h.liveDisk name
  objects : h'.objects = h.objects

section
variable {name : String} {h h' : Host}

lemma Calmed.refl : Calmed name h h := ⟨.inr rfl, rfl⟩

lemma Calmed.trans {h'' : Host} (ha : Calmed name h h') (hb : Calmed name h' h'') :
    Calmed name h h'' := by
  refine ⟨?_, hb.objects.trans ha.objects⟩
  rcases hb.live with hb | hb
  · exact .inl hb
  · rw [hb]
    exact ha.live

lemma calmed_domain {d : Option Domain} (hd : (store.view h [.domain name d]).liveDisk name = none ∨
      (store.view h [.domain name d]).liveDisk name = h.liveDisk name) :
    Calmed name h (store.view h [.domain name d]) := ⟨hd, rfl⟩

lemma liveDisk_put (d : Domain) : (store.view h [.domain name (some d)]).liveDisk name =
    if d.qemu then some d.xml.disk else none := by
  show (match update h.domains name (some d) name with
    | some d => if d.qemu then some d.xml.disk else none
    | none => none) = _
  rw [update_self]

lemma liveDisk_gone : (store.view h [.domain name none]).liveDisk name = none := by
  refine liveDisk_of_none ?_
  show update h.domains name none name = none
  rw [update_self]

lemma liveDisk_stopped (d : Domain) :
    (store.view h [.domain name d.stopped]).liveDisk name = none := by
  unfold Domain.stopped
  by_cases hp : d.isPersistent = true
  · rw [if_pos hp, liveDisk_put]
    rfl
  · rw [if_neg hp]
    exact liveDisk_gone

lemma withDomain_eq_ok {f : Domain → Effect α} {a : α} {ws : List Write}
    (hx : h.withDomain name f = .ok (a, ws)) :
    ∃ d, h.domains name = some d ∧ f d = .ok (a, ws) := by
  unfold withDomain at hx
  cases hd : h.domains name with
  | none =>
    rw [hd] at hx
    cases hx
  | some d =>
    rw [hd] at hx
    exact ⟨d, rfl, hx⟩

variable {q : Cmd}

lemma calmed_withDomain {e : Event store} {f : Inp → Domain → Effect q.Ans}
    (hexec : ∀ x, exec q x x h = h.withDomain name (f x))
    (hf : ∀ x d a ws, h.domains name = some d → f x d = .ok (a, ws) →
      Calmed name h (store.view h ws)) : Calmed name h (store.view h (store.answer q h e).2) := by
  cases hans : store.answer q h e with
  | mk r ws =>
    cases r with
    | error err =>
      rw [answer_error hans]
      exact .refl
    | ok a =>
      obtain ⟨x, _, hx⟩ := exec_of_answer hans
      obtain ⟨d, hd, heff⟩ := withDomain_eq_ok ((hexec x).symm.trans hx)
      exact hf x d a ws hd heff

lemma calm_step (hq : Calm name q) (e : Event store) :
    Calmed name h (store.view h (store.answer q h e).2) := by
  rcases hq with hq | rfl | rfl | rfl
  · have hnone : ∀ c : Cell, c ∉ q.cells := fun c hc => by rw [hq] at hc; cases hc
    refine ⟨.inr ?_, funext fun obj => answer_objects (hnone _)⟩
    unfold liveDisk
    rw [answer_domains (hnone _)]
  · refine calmed_withDomain (fun _ => rfl) fun x d a ws hd hf => ?_
    by_cases hq : d.qemu = true
    · rw [if_pos hq] at hf
      cases hf
      exact calmed_domain (.inl (liveDisk_stopped d))
    · rw [if_neg hq] at hf
      cases hf
  · refine calmed_withDomain (fun _ => rfl) fun x d a ws hd hf => ?_
    by_cases hp : d.isPersistent = true
    · rw [if_pos hp] at hf
      cases hf
      unfold Domain.undefined
      by_cases hq : d.qemu = true
      · rw [if_pos hq]
        refine calmed_domain (.inr ?_)
        rw [liveDisk_put, liveDisk_of_alive hd hq]
        exact if_pos hq
      · rw [if_neg hq]
        exact calmed_domain (.inl liveDisk_gone)
    · rw [if_neg hp] at hf
      cases hf
  · refine calmed_withDomain
      (f := fun x d => if x.off && d.qemu then putDomain name d.stopped else Host.done ())
      (fun _ => rfl) fun x d a ws hd hf => ?_
    by_cases hoff : (x.off && d.qemu) = true
    · rw [if_pos hoff] at hf
      cases hf
      exact calmed_domain (.inl (liveDisk_stopped d))
    · rw [if_neg hoff] at hf
      cases hf
      exact .refl

lemma calm_no_object (hq : Calm name q) (obj : Obj) : .object obj ∉ q.cells := by
  rcases hq with hq | rfl | rfl | rfl
  · rw [hq]
    exact not_mem_nil
  · exact fun h => by cases mem_singleton.mp h
  · exact fun h => by cases mem_singleton.mp h
  · exact fun h => by cases mem_singleton.mp h

lemma calm_not_rewrites (hq : Calm name q) (e : Event store) : ¬ Rewrites name q e h := by
  rintro ⟨disk, _, w, hw, hcell⟩
  exact calm_no_object hq disk (hcell ▸ answer_cells hw)

lemma guarded_calm {c : Job α} (hall : c.All (Calm name)) :
    Guarded name (fun _ h' => Calmed name h h') c h := by
  refine Each.of_all (K := Calmed name h) hall (fun q hq e h' _ hK => ?_) .refl
  exact ⟨calm_not_rewrites hq e, hK.trans (calm_step hq e)⟩

end

/-! ## what the stop calls leave -/

section
variable {vmID : String} {h : Host}

variable {name context : String}

lemma guarded_stmt {q : Cmd} {err : Err → GoError} {Q : Except GoError q.Ans → Host → Prop}
    (hq : ∀ e, ¬ Rewrites name q e h)
    (hok : ∀ x a ws, exec q x x h = .ok (a, ws) → Q (.ok a) (store.view h ws))
    (herr : ∀ e, Q (.error (err e)) h) : Guarded name Q (stmt (S := store) q err) h := by
  refine each_stmt.mpr fun e _ => ⟨hq e, ?_⟩
  cases hans : store.answer q h e with
  | mk r ws =>
    cases r with
    | error err =>
      rw [answer_error hans]
      exact herr _
    | ok a =>
      obtain ⟨x, _, hx⟩ := exec_of_answer hans
      exact hok x a ws hx

def Reports (vmID : String) (h : Host) : Except GoError DomainState → Prop
  | .ok s => ∃ d, h.domains (domainName vmID) = some d ∧ d.state = s
  | .error e => e.is .notFound = false

lemma guarded_getState :
    Guarded name (fun r h' => h' = h ∧ Reports vmID h r) (Manager.getState context vmID) h := by
  refine guarded_stmt (calm_not_rewrites (.inl rfl)) (fun x s ws hx => ?_) fun e => ⟨rfl, rfl⟩
  obtain ⟨d, hd, hf⟩ := withDomain_eq_ok hx
  cases hf
  exact ⟨rfl, d, hd, rfl⟩

lemma guarded_reads {c : Job α} (hall : c.All fun q : Cmd => q.cells = []) :
    Guarded name (fun _ h' => h' = h) c h := by
  refine Each.of_all (K := fun h' => h' = h) hall ?_ rfl
  rintro q hq e h' _ rfl
  refine ⟨not_rewrites (p := fun _ => False) (only_read hq) fun _ _ h => h, ?_⟩
  rw [answer_read hq]
  rfl

lemma guarded_lookupDomain :
    Guarded name (fun _ h' => h' = h) (wrapping context (Manager.lookupDomain vmID)) h :=
  guarded_reads (all_wrapping (Manager.sends_lookupDomain fun _ hq => hq))

lemma guarded_from_state {stateContext : String} {f : DomainState → Job α}
    {Q : Except GoError α → Host → Prop}
    (hf : ∀ d, h.domains (domainName vmID) = some d → Guarded name Q (f d.state) h)
    (herr : ∀ e, Q (.error e) h) :
    Guarded name Q (wrapping context (Manager.lookupDomain vmID) >>= fun _ =>
      Manager.getState stateContext vmID >>= f) h := by
  refine guarded_lookupDomain.bind ?_ fun e h' hh => hh ▸ herr e
  rintro _ _ rfl
  refine guarded_getState.bind ?_ fun e h' hh => hh.1 ▸ herr e
  rintro state _ ⟨rfl, d, hd, rfl⟩
  exact hf d hd

lemma guarded_getStatus : Guarded name
    (fun r h' => h' = h ∧ ∀ s, r = .ok s → ∃ d, h.domains (domainName vmID) = some d ∧
      mapLibvirtState d.state = s) (Manager.getStatus vmID) h := by
  refine guarded_from_state (fun d hd => ?_) fun e => ⟨rfl, fun s hs => (by cases hs)⟩
  refine Guarded.bind (R := fun _ h' => h' = _) (guarded_reads (all_cmd rfl)) ?_ fun e h' hh =>
    ⟨hh, fun s hs => (by cases hs)⟩
  rintro _ _ rfl
  refine ⟨rfl, ?_⟩
  rintro _ ⟨⟩
  exact ⟨d, hd, rfl⟩

/-- how a stop ends: a success leaves no process -/
def Stopped (name : String) (h : Host) (r : Except GoError Unit) (h' : Host) : Prop :=
  Calmed name h h' ∧ (r = .ok () → h'.liveDisk name = none)

lemma Calmed.failed {h' : Host} {e : GoError} (hc : Calmed name h h') :
    Stopped name h (.error e) h' :=
  ⟨hc, fun hr => (by cases hr)⟩

lemma guarded_destroy :
    Guarded name (fun r h' => Stopped name h r h' ∧ ∀ e, r = .error e → e.is .notFound = false)
    (cmd context (.destroyDomain name)) h := by
  refine guarded_stmt (calm_not_rewrites (.inr (.inl rfl))) (fun x a ws hx => ?_) fun e =>
    ⟨Calmed.refl.failed, fun _ hr => (by cases hr; rfl)⟩
  obtain ⟨d, hd, hf⟩ := withDomain_eq_ok hx
  by_cases hq : d.qemu = true
  · rw [if_pos hq] at hf
    cases hf
    exact ⟨⟨calmed_domain (.inl (liveDisk_stopped d)), fun _ => liveDisk_stopped d⟩, fun _ hr =>
      (by cases hr)⟩
  · rw [if_neg hq] at hf
    cases hf

lemma calm_read (q : Cmd) (hq : q.cells = []) : Calm name q := .inl hq

/-- **A forced stop that is a success leaves no process.** -/
theorem guarded_forceStopVM :
    Guarded (domainName vmID) (Stopped (domainName vmID) h) (Manager.forceStopVM vmID) h := by
  refine guarded_from_state (fun d hd => ?_) fun e => Calmed.refl.failed
  unfold Manager.destroyFrom
  by_cases hoff : d.state = .shutoff
  · rw [if_pos hoff]
    exact ⟨.refl, fun _ => liveDisk_of_shutoff hd hoff⟩
  · rw [if_neg hoff]
    exact guarded_destroy.mono fun r h' hr => hr.1

lemma guarded_awaitShutoff (polls : Nat) :
    Guarded (domainName vmID) (Stopped (domainName vmID) h)
    (Manager.awaitShutoff vmID polls) h := by
  induction polls generalizing h with
  | zero => exact Calmed.refl.failed
  | succ polls ih =>
    have htick : Calm (domainName vmID) (.tick (domainName vmID)) := .inr (.inr (.inr rfl))
    refine (guarded_calm (all_cmd htick)).bind ?_ fun e h' hh => hh.failed
    intro _ h1 hh1
    refine guarded_getState.bind ?_ fun e h' hh => Calmed.failed (hh.1 ▸ hh1)
    rintro state _ ⟨rfl, d, hd, rfl⟩
    by_cases hoff : d.state = .shutoff
    · rw [if_pos hoff]
      exact ⟨hh1, fun _ => liveDisk_of_shutoff hd hoff⟩
    · rw [if_neg hoff]
      exact ih.mono fun r h' hr => ⟨hh1.trans hr.1, hr.2⟩

/-- **A graceful stop that is a success leaves no process.** -/
theorem guarded_stopVM (timeoutSec : Nat) :
    Guarded (domainName vmID) (Stopped (domainName vmID) h) (Manager.stopVM vmID timeoutSec) h := by
  refine guarded_from_state (fun d hd => ?_) fun e => Calmed.refl.failed
  unfold Manager.shutdownFrom
  by_cases hoff : d.state = .shutoff
  · rw [if_pos hoff]
    exact ⟨.refl, fun _ => liveDisk_of_shutoff hd hoff⟩
  · rw [if_neg hoff]
    refine (guarded_reads (all_cmd rfl)).bind ?_ fun e h' hh => Calmed.failed (hh ▸ .refl)
    rintro _ _ rfl
    exact guarded_awaitShutoff _

lemma guarded_lookupDomain_notFound :
    Guarded name (fun r h' => h' = h ∧ ∀ e, r = .error e → e.is .notFound = true →
      h.liveDisk (domainName vmID) = none) (wrapping context (Manager.lookupDomain vmID)) h := by
  refine Guarded.attempt (R := fun r h' => h' = h ∧ ∀ e, r = .error e → e.is .notFound = true →
      h.liveDisk (domainName vmID) = none) ?_ fun r h' hr => ?_
  · intro e _
    refine ⟨calm_not_rewrites (.inl rfl) e, ?_⟩
    rw [answer_read rfl]
    cases e with
    | fail text => exact ⟨rfl, fun e he hnot => (by cases he; cases hnot)⟩
    | ok x =>
      cases hd : h.domains (domainName vmID) with
      | none =>
        have hans : store.answer (.lookupDomain (domainName vmID)) h (.ok x) =
            (.error .noDomain, []) := by
          simp only [Store.answer, store, exec, withDomain, hd]
        rw [hans]
        exact ⟨rfl, fun _ _ _ => liveDisk_of_none hd⟩
      | some d =>
        have hans : store.answer (.lookupDomain (domainName vmID)) h (.ok x) = (.ok (), []) := by
          simp only [Store.answer, store, exec, withDomain, hd, Host.done]
        rw [hans]
        exact ⟨rfl, fun e he _ => (by cases he)⟩
  · cases r with
    | ok _ => exact ⟨hr.1, fun e he _ => (by cases he)⟩
    | error err =>
      refine ⟨hr.1, ?_⟩
      rintro _ ⟨⟩ hnot
      exact hr.2 err rfl hnot

/-- what is left when a domain was to be deleted: a process only of a persistent domain that was not
running -/
structure Undefined (vmID : String) (h : Host) (r : Except GoError Unit) (h' : Host) : Prop where
  calmed : Calmed (domainName vmID) h h'
  ok : r = .ok () → h'.liveDisk (domainName vmID) = none ∨
    ∃ d, h.domains (domainName vmID) = some d ∧ d.state ≠ .running ∧ d.isPersistent = true
  notFound : ∀ e, r = .error e → e.is .notFound = true → h'.liveDisk (domainName vmID) = none

lemma undefined_of_error {e : GoError} {h' : Host} (hc : Calmed (domainName vmID) h h')
    (he : e.is .notFound = false) : Undefined vmID h (.error e) h' := by
  refine ⟨hc, fun hr => (by cases hr), ?_⟩
  rintro _ ⟨⟩ hnot
  rw [he] at hnot
  cases hnot

lemma guarded_undefine {h₁ : Host} (hc : Calmed (domainName vmID) h h₁)
    (hlive : h₁.liveDisk (domainName vmID) = none ∨
      h₁ = h ∧ ∃ d, h.domains (domainName vmID) = some d ∧ d.state ≠ .running) :
    Guarded (domainName vmID) (Undefined vmID h)
    (cmd context (.undefineDomain (domainName vmID))) h₁ := by
  have hcalm : Calm (domainName vmID) (.undefineDomain (domainName vmID)) := .inr (.inr (.inl rfl))
  refine guarded_stmt (calm_not_rewrites hcalm) (fun x a ws hx => ?_) fun e =>
    undefined_of_error hc rfl
  have hc' : Calmed (domainName vmID) h₁ (store.view h₁ ws) := by
    have hstep := calm_step (h := h₁) hcalm (.ok x)
    rw [answer_of_ok hx] at hstep
    exact hstep
  refine ⟨hc.trans hc', fun _ => ?_, fun e he => (by cases he)⟩
  rcases hlive with hdead | ⟨rfl, d, hd, hstate⟩
  · rcases hc'.live with hl | hl
    · exact .inl hl
    · exact .inl (hl.trans hdead)
  · obtain ⟨d', hd', hf⟩ := withDomain_eq_ok hx
    rw [hd] at hd'
    cases hd'
    refine .inr ⟨d, hd, hstate, ?_⟩
    by_contra hp
    rw [if_neg hp] at hf
    cases hf

/-- **Deleting a domain spares its disk.** -/
theorem guarded_deleteVM :
    Guarded (domainName vmID) (Undefined vmID h) (Manager.deleteVM vmID) h := by
  refine guarded_lookupDomain_notFound.bind ?_ fun e h' hh =>
    ⟨hh.1 ▸ .refl, fun hs => (by cases hs), ?_⟩
  swap
  · rintro _ ⟨⟩ hnot
    rw [hh.1]
    exact hh.2 e rfl hnot
  rintro _ _ ⟨rfl, _⟩
  refine guarded_getState.bind ?_ fun e h' hh => undefined_of_error (hh.1 ▸ .refl) hh.2
  rintro state h' ⟨rfl, hstate⟩
  obtain ⟨d, hd, rfl⟩ := hstate
  by_cases hrun : d.state = .running
  · rw [hrun]
    refine guarded_destroy.bind ?_ fun e h' hh => undefined_of_error hh.1.1 (hh.2 e rfl)
    intro _ h1 hh
    exact guarded_undefine hh.1.1 (.inl (hh.1.2 rfl))
  · rw [decide_eq_false hrun]
    refine Guarded.bind (R := fun r h1 => r = .ok () ∧ h1 = h') ⟨rfl, rfl⟩ ?_ fun e h1 hh =>
      (by cases hh.1)
    rintro _ _ ⟨_, rfl⟩
    exact guarded_undefine .refl (.inr ⟨rfl, d, hd, hrun⟩)

end

end VirtueStack.Agent
