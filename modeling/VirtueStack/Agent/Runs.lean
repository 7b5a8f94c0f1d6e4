import VirtueStack.Agent.Footprint

/-!
# Runs of an agent

What a run of the agent by itself comes to, command by command.
-/

namespace VirtueStack.Agent
open Txn Manager Call Job Store Host List Function

variable {o : Cmd → Event store} {h h' : Host} {α β : Type}

/-- no command fails of itself -/
def Works (o : Cmd → Event store) : Prop := ∀ q, ∃ x, o q = .ok x

/-- nothing comes from the outside -/
def quiet : Inp := ⟨[], false, false, "", [], (0, 0)⟩

/-- every command is carried out -/
def quietly : Cmd → Event store := fun _ => .ok quiet

lemma works_quietly : Works quietly := fun _ => ⟨quiet, rfl⟩

/-! ## one command -/

lemma alone_cmd {c : String} {q : Cmd} {x : Inp} {a : q.Ans} {ws : List Write} (ho : o q = .ok x)
    (hx : exec q x x h = .ok (a, ws)) : (cmd c q).alone o h = (.ok a, store.view h ws) := by
  unfold cmd
  rw [alone_stmt, ho, answer_of_ok hx]
  rfl

lemma alone_stmt_eq_ok {q : Cmd} {err : Err → GoError} {a : q.Ans} :
    (Call.stmt (S := store) q err).alone o h = (.ok a, h') ↔
      ∃ x ws, o q = .ok x ∧ exec q x x h = .ok (a, ws) ∧ h' = store.view h ws := by
  rw [alone_stmt]
  constructor
  · intro he
    cases hans : store.answer q h (o q) with
    | mk r ws =>
      rw [hans] at he
      cases r with
      | error e => cases he
      | ok b =>
        cases he
        obtain ⟨x, ho, hx⟩ := exec_of_answer hans
        exact ⟨x, ws, ho, hx, rfl⟩
  · rintro ⟨x, ws, ho, hx, rfl⟩
    rw [ho, answer_of_ok hx]
    rfl

variable {context : String}

lemma alone_cmd_cases (q : Cmd) : (∃ e, (cmd context q).alone o h = (.error e, h)) ∨
    ∃ x a ws, exec q x x h = .ok (a, ws) ∧ (cmd context q).alone o h =
      (.ok a, store.view h ws) := by
  unfold cmd
  rw [alone_stmt]
  cases hans : store.answer q h (o q) with
  | mk r ws =>
    cases r with
    | error e =>
      obtain rfl := answer_error hans
      exact .inl ⟨_, rfl⟩
    | ok a =>
      obtain ⟨x, -, hx⟩ := exec_of_answer hans
      exact .inr ⟨x, a, ws, hx, rfl⟩

variable {a : α} {c : Job α} {d : Domain} {vmID : String}

lemma alone_attempt_eq_ok {f : Except GoError α → Job α} (hok : ∀ a, f (.ok a) = Call.pure a)
    (herr : ∀ e h₁, (f (.error e)).alone o h₁ ≠ (.ok a, h')) :
    (c.attempt f).alone o h = (.ok a, h') ↔ c.alone o h = (.ok a, h') := by
  cases hc : c.alone o h with
  | mk r h₁ =>
    rw [alone_attempt_of hc]
    cases r with
    | ok b =>
      rw [hok]
      exact Iff.rfl
    | error e =>
      constructor
      · intro he
        exact absurd he (herr e h₁)
      · intro he
        cases he

lemma alone_wrapping_eq_ok :
    (wrapping context c).alone o h = (.ok a, h') ↔ c.alone o h = (.ok a, h') :=
  alone_attempt_eq_ok (f := withContext context) (fun _ => rfl) fun _ _ he => by cases he

lemma alone_wrapping (hc : c.alone o h = (.ok a, h')) :
    (wrapping context c).alone o h = (.ok a, h') := alone_wrapping_eq_ok.mpr hc

lemma Job.alone_lift_ok {r : Except GoError α} (hr : (lift r).alone o h = (.ok a, h')) :
    r = .ok a ∧ h' = h := by
  cases r with
  | ok b =>
    cases hr
    exact ⟨rfl, rfl⟩
  | error e => cases hr

/-! ## what is there -/

namespace Host

variable {name : String}

lemma withDomain_some {d : Domain} {f : Domain → Effect α} (hd : h.domains name = some d) :
    h.withDomain name f = f d := by
  unfold withDomain
  rw [hd]

variable {obj : Obj}

lemma withObject_some {im : Image} {f : Image → Effect α} (him : h.objects obj = some im) :
    h.withObject obj f = f im := by
  unfold withObject
  rw [him]

variable {f : Image → Snap → Effect α}

lemma withSnap_some {im : Image} {s : Snap} (him : h.objects obj = some im)
    (hs : im.snap name = some s) : h.withSnap obj name f = f im s := by
  unfold withSnap
  rw [withObject_some him, hs]

lemma withObject_eq_ok {f : Image → Effect α} {p : α × List Write}
    (hx : h.withObject obj f = .ok p) : ∃ im, h.objects obj = some im ∧ f im = .ok p := by
  cases him : h.objects obj with
  | none =>
    unfold withObject at hx
    rw [him] at hx
    cases hx
  | some im => exact ⟨im, rfl, (withObject_some him).symm.trans hx⟩

lemma withSnap_eq_ok {p : α × List Write}
    (hx : h.withSnap obj name f = .ok p) : ∃ im s, h.objects obj = some im ∧ im.snap name = some s ∧
      f im s = .ok p := by
  obtain ⟨im, him, hs⟩ := withObject_eq_ok hx
  cases hsnap : im.snap name with
  | none =>
    rw [hsnap] at hs
    cases hs
  | some s => exact ⟨im, s, him, hsnap, (withSnap_some him hsnap).symm.trans hx⟩

lemma objects_put (obj : Obj) (im : Option Image) :
    (store.view h [.object obj im]).objects obj = im := by
  show update h.objects obj im obj = im
  rw [update_self]

lemma domains_put (name : String) (d : Option Domain) :
    (store.view h [.domain name d]).domains name = d := by
  show update h.domains name d name = d
  rw [update_self]

end Host

lemma alone_stat {path : String} {im : Image} (ho : Works o)
    (him : h.objects (fileAt path) = some im)
    (k : Except Err Unit → Job α) : (onCmd (.stat path) k).alone o h = (k (.ok ())).alone o h := by
  obtain ⟨x, hx⟩ := ho (.stat path)
  show alone o (k (store.answer (.stat path) h (o (.stat path))).1)
    (store.view h (store.answer (.stat path) h (o (.stat path))).2) = _
  rw [hx, answer_of_ok (withObject_some him)]
  rfl

lemma LVMManager.alone_validating {what id : String} (hid : validateLVIdentifier id = .ok ()) :
    (validating what id).alone o h = (.ok (), h) := by
  unfold validating
  rw [hid]
  rfl

/-! ## images -/

lemma Image.snap_head {im : Image} {s : Snap} {rest : List Snap} (h : im.snaps = s :: rest) :
    im.snap s.name = some s := by
  unfold Image.snap
  rw [h, find?_cons_of_pos]
  exact decide_eq_true rfl

namespace RBDManager
variable {m : RBDManager} {name : String} {im : Image}

variable (ho : Works o)
include ho

lemma alone_openIOContext (context pool : String) :
    (wrapping context (openIOContext pool)).alone o h = (.ok (), h) := by
  obtain ⟨x, hx⟩ := ho (.openIOContext pool)
  exact alone_wrapping (alone_cmd hx rfl)

lemma alone_openImage (him : h.objects (.image m.pool name) = some im) (context : String) :
    (cmd context (.openImage m.pool name)).alone o h = (.ok (), h) := by
  obtain ⟨x, hx⟩ := ho (.openImage m.pool name)
  exact alone_cmd hx (withObject_some him)

lemma alone_unprotect (him : h.objects (.image m.pool name) = some im) {s : Snap} {rest : List Snap}
    (hs : im.snaps = s :: rest) (context : String) : ∃ h' im' s' rest',
      (when s.isProtected (cmd context (.unprotect m.pool name s.name))).alone o h = (.ok (), h') ∧
      h'.objects (.image m.pool name) = some im' ∧ im'.snaps = s' :: rest' ∧ s'.name = s.name ∧
      s'.isProtected = false ∧ rest'.map Snap.name = rest.map Snap.name := by
  cases hp : s.isProtected with
  | false => exact ⟨h, im, s, rest, rfl, him, hs, rfl, hp, rfl⟩
  | true =>
    obtain ⟨x, hx⟩ := ho (.unprotect m.pool name s.name)
    have hrun := alone_cmd (c := context) hx
      (withSnap_some (f := fun im s => Host.put (.image m.pool name) { im with
        snaps := im.snaps.map fun t => if t = s then { t with isProtected := false } else t })
        him (Image.snap_head hs))
    refine ⟨_, _, { s with isProtected := false },
      rest.map fun t => if t = s then { t with isProtected := false } else t, hrun,
      objects_put _ _, ?_, rfl, rfl,
      ?_⟩
    · rw [hs, map_cons, if_pos rfl]
    · rw [map_map]
      refine map_congr_left fun t _ => ?_
      show (if t = s then { t with isProtected := false } else t).name = t.name
      by_cases ht : t = s
      · rw [if_pos ht]
      · rw [if_neg ht]

lemma alone_removeSnapshots (names : List String)
    (him : h.objects (.image m.pool name) = some im) (hnames : im.snaps.map Snap.name = names) :
    ∃ h' im', (m.removeSnapshots name names).alone o h = (.ok (), h') ∧
      h'.objects (.image m.pool name) = some im' ∧ im'.snaps = [] := by
  induction names generalizing h im with
  | nil => exact ⟨h, im, rfl, him, map_eq_nil_iff.mp hnames⟩
  | cons n names ih =>
    obtain ⟨s, rest, hs, rfl, hrest⟩ := map_eq_cons_iff.mp hnames
    obtain ⟨x, hx⟩ := ho (.isProtected m.pool name s.name)
    have hcheck := alone_cmd (c := "checking protection of snapshot " ++ name ++ "@" ++ s.name) hx
      (withSnap_some (f := fun _ s => Host.done s.isProtected) him (Image.snap_head hs))
    obtain ⟨h1, im1, s1, rest1, hrun1, him1, hs1, hname1, hprot1, hrest1⟩ :=
      alone_unprotect (m := m) ho him hs ("unprotecting snapshot " ++ name ++ "@" ++ s.name)
    obtain ⟨x', hx'⟩ := ho (.removeSnapshot m.pool name s.name)
    have hremove : exec (.removeSnapshot m.pool name s.name) x' x' h1 =
        Host.put (.image m.pool name) { im1 with snaps := rest1 } := by
      refine (withSnap_some him1 (hname1 ▸ Image.snap_head hs1)).trans ?_
      rw [hprot1, hs1, erase_cons_head]
      rfl
    obtain ⟨h', im', hrun, him', hnil⟩ := ih (h := store.view h1 [.object (.image m.pool name)
      (some { im1 with snaps := rest1 })]) (objects_put _ _) (hrest1.trans hrest)
    refine ⟨h', im', ?_, him', hnil⟩
    refine (alone_bind_ok hcheck).trans ?_
    refine (alone_bind_ok hrun1).trans ?_
    exact (alone_bind_ok (alone_cmd hx' hremove)).trans hrun

/-- **An image is deleted with all its snapshots.** -/
theorem alone_delete (him : h.objects (.image m.pool name) = some im) :
    ∃ h', (m.delete name).alone o h = (.ok (), h') ∧ h'.objects (.image m.pool name) = none := by
  obtain ⟨x, hx⟩ := ho (.getSnapshotNames m.pool name)
  have hlist := alone_cmd (c := "listing snapshots of " ++ name) hx
    (withObject_some (f := fun im => Host.done (im.snaps.map Snap.name)) him)
  obtain ⟨h1, im1, hrun1, him1, hnil⟩ := alone_removeSnapshots (m := m) ho _ him rfl
  obtain ⟨x', hx'⟩ := ho (.removeImage m.pool name)
  have hremove : exec (.removeImage m.pool name) x' x' h1 = Host.remove (.image m.pool name) := by
    refine (withObject_some him1).trans ?_
    rw [if_pos hnil]
  refine ⟨_, ?_, objects_put (h := h1) _ _⟩
  refine (alone_bind_ok (alone_openIOContext ho _ _)).trans ?_
  refine (alone_bind_ok (alone_openImage ho him _)).trans ?_
  refine (alone_bind_ok (alone_wrapping ((alone_bind_ok hlist).trans hrun1))).trans ?_
  exact alone_cmd hx' hremove

end RBDManager

/-! ## domains -/

/-- a domain whose process runs, on a disk that is there -/
structure Host.Runs (h : Host) (xml : DomainXML) : Prop where
  domain : ∃ d, h.domains xml.name = some d ∧ d.state = .running ∧ d.qemu = true ∧
    d.isPersistent = true
  disk : (h.objects xml.disk).isSome = true

lemma exec_createDomain_ok {x : Inp} {name : String} {ws : List Write}
    (hd : h.domains name = some d) (hx : exec (.createDomain name) x x h = .ok ((), ws)) :
    ws = [.domain name (some d.started)] ∧ (h.objects d.xml.disk).isSome = true := by
  have hexec := (withDomain_some hd).symm.trans hx
  by_cases hq : d.qemu = true
  · rw [if_pos hq] at hexec
    cases hexec
  · rw [if_neg hq] at hexec
    cases hdisk : h.objects d.xml.disk with
    | none =>
      rw [hdisk] at hexec
      cases hexec
    | some im =>
      rw [hdisk] at hexec
      cases hexec
      exact ⟨rfl, rfl⟩

/-- **A VM that was created runs.** -/
theorem Manager.alone_createVM_eq_ok {parsers : Parsers} {dc : DomainConfig} {name : String}
    (hrun : (createVM parsers dc).alone o h = (.ok name, h')) :
    ∃ xml, generateDomainXML parsers dc = .ok xml ∧ h'.Runs xml := by
  obtain ⟨xml, h1, hxml, hrest⟩ := alone_bind_eq_ok.mp hrun
  obtain ⟨hgen, rfl⟩ := alone_lift_ok (alone_wrapping_eq_ok.mp hxml)
  obtain ⟨_, h2, hdefine, hrest⟩ := alone_bind_eq_ok.mp hrest
  obtain ⟨x, ws, _, hx, rfl⟩ := alone_stmt_eq_ok.mp hdefine
  cases hx
  obtain ⟨_, h3, hname, hrest⟩ := alone_bind_eq_ok.mp hrest
  obtain ⟨x1, ws1, _, hx1, rfl⟩ := alone_stmt_eq_ok.mp hname
  cases hx1
  obtain ⟨_, h4, hstart, hrest⟩ := alone_bind_eq_ok.mp hrest
  cases hrest
  have hnot : ∀ e h1, (started xml.name (.error e)).alone o h1 ≠ (.ok (), h') := by
    intro e h1 he
    obtain ⟨_, _, _, hfail⟩ := alone_bind_eq_ok.mp he
    cases hfail
  have hstarted := (alone_attempt_eq_ok (f := started xml.name) (fun _ => rfl) hnot).mp hstart
  obtain ⟨x2, ws2, _, hx2, rfl⟩ := alone_stmt_eq_ok.mp hstarted
  obtain ⟨rfl, hdisk⟩ := exec_createDomain_ok (domains_put (h := h1) xml.name _) hx2
  refine ⟨xml, hgen, ⟨_, domains_put (h := store.view h1 _) xml.name _, rfl, rfl, ?_⟩, ?_⟩
  · cases h1.domains xml.name with
    | none => rfl
    | some d => rfl
  · cases hd : h1.domains xml.name with
    | none | some d =>
      rw [hd] at hdisk
      exact hdisk

variable (ho : Works o) (hd : h.domains (domainName vmID) = some d)
include ho hd

lemma Manager.alone_lookupDomain (context : String) :
    (wrapping context (lookupDomain vmID)).alone o h = (.ok (), h) := by
  obtain ⟨x, hx⟩ := ho (.lookupDomain (domainName vmID))
  refine alone_wrapping ?_
  show (alone o (domainFound vmID (store.answer (.lookupDomain (domainName vmID)) h _).1) _) = _
  rw [hx, answer_of_ok (withDomain_some (f := fun _ => Host.done ()) hd)]
  rfl

lemma Manager.alone_getState (context : String) :
    (getState context vmID).alone o h = (.ok d.state, h) := by
  obtain ⟨x, hx⟩ := ho (.getState (domainName vmID))
  exact alone_cmd hx (withDomain_some hd)

lemma Manager.alone_deleteVM (hstate : d.state = .running) (hqemu : d.qemu = true)
    (hpers : d.isPersistent = true) : ∃ h', (deleteVM vmID).alone o h = (.ok (), h') ∧
      h'.objects = h.objects := by
  obtain ⟨x, hx⟩ := ho (.destroyDomain (domainName vmID))
  have hdestroy : exec (.destroyDomain (domainName vmID)) x x h =
      putDomain (domainName vmID) (some (.new d.xml)) := by
    refine (withDomain_some hd).trans ?_
    rw [if_pos hqemu]
    unfold Domain.stopped
    rw [if_pos hpers]
  obtain ⟨x', hx'⟩ := ho (.undefineDomain (domainName vmID))
  have hundefine : exec (.undefineDomain (domainName vmID)) x' x'
      (store.view h [.domain (domainName vmID) (some (.new d.xml))]) =
      putDomain (domainName vmID) none :=
    withDomain_some (domains_put _ _)
  refine ⟨store.view (store.view h [.domain (domainName vmID) (some (.new d.xml))])
    [.domain (domainName vmID) none], ?_, rfl⟩
  refine (alone_bind_ok (alone_lookupDomain ho hd _)).trans ?_
  refine (alone_bind_ok (alone_getState ho hd _)).trans ?_
  rw [hstate]
  refine (alone_bind_ok (alone_cmd hx hdestroy)).trans ?_
  exact alone_cmd hx' hundefine

end VirtueStack.Agent
