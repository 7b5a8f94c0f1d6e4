import Mathlib.Data.List.Nodup
import Mathlib.Logic.Function.Basic

/-!
# The CPU samplers of an agent (nodeagent/vm/lifecycle.go)

The steps are the critical sections of the calls, the return of a goroutine and the cancel in
`Stop`, in any order; a sampler runs from the section that makes it until it returns.
-/

namespace VirtueStack.Agent.CPUSamplers
open List

/-- a context, with the number of its cancel function -/
inductive Ctx where
  | background
  | withCancel (cancel : Nat) (parent : Ctx)
  | withoutCancel (parent : Ctx)
  deriving DecidableEq

def Ctx.done (cancelled : Nat → Bool) : Ctx → Bool
  | .background => false
  | .withCancel cancel parent => cancelled cancel || parent.done cancelled
  | .withoutCancel _ => false

/-- a goroutine in `runCPUSampler` -/
structure Sampler where
  ctx : Ctx
  domainName : String
  deriving DecidableEq

structure CPUSamplerState where
  sampling : Bool
  cancel : Option Nat

structure Manager where
  store : String → Option CPUSamplerState
  /-- the cancel functions that have been called; `0` is the one of the manager -/
  cancelled : Nat → Bool
  made : Nat
  running : List Sampler

def newManager : Manager := ⟨fun _ => none, fun _ => false, 0, []⟩

def Manager.put (m : Manager) (name : String) (state : Option CPUSamplerState) : Manager :=
  { m with store := Function.update m.store name state }

inductive Step where
  | ensureCPUSampler (ctx : Ctx) (name : String)
  /-- `getCPUUsage` writes the cache entry that it has not found -/
  | fillCache (name : String)
  | sampleCPUUsage (name : String)
  | stopCPUSampler (name : String)
  | exit (sampler : Sampler)
  | stop

section
variable (m : Manager)

def Manager.ensureCPUSampler (ctx : Ctx) (name : String) : Manager :=
  if (m.store name).any CPUSamplerState.sampling then m
  else
    { m.put name (some ⟨true, some (m.made + 1)⟩) with
      made := m.made + 1
      running := ⟨.withCancel (m.made + 1) (.withoutCancel ctx), name⟩ :: m.running }

def Manager.stopCPUSampler (name : String) : Manager :=
  { m.put name none with
    cancelled := fun n => m.cancelled n || (m.store name).bind CPUSamplerState.cancel = some n }

def Manager.exit (sampler : Sampler) : Manager :=
  if sampler.ctx.done m.cancelled then { m with running := m.running.erase sampler } else m

def Manager.step : Step → Manager
  | .ensureCPUSampler ctx name => m.ensureCPUSampler ctx name
  | .fillCache name => m.put name (some ⟨false, (m.store name).bind CPUSamplerState.cancel⟩)
  | .sampleCPUUsage name => m.put name
    ((m.store name).map fun state => { state with sampling := true })
  | .stopCPUSampler name => m.stopCPUSampler name
  | .exit sampler => m.exit sampler
  | .stop => { m with cancelled := fun n => m.cancelled n || n = 0 }

def Manager.domains : List String := m.running.map Sampler.domainName

/-- each sampler will return -/
def Manager.Told : Prop := ∀ s ∈ m.running, s.ctx.done m.cancelled = true

/-- after the step no domain has two samplers, and after `Stop` each of them is told to end -/
def Ends (e : Step) : Prop := (m.step e).domains.Nodup ∧ (e = .stop → (m.step e).Told)

/-- a sampler is made after the others of its domain have ended, and `Stop` comes after the cancel
function of each one was called -/
def Orderly : Step → Prop
  | .ensureCPUSampler _ name => (m.store name).any CPUSamplerState.sampling = true ∨
    name ∉ m.domains
  | .stop => ∀ s ∈ m.running, ∃ cancel parent, s.ctx = .withCancel cancel parent ∧
    m.cancelled cancel = true
  | _ => True

end

/-- each step of the run is as `P` has it, where it is taken -/
def Each (P : Manager → Step → Prop) : Manager → List Step → Prop
  | _, [] => True
  | m, e :: es => P m e ∧ Each P (m.step e) es

/-- the context of a sampler is detached from every other one -/
structure Inv (m : Manager) : Prop where
  detached : ∀ s ∈ m.running, ∃ n parent, s.ctx = .withCancel (n + 1) (.withoutCancel parent)
  single : m.domains.Nodup

variable {m : Manager}

/-- the cancel of the manager reaches no sampler -/
lemma Inv.told_stop (h : Inv m) : (m.step .stop).Told ↔ Orderly m .stop := by
  refine forall₂_congr fun s hs => ?_
  obtain ⟨n, parent, hctx⟩ := h.detached s hs
  rw [hctx]
  simp [Ctx.done, Manager.step]

variable {e : Step}

lemma Inv.step (h : Inv m) (ho : Orderly m e) : Inv (m.step e) := by
  cases e with
  | ensureCPUSampler ctx name =>
    show Inv (m.ensureCPUSampler ctx name)
    unfold Manager.ensureCPUSampler
    split
    · exact h
    · rename_i hs
      have hn : name ∉ m.domains := ho.resolve_left hs
      exact ⟨forall_mem_cons.mpr ⟨⟨_, _, rfl⟩, h.detached⟩, nodup_cons.mpr ⟨hn, h.single⟩⟩
  | exit sampler =>
    show Inv (m.exit sampler)
    unfold Manager.exit
    split
    · exact ⟨fun s hs => h.detached s (mem_of_mem_erase hs), h.single.sublist (erase_sublist.map _)⟩
    · exact h
  | _ => exact ⟨h.detached, h.single⟩

lemma Inv.ends_iff (h : Inv m) : Ends m e ↔ Orderly m e := by
  constructor
  · rintro ⟨hsingle, hstop⟩
    cases e with
    | ensureCPUSampler ctx name =>
      by_cases hs : (m.store name).any CPUSamplerState.sampling = true
      · exact .inl hs
      · have hd : (m.ensureCPUSampler ctx name).domains = name :: m.domains :=
          congrArg Manager.domains (if_neg hs)
        exact .inr (nodup_cons.mp (hd ▸ hsingle)).1
    | stop => exact h.told_stop.mp (hstop rfl)
    | _ => trivial
  · intro ho
    refine ⟨(h.step ho).single, ?_⟩
    rintro rfl
    exact h.told_stop.mpr ho

lemma Inv.each_iff (h : Inv m) (es : List Step) : Each Ends m es ↔ Each Orderly m es := by
  induction es generalizing m with
  | nil => exact Iff.rfl
  | cons e es ih =>
    unfold Each
    rw [h.ends_iff]
    exact and_congr_right fun ho => ih (h.step ho)

/-- **The samplers of a manager end exactly in the orderly runs.** -/
theorem samplers_end_iff (es : List Step) : Each Ends newManager es ↔ Each Orderly newManager es :=
  Inv.each_iff (m := newManager) ⟨fun _ hs => absurd hs not_mem_nil, nodup_nil⟩ es

/-- **A sampler that `Stop` does not end, and two samplers of one domain.** -/
theorem samplers_not_ended : ¬ Each Ends newManager [.ensureCPUSampler .background "d", .stop] ∧
    ¬ Each Ends newManager [.ensureCPUSampler .background "d", .stopCPUSampler "d",
      .ensureCPUSampler .background "d"] := by
  constructor
  · rintro ⟨-, h, -⟩
    exact absurd (h.2 rfl _ mem_cons_self) (by decide)
  · rintro ⟨-, -, h, -⟩
    exact absurd h.1 (by decide)

end VirtueStack.Agent.CPUSamplers
