import VirtueStack.Shared.Format
import VirtueStack.Billing.TransactionRepo

/-!
# Hourly billing (services/billing_scheduler.go)

A cycle charges every billable VM for the current hour: debit the ledger, then record the
checkpoint, in two transactions. An error of one VM is logged and the next one is charged; what is
only logged (the counters, low balances) is left out. `TryAdvisoryLock` answers what it likes:
nothing below relies on it.
-/

namespace VirtueStack.Billing
open Txn Call Op

/-! ## checkpoints (repository/billing_checkpoint_repo.go) and plans -/

def existsForHour (vmID : String) (chargeHour : Int) : Op Bool :=
  query (.checkpointExists vmID chargeHour) "check billing checkpoint"

def recordCheckpoint (vmID : String) (chargeHour : Int) (amount : Int64)
    (transactionID : Option String) : Op Unit :=
  query (.insertCheckpoint ⟨vmID, chargeHour, amount, transactionID⟩) "record billing checkpoint"

def planByID (id : String) : Op Plan :=
  let context := "getting plan " ++ id
  scanRow context (query (.plan id) context)

/-! ## the ledger service (services/billing_ledger_service.go) -/

def ledgerDebitAccount (customerID : String) (amount : Int64) (description : String)
    (referenceType referenceID idempotencyKey : Option String) : Op BillingTransaction :=
  if amount ≤ 0 then fail (.invalid "amount" "must be positive")
  else wrapping ("debit account " ++ customerID)
    (debitAccount customerID amount description referenceType referenceID idempotencyKey)

def ledgerGetBalance (customerID : String) : Op Int64 :=
  wrapping ("get balance " ++ customerID) (getBalance customerID)

/-! ## a cycle -/

def hourlyKey (vmID : String) (chargeHour : Int) : String :=
  "hourly:" ++ vmID ++ ":" ++ hourText chargeHour

/-- was the VM charged? -/
def chargeVM (vm : VM) (chargeHour : Int) : Op Bool := do
  if ← wrapping "check checkpoint" (existsForHour vm.id chargeHour) then return false
  else if vm.status ≠ .running ∧ vm.status ≠ .stopped then return false
  else do
    let plan ← wrapping ("get plan " ++ vm.planID) (planByID vm.planID)
    let amount := plan.effectiveHourlyRate vm.status
    if amount = 0 then return false
    else do
      let bt ← wrapping "debit account" (ledgerDebitAccount vm.customerID amount
        ("Hourly charge: " ++ vm.hostname ++ " (" ++ plan.name ++ ")") (some refTypeVMUsage)
        (some vm.id) (some (hourlyKey vm.id chargeHour)))
      wrapping "record checkpoint" (recordCheckpoint vm.id chargeHour amount (some bt.id))
      return true

def chargeVMs (chargeHour : Int) : List VM → Op Unit
  | [] => return ()
  | vm :: vms => attempt (chargeVM vm chargeHour) fun _ => chargeVMs chargeHour vms

/-- each customer once -/
def checkLowBalances (checked : List String) : List VM → Op Unit
  | [] => return ()
  | vm :: vms =>
    if vm.customerID ∈ checked then checkLowBalances checked vms
    else attempt (ledgerGetBalance vm.customerID) fun _ =>
      checkLowBalances (vm.customerID :: checked) vms

/-- `now.UTC().Truncate(time.Hour)` -/
def truncateHour (now : Int) : Int := now / usPerHour * usPerHour

def billingCycle : Op Unit := do
  let chargeHour := truncateHour (← query .timeNow "time")
  attempt (query .billableVMs "listing billable VMs") fun
    | .error _ => .pure ()
    | .ok vms => do
      chargeVMs chargeHour vms
      checkLowBalances [] vms

/-- the lock is given back in any case -/
def runBillingCycle : Op Unit :=
  attempt (query .tryAdvisoryLock "try advisory lock") fun
    | .ok true => attempt billingCycle fun _ =>
      attempt (query .releaseAdvisoryLock "release advisory lock") fun _ => .pure ()
    | _ => .pure ()

end VirtueStack.Billing
