import VirtueStack.Shared.Json
import Mathlib

/-!
# A failed webhook delivery is sent again (services/webhook.go, repository/webhook_repo.go,
tasks/webhook_deliver.go)

`Retrying` and `Handling` are what `RetryDelivery` and the handler of the task meet. The client
follows no redirects; a request is a call of `client.Do`. By the check of their table the counters
of a delivery are not negative. The delivery that the functions are given is the row with its id.
-/

namespace VirtueStack.Webhook

inductive DeliveryStatus
  | pending
  | delivered
  | failed
  | retrying
  deriving DecidableEq

structure Delivery where
  id : String
  webhookID : String
  status : DeliveryStatus
  attemptCount : Nat
  maxAttempts : Nat
  deriving DecidableEq

structure WebhookDeliveryPayload where
  deliveryID : String
  webhookID : String
  deriving DecidableEq

def WebhookDeliveryPayload.decode (doc : Json) : Except GoError WebhookDeliveryPayload := do
  let members ← doc.members
  return {
    deliveryID := ← stringField ["delivery_id", "webhook_id"] members "delivery_id"
    webhookID := ← stringField ["delivery_id", "webhook_id"] members "webhook_id" }

structure Retrying where
  getDelivery : Except GoError Unit
  reset : Except GoError Unit
  /-- none where the service has no publisher -/
  publish : Option (Except GoError Unit)

def retryTask (d : Delivery) : Json :=
  .obj [("delivery_id", .str d.id), ("webhook_id", .str d.webhookID)]

/-- the delivery, and the payload of the task that is published for it -/
def retryDelivery (e : Retrying) (d : Delivery) : Except GoError (Delivery × Option Json) := do
  e.getDelivery.mapError (.wrap "getting delivery")
  e.reset.mapError (.wrap "resetting delivery")
  (e.publish.getD (.ok ())).mapError (.wrap "publishing retry delivery task")
  return ({ d with status := .pending }, e.publish.map fun _ => retryTask d)

structure Handling where
  getDelivery : Bool
  getWebhook : Bool
  /-- the URL makes a request, and the secret of the webhook can be decrypted -/
  request : Bool
  decrypt : Bool
  /-- the status of the response, and whether its body can be read -/
  response : Option (Nat × Bool)
  update : Bool

/-- the delivery and the number of HTTP requests sent -/
abbrev Handled := Delivery × Nat

def isSuccess (status : Nat) : Bool := 200 ≤ status && status < 300

/-- whether the delivery succeeds, and the number of requests -/
def deliverWebhook (e : Handling) : Bool × Nat :=
  if e.request && e.decrypt then (e.response.any fun r => isSuccess r.1 && r.2, 1) else (false, 0)

def updateDeliveryAttempt (success : Bool) (d : Delivery) : Delivery :=
  { d with
    status := if success then .delivered else if d.maxAttempts ≤ d.attemptCount + 1 then .failed
      else .retrying
    attemptCount := d.attemptCount + 1 }

section
variable (e : Handling)

def executeDeliveryAttempt (d : Delivery) : Handled :=
  (if e.update then updateDeliveryAttempt (deliverWebhook e).1 d else d, (deliverWebhook e).2)

def markDeliveryFailed (d : Delivery) : Delivery :=
  if e.update then { d with status := .failed } else d

/-- the webhook is the one of the delivery, whatever the payload says -/
def deliver (isActive : Bool) (d : Delivery) : Handled :=
  if d.status = .delivered then (d, 0)
  else if d.maxAttempts ≤ d.attemptCount then (markDeliveryFailed e d, 0)
  else if !e.getWebhook then (d, 0)
  else if !isActive then (markDeliveryFailed e d, 0)
  else executeDeliveryAttempt e d

def handleWebhookDeliver (isActive : Bool) (doc : Json) (d : Delivery) : Handled :=
  match WebhookDeliveryPayload.decode doc with
  | .error _ => (d, 0)
  | .ok payload => if e.getDelivery ∧ payload.deliveryID = d.id then
      deliver e isActive d else (d, 0)

/-- one request is sent, and the delivery is delivered if the receiver has answered with success -/
def Sent (h : Handled) : Prop :=
  h.2 = 1 ∧ ∀ r ∈ e.response, isSuccess r.1 = true → h.1.status = .delivered

/-- an attempt is left, the statements before it succeed, there is a request to send, and a success
can be recorded -/
def Sendable (d : Delivery) : Prop :=
  d.attemptCount < d.maxAttempts ∧ e.getDelivery = true ∧ e.getWebhook = true ∧ e.request = true ∧
    e.decrypt = true ∧ ∀ r ∈ e.response, isSuccess r.1 = true → r.2 = true ∧ e.update = true

end

lemma mapError_bind_eq_ok {β : Type} {x : Except GoError Unit} {w : GoError → GoError}
    {k : Unit → Except GoError β} {b : β} (h : (x.mapError w >>= k) = .ok b) : k () = .ok b := by
  cases x with
  | error e => cases h
  | ok _ => exact h

lemma retryDelivery_ok {r : Retrying} {d d' : Delivery} {doc : Json}
    (h : retryDelivery r d = .ok (d', some doc)) :
    d' = { d with status := .pending } ∧ doc = retryTask d := by
  have h1 := mapError_bind_eq_ok (mapError_bind_eq_ok (mapError_bind_eq_ok h))
  obtain ⟨hd, hdoc⟩ := Prod.mk.inj (Except.ok.inj h1)
  obtain ⟨_, -, htask⟩ := Option.map_eq_some_iff.mp hdoc
  exact ⟨hd.symm, htask.symm⟩

lemma decode_retryTask (d : Delivery) :
    WebhookDeliveryPayload.decode (retryTask d) = .ok ⟨d.id, d.webhookID⟩ := rfl

lemma updateDeliveryAttempt_status {success : Bool} {d : Delivery} :
    (updateDeliveryAttempt success d).status = .delivered ↔ success = true := by
  unfold updateDeliveryAttempt
  cases success with
  | true => simp
  | false => by_cases hmax : d.maxAttempts ≤ d.attemptCount + 1 <;> simp [hmax]

lemma sent_execute {e : Handling} {d : Delivery} (hd : d.status ≠ .delivered) :
    Sent e (executeDeliveryAttempt e d) ↔ e.request = true ∧ e.decrypt = true ∧
      ∀ r ∈ e.response, isSuccess r.1 = true → r.2 = true ∧ e.update = true := by
  unfold Sent executeDeliveryAttempt deliverWebhook
  by_cases hreq : (e.request && e.decrypt) = true
  · obtain ⟨hr, hc⟩ := Bool.and_eq_true_iff.mp hreq
    rw [if_pos hreq]
    simp only [hr, hc, true_and]
    refine forall₂_congr fun r hresp => forall_congr' fun hs => ?_
    cases hu : e.update with
    | false => simp [hd]
    | true => simp [updateDeliveryAttempt_status, Option.mem_def.mp hresp, hs]
  · rw [if_neg hreq]
    exact ⟨fun h => absurd h.1 Nat.zero_ne_one, fun h =>
      absurd (Bool.and_eq_true_iff.mpr ⟨h.1, h.2.1⟩) hreq⟩

lemma sent_iff (e : Handling) (d : Delivery) :
    Sent e (handleWebhookDeliver e true (retryTask d) { d with status := .pending }) ↔
      Sendable e d := by
  unfold Sendable handleWebhookDeliver deliver
  rw [decode_retryTask]
  by_cases hget : e.getDelivery = true
  · by_cases hmax : d.maxAttempts ≤ d.attemptCount
    · simp [Sent, hget, hmax, Nat.not_lt.mpr hmax]
    · by_cases hweb : e.getWebhook = true
      · simp [hget, hmax, hweb, sent_execute, Nat.lt_of_not_le hmax]
      · simp [Sent, hget, hmax, hweb]
  · simp [Sent, hget]

/-- **A retry sends the delivery** exactly if an attempt is left, and nothing else is in the way. -/
theorem retryDelivery_sends_iff (r : Retrying) (e : Handling) (d : Delivery) :
    (∀ d' doc, retryDelivery r d = .ok (d', some doc) →
      Sent e (handleWebhookDeliver e true doc d')) ↔
      ∀ d' doc, retryDelivery r d = .ok (d', some doc) → Sendable e d := by
  refine forall₃_congr fun d' doc hr => ?_
  obtain ⟨rfl, rfl⟩ := retryDelivery_ok hr
  exact sent_iff e d

/-- all attempts are used up -/
def usedUp : Delivery := ⟨"d", "w", .failed, 5, 5⟩

theorem retryDelivery_sends_nothing : retryDelivery ⟨.ok (), .ok (), some (.ok ())⟩ usedUp =
      .ok ({ usedUp with status := .pending }, some (retryTask usedUp)) ∧
    handleWebhookDeliver ⟨true, true, true, true, some (200, true), true⟩ true (retryTask usedUp)
      { usedUp with status := .pending } = (usedUp, 0) :=
  ⟨rfl, rfl⟩

end VirtueStack.Webhook
