import CloudStudio.Platform.Database

/-!
# The job queue and the outgoing webhooks

`IiiQueueService.enqueue` and `WebhookEndpointsService.dispatch`.  Every
dispatch is also noted in `World.dispatched`.
-/

namespace CloudStudio.Platform

open CloudStudio.Transactions

/-- `maxAttempts` of the queue a job goes to. -/
def JobPayload.maxAttempts : JobPayload → ℕ
  | .webhookDeliver _ => 6
  | .payoutProcess _ | .batchProcess _ _ | .smsSend _ => 5

/-- The payouts a job is to create at the provider. -/
def JobPayload.payouts : JobPayload → List Reference
  | .payoutProcess payoutId => [payoutId]
  | .batchProcess _ payoutIds => payoutIds
  | .webhookDeliver _ | .smsSend _ => []

/-- The messages a job is to send. -/
def JobPayload.messages : JobPayload → List Reference
  | .smsSend smsId => [smsId]
  | .payoutProcess _ | .batchProcess _ _ | .webhookDeliver _ => []

/-- Puts a job in its queue, due now. -/
def enqueue (site : Site) (now : Time) (payload : JobPayload) : Db ℕ :=
  Program.perform
    (createJob site { payload, maxAttempts := payload.maxAttempts
                      runAt := now })

/-- The active endpoints of the account that subscribe to the event. -/
def World.subscribers (world : World) (event : WebhookEvent)
    (accountId : AccountId) : List WebhookEndpoint :=
  world.endpoints.rows.filter fun endpoint =>
    endpoint.accountId = accountId ∧ endpoint.isActive ∧ event ∈ endpoint.events

def findSubscribers (notice : Dispatched) :
    Statement (List WebhookEndpoint) where
  label := "webhook.endpoints"
  answer := fun world => .ok (world.subscribers notice.event notice.accountId)
  effect := fun _ world =>
    { world with dispatched := world.dispatched ++ [notice] }

/-- A delivery row and its job for one endpoint. -/
def deliverTo (now : Time) (notice : Dispatched) (endpoint : WebhookEndpoint) :
    Db Unit := do
  let delivery ← Program.perform (createDelivery "webhook.delivery"
    { endpointId := endpoint.id, event := notice.event
      reference := notice.reference })
  Program.discard (enqueue "webhook.enqueue" now (.webhookDeliver delivery))

/-- Fans an event out to every active subscribed endpoint of the account. -/
def dispatch (now : Time) (notice : Dispatched) : Db ℕ := do
  let endpoints ← Program.perform (findSubscribers notice)
  Program.forEach endpoints (deliverTo now notice)
  pure endpoints.length

end CloudStudio.Platform
