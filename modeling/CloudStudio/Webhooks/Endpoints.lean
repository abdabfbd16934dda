import CloudStudio.Platform.Reference

/-!
# The endpoints of an account

`WebhookEndpointsService.create`, `.update` and `.remove`.  An endpoint is
looked up under its account and then written by its id alone.
-/

namespace CloudStudio.Webhooks

open CloudStudio.Data CloudStudio.Transactions CloudStudio.Platform

abbrev endpointNotFound : AppError :=
  .missing .notFound "Webhook endpoint not found"

structure CreateEndpointDto where
  url : String
  events : List WebhookEvent

/-- `id` is the new row's; an account has at most five endpoints. -/
def create (id : String) (accountId : AccountId) (dto : CreateEndpointDto) :
    Db WebhookEndpoint := do
  let existing ← Program.perform (select "endpoint.findMany" fun world =>
    world.endpoints.rows.filter fun endpoint => endpoint.accountId = accountId)
  if 5 ≤ existing.length then
    .threw (.forbidden .conflict "At most 5 webhook endpoints per account")
  else
    Program.perform (endpoints.create "endpoint.create"
      { id, accountId, url := dto.url, events := dto.events })

/-- The endpoint with this id, if it is the account's. -/
def findEndpoint (accountId : AccountId) (endpointId : String) :
    Statement (Option WebhookEndpoint) :=
  select "endpoint.findFirst" fun world =>
    world.endpoints.rows.find? fun endpoint =>
      endpoint.id = endpointId ∧ endpoint.accountId = accountId

structure UpdateEndpointDto where
  url : Option String := none
  events : Option (List WebhookEvent) := none

/-- A url that is absent or empty, and events that are absent, stay as they
are. -/
def updatedEndpoint (dto : UpdateEndpointDto) (endpoint : WebhookEndpoint) :
    WebhookEndpoint :=
  { endpoint with
    url := (nonEmpty dto.url).getD endpoint.url
    events := dto.events.getD endpoint.events }

theorem updatedEndpoint_id (dto : UpdateEndpointDto)
    (endpoint : WebhookEndpoint) :
    (updatedEndpoint dto endpoint).id = endpoint.id := rfl

def update (accountId : AccountId) (endpointId : String)
    (dto : UpdateEndpointDto) :
    Db WebhookEndpoint := do
  let endpoint ← Program.perform (findEndpoint accountId endpointId)
  match endpoint with
  | none => .threw endpointNotFound
  | some _ =>
      Program.perform
        (endpoints.update "endpoint.update" endpointId (updatedEndpoint dto)
        (updatedEndpoint_id dto))

def remove (accountId : AccountId) (endpointId : String) : Db Unit := do
  let endpoint ← Program.perform (findEndpoint accountId endpointId)
  match endpoint with
  | none => .threw endpointNotFound
  | some _ => Program.perform (endpoints.delete "endpoint.delete" endpointId)

end CloudStudio.Webhooks
