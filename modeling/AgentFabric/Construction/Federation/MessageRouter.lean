import AgentFabric.Construction.Events.EventStore
import AgentFabric.Construction.Federation.TrustAgreement
import AgentFabric.Foundation.JsonText
import AgentFabric.Foundation.PyValue

namespace AgentFabric.Events

/-- The durable backends write without `default=str`.
A copied object reads as its text wherever it is written again. -/
def Encoding.encode : Encoding → PyValue → Except PyError Json
  | .copy, value => .ok value.defaultStr
  | .text, value =>
      match value.json? with
      | none => .error (.typeError "Object is not JSON serializable")
      | some document => .ok document

end AgentFabric.Events

namespace AgentFabric.Federation
open PyValue

/-- A signed message between two organizations. The keys of nested dicts are texts. -/
structure FederatedMessage where
  sourceOrgId : String
  sourceTenantId : String
  destinationOrgId : String
  destinationTenantId : String
  sourceAgentId : String
  destinationAgentId : String
  trustAgreementId : String
  payload : List (String × PyValue)
  veilReference : String
  signature : String
  messageId : String
  correlationId : String
  nonce : String
  timestamp : DateTime
  ttlSeconds : Int
  messageType : String

/-- The values that `from_dict` draws for missing fields. -/
structure MessageDraw where
  correlationId : String
  nonce : String
  now : UtcTime

namespace FederatedMessage

variable (message : FederatedMessage)

/-- The fifteen fields that the signature covers. -/
def signingPayload : List (String × PyValue) := [
  ("message_id", .str message.messageId),
  ("source_org_id", .str message.sourceOrgId),
  ("source_tenant_id", .str message.sourceTenantId),
  ("destination_org_id", .str message.destinationOrgId),
  ("destination_tenant_id", .str message.destinationTenantId),
  ("source_agent_id", .str message.sourceAgentId),
  ("destination_agent_id", .str message.destinationAgentId),
  ("trust_agreement_id", .str message.trustAgreementId),
  ("payload", .obj message.payload),
  ("veil_reference", .str message.veilReference),
  ("correlation_id", .str message.correlationId),
  ("nonce", .str message.nonce),
  ("timestamp", .str message.timestamp.isoformat),
  ("ttl_seconds", .int message.ttlSeconds),
  ("message_type", .str message.messageType)]

def asDict : List (String × PyValue) :=
  message.signingPayload ++ [("signature", .str message.signature)]

/-- The last moment of a message, where the sum may leave the years 1 to 9999. -/
def deadline? : Option DateTime :=
  (message.timestamp.wall.add? (message.ttlSeconds * 1000000)).map fun wall =>
    ⟨wall, message.timestamp.offset⟩

def expired (now : UtcTime) : Except PyError Bool :=
  match message.deadline? with
  | none => .error (.overflowError "date value out of range")
  | some deadline =>
      match now.toDateTime.later? deadline with
      | none => .error (.typeError "can't compare offset-naive and offset-aware datetimes")
      | some late => .ok late

variable (sha256 : String → String)

def sign (payload : List (String × PyValue)) (secret : String) : String :=
  sha256 ((Json.obj (defaultStrFields payload)).dumps ++ secret)

def verify (message : FederatedMessage) (secret : String) : Bool :=
  message.signature = sign sha256 message.signingPayload secret

/-- The time of a message, which an empty or missing text replaces by the clock. -/
def timestampField (now : UtcTime) (value : List (String × PyValue)) : Option DateTime :=
  match lookup value "timestamp" with
  | none => some now.toDateTime
  | some .null => some now.toDateTime
  | some (.str text) =>
      if text = "" then some now.toDateTime else DateTime.fromisoformat text
  | some _ => none

variable (draw : MessageDraw)

/-- The message of a dictionary whose fields have their own types. -/
def fromDict (value : List (String × PyValue)) : Option FederatedMessage := do
  let messageId ← textField value "message_id" none
  let sourceOrgId ← textField value "source_org_id" none
  let sourceTenantId ← textField value "source_tenant_id" none
  let destinationOrgId ← textField value "destination_org_id" none
  let destinationTenantId ← textField value "destination_tenant_id" none
  let sourceAgentId ← textField value "source_agent_id" none
  let destinationAgentId ← textField value "destination_agent_id" none
  let trustAgreementId ← textField value "trust_agreement_id" none
  let payload ← objectField value "payload"
  let veilReference ← textField value "veil_reference" (some "")
  let signature ← textField value "signature" (some "")
  let correlationId ← textField value "correlation_id" (some draw.correlationId)
  let nonce ← textField value "nonce" (some draw.nonce)
  let timestamp ← timestampField draw.now value
  let ttlSeconds ← intField value "ttl_seconds" 300
  let messageType ← textField value "message_type" (some "request")
  some {
    sourceOrgId, sourceTenantId, destinationOrgId, destinationTenantId, sourceAgentId,
    destinationAgentId, trustAgreementId, payload, veilReference, signature, messageId,
    correlationId, nonce, timestamp, ttlSeconds, messageType }

/-- The signature of a message with an empty one is put into its dictionary. -/
def create (signingSecret : String) (unsigned : FederatedMessage) : Option FederatedMessage :=
  fromDict draw (unsigned.signingPayload ++
    [("signature", .str (sign sha256 unsigned.signingPayload signingSecret))])

end FederatedMessage

open Cloud Events

/-- The receipt of a message. -/
structure FederatedReceipt where
  messageId : String
  tenantId : String
  status : String
  reason : String
  receiptId : String
  createdAt : UtcTime

/-- The row of an accepted nonce. -/
structure NonceRow where
  tenantId : String
  nonce : String
  messageId : String

/-- The collections of the messages and the event log. -/
structure RouterState where
  messages : Dict String FederatedMessage
  nonces : Dict String NonceRow
  receipts : Dict String FederatedReceipt
  events : List EventAppend

/-- The hash of the signatures and the encoding of the persistence. -/
structure RouterSettings where
  sha256 : String → String
  encoding : Encoding

/-- The arguments of a call with the clock readings, the policy service and the id that it uses. -/
structure Delivery where
  message : FederatedMessage
  agreement : TrustAgreement
  signingSecret : String
  activeAt : UtcTime
  expiredAt : UtcTime
  checkPolicy : PolicyCheckRequest → Except PyError PolicyCheckResponse
  receiptId : String
  createdAt : UtcTime

namespace RouterState

variable (settings : RouterSettings) (router : RouterState)

def append (eventType aggregateId : String) (payload : List (String × PyValue)) : RouterState :=
  { router with
    events := router.events ++ [⟨eventType, aggregateId, .obj (defaultStrFields payload)⟩] }

variable (message : FederatedMessage)

/-- A refusal that leaves an event. -/
def refuse {Value : Type}
    (eventType reason : String) (exception : PyError) : Except PyError Value × RouterState :=
  (.error exception, router.append eventType message.messageId [
    ("tenant_id", .str message.sourceTenantId), ("reason", .str reason)])

/-- The request that the policy service decides. -/
def policyRequest : PolicyCheckRequest where
  agentId := .str message.sourceAgentId
  action := "federation.message"
  payload := .obj (defaultStrFields message.asDict)

/-- The answer of the policy service ends the validation. -/
def checkAnswer : Except PyError PolicyCheckResponse → Except PyError Unit × RouterState
  | .error exception => (.error exception, router)
  | .ok response =>
      if response.allowed then (.ok (), router)
      else router.refuse message "federation.message.rejected" response.reason
        (.authorizationError (if response.reason = "" then "VEIL policy denied federated message"
          else response.reason))

variable (delivery : Delivery)

/-- The checks of the message itself, after its time. -/
def validateContent : Except PyError Unit × RouterState :=
  let message := delivery.message
  if (router.nonces.get? message.nonce).isSome then
    router.refuse message "federation.message.rejected" "replay detected"
      (.validationError "replayed message rejected")
  else if message.signature = "" ∨ message.verify settings.sha256 delivery.signingSecret = false then
    router.refuse message "federation.remote_key.rejected" "bad signature"
      (.authorizationError "invalid federated message signature")
  else if message.payload.any fun field => sensitiveKey field.1 then
    (.error (.validationError "raw sensitive federated payload values are not allowed"), router)
  else router.checkAnswer message (delivery.checkPolicy (policyRequest message))

def validate : Except PyError Unit × RouterState :=
  match delivery.agreement.isActive delivery.activeAt with
  | .error exception => (.error exception, router)
  | .ok false => (.error (.authorizationError "active trust agreement is required"), router)
  | .ok true =>
      match delivery.message.expired delivery.expiredAt with
      | .error exception => (.error exception, router)
      | .ok true => router.refuse delivery.message "federation.message.rejected" "message expired"
          (.validationError "message expired")
      | .ok false => router.validateContent settings delivery

/-- The durable backends refuse a message with values that JSON cannot write. -/
def putMessage : Except PyError RouterState :=
  match settings.encoding.encode (.obj message.asDict) with
  | .error exception => .error exception
  | .ok _ => .ok { router with messages := router.messages.set message.messageId message }

def putNonce (tenantId : String) (message : FederatedMessage) : RouterState :=
  { router with
    nonces := router.nonces.set message.nonce ⟨tenantId, message.nonce, message.messageId⟩ }

def putReceipt (receipt : FederatedReceipt) : RouterState :=
  { router with receipts := router.receipts.set receipt.receiptId receipt }

/-- The receipt that a delivery draws. -/
def newReceipt (tenantId status : String) : FederatedReceipt where
  messageId := delivery.message.messageId
  tenantId := tenantId
  status := status
  reason := ""
  receiptId := delivery.receiptId
  createdAt := delivery.createdAt

def send : Except PyError FederatedReceipt × RouterState :=
  match router.validate settings delivery with
  | (.error exception, refused) => (.error exception, refused)
  | (.ok _, validated) =>
      let message := delivery.message
      match validated.putMessage settings message with
      | .error exception => (.error exception, validated)
      | .ok stored =>
          let receipt := newReceipt delivery message.sourceTenantId "accepted"
          let announced := (stored.putNonce message.sourceTenantId message).append
            "federation.message.sent" message.messageId (("tenant_id", .str message.sourceTenantId) ::
              ("organization_id", .str message.sourceOrgId) :: message.asDict)
          (.ok receipt, announced.putReceipt receipt)

def receive : Except PyError FederatedReceipt × RouterState :=
  match router.validate settings delivery with
  | (.error exception, refused) => (.error exception, refused)
  | (.ok _, validated) =>
      let message := delivery.message
      match validated.putMessage settings message with
      | .error exception => (.error exception, validated)
      | .ok stored =>
          let receipt := newReceipt delivery message.destinationTenantId "received"
          let kept := (stored.putReceipt receipt).putNonce message.destinationTenantId message
          (.ok receipt, kept.append "federation.message.received" message.messageId
            (("tenant_id", .str message.destinationTenantId) ::
              ("organization_id", .str message.destinationOrgId) :: message.asDict))

end RouterState

/-- A call of the router. -/
inductive RouterCall where
  | send (delivery : Delivery)
  | receive (delivery : Delivery)

def RouterCall.delivery : RouterCall → Delivery
  | .send delivery => delivery
  | .receive delivery => delivery

def RouterState.step (settings : RouterSettings) (router : RouterState) :
    RouterCall → Except PyError FederatedReceipt × RouterState
  | .send delivery => router.send settings delivery
  | .receive delivery => router.receive settings delivery

end AgentFabric.Federation
