import AgentFabric.Construction.Federation.MessageRouter

namespace AgentFabric.Federation
open PyValue FederatedMessage

/-- A way of a message through a dictionary: a copy in memory, or a JSON text that is read back. -/
inductive RoundTrip where
  | copy (draw : MessageDraw)
  | reload (draw : MessageDraw)

def RoundTrip.apply : RoundTrip → FederatedMessage → Option FederatedMessage
  | .copy draw, message => fromDict draw message.asDict
  | .reload draw, message => fromDict draw (reloadFields message.asDict)

namespace FederatedMessage

variable {sha256 : String → String}

/-- The message after several round trips. -/
def travel (message : FederatedMessage) (trips : List RoundTrip) : Option FederatedMessage :=
  trips.foldlM (fun message trip => trip.apply message) message

section RoundTrips

variable (draw : MessageDraw)

/-- A dictionary with the fields of a message gives the message. -/
theorem fromDict_of_fields {value : List (String × PyValue)}
    {message : FederatedMessage}
    (texts : ∀ key text, (key, PyValue.str text) ∈ message.asDict →
      lookup value key = some (.str text))
    (payload : lookup value "payload" = some (.obj message.payload))
    (ttl : lookup value "ttl_seconds" = some (.int message.ttlSeconds)) :
    fromDict draw value = some message := by
  have text (key text : String) (listed : (key, PyValue.str text) ∈ message.asDict)
      (default : Option String) : textField value key default = some text := by
    rw [textField, texts key text listed]
  have timestamp : timestampField draw.now value = some message.timestamp := by
    rw [timestampField, texts "timestamp" message.timestamp.isoformat (by
      simp [asDict, signingPayload])]
    show (if message.timestamp.isoformat = "" then _ else _) = _
    rw [if_neg (DateTime.isoformat_ne_empty _), DateTime.fromisoformat_isoformat]
  have payloadField : objectField value "payload" = some message.payload := by
    rw [objectField, payload]
  have ttlField : intField value "ttl_seconds" 300 = some message.ttlSeconds := by
    rw [intField, ttl]
  unfold fromDict
  rw [text "message_id" message.messageId (by simp [asDict, signingPayload]),
    text "source_org_id" message.sourceOrgId (by simp [asDict, signingPayload]),
    text "source_tenant_id" message.sourceTenantId (by simp [asDict, signingPayload]),
    text "destination_org_id" message.destinationOrgId (by simp [asDict, signingPayload]),
    text "destination_tenant_id" message.destinationTenantId (by simp [asDict, signingPayload]),
    text "source_agent_id" message.sourceAgentId (by simp [asDict, signingPayload]),
    text "destination_agent_id" message.destinationAgentId (by simp [asDict, signingPayload]),
    text "trust_agreement_id" message.trustAgreementId (by simp [asDict, signingPayload]),
    text "veil_reference" message.veilReference (by simp [asDict, signingPayload]),
    text "signature" message.signature (by simp [asDict, signingPayload]),
    text "correlation_id" message.correlationId (by simp [asDict, signingPayload]),
    text "nonce" message.nonce (by simp [asDict, signingPayload]),
    text "message_type" message.messageType (by simp [asDict, signingPayload]),
    timestamp, payloadField, ttlField]
  rfl

/-- The keys of a message are distinct, so each entry answers its key. -/
theorem lookup_asDict {message : FederatedMessage} {key : String} {value : PyValue}
    (listed : (key, value) ∈ message.asDict) : lookup message.asDict key = some value := by
  have distinct : (message.asDict.map Prod.fst).Nodup := by
    show ["message_id", "source_org_id", "source_tenant_id", "destination_org_id",
      "destination_tenant_id", "source_agent_id", "destination_agent_id", "trust_agreement_id",
      "payload", "veil_reference", "correlation_id", "nonce", "timestamp", "ttl_seconds",
      "message_type", "signature"].Nodup
    decide
  exact ((⟨message.asDict, distinct⟩ : Dict String PyValue).get?_eq_some_iff key value).mpr listed

variable (message : FederatedMessage)

theorem fromDict_asDict : fromDict draw message.asDict = some message :=
  fromDict_of_fields draw (fun _ _ listed => lookup_asDict listed)
    (lookup_asDict (by simp [asDict, signingPayload]))
    (lookup_asDict (by simp [asDict, signingPayload]))

/-- The message whose payload was read back from its text. -/
def reloaded : FederatedMessage :=
  { message with payload := reloadFields message.payload }

theorem fromDict_reload : fromDict draw (reloadFields message.asDict) = some message.reloaded := by
  have entry {key : String} {value : PyValue} (listed : (key, value) ∈ message.asDict) :
      lookup (reloadFields message.asDict) key = some (ofJson value.defaultStr.sortKeys) := by
    rw [lookup_reloadFields, lookup_asDict listed]
    rfl
  refine fromDict_of_fields draw ?_ ?_ ?_
  · intro key text listed
    have own : (key, PyValue.str text) ∈ message.asDict := by
      simpa [asDict, signingPayload, reloaded] using listed
    simpa only [defaultStr, Json.sortKeys, ofJson] using entry own
  · have own : ("payload", PyValue.obj message.payload) ∈ message.asDict := by
      simp [asDict, signingPayload]
    rw [entry own, defaultStr, Json.sortKeys_obj, ofJson]
    rfl
  · have own : ("ttl_seconds", PyValue.int message.ttlSeconds) ∈ message.asDict := by
      simp [asDict, signingPayload]
    rw [entry own, defaultStr, Json.sortKeys, ofJson]
    rfl

/-- A reloaded payload signs as before. -/
theorem sign_reloaded (secret : String) :
    sign sha256 message.reloaded.signingPayload secret =
      sign sha256 message.signingPayload secret := by
  have payload : (Json.obj (defaultStrFields (reloadFields message.payload))).sortKeys =
      (Json.obj (defaultStrFields message.payload)).sortKeys := reloadFields_same message.payload
  have same : (Json.obj (defaultStrFields message.reloaded.signingPayload)).Same
      (.obj (defaultStrFields message.signingPayload)) := by
    rw [Json.Same]
    simp only [signingPayload, reloaded, defaultStrFields, defaultStr, Json.sortKeys_obj,
      Json.sortObject, Json.sortFields]
    rw [← Json.sortObject, ← Json.sortObject, ← Json.sortKeys_obj, ← Json.sortKeys_obj, payload]
  rw [sign, sign, Json.dumps_eq_of_same same]

/-- A round trip keeps the verification of a message. -/
theorem apply_verify (sha256 : String → String) (trip : RoundTrip) (message : FederatedMessage)
    (secret : String) :
    ∃ arrived, trip.apply message = some arrived ∧
      arrived.verify sha256 secret = message.verify sha256 secret := by
  cases trip with
  | copy draw => exact ⟨message, fromDict_asDict draw message, rfl⟩
  | reload draw =>
      refine ⟨message.reloaded, fromDict_reload draw message, ?_⟩
      rw [verify, verify, sign_reloaded]
      rfl

/-- Every way of a message returns it with its verification. -/
theorem travel_verify (sha256 : String → String) (trips : List RoundTrip)
    (message : FederatedMessage) (secret : String) :
    ∃ arrived, message.travel trips = some arrived ∧
      arrived.verify sha256 secret = message.verify sha256 secret := by
  induction trips generalizing message with
  | nil => exact ⟨message, rfl, rfl⟩
  | cons trip rest ih =>
      obtain ⟨middle, applied, middleVerify⟩ := apply_verify sha256 trip message secret
      obtain ⟨arrived, travelled, verified⟩ := ih middle
      refine ⟨arrived, ?_, verified.trans middleVerify⟩
      rw [travel, List.foldlM_cons, applied]
      exact travelled

/-- The message with the signature of a secret. -/
def signed (sha256 : String → String) (secret : String) (message : FederatedMessage) :
    FederatedMessage :=
  { message with signature := sign sha256 message.signingPayload secret }

theorem signed_verify (sha256 : String → String) (secret : String) (message : FederatedMessage) :
    (signed sha256 secret message).verify sha256 secret = true := decide_eq_true rfl

/-- A created message verifies under its secret. -/
theorem create_verify (sha256 : String → String) (draw : MessageDraw) (signingSecret : String)
    (unsigned : FederatedMessage) :
    ∃ created, create sha256 draw signingSecret unsigned = some created ∧
      created.verify sha256 signingSecret = true :=
  ⟨signed sha256 signingSecret unsigned,
    fromDict_asDict draw (signed sha256 signingSecret unsigned),
    signed_verify sha256 signingSecret unsigned⟩

end RoundTrips

section Signatures

/-- The signed fields of two messages are equal, with the payloads as one document. -/
def SignedAlike (first second : FederatedMessage) : Prop :=
  first = { second with payload := first.payload, signature := first.signature } ∧
    (Json.obj (defaultStrFields first.payload)).Same (.obj (defaultStrFields second.payload))

/-- Documents that are the same have the same sorted value under each signed key. -/
theorem lookup_of_same {first second : List (String × PyValue)}
    (same : (Json.obj (defaultStrFields first)).Same (.obj (defaultStrFields second)))
    (key : String) :
    (lookup first key).map (fun value => value.defaultStr.sortKeys) =
      (lookup second key).map fun value => value.defaultStr.sortKeys := by
  have fields := congrArg (fun document => Json.field? document key) same
  simp only [Json.field?_sortKeys, field?_defaultStrFields, Option.map_map] at fields
  exact fields

variable {first second : FederatedMessage}

theorem signedAlike_of_same
    (same : (Json.obj (defaultStrFields first.signingPayload)).Same
      (.obj (defaultStrFields second.signingPayload))) : SignedAlike first second := by
  have texts (key : String) (one two : String)
      (left : lookup first.signingPayload key = some (.str one))
      (right : lookup second.signingPayload key = some (.str two)) : one = two := by
    have found := lookup_of_same same key
    rw [left, right] at found
    simpa [defaultStr, Json.sortKeys] using found
  have times : first.timestamp.isoformat = second.timestamp.isoformat :=
    texts "timestamp" _ _ rfl rfl
  have timestamp : first.timestamp = second.timestamp := by
    have read := congrArg DateTime.fromisoformat times
    rw [DateTime.fromisoformat_isoformat, DateTime.fromisoformat_isoformat] at read
    exact Option.some.inj read
  have ttl : first.ttlSeconds = second.ttlSeconds := by
    have found := lookup_of_same same "ttl_seconds"
    simpa [signingPayload, lookup, defaultStr, Json.sortKeys] using found
  have payload : (Json.obj (defaultStrFields first.payload)).sortKeys =
      (Json.obj (defaultStrFields second.payload)).sortKeys := by
    have found := lookup_of_same same "payload"
    simpa [signingPayload, lookup, defaultStr] using found
  refine ⟨?_, payload⟩
  have sourceOrg := texts "source_org_id" _ _ rfl rfl
  have sourceTenant := texts "source_tenant_id" _ _ rfl rfl
  have destinationOrg := texts "destination_org_id" _ _ rfl rfl
  have destinationTenant := texts "destination_tenant_id" _ _ rfl rfl
  have sourceAgent := texts "source_agent_id" _ _ rfl rfl
  have destinationAgent := texts "destination_agent_id" _ _ rfl rfl
  have agreement := texts "trust_agreement_id" _ _ rfl rfl
  have reference := texts "veil_reference" _ _ rfl rfl
  have messageId := texts "message_id" _ _ rfl rfl
  have correlation := texts "correlation_id" _ _ rfl rfl
  have nonce := texts "nonce" _ _ rfl rfl
  have messageType := texts "message_type" _ _ rfl rfl
  rw [← sourceOrg, ← sourceTenant, ← destinationOrg, ← destinationTenant, ← sourceAgent,
    ← destinationAgent, ← agreement, ← reference, ← messageId, ← correlation, ← nonce, ← timestamp,
    ← ttl, ← messageType]

/-- Messages that verify under one secret with one signature are signed alike. -/
theorem signedAlike_of_signature (injective : Function.Injective sha256) {secret : String}
    (firstVerified : first.verify sha256 secret = true)
    (secondVerified : second.verify sha256 secret = true)
    (same : first.signature = second.signature) : SignedAlike first second := by
  rw [of_decide_eq_true firstVerified, of_decide_eq_true secondVerified, sign, sign] at same
  have texts := congrArg String.toList (injective same)
  rw [String.toList_append, String.toList_append] at texts
  exact signedAlike_of_same (Json.same_of_dumps_eq
    (String.toList_inj.mp (List.append_cancel_right texts)))

end Signatures

end FederatedMessage

open Transition FederatedMessage

/-- The clock has not passed the time of a message and its seconds to live. -/
def FederatedMessage.Timely (message : FederatedMessage) (now : UtcTime) : Prop :=
  message.timestamp.offset.isSome ∧
    now.toDateTime.instant ≤ message.timestamp.instant + message.ttlSeconds * 1000000

theorem add?_instant {timestamp : DateTime} {micros : Int} {wall : WallClock}
    (added : timestamp.wall.add? micros = some wall) :
    (⟨wall, timestamp.offset⟩ : DateTime).instant = timestamp.instant + micros := by
  unfold WallClock.add? WallClock.ofMicros? at added
  split at added
  · rename_i nonnegative
    split at added
    · cases added
      simp only [DateTime.instant, Int.toNat_of_nonneg nonnegative]
      omega
    · cases added
  · cases added

theorem timely_of_expired {message : FederatedMessage} {now : UtcTime}
    (unexpired : message.expired now = .ok false) : message.Timely now := by
  unfold expired deadline? at unexpired
  cases added : message.timestamp.wall.add? (message.ttlSeconds * 1000000) with
  | none =>
      rw [added] at unexpired
      cases unexpired
  | some wall =>
      simp only [added, Option.map_some] at unexpired
      unfold DateTime.later? at unexpired
      split at unexpired
      · cases unexpired
      · rename_i late compared
        cases unexpired
        split at compared
        · rename_i aware
          have before := of_decide_eq_false (Option.some.inj compared)
          rw [add?_instant added, not_lt] at before
          exact ⟨aware.symm, before⟩
        · cases compared

namespace RouterState

variable (settings : RouterSettings)

/-- What the router checks before it accepts a delivery. -/
structure Admitted (router : RouterState) (delivery : Delivery) : Prop where
  active : delivery.agreement.Active delivery.activeAt
  timely : delivery.message.Timely delivery.expiredAt
  fresh : router.nonces.get? delivery.message.nonce = none
  verified : delivery.message.verify settings.sha256 delivery.signingSecret = true

variable {settings} {router : RouterState} {delivery : Delivery}

theorem validateContent_nonces (settings : RouterSettings) (router : RouterState)
    (delivery : Delivery) :
    (router.validateContent settings delivery).2.nonces = router.nonces := by
  unfold validateContent
  simp only
  split
  · rfl
  · split
    · rfl
    · split
      · rfl
      · unfold checkAnswer
        split
        · rfl
        · split
          · rfl
          · rfl

theorem validate_nonces (settings : RouterSettings) (router : RouterState) (delivery : Delivery) :
    (router.validate settings delivery).2.nonces = router.nonces := by
  unfold validate
  split
  · rfl
  · rfl
  · split
    · rfl
    · rfl
    · exact validateContent_nonces settings router delivery

/-- Content that passes has a new nonce and a valid signature. -/
theorem validateContent_ok (passed : (router.validateContent settings delivery).1 = .ok ()) :
    router.nonces.get? delivery.message.nonce = none ∧
      delivery.message.verify settings.sha256 delivery.signingSecret = true := by
  unfold validateContent at passed
  simp only at passed
  split at passed
  · cases passed
  · rename_i fresh
    split at passed
    · cases passed
    · rename_i verified
      rw [not_or, Bool.not_eq_false] at verified
      exact ⟨Option.not_isSome_iff_eq_none.mp fresh, verified.2⟩

/-- A delivery that passes the validation is admitted. -/
theorem validate_ok (passed : (router.validate settings delivery).1 = .ok ()) :
    Admitted settings router delivery := by
  unfold validate at passed
  split at passed
  · cases passed
  · cases passed
  · rename_i active
    split at passed
    · cases passed
    · cases passed
    · rename_i unexpired
      obtain ⟨fresh, verified⟩ := validateContent_ok passed
      exact ⟨(TrustAgreement.isActive_iff _ _).mp active, timely_of_expired unexpired, fresh,
        verified⟩

variable {message : FederatedMessage}

theorem putMessage_nonces {stored : RouterState}
    (put : router.putMessage settings message = .ok stored) : stored.nonces = router.nonces := by
  unfold putMessage at put
  split at put
  · cases put
  · cases put
    rfl

/-- A call raises and keeps the nonces, or it returns for an admitted delivery and adds its nonce. -/
def Outcome (settings : RouterSettings) (router : RouterState) (delivery : Delivery)
    (outcome : Except PyError FederatedReceipt × RouterState) : Prop :=
  (∃ error, outcome.1 = .error error ∧ outcome.2.nonces = router.nonces) ∨
  ∃ receipt row, outcome.1 = .ok receipt ∧ Admitted settings router delivery ∧
    outcome.2.nonces = router.nonces.set delivery.message.nonce row

theorem send_outcome (settings : RouterSettings) (router : RouterState) (delivery : Delivery) :
    Outcome settings router delivery (router.send settings delivery) := by
  have kept := validate_nonces settings router delivery
  unfold send
  split
  · rename_i error refused validated
    rw [validated] at kept
    exact .inl ⟨error, rfl, kept⟩
  · rename_i passed after validated
    rw [validated] at kept
    have admitted : Admitted settings router delivery := validate_ok (by rw [validated])
    simp only
    split
    · rename_i error put
      exact .inl ⟨error, rfl, kept⟩
    · rename_i stored put
      let row : NonceRow :=
        ⟨delivery.message.sourceTenantId, delivery.message.nonce, delivery.message.messageId⟩
      refine .inr ⟨_, row, rfl, admitted, ?_⟩
      rw [← kept, ← putMessage_nonces put]
      rfl

theorem receive_outcome (settings : RouterSettings) (router : RouterState) (delivery : Delivery) :
    Outcome settings router delivery (router.receive settings delivery) := by
  have kept := validate_nonces settings router delivery
  unfold receive
  split
  · rename_i error refused validated
    rw [validated] at kept
    exact .inl ⟨error, rfl, kept⟩
  · rename_i passed after validated
    rw [validated] at kept
    have admitted : Admitted settings router delivery := validate_ok (by rw [validated])
    simp only
    split
    · rename_i error put
      exact .inl ⟨error, rfl, kept⟩
    · rename_i stored put
      let row : NonceRow :=
        ⟨delivery.message.destinationTenantId, delivery.message.nonce, delivery.message.messageId⟩
      refine .inr ⟨_, row, rfl, admitted, ?_⟩
      rw [← kept, ← putMessage_nonces put]
      rfl

theorem step_outcome (settings : RouterSettings) (router : RouterState) (call : RouterCall) :
    Outcome settings router call.delivery (step settings router call) := by
  cases call with
  | send delivery => exact send_outcome settings router delivery
  | receive delivery => exact receive_outcome settings router delivery

/-- The messages of the calls that return. -/
def accepted (settings : RouterSettings) : RouterState → List RouterCall → List FederatedMessage
  | _, [] => []
  | router, call :: rest =>
      match (step settings router call).1 with
      | .error _ => accepted settings (step settings router call).2 rest
      | .ok _ => call.delivery.message :: accepted settings (step settings router call).2 rest

/-- A call that returns was admitted. -/
theorem step_ok {call : RouterCall} {receipt : FederatedReceipt}
    (returned : (step settings router call).1 = .ok receipt) :
    Admitted settings router call.delivery := by
  rcases step_outcome settings router call with ⟨error, raised, _⟩ | ⟨_, _, _, admitted, _⟩
  · rw [raised] at returned
    cases returned
  · exact admitted

/-- The accepted messages have new and distinct nonces. -/
theorem accepted_nonces (settings : RouterSettings) (router : RouterState)
    (calls : List RouterCall) :
    ((accepted settings router calls).map nonce).Nodup ∧
      ∀ message ∈ accepted settings router calls, router.nonces.get? message.nonce = none := by
  induction calls generalizing router with
  | nil => exact ⟨List.nodup_nil, fun message listed => by cases listed⟩
  | cons call rest ih =>
      obtain ⟨distinct, absent⟩ := ih (step settings router call).2
      rw [accepted]
      rcases step_outcome settings router call with
        ⟨error, raised, kept⟩ | ⟨receipt, row, returned, admitted, stored⟩
      · rw [raised]
        rw [kept] at absent
        exact ⟨distinct, absent⟩
      · rw [returned]
        rw [stored] at absent
        have later (message : FederatedMessage)
            (listed : message ∈ accepted settings (step settings router call).2 rest) :
            message.nonce ≠ call.delivery.message.nonce ∧
              router.nonces.get? message.nonce = none := by
          have nothing := absent message listed
          rw [Dict.get?_set] at nothing
          split at nothing
          · cases nothing
          · rename_i different
            exact ⟨different, nothing⟩
        refine ⟨?_, ?_⟩
        · rw [List.map_cons, List.nodup_cons]
          refine ⟨?_, distinct⟩
          intro repeated
          obtain ⟨message, listed, same⟩ := List.mem_map.mp repeated
          exact (later message listed).1 same
        · rw [List.forall_mem_cons]
          exact ⟨admitted.fresh, fun message listed => (later message listed).2⟩

/-- Every accepted message verifies under the secret of its call. -/
theorem accepted_verified {secret : String} (router : RouterState) (calls : List RouterCall)
    (one : ∀ call ∈ calls, call.delivery.signingSecret = secret)
    (listed : message ∈ accepted settings router calls) :
    message.verify settings.sha256 secret = true := by
  induction calls generalizing router with
  | nil => cases listed
  | cons call rest ih =>
      obtain ⟨own, others⟩ := List.forall_mem_cons.mp one
      rw [accepted] at listed
      rcases step_outcome settings router call with
        ⟨error, raised, _⟩ | ⟨receipt, row, returned, admitted, _⟩
      · rw [raised] at listed
        exact ih _ others listed
      · rw [returned] at listed
        rcases List.mem_cons.mp listed with rfl | later
        · exact own ▸ admitted.verified
        · exact ih _ others later

/-- The router accepts each nonce once and only under an active agreement and in time; created messages
verify after every round trip; and a signature determines the signed fields. -/
theorem router_accepts_once (settings : RouterSettings) (router : RouterState)
    (calls : List RouterCall) (secret : String) (injective : Function.Injective settings.sha256)
    (one : ∀ call ∈ calls, call.delivery.signingSecret = secret) :
    ((accepted settings router calls).map nonce).Nodup ∧
    (∀ before call later receipt, calls = before ++ call :: later →
      (step settings (run (step settings) router before) call).1 = .ok receipt →
        call.delivery.agreement.Active call.delivery.activeAt ∧
          call.delivery.message.Timely call.delivery.expiredAt) ∧
    (∀ draw signingSecret unsigned trips, ∃ created arrived,
      create settings.sha256 draw signingSecret unsigned = some created ∧
        created.travel trips = some arrived ∧
        arrived.verify settings.sha256 signingSecret = true) ∧
    (∀ first ∈ accepted settings router calls, ∀ second ∈ accepted settings router calls,
      first.signature = second.signature → first.signingPayload = second.signingPayload) ∧
    ∀ otherRouter otherCalls, (∀ call ∈ otherCalls, call.delivery.signingSecret = secret) →
      ∀ first ∈ accepted settings router calls,
        ∀ second ∈ accepted settings otherRouter otherCalls,
          first.signature = second.signature → SignedAlike first second := by
  have distinct := (accepted_nonces settings router calls).1
  refine ⟨distinct, ?_, ?_, ?_, ?_⟩
  · intro before call later receipt _ returned
    exact ⟨(step_ok returned).active, (step_ok returned).timely⟩
  · intro draw signingSecret unsigned trips
    obtain ⟨created, made, verified⟩ := create_verify settings.sha256 draw signingSecret unsigned
    obtain ⟨arrived, travelled, same⟩ := travel_verify settings.sha256 trips created signingSecret
    exact ⟨created, arrived, made, travelled, same.trans verified⟩
  · intro first firstListed second secondListed same
    have alike := signedAlike_of_signature injective (accepted_verified router calls one firstListed)
      (accepted_verified router calls one secondListed) same
    have nonce : first.nonce = second.nonce := by rw [alike.1]
    rw [List.inj_on_of_nodup_map distinct firstListed secondListed nonce]
  · intro otherRouter otherCalls otherOne first firstListed second secondListed same
    exact signedAlike_of_signature injective (accepted_verified router calls one firstListed)
      (accepted_verified otherRouter otherCalls otherOne secondListed) same

section Example

/-- A message that was created at the first moment and lives for the default time. -/
def plainMessage : FederatedMessage where
  sourceOrgId := "org-a"
  sourceTenantId := "tenant-a"
  destinationOrgId := "org-b"
  destinationTenantId := "tenant-b"
  sourceAgentId := "agent-a"
  destinationAgentId := "agent-b"
  trustAgreementId := "fed-agree-1"
  payload := [("task", .str "survey"), ("rooms", .arr [.int 1, .int 2])]
  veilReference := "veil-ref"
  signature := ""
  messageId := "fed-msg-1"
  correlationId := "fed-corr-1"
  nonce := "nonce-1"
  timestamp := UtcTime.first.toDateTime
  ttlSeconds := 300
  messageType := "request"

/-- An agreement that expires one second after the first moment. -/
def plainAgreement (status : String) : TrustAgreement where
  tenantId := "tenant-a"
  organizationId := "org-a"
  remoteOrgId := "org-b"
  createdBy := "admin"
  allowedCapabilities := []
  deniedCapabilities := []
  permittedDataClasses := ["public", "internal"]
  allowedWorkflowTypes := []
  status := status
  agreementId := "fed-agree-1"
  expiresAt := ⟨⟨1000000, by decide⟩, some Offset.utc⟩
  createdAt := UtcTime.first.toDateTime
  updatedAt := UtcTime.first.toDateTime
  revokedReason := ""

def plainRouter : RouterSettings := ⟨id, .copy⟩

/-- The delivery of the signed message under an active agreement. -/
def plainDelivery : Delivery where
  message := signed id "secret" plainMessage
  agreement := plainAgreement "active"
  signingSecret := "secret"
  activeAt := .first
  expiredAt := .first
  checkPolicy := fun _ => .ok ⟨true, ""⟩
  receiptId := "fed-receipt-1"
  createdAt := .first

def emptyRouter : RouterState := ⟨Dict.empty, Dict.empty, Dict.empty, []⟩

theorem plainDelivery_valid :
    emptyRouter.validate plainRouter plainDelivery = (.ok (), emptyRouter) := by
  have verified : plainDelivery.message.verify plainRouter.sha256 plainDelivery.signingSecret =
      true := signed_verify id "secret" plainMessage
  have signed : plainDelivery.message.signature ≠ "" := by
    intro empty
    have letters := congrArg String.toList empty
    rw [show plainDelivery.message.signature = (Json.obj (PyValue.defaultStrFields
      plainMessage.signingPayload)).dumps ++ "secret" from rfl, String.toList_append] at letters
    exact absurd (List.append_eq_nil_iff.mp letters).2 (by decide)
  have content : emptyRouter.validateContent plainRouter plainDelivery = (.ok (), emptyRouter) := by
    unfold validateContent
    simp only
    rw [if_neg (by decide), if_neg (by simp [signed, verified]), if_neg (by decide)]
    rfl
  have active : plainDelivery.agreement.isActive plainDelivery.activeAt = .ok true := rfl
  have unexpired : plainDelivery.message.expired plainDelivery.expiredAt = .ok false := by decide
  simp only [validate, active, unexpired]
  exact content

/-- The calls that send a message and deliver it again. -/
def sentTwice : List RouterCall := [.send plainDelivery, .receive plainDelivery]

theorem sentTwice_secret (call : RouterCall) (listed : call ∈ sentTwice) :
    call.delivery.signingSecret = "secret" := by
  simp only [sentTwice, List.mem_cons, List.not_mem_nil, or_false] at listed
  rcases listed with rfl | rfl
  · rfl
  · rfl

/-- A message that was sent is accepted in time and not a second time, and verifies after two round
trips. -/
theorem router_accepts_once_resent :
    ((accepted plainRouter emptyRouter sentTwice).map nonce).Nodup ∧
      (plainDelivery.agreement.Active .first ∧ plainDelivery.message.Timely .first) ∧
      (∃ created arrived,
        create id ⟨"fed-corr-2", "nonce-2", .first⟩ "secret" plainMessage = some created ∧
          created.travel [.copy ⟨"", "", .first⟩, .reload ⟨"", "", .first⟩] = some arrived ∧
          arrived.verify id "secret" = true) ∧
      (∀ first ∈ accepted plainRouter emptyRouter sentTwice,
        ∀ second ∈ accepted plainRouter emptyRouter sentTwice.reverse,
          first.signature = second.signature → SignedAlike first second) := by
  obtain ⟨distinct, admitted, trips, _, alike⟩ := router_accepts_once plainRouter emptyRouter
    sentTwice "secret" Function.injective_id sentTwice_secret
  refine ⟨distinct, ?_, trips _ _ _ _, ?_⟩
  · refine admitted [] (.send plainDelivery) [.receive plainDelivery]
      (newReceipt plainDelivery "tenant-a" "accepted") rfl ?_
    show (emptyRouter.send plainRouter plainDelivery).1 = _
    rw [send, plainDelivery_valid]
    rfl
  · exact alike emptyRouter sentTwice.reverse fun call listed =>
      sentTwice_secret call (List.mem_reverse.mp listed)

end Example

end RouterState

end AgentFabric.Federation
