import AgentFabric.Foundation.HashChain
import AgentFabric.Foundation.PyCoercion
import AgentFabric.Foundation.Transition

namespace AgentFabric.Phase4
open Transition

/-- An event of the audit log with its own kind of metadata. -/
structure AuditEvent (Metadata : Type) where
  timestamp : DateTime
  actorId : String
  action : String
  target : String
  metadata : Metadata
  previousHash : String
  eventHash : String

/-- The arguments of an append with the time that it draws. -/
structure AuditAppend (Metadata : Type) where
  actorId : String
  action : String
  target : String
  metadata : Option Metadata
  timestamp : UtcTime

variable {Metadata : Type} (sha256 : String → String) (render : Metadata → String)
  (empty : Metadata)

/-- The hashed text joins the fields with bars. -/
def material (timestamp : DateTime) (actorId action target : String) (metadata : Metadata)
    (previousHash : String) : String :=
  timestamp.isoformat ++ "|" ++ actorId ++ "|" ++ action ++ "|" ++ target ++ "|" ++
    render metadata ++ "|" ++ previousHash

/-- The check of an event does not read its own previous hash. -/
def auditChain : LinkChain (AuditEvent Metadata) String where
  stored := AuditEvent.eventHash
  linked := fun _ _ => true
  digest := fun previousHash event => sha256 (material render event.timestamp event.actorId
    event.action event.target event.metadata previousHash)

namespace ImmutableAuditLog

def genesis : String := "GENESIS"

variable (events : List (AuditEvent Metadata))

/-- Missing metadata is the empty dict. The log keeps the object, which nobody changes afterwards. -/
def append (call : AuditAppend Metadata) : AuditEvent Metadata × List (AuditEvent Metadata) :=
  let metadata := call.metadata.getD empty
  let previousHash := (auditChain sha256 render).lastHash genesis events
  let timestamp := call.timestamp.toDateTime
  let event : AuditEvent Metadata := {
    timestamp := timestamp
    actorId := call.actorId
    action := call.action
    target := call.target
    metadata := metadata
    previousHash := previousHash
    eventHash := sha256 (material render timestamp call.actorId call.action call.target metadata
      previousHash) }
  (event, events ++ [event])

def verifyIntegrity : Bool :=
  (auditChain sha256 render).verifyFrom genesis events

/-- The log after a sequence of appends. -/
def appended (calls : List (AuditAppend Metadata)) : List (AuditEvent Metadata) :=
  run (append sha256 render empty) [] calls

end ImmutableAuditLog

end AgentFabric.Phase4

namespace AgentFabric.Production
open Transition

/-- A row of the table `immutable_audit_events`.
The metadata is the document that `json.loads` reads from the stored text. -/
structure AuditRow where
  timestamp : String
  actorId : String
  action : String
  target : String
  metadata : Json
  previousHash : String
  eventHash : String

/-- The arguments of an audit append with the time that the store draws. -/
structure AuditCall where
  actorId : String
  action : String
  target : String
  metadata : Option (List (String × Json))
  timestamp : String

/-- Missing metadata is an empty dict. -/
def AuditCall.metadataOrEmpty (call : AuditCall) : Json := .obj (call.metadata.getD [])

variable (sha256 : String → String) (isPrintable : Char → Bool)

/-- The hashed text shows the metadata as Python prints it. -/
def material (actorId action target : String) (metadata : Json) (previousHash : String) : String :=
  actorId ++ "|" ++ action ++ "|" ++ target ++ "|" ++ metadata.repr isPrintable ++ "|" ++ previousHash

/-- The check of a row prints the metadata that it reads from the table. -/
def auditChain : LinkChain AuditRow String where
  stored := AuditRow.eventHash
  linked := fun previousHash row => row.previousHash = previousHash
  digest := fun previousHash row =>
    sha256 (material isPrintable row.actorId row.action row.target row.metadata previousHash)

def genesis : String := "GENESIS"

variable (rows : List AuditRow)

/-- The hash of the row with the largest id. -/
def lastAuditHash : String :=
  (auditChain sha256 isPrintable).lastHash genesis rows

/-- The hash prints the metadata of the call, and the table keeps its text with sorted keys. -/
def appendAudit (call : AuditCall) : (String × String) × List AuditRow :=
  let previousHash := lastAuditHash sha256 isPrintable rows
  let eventHash := sha256 (material isPrintable call.actorId call.action call.target
    call.metadataOrEmpty previousHash)
  ((previousHash, eventHash), rows ++ [{
    timestamp := call.timestamp
    actorId := call.actorId
    action := call.action
    target := call.target
    metadata := call.metadataOrEmpty.sortKeys
    previousHash := previousHash
    eventHash := eventHash }])

def verifyAuditIntegrity : Bool :=
  (auditChain sha256 isPrintable).verifyFrom genesis rows

/-- The table after a sequence of calls. -/
def auditRows (calls : List AuditCall) : List AuditRow :=
  run (appendAudit sha256 isPrintable) [] calls

end AgentFabric.Production
