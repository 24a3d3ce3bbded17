import AgentFabric.Foundation.Dict
import AgentFabric.Foundation.PyError

namespace AgentFabric.Renovation

/-- The tenant, the organization and the user of a call. -/
structure TenantContext where
  tenantId : String
  organizationId : String
  principalId : String

variable (context : TenantContext)

def TenantContext.require : Except PyError Unit :=
  if "" ∈ [context.tenantId, context.organizationId, context.principalId] then
    .error (.permissionError "tenant context is required")
  else .ok ()

/-- A stored artifact with the payload that created it. -/
structure Record (Input Artifact : Type) where
  tenantId : String
  organizationId : String
  createdBy : String
  input : Input
  artifact : Artifact

namespace Record

variable {Input Artifact : Type}

def new (context : TenantContext) (input : Input) (artifact : Artifact) : Record Input Artifact where
  tenantId := context.tenantId
  organizationId := context.organizationId
  createdBy := context.principalId
  input := input
  artifact := artifact

end Record

/-- A record is read by its own tenant. -/
def tenantRecord {Input Artifact : Type}
    (collection : Dict String (Record Input Artifact)) (key label : String) :
    Except PyError (Record Input Artifact) := do
  context.require
  match collection.get? key with
  | none => .error (.notFoundError ("renovation " ++ label ++ " not found"))
  | some record =>
      if record.tenantId ≠ context.tenantId then
        .error (.authorizationError ("cross-tenant renovation " ++ label ++ " access denied"))
      else .ok record

section Read

variable {Input Artifact : Type} {context : TenantContext}
  {collection : Dict String (Record Input Artifact)} {key label : String}
  {record : Record Input Artifact}

theorem tenantRecord_eq_ok_iff :
    tenantRecord context collection key label = .ok record ↔
      context.require = .ok () ∧ collection.get? key = some record ∧
        record.tenantId = context.tenantId := by
  unfold tenantRecord
  cases required : context.require with
  | error exception => simp [bind, Except.bind]
  | ok nothing =>
      cases found : collection.get? key with
      | none => simp [bind, Except.bind]
      | some stored =>
          by_cases own : stored.tenantId = context.tenantId
          · simp only [bind, Except.bind, own, ne_eq, not_true_eq_false, if_false,
              Except.ok.injEq, Option.some.injEq, true_and]
            constructor
            · rintro rfl
              exact ⟨rfl, own⟩
            · exact fun facts => facts.1
          · simp only [bind, Except.bind, own, ne_eq, not_false_eq_true, if_true, reduceCtorEq,
              Option.some.injEq, true_and, false_iff, not_and]
            rintro rfl
            exact own

end Read

end AgentFabric.Renovation
