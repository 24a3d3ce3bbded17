import AgentFabric.Proof.Connectors.ConnectorGate
import AgentFabric.Proof.Persistence.AtomicUnits

namespace AgentFabric.Connectors
open Persistence Transition

/-- The collections of the executions and of the denials. -/
def accountCollections : List String :=
  ["enterprise_connector_executions", "enterprise_connector_denials"]

/-- The record of a call: its tenant, its place and what is stored there after the call. -/
structure AccountedCall where
  tenantId : String
  collection : String
  key : String
  row : Option Json

/-- The record is one of the tenant in the collection. -/
def AccountedCall.isFor (collection tenantId : String) (entry : AccountedCall) : Bool :=
  entry.collection = collection && entry.tenantId = tenantId

section Accounts

variable {State Number : Type} (store : PersistenceStore State) (library : Library Number)
  (state : ConnectorState State Number)

/-- The record of a tenant that a state stores in a place. -/
def AccountedCall.read (tenantId collection key : String) : AccountedCall :=
  ⟨tenantId, collection, key, store.get state.persistence collection key⟩

/-- The records of a tenant in a collection are counted. -/
def accountsFor (past : List (Option AccountedCall)) (collection tenantId : String) : Nat :=
  past.countP fun entry => entry.any (AccountedCall.isFor collection tenantId)

/-- An execution that returns is accounted by its execution, and one that raises after the check of
its tenant is accounted by its denial. -/
def account (call : ConnectorCall Number) (answer : Except PyError (ConnectorAnswer Number))
    (after : ConnectorState State Number) : Option AccountedCall :=
  match call with
  | .execute _ request =>
      match request.context.require with
      | .error _ => none
      | .ok _ =>
          let read := AccountedCall.read store after request.context.tenantId
          match answer with
          | .ok _ => some (read "enterprise_connector_executions" request.executionId)
          | .error _ => some (read "enterprise_connector_denials"
              (ConnectorExecutionService.denialKey library request))
  | _ => none

/-- Every call is answered with its record. -/
def accountedMachine :
    Machine (ConnectorState State Number) (ConnectorCall Number) (Option AccountedCall) :=
  fun state call =>
    let (answer, after) := ConnectorState.answer store library state call
    (account store library call answer after, after)

/-- Every tenant has as many executions and denials as calls that returned and that raised, and every
record is still there. -/
structure Accounted (state : ConnectorState State Number) (past : List (Option AccountedCall)) :
    Prop where
  counts : ∀ collection ∈ accountCollections, ∀ tenantId,
    (store.listTenant state.persistence collection tenantId).length =
      accountsFor past collection tenantId
  kept : ∀ entry, some entry ∈ past → entry.row.isSome ∧
    store.get state.persistence entry.collection entry.key = entry.row

/-- The id of an execution is new. -/
def FreshExecution : ConnectorCall Number → Prop
  | .execute _ request =>
      store.get state.persistence "enterprise_connector_executions" request.executionId = none
  | _ => True

/-- An execution that fails after the check of its tenant has a denial key that is not used yet. -/
def UnusedDenialKey : ConnectorCall Number → Prop
  | .execute service request => request.context.require = .ok () →
      service.succeeds store library request state = false →
        store.get state.persistence "enterprise_connector_denials"
          (ConnectorExecutionService.denialKey library request) = none
  | _ => True

/-- Every accounted row names a tenant. -/
def Named : Prop :=
  ∀ collection ∈ accountCollections, ∀ key row,
    store.get state.persistence collection key = some row →
      ∃ tenantId, PersistenceStore.hasText row "tenant_id" tenantId = true

/-- The accounted collections are those of an earlier state. -/
def SameAccounts (before state : ConnectorState State Number) : Prop :=
  ∀ collection ∈ accountCollections,
    store.list state.persistence collection = store.list before.persistence collection ∧
      ∀ key, store.get state.persistence collection key =
        store.get before.persistence collection key

section Frame

variable {store} {before : ConnectorState State Number}

/-- A call that keeps the accounted collections. -/
abbrev KeepsAccounts {Value : Type} (store : PersistenceStore State)
    (before : ConnectorState State Number) (effect : Effect (ConnectorState State Number) Value) :
    Prop :=
  Effect.Keeps (SameAccounts store before) (fun _ => True) effect

theorem record_keeps (lawful : store.Lawful) {collection : String}
    (other : collection ∉ accountCollections) (key : String) (document : Json) :
    KeepsAccounts store before (record store collection key document) := by
  intro state same
  obtain ⟨next, written, recorded⟩ := perform_record lawful collection key document state
  rw [recorded]
  refine ⟨?_, fun _ _ => trivial⟩
  intro accounted member
  have different : accounted ≠ collection := fun equal => other (equal ▸ member)
  obtain ⟨listed, found⟩ := same accounted member
  refine ⟨(lawful.list_put_of_ne written different).trans listed, fun query => ?_⟩
  exact (lawful.get_put_of_ne _ _ _ _ _ _ _ written
    (fun equal => different (Prod.mk.inj equal).1)).trans (found query)

theorem emit_keeps (eventType aggregateId : String) (payload : Json) :
    KeepsAccounts store before (emit eventType aggregateId payload) :=
  fun _ same => ⟨same, fun _ _ => trivial⟩

theorem ofExcept_keeps {Value : Type} (answer : Except PyError Value) :
    KeepsAccounts store before (Effect.ofExcept answer) :=
  fun _ same => ⟨same, fun _ _ => trivial⟩

variable (backend : Option ProductionCredentialBackend) (reference : CredentialReference)

theorem storeSecret_keeps (secret : String) :
    KeepsAccounts store before (CredentialVault.storeSecret backend reference secret) := by
  cases backend with
  | none => exact fun _ same => ⟨same, fun _ _ => trivial⟩
  | some backend => exact ofExcept_keeps _

theorem forget_keeps : KeepsAccounts store before (CredentialVault.forget backend reference) := by
  cases backend with
  | none => exact fun _ same => ⟨same, fun _ _ => trivial⟩
  | some backend => exact ofExcept_keeps _

theorem KeepsAccounts.returns {Value Next : Type}
    {effect : Effect (ConnectorState State Number) Value}
    (keeps : KeepsAccounts store before effect) (answer : Value → Next) :
    KeepsAccounts store before (effect >>= fun value => pure (answer value)) :=
  keeps.bind fun _ _ => .pure trivial

/-- Only executions write to the accounted collections. -/
theorem call_keeps (lawful : store.Lawful) (call : ConnectorCall Number)
    (other : ∀ service request, call ≠ .execute service request) :
    KeepsAccounts store before (ConnectorState.call store library call) := by
  cases call with
  | execute service request => exact (other service request rfl).elim
  | register manifest tenantId createdBy =>
      apply KeepsAccounts.returns
      refine .ofExcept_bind fun _ _ => .get_bind fun _ _ => .ite (fun _ => .throw _) fun _ => ?_
      refine (record_keeps lawful (by decide) _ _).bind fun _ _ => ?_
      refine (record_keeps lawful (by decide) _ _).bind fun _ _ => ?_
      exact (emit_keeps _ _ _).bind fun _ _ => .pure trivial
  | enable context connectorId version credentialRef policy now =>
      apply KeepsAccounts.returns
      refine .get_bind fun _ _ => .ofExcept_bind fun _ _ => .ofExcept_bind fun _ _ => ?_
      refine .ite (fun _ => .throw _) fun _ => ?_
      refine (record_keeps lawful (by decide) _ _).bind fun _ _ => ?_
      refine (record_keeps lawful (by decide) _ _).bind fun _ _ => ?_
      exact (emit_keeps _ _ _).bind fun _ _ => .pure trivial
  | disable context connectorId now =>
      apply KeepsAccounts.returns
      refine .get_bind fun _ _ => .ofExcept_bind fun _ _ => ?_
      refine (record_keeps lawful (by decide) _ _).bind fun _ _ => ?_
      exact (emit_keeps _ _ _).bind fun _ _ => .pure trivial
  | create backend tenantId connectorId credentialType createdBy secret credentialId now =>
      apply KeepsAccounts.returns
      refine .ite (fun _ => .throw _) fun _ => ?_
      refine (storeSecret_keeps backend _ _).bind fun _ _ => ?_
      exact (record_keeps lawful (by decide) _ _).bind fun _ _ => .pure trivial
  | rotate backend tenantId credentialId secret now =>
      apply KeepsAccounts.returns
      refine .get_bind fun _ _ => .ofExcept_bind fun _ _ => ?_
      refine (storeSecret_keeps backend _ _).bind fun _ _ => ?_
      exact (record_keeps lawful (by decide) _ _).bind fun _ _ => .pure trivial
  | revoke backend tenantId credentialId now =>
      apply KeepsAccounts.returns
      refine .get_bind fun _ _ => .ofExcept_bind fun _ _ => ?_
      refine (forget_keeps backend _).bind fun _ _ => ?_
      exact (record_keeps lawful (by decide) _ _).bind fun _ _ => .pure trivial

end Frame

section Step

variable {store}

/-- A row names one tenant. -/
theorem hasText_unique {row : Json} {key first second : String}
    (one : PersistenceStore.hasText row key first = true)
    (other : PersistenceStore.hasText row key second = true) : first = second := by
  unfold PersistenceStore.hasText at one other
  split at one
  · rename_i stored present
    rw [present] at other
    exact (of_decide_eq_true one).symm.trans (of_decide_eq_true other)
  · cases one

/-- A row of the tenant joins a listing. -/
theorem length_listTenant_cons {rows others : List Json} {row : Json} {owner : String}
    (listed : rows.Perm (row :: others))
    (named : PersistenceStore.hasText row "tenant_id" owner = true) (tenantId : String) :
    (rows.filter fun row => PersistenceStore.hasText row "tenant_id" tenantId).length =
      (if owner = tenantId then 1 else 0) +
        (others.filter fun row => PersistenceStore.hasText row "tenant_id" tenantId).length := by
  rw [(listed.filter _).length_eq, List.filter_cons]
  by_cases own : owner = tenantId
  · subst own
    rw [if_pos named, if_pos rfl, List.length_cons, Nat.add_comm]
  · rw [if_neg fun found => own (hasText_unique named found), if_neg own, Nat.zero_add]

variable {state after : ConnectorState State Number} {past : List (Option AccountedCall)}

/-- A record that names its tenant is accounted exactly when its key was not used yet. -/
theorem accounted_put_iff (lawful : store.Lawful) (named : Named store state)
    (accounted : Accounted store state past) {collection key tenantId : String} {document : Json}
    (member : collection ∈ accountCollections)
    (owned : PersistenceStore.hasText document "tenant_id" tenantId = true)
    (written : store.put state.persistence collection key document = .ok after.persistence) :
    Named store after ∧
      (Accounted store after (past ++ [some (.read store after tenantId collection key)]) ↔
        store.get state.persistence collection key = none) := by
  obtain ⟨read, others, present, same, listed, replaced⟩ := lawful.list_put written
  have readOwned : PersistenceStore.hasText read "tenant_id" tenantId = true := by
    rw [DocumentStore.hasText_same same]
    exact owned
  have elsewhere (query name : String) (different : (query, name) ≠ (collection, key)) :
      store.get after.persistence query name = store.get state.persistence query name :=
    lawful.get_put_of_ne _ _ _ _ _ _ _ written different
  have counted (tenant : String) :
      (store.listTenant after.persistence collection tenant).length =
        (if tenantId = tenant then 1 else 0) +
          (others.filter fun row => PersistenceStore.hasText row "tenant_id" tenant).length :=
    length_listTenant_cons listed readOwned tenant
  have entries (query tenant : String) :
      accountsFor (past ++ [some (.read store after tenantId collection key)]) query tenant =
        accountsFor past query tenant + if collection = query ∧ tenantId = tenant then 1 else 0 := by
    rw [accountsFor, List.countP_append, List.countP_singleton]
    simp [AccountedCall.isFor, AccountedCall.read, accountsFor]
  constructor
  · intro query inside name row found
    by_cases own : (query, name) = (collection, key)
    · obtain ⟨rfl, rfl⟩ := Prod.mk.inj own
      obtain rfl := Option.some.inj (present.symm.trans found)
      exact ⟨tenantId, readOwned⟩
    · rw [elsewhere query name own] at found
      exact named query inside name row found
  · constructor
    · intro later
      cases held : store.get state.persistence collection key with
      | none => rfl
      | some old =>
          obtain ⟨owner, oldOwned⟩ := named collection member key old held
          rw [held] at replaced
          have before := length_listTenant_cons (show List.Perm _ (old :: others) from replaced) oldOwned
            owner
          have earlier := accounted.counts collection member owner
          have next := later.counts collection member owner
          rw [counted, entries, ← earlier] at next
          change (store.listTenant state.persistence collection owner).length = _ at before
          rw [before, if_pos rfl] at next
          by_cases own : tenantId = owner
          · rw [if_pos own, if_pos ⟨rfl, own⟩] at next
            omega
          · rw [if_neg own, if_neg (fun both => own both.2)] at next
            omega
    · intro unused
      rw [unused] at replaced
      refine ⟨?_, ?_⟩
      · intro query inside tenant
        rw [entries, ← accounted.counts query inside tenant]
        by_cases own : query = collection
        · subst own
          rw [counted, Nat.add_comm]
          congr 1
          · exact ((replaced.filter _).length_eq).symm
          · simp
        · rw [if_neg (fun both => own both.1.symm), Nat.add_zero, PersistenceStore.listTenant,
            lawful.list_put_of_ne written own]
          rfl
      · intro entry listedEntry
        rcases List.mem_append.mp listedEntry with old | new
        · obtain ⟨stored, found⟩ := accounted.kept entry old
          refine ⟨stored, (elsewhere _ _ ?_).trans found⟩
          intro equal
          obtain ⟨sameCollection, sameKey⟩ := Prod.mk.inj equal
          rw [sameCollection, sameKey, unused] at found
          rw [← found] at stored
          cases stored
        · obtain rfl := Option.some.inj (List.mem_singleton.mp new)
          refine ⟨?_, rfl⟩
          change (store.get after.persistence collection key).isSome = true
          rw [present]
          rfl

/-- A call that keeps the accounted collections keeps the accounts. -/
theorem accounted_same_iff (named : Named store state)
    (accounted : Accounted store state past) (same : SameAccounts store state after)
    (places : ∀ entry, some entry ∈ past → entry.collection ∈ accountCollections) :
    Named store after ∧ Accounted store after (past ++ [none]) := by
  refine ⟨?_, ?_, ?_⟩
  · intro collection member key row found
    rw [(same collection member).2 key] at found
    exact named collection member key row found
  · intro collection member tenantId
    rw [PersistenceStore.listTenant, (same collection member).1, accountsFor, List.countP_append]
    exact accounted.counts collection member tenantId
  · intro entry listed
    have old : some entry ∈ past := by simpa using listed
    obtain ⟨stored, found⟩ := accounted.kept entry old
    exact ⟨stored, ((same _ (places entry old)).2 entry.key).trans found⟩

/-- The records that are accounted lie in the accounted collections. -/
def Placed (past : List (Option AccountedCall)) : Prop :=
  ∀ entry, some entry ∈ past → entry.collection ∈ accountCollections

theorem Placed.append (placed : Placed past)
    {next : Option AccountedCall} (inside : ∀ entry, next = some entry →
      entry.collection ∈ accountCollections) : Placed (past ++ [next]) := by
  intro entry listed
  rcases List.mem_append.mp listed with old | new
  · exact placed entry old
  · exact inside entry (List.mem_singleton.mp new).symm

/-- A call that is no execution keeps the accounts. -/
theorem accountedMachine_other (lawful : store.Lawful) {state : ConnectorState State Number}
    (named : Named store state) (placed : Placed past)
    (accounted : Accounted store state past) (call : ConnectorCall Number)
    (other : ∀ service request, call ≠ .execute service request) :
    let answer := accountedMachine store library state call
    answer.1 = none ∧ Named store answer.2 ∧ Accounted store answer.2 (past ++ [none]) := by
  have same : SameAccounts store state (accountedMachine store library state call).2 :=
    (call_keeps library lawful call other state fun _ _ => ⟨rfl, fun _ => rfl⟩).1
  refine ⟨?_, accounted_same_iff named accounted same placed⟩
  cases call with
  | execute service request => exact (other service request rfl).elim
  | register | enable | disable | create | rotate | revoke => rfl

/-- One call keeps the accounts exactly when a failing execution has an unused denial key. -/
theorem accountedMachine_step (lawful : store.Lawful) {state : ConnectorState State Number}
    (named : Named store state) (placed : Placed past)
    (accounted : Accounted store state past) (call : ConnectorCall Number)
    (fresh : FreshExecution store state call) :
    let answer := accountedMachine store library state call
    (Named store answer.2 ∧ Placed (past ++ [answer.1])) ∧
      (Accounted store answer.2 (past ++ [answer.1]) ↔ UnusedDenialKey store library state call) := by
  have quiet (other : ∀ service request, call ≠ .execute service request)
      (met : UnusedDenialKey store library state call) :
      let answer := accountedMachine store library state call
      (Named store answer.2 ∧ Placed (past ++ [answer.1])) ∧
        (Accounted store answer.2 (past ++ [answer.1]) ↔
          UnusedDenialKey store library state call) := by
    obtain ⟨silent, still, kept⟩ :=
      accountedMachine_other library lawful named placed accounted call other
    dsimp only
    rw [silent]
    exact ⟨⟨still, placed.append (by simp)⟩, iff_of_true kept met⟩
  cases call with
  | register | enable | disable | create | rotate | revoke =>
      exact quiet (fun _ _ same => by cases same) trivial
  | execute service request =>
      dsimp only
      rw [accountedMachine, ConnectorState.answer, ConnectorState.call, UnusedDenialKey]
      rcases service.execute_cases library request lawful state with
        ⟨error, refused, returned⟩ |
        ⟨required, succeeded, prepared, response, veilAuditRef, after, _, written, returned⟩ |
        ⟨required, failed, raised, reason, after, written, returned⟩
      · rw [Effect.perform_bind_error returned]
        simp only [account, refused]
        have kept := accounted_same_iff named accounted (fun _ _ => ⟨rfl, fun _ => rfl⟩) placed
        refine ⟨⟨named, placed.append (by simp)⟩, iff_of_true kept.2 ?_⟩
        intro accepted
        cases accepted
      · rw [Effect.perform_bind_ok returned, Effect.perform_pure]
        simp only [account, required]
        obtain ⟨still, exact⟩ := accounted_put_iff lawful named accounted (by decide)
          (ConnectorExecutionService.completed_tenant request prepared response veilAuditRef) written
        refine ⟨⟨still, placed.append ?_⟩, exact.trans (iff_of_true fresh ?_)⟩
        · rintro _ ⟨⟩
          exact .head _
        · intro _ failed
          cases succeeded.symm.trans failed
      · rw [Effect.perform_bind_error returned]
        simp only [account, required]
        obtain ⟨still, exact⟩ := accounted_put_iff lawful named accounted (by decide)
          (ConnectorExecutionService.denial_tenant request reason) written
        refine ⟨⟨still, placed.append ?_⟩, exact.trans ⟨?_, ?_⟩⟩
        · rintro _ ⟨⟩
          exact .tail _ (.head _)
        · intro unused _ _
          exact unused
        · intro met
          exact met trivial failed

/-- In every run whose execution ids are new, every call of an execution is accounted exactly when
every execution that fails has an unused denial key. -/
theorem connectorRun_accounted_iff (lawful : store.Lawful) (calls : List (ConnectorCall Number))
    (fresh : Guarded (accountedMachine store library) (FreshExecution store)
      (ConnectorState.initial store) calls) :
    (∀ done rest, calls = done ++ rest →
      Accounted store (run (accountedMachine store library) (ConnectorState.initial store) done)
        (responses (accountedMachine store library) (ConnectorState.initial store) done)) ↔
    Guarded (accountedMachine store library) (UnusedDenialKey store library)
      (ConnectorState.initial store) calls := by
  have empty (collection : String) : store.list store.initial collection = [] := by
    obtain ⟨rows, listed, _, exact⟩ := lawful.list_rows store.initial collection
    rw [listed, List.map_eq_nil_iff, List.eq_nil_iff_forall_not_mem]
    intro row member
    cases (lawful.get_initial collection row.1).symm.trans ((exact row).mp member)
  have named : Named store (ConnectorState.initial store : ConnectorState State Number) := by
    intro collection _ key row found
    cases (lawful.get_initial collection key).symm.trans found
  have accounted : Accounted store (ConnectorState.initial store : ConnectorState State Number) [] := by
    refine ⟨?_, by simp⟩
    intro collection _ tenantId
    rw [PersistenceStore.listTenant]
    change ((store.list store.initial collection).filter _).length = _
    rw [empty]
    rfl
  have parts := forall_parts_iff_guarded_of_guarded (accountedMachine store library)
    (FreshExecution store) (UnusedDenialKey store library)
    (fun state past => Named store state ∧ Placed past) (Accounted store)
    (fun _ _ call kept accounted fresh =>
      accountedMachine_step library lawful kept.1 kept.2 accounted call fresh)
    (ConnectorState.initial store) [] calls ⟨named, by intro entry member; cases member⟩ accounted
    fresh
  simpa only [List.nil_append] using parts

end Step

end Accounts

/-- The request of a tenant whose denial is written at the start of 1970. -/
def deniedRequest (tenantId : String) : ConnectorRequest Nat :=
  { readRequest with
    context := ⟨tenantId, "org-a", "owner-a", false⟩
    deniedAt := ⟨⟨62135596800000000, by decide⟩⟩ }

/-- Two tenants are denied the same connector at the same moment. -/
def deniedTogether : List (ConnectorCall Nat) :=
  [.execute allowing (deniedRequest "tenant-a"), .execute allowing (deniedRequest "tenant-b")]

/-- The denial of the second tenant replaces the one of the first tenant. -/
theorem connectorRun_not_accounted :
    let machine := accountedMachine MemoryPersistenceStore.backend tenths
    let initial := ConnectorState.initial MemoryPersistenceStore.backend
    ¬ Accounted MemoryPersistenceStore.backend (run machine initial deniedTogether)
      (responses machine initial deniedTogether) := by
  intro machine initial accounted
  have counted := accounted.counts "enterprise_connector_denials" (by decide) "tenant-a"
  have stored : (MemoryPersistenceStore.backend.listTenant
      (run machine initial deniedTogether).persistence "enterprise_connector_denials"
        "tenant-a").length = 0 := by
    decide
  have failed : accountsFor (responses machine initial deniedTogether)
      "enterprise_connector_denials" "tenant-a" = 1 := by
    decide
  rw [stored, failed] at counted
  cases counted

/-- A library whose times are whole seconds. -/
def wholeSeconds : Library Nat :=
  { tenths with
    timestamp := fun now => toString ((now.wall.micros : Int) / 1000000 - 62135596800) ++ ".0" }

/-- A request of a tenant that has not enabled the connector, with its own id and time. -/
def refusedRequest (tenantId executionId : String) (deniedAt : UtcTime) : ConnectorRequest Nat :=
  { deniedRequest tenantId with executionId, deniedAt }

/-- An execution that returns is followed by denials of two other tenants at different times. -/
def accountedRun : List (ConnectorCall Nat) :=
  enabledConnector ++ [.execute allowing readRequest,
    .execute allowing (refusedRequest "tenant-b" "connector-exec-2" .first),
    .execute allowing (refusedRequest "tenant-c" "connector-exec-3" readRequest.deniedAt)]

theorem accountedRun_fresh : Guarded (accountedMachine MemoryPersistenceStore.backend wholeSeconds)
    (FreshExecution MemoryPersistenceStore.backend)
    (ConnectorState.initial MemoryPersistenceStore.backend) accountedRun :=
  ⟨trivial, trivial, trivial, rfl, Option.isNone_iff_eq_none.mp (by decide +kernel),
    Option.isNone_iff_eq_none.mp (by decide +kernel), trivial⟩

theorem accountedRun_unused : Guarded (accountedMachine MemoryPersistenceStore.backend wholeSeconds)
    (UnusedDenialKey MemoryPersistenceStore.backend wholeSeconds)
    (ConnectorState.initial MemoryPersistenceStore.backend) accountedRun :=
  ⟨trivial, trivial, trivial, fun _ _ => rfl, fun _ _ =>
    Option.isNone_iff_eq_none.mp (by decide +kernel),
    fun _ _ => Option.isNone_iff_eq_none.mp (by decide +kernel), trivial⟩

/-- The execution and both denials are accounted. -/
theorem connectorRun_accounted_denied :
    let machine := accountedMachine MemoryPersistenceStore.backend wholeSeconds
    let initial := ConnectorState.initial MemoryPersistenceStore.backend
    ∀ done rest, accountedRun = done ++ rest →
      Accounted MemoryPersistenceStore.backend (run machine initial done)
        (responses machine initial done) :=
  (connectorRun_accounted_iff wholeSeconds MemoryPersistenceStore.backend_lawful accountedRun
    accountedRun_fresh).mpr accountedRun_unused

end AgentFabric.Connectors
