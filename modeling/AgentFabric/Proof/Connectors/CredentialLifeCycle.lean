import AgentFabric.Proof.Connectors.ConnectorGate

namespace AgentFabric.Connectors
open Persistence Transition CredentialReference CredentialVault MemoryPersistenceStore

section Reference

variable {State Number : Type} {store : PersistenceStore State} (library : Library Number)
  {row : Json}

theorem textIfTrue_of_text {key text : String} (present : row.field? key = some (.str text))
    (filled : text ≠ "") : library.textIfTrue row key = some text := by
  rw [Library.textIfTrue, present]
  simp [Json.truthy, filled, Interpreter.str]

/-- A stored time is read back. -/
theorem timeOrNone_of_optionalText {key : String} {time : Option DateTime}
    (present : row.field? key = some (Json.optionalText (time.map DateTime.isoformat))) :
    library.timeOrNone row key = .ok time := by
  unfold Library.timeOrNone
  cases time with
  | none =>
      have unread : library.textIfTrue row key = none := by
        rw [Library.textIfTrue, present]
        rfl
      rw [unread]
  | some time =>
      rw [textIfTrue_of_text library present (DateTime.isoformat_ne_empty time)]
      simp [Library.readTime, DateTime.fromisoformat_isoformat, Except.map]

/-- The stored record of a credential is read back. -/
theorem CredentialReference.fromDict_of_same {reference : CredentialReference}
    (same : row.Same reference.asDict) (now : UtcTime) :
    fromDict library now row = .ok reference := by
  have text (key value : String) (present : reference.asDict.field? key = some (.str value)) :
      row.field? key = some (.str value) := Json.field?_of_same same present trivial
  have version : row.field? "version" = some (.int reference.version) :=
    Json.field?_of_same same rfl trivial
  have created : library.timeOrNow row "created_at" now = .ok reference.createdAt := by
    unfold Library.timeOrNow
    rw [textIfTrue_of_text library (text "created_at" _ rfl)
      (DateTime.isoformat_ne_empty reference.createdAt)]
    simp [Library.readTime, DateTime.fromisoformat_isoformat]
  have rotated : library.timeOrNone row "rotated_at" = .ok reference.rotatedAt :=
    timeOrNone_of_optionalText library (Json.field?_of_same same rfl (Json.optionalText_isAtom _))
  have revoked : library.timeOrNone row "revoked_at" = .ok reference.revokedAt :=
    timeOrNone_of_optionalText library (Json.field?_of_same same rfl (Json.optionalText_isAtom _))
  unfold fromDict
  simp only [Library.textItem, Library.intOr, Library.textOr, text "credential_id" _ rfl,
    text "tenant_id" _ rfl, text "connector_id" _ rfl, text "credential_type" _ rfl,
    text "created_by" _ rfl, text "status" _ rfl, version, created, rotated, revoked]
  rfl

end Reference

/-- The calls of a vault that keeps its secrets itself. -/
inductive VaultCall where
  | create (tenantId connectorId credentialType createdBy secret credentialId : String)
      (now : UtcTime)
  | rotate (tenantId credentialId secret : String) (now : UtcTime)
  | revoke (tenantId credentialId : String) (now : UtcTime)
  | resolve (tenantId credentialId : String) (now : UtcTime)

/-- What a call has done. -/
inductive VaultEvent where
  | created (tenantId credentialId secret : String)
  | rotated (credentialId secret : String)
  | revoked (credentialId : String)
  | resolved (tenantId credentialId secret : String)
  | refused

namespace VaultEvent

/-- The secret that a call gives to a credential. -/
def secretOf (credentialId : String) : VaultEvent → Option String
  | .created _ other secret => if other = credentialId then some secret else none
  | .rotated other secret => if other = credentialId then some secret else none
  | _ => none

/-- The call is not about another credential. -/
structure OnlyAbout (credentialId : String) (event : VaultEvent) : Prop where
  secretOf : ∀ other, other ≠ credentialId → event.secretOf other = none
  revoked : ∀ other, other ≠ credentialId → event ≠ .revoked other

end VaultEvent

/-- The secret of the latest creation or rotation of a credential. -/
def latestSecret (past : List VaultEvent) (credentialId : String) : Option String :=
  (past.filterMap (VaultEvent.secretOf credentialId)).getLast?

section LifeCycle

variable {State Number : Type} (store : PersistenceStore State) (library : Library Number)

/-- The vault answers a call with what the call has done. -/
def vaultMachine : Machine (ConnectorState State Number) VaultCall VaultEvent := fun state call =>
  match call with
  | .create tenantId connectorId credentialType createdBy secret credentialId now =>
      let (answer, after) := (create store none tenantId connectorId credentialType
        createdBy secret credentialId now).perform state
      (if answer.isOk then .created tenantId credentialId secret else .refused, after)
  | .rotate tenantId credentialId secret now =>
      let (answer, after) :=
        (CredentialVault.rotate store library none tenantId credentialId secret now).perform state
      (if answer.isOk then .rotated credentialId secret else .refused, after)
  | .revoke tenantId credentialId now =>
      let (answer, after) :=
        (CredentialVault.revoke store library none tenantId credentialId now).perform state
      (if answer.isOk then .revoked credentialId else .refused, after)
  | .resolve tenantId credentialId now =>
      match resolve store library none state tenantId credentialId now with
      | .ok secret => (.resolved tenantId credentialId secret, state)
      | .error _ => (.refused, state)

variable (state : ConnectorState State Number) (past : List VaultEvent)

/-- A secret is only resolved by the tenant that created its credential, while the credential was
never revoked, and it is the latest one. -/
def LifeCycle : Prop :=
  ∀ tenantId credentialId now secret,
    resolve store library none state tenantId credentialId now = .ok secret →
      (∃ first, .created tenantId credentialId first ∈ past) ∧ .revoked credentialId ∉ past ∧
        latestSecret past credentialId = some secret

/-- The id of a new credential is not used. -/
def FreshCredential : VaultCall → Prop
  | .create _ _ _ _ _ credentialId _ =>
      store.get state.persistence "connector_credentials" credentialId = none
  | _ => True

/-- A tenant does not rotate a credential of its own that is revoked. -/
def KeepsRevoked : VaultCall → Prop
  | .rotate tenantId credentialId _ now => ∀ reference,
      CredentialVault.get store library state.persistence tenantId credentialId now =
        .ok reference → reference.status ≠ "revoked"
  | _ => True

/-- The credential that is stored under an id. -/
def held (credentialId : String) : Option CredentialReference :=
  (store.get state.persistence "connector_credentials" credentialId).bind fun row =>
    (fromDict library .first row).toOption

/-- Every credential was created, is active with its latest secret or was revoked. -/
structure VaultKept (state : ConnectorState State Number) (past : List VaultEvent) : Prop where
  readable : ∀ credentialId row,
    store.get state.persistence "connector_credentials" credentialId = some row →
      ∃ reference : CredentialReference, row.Same reference.asDict
  absent : ∀ credentialId, held store library state credentialId = none →
    .revoked credentialId ∉ past
  stored : ∀ credentialId reference, held store library state credentialId = some reference →
    reference.credentialId = credentialId ∧
      (∃ first, .created reference.tenantId credentialId first ∈ past) ∧
        ((reference.status = "active" ∧ ∃ secret,
            state.localSecrets.get? credentialId = some secret ∧
              latestSecret past credentialId = some secret) ∨
          (reference.status = "revoked" ∧ .revoked credentialId ∈ past))

/-- No active credential was revoked. -/
def NeverRevived : Prop :=
  ∀ credentialId reference, held store library state credentialId = some reference →
    reference.status = "active" → .revoked credentialId ∉ past

section Step

variable {store library} {event : VaultEvent}

theorem latestSecret_append_self (past : List VaultEvent)
    {credentialId secret : String} (given : event.secretOf credentialId = some secret) :
    latestSecret (past ++ [event]) credentialId = some secret := by
  rw [latestSecret, List.filterMap_append, List.filterMap_cons_some given, List.filterMap_nil,
    List.getLast?_concat]

variable {credentialId : String}

theorem latestSecret_append_of_none (past : List VaultEvent)
    (silent : event.secretOf credentialId = none) :
    latestSecret (past ++ [event]) credentialId = latestSecret past credentialId := by
  rw [latestSecret, List.filterMap_append, List.filterMap_cons_none silent, List.filterMap_nil,
    List.append_nil, latestSecret]

variable {state : ConnectorState State Number} {past : List VaultEvent}

section

variable (kept : VaultKept store library state past)
include kept

/-- A tenant gets the stored credential if it is its own. -/
theorem get_eq_ok_iff (tenantId credentialId : String) (now : UtcTime)
    (reference : CredentialReference) :
    CredentialVault.get store library state.persistence tenantId credentialId now = .ok reference ↔
      held store library state credentialId = some reference ∧ reference.tenantId = tenantId := by
  rw [CredentialVault.get, held]
  cases found : store.get state.persistence "connector_credentials" credentialId with
  | none => simp
  | some row =>
      obtain ⟨stored, same⟩ := kept.readable credentialId row found
      simp only [fromDict_of_same library same, bind, Except.bind,
        Option.bind_some, Except.toOption, Option.some.injEq]
      by_cases own : stored.tenantId = tenantId
      · rw [if_neg (not_not_intro own), Except.ok.injEq]
        constructor
        · rintro rfl
          exact ⟨rfl, own⟩
        · exact And.left
      · rw [if_pos own]
        constructor
        · intro raised
          cases raised
        · rintro ⟨rfl, same⟩
          exact absurd same own

/-- A tenant resolves the secrets of its own active credentials. -/
theorem resolve_eq_ok_iff (tenantId credentialId : String) (now : UtcTime) (secret : String) :
    resolve store library none state tenantId credentialId now = .ok secret ↔
      ∃ reference, held store library state credentialId = some reference ∧
        reference.tenantId = tenantId ∧ reference.status = "active" ∧
          state.localSecrets.get? credentialId = some secret := by
  rw [resolve, bind_eq_ok_iff]
  constructor
  · rintro ⟨reference, found, resolved⟩
    obtain ⟨stored, own⟩ := (get_eq_ok_iff kept _ _ _ _).mp found
    obtain ⟨named, _⟩ := kept.stored credentialId reference stored
    by_cases active : reference.status = "active"
    · rw [if_neg (not_not_intro active), named] at resolved
      refine ⟨reference, stored, own, active, ?_⟩
      cases material : state.localSecrets.get? credentialId with
      | none =>
          rw [material] at resolved
          cases resolved
      | some text =>
          rw [material] at resolved
          rw [Except.ok.inj resolved]
    · rw [if_pos active] at resolved
      cases resolved
  · rintro ⟨reference, stored, own, active, material⟩
    obtain ⟨named, _⟩ := kept.stored credentialId reference stored
    refine ⟨reference, (get_eq_ok_iff kept _ _ _ _).mpr ⟨stored, own⟩, ?_⟩
    rw [if_neg (not_not_intro active), named, material]

/-- The life cycle is kept exactly when no active credential was revoked. -/
theorem lifeCycle_iff :
    LifeCycle store library state past ↔ NeverRevived store library state past := by
  constructor
  · intro lifeCycle credentialId reference stored active
    obtain ⟨_, _, ⟨_, secret, material, _⟩ | ⟨revoked, _⟩⟩ :=
      kept.stored credentialId reference stored
    · exact (lifeCycle reference.tenantId credentialId .first secret
        ((resolve_eq_ok_iff kept _ _ _ _).mpr ⟨reference, stored, rfl, active, material⟩)).2.1
    · rw [active] at revoked
      exact absurd revoked (by decide)
  · intro neverRevived tenantId credentialId now secret resolved
    obtain ⟨reference, stored, rfl, active, material⟩ :=
      (resolve_eq_ok_iff kept _ _ _ _).mp resolved
    obtain ⟨_, created, ⟨_, latest, same, given⟩ | ⟨revoked, _⟩⟩ :=
      kept.stored credentialId reference stored
    · obtain rfl := Option.some.inj (material.symm.trans same)
      exact ⟨created, neverRevived credentialId reference stored active, given⟩
    · rw [active] at revoked
      exact absurd revoked (by decide)

end

variable {reference : CredentialReference}

/-- A written credential is held, and the others stay as they are. -/
theorem held_put (lawful : store.Lawful) {state after : ConnectorState State Number}
    (written : store.put state.persistence "connector_credentials" credentialId reference.asDict =
      .ok after.persistence) (other : String) :
    held store library after other =
      if other = credentialId then some reference else held store library state other := by
  unfold held
  by_cases own : other = credentialId
  · subst own
    obtain ⟨row, found, same⟩ := lawful.get_put_self _ _ _ _ _ written
    rw [if_pos rfl, found]
    simp [fromDict_of_same library same, Except.toOption]
  · rw [if_neg own, lawful.get_put_of_ne _ _ _ _ _ _ _ written fun same => own (Prod.mk.inj same).2]

/-- A call that is about one credential and writes it keeps the others. -/
theorem VaultKept.put (lawful : store.Lawful) {state after : ConnectorState State Number}
    (kept : VaultKept store library state past)
    (reference : CredentialReference)
    (written : store.put state.persistence "connector_credentials" credentialId reference.asDict =
      .ok after.persistence) (named : reference.credentialId = credentialId)
    (about : event.OnlyAbout credentialId)
    (secrets : ∀ other, other ≠ credentialId →
      after.localSecrets.get? other = state.localSecrets.get? other)
    (created : ∃ first, .created reference.tenantId credentialId first ∈ past ++ [event])
    (status : (reference.status = "active" ∧ ∃ secret,
        after.localSecrets.get? credentialId = some secret ∧
          event.secretOf credentialId = some secret) ∨
      (reference.status = "revoked" ∧ event = .revoked credentialId)) :
    VaultKept store library after (past ++ [event]) := by
  have held_after (other : String) : held store library after other =
      if other = credentialId then some reference else held store library state other :=
    held_put lawful written other
  refine ⟨?_, ?_, ?_⟩
  · intro other row found
    by_cases own : other = credentialId
    · subst own
      obtain ⟨read, present, same⟩ := lawful.get_put_self _ _ _ _ _ written
      obtain rfl := Option.some.inj (present.symm.trans found)
      exact ⟨reference, same⟩
    · rw [lawful.get_put_of_ne _ _ _ _ _ _ _ written fun same => own (Prod.mk.inj same).2] at found
      exact kept.readable other row found
  · intro other missing member
    rw [held_after] at missing
    split at missing
    · cases missing
    · rename_i own
      rcases List.mem_append.mp member with old | new
      · exact kept.absent other missing old
      · exact about.revoked other own (List.mem_singleton.mp new).symm
  · intro other stored found
    rw [held_after] at found
    split at found
    · rename_i own
      obtain rfl := Option.some.inj found
      subst own
      refine ⟨named, created, ?_⟩
      rcases status with ⟨active, secret, material, given⟩ | ⟨revoked, same⟩
      · exact .inl ⟨active, secret, material, latestSecret_append_self past given⟩
      · exact .inr ⟨revoked, List.mem_append_right _ (same ▸ List.mem_singleton_self _)⟩
    · rename_i own
      obtain ⟨sameName, ⟨first, earlier⟩, status⟩ := kept.stored other stored found
      refine ⟨sameName, ⟨first, List.mem_append_left _ earlier⟩, ?_⟩
      rcases status with ⟨active, secret, material, given⟩ | ⟨revoked, before⟩
      · refine .inl ⟨active, secret, (secrets other own).trans material, ?_⟩
        rw [latestSecret_append_of_none past (about.secretOf other own)]
        exact given
      · exact .inr ⟨revoked, List.mem_append_left _ before⟩

/-- A written credential is revived exactly when it is active and was revoked. -/
theorem neverRevived_put_iff (lawful : store.Lawful) {state after : ConnectorState State Number}
    (never : NeverRevived store library state past)
    (written : store.put state.persistence "connector_credentials" credentialId reference.asDict =
      .ok after.persistence) (about : event.OnlyAbout credentialId) :
    NeverRevived store library after (past ++ [event]) ↔
      (reference.status = "active" → .revoked credentialId ∉ past ++ [event]) := by
  have held_after (other : String) : held store library after other =
      if other = credentialId then some reference else held store library state other :=
    held_put lawful written other
  constructor
  · intro later active
    exact later credentialId reference (by rw [held_after, if_pos rfl]) active
  · intro own other stored found active
    rw [held_after] at found
    split at found
    · rename_i same
      obtain rfl := Option.some.inj found
      exact same ▸ own active
    · rename_i different
      intro member
      rcases List.mem_append.mp member with old | new
      · exact never other stored found active old
      · exact about.revoked other different (List.mem_singleton.mp new).symm

/-- A call without effect keeps the credentials. -/
theorem VaultKept.append (kept : VaultKept store library state past) (event : VaultEvent)
    (silent : ∀ credentialId, event.secretOf credentialId = none)
    (other : ∀ credentialId, event ≠ .revoked credentialId) :
    VaultKept store library state (past ++ [event]) ∧
      (NeverRevived store library state past →
        NeverRevived store library state (past ++ [event])) := by
  have revoked (credentialId : String) :
      .revoked credentialId ∈ past ++ [event] ↔ .revoked credentialId ∈ past := by
    rw [List.mem_append, List.mem_singleton]
    exact or_iff_left fun same => other credentialId same.symm
  refine ⟨⟨kept.readable, ?_, ?_⟩, ?_⟩
  · intro credentialId missing
    rw [revoked]
    exact kept.absent credentialId missing
  · intro credentialId reference found
    obtain ⟨named, ⟨first, created⟩, status⟩ := kept.stored credentialId reference found
    rw [revoked, latestSecret_append_of_none past (silent credentialId)]
    exact ⟨named, ⟨first, List.mem_append_left _ created⟩, status⟩
  · intro never credentialId reference found active
    rw [revoked]
    exact never credentialId reference found active

theorem onlyAbout_created (tenantId credentialId secret : String) :
    (VaultEvent.created tenantId credentialId secret).OnlyAbout credentialId := by
  refine ⟨fun other different => if_neg different.symm, ?_⟩
  rintro other _ ⟨⟩

theorem onlyAbout_rotated (credentialId secret : String) :
    (VaultEvent.rotated credentialId secret).OnlyAbout credentialId := by
  refine ⟨fun other different => if_neg different.symm, ?_⟩
  rintro other _ ⟨⟩

theorem onlyAbout_revoked (credentialId : String) :
    (VaultEvent.revoked credentialId).OnlyAbout credentialId := by
  refine ⟨fun _ _ => rfl, ?_⟩
  rintro other different ⟨⟩
  exact different rfl

/-- A refused call keeps the credentials. -/
theorem VaultKept.refused (kept : VaultKept store library state past)
    (never : NeverRevived store library state past) :
    VaultKept store library state (past ++ [.refused]) ∧
      NeverRevived store library state (past ++ [.refused]) := by
  obtain ⟨next, same⟩ := kept.append .refused (fun _ => rfl) (fun _ equal => by cases equal)
  exact ⟨next, same never⟩

section

variable (lawful : store.Lawful)
include lawful

section

variable (kept : VaultKept store library state past)
include kept

/-- A creation with a new id keeps the life cycle. -/
theorem create_step (never : NeverRevived store library state past)
    (tenantId connectorId credentialType createdBy secret credentialId : String) (now : UtcTime)
    (fresh : store.get state.persistence "connector_credentials" credentialId = none) :
    let answer := vaultMachine store library state
      (.create tenantId connectorId credentialType createdBy secret credentialId now)
    VaultKept store library answer.2 (past ++ [answer.1]) ∧
      NeverRevived store library answer.2 (past ++ [answer.1]) := by
  dsimp only
  rw [vaultMachine]
  by_cases empty : secret = ""
  · rw [create, if_pos empty]
    exact kept.refused never
  · let reference : CredentialReference := {
      tenantId, connectorId, credentialType, createdBy, credentialId, version := 1
      status := "active", createdAt := now.toDateTime, rotatedAt := none, revokedAt := none }
    let kept_secret : ConnectorState State Number :=
      { state with localSecrets := state.localSecrets.set credentialId secret }
    obtain ⟨next, written, recorded⟩ := perform_record lawful "connector_credentials" credentialId
      reference.asDict kept_secret
    have performed : (create store none tenantId connectorId credentialType
        createdBy secret credentialId now).perform state =
          (.ok reference, { kept_secret with persistence := next }) := by
      rw [create, if_neg empty]
      have stored : (storeSecret none reference secret).perform state = (.ok (), kept_secret) := rfl
      exact (Effect.perform_bind_ok stored).trans (Effect.perform_bind_ok recorded)
    rw [performed]
    simp only [Except.isOk, Except.toBool, if_true]
    have about := onlyAbout_created tenantId credentialId secret
    have missing : held store library state credentialId = none := by
      rw [held, fresh]
      rfl
    constructor
    · apply kept.put lawful reference written rfl about
      · exact fun other different => Dict.get?_set_of_ne _ _ different
      · exact ⟨secret, List.mem_append_right _ (.head _)⟩
      · exact .inl ⟨rfl, secret, Dict.get?_set_self _ _ _, if_pos rfl⟩
    · apply (neverRevived_put_iff lawful never written about).mpr
      intro _ member
      rcases List.mem_append.mp member with old | new
      · exact kept.absent credentialId missing old
      · cases List.mem_singleton.mp new

/-- A rotation keeps the life cycle exactly when the credential of the tenant is not revoked. -/
theorem rotate_step (never : NeverRevived store library state past)
    (tenantId credentialId secret : String) (now : UtcTime) :
    let answer := vaultMachine store library state (.rotate tenantId credentialId secret now)
    VaultKept store library answer.2 (past ++ [answer.1]) ∧
      (NeverRevived store library answer.2 (past ++ [answer.1]) ↔
        KeepsRevoked store library state (.rotate tenantId credentialId secret now)) := by
  dsimp only
  rw [vaultMachine, KeepsRevoked]
  cases read : CredentialVault.get store library state.persistence tenantId credentialId now with
  | error error =>
      have performed : (CredentialVault.rotate store library none tenantId credentialId secret
          now).perform state = (.error error, state) := by
        rw [CredentialVault.rotate, Effect.perform_bind_ok (Effect.perform_get state)]
        apply Effect.perform_bind_error
        rw [Effect.perform_ofExcept, read]
      rw [performed]
      obtain ⟨next, still⟩ := kept.refused never
      refine ⟨next, iff_of_true still ?_⟩
      rintro reference ⟨⟩
  | ok stored =>
      obtain ⟨found, own⟩ := (get_eq_ok_iff kept _ _ _ _).mp read
      obtain ⟨named, ⟨first, created⟩, status⟩ := kept.stored credentialId stored found
      let reference : CredentialReference := { stored with
        version := stored.version + 1, status := "active", rotatedAt := some now.toDateTime }
      let kept_secret : ConnectorState State Number :=
        { state with localSecrets := state.localSecrets.set reference.credentialId secret }
      obtain ⟨next, written, recorded⟩ := perform_record lawful "connector_credentials"
        credentialId reference.asDict kept_secret
      have performed : (CredentialVault.rotate store library none tenantId credentialId secret
          now).perform state = (.ok reference, { kept_secret with persistence := next }) := by
        rw [CredentialVault.rotate, Effect.perform_bind_ok (Effect.perform_get state)]
        have returned : (Effect.ofExcept (CredentialVault.get store library state.persistence
            tenantId credentialId now) : Effect (ConnectorState State Number) _).perform state =
              (.ok stored, state) := by
          rw [Effect.perform_ofExcept, read]
        have secretStored : (storeSecret none reference secret).perform state =
            (.ok (), kept_secret) := rfl
        exact (Effect.perform_bind_ok returned).trans
          ((Effect.perform_bind_ok secretStored).trans (Effect.perform_bind_ok recorded))
      rw [performed]
      simp only [Except.isOk, Except.toBool, if_true]
      have about := onlyAbout_rotated credentialId secret
      have material : reference.credentialId = credentialId := named
      constructor
      · apply kept.put lawful reference written named about
        · intro other different
          exact Dict.get?_set_of_ne _ _ (material ▸ different)
        · exact ⟨first, List.mem_append_left _ created⟩
        · refine .inl ⟨rfl, secret, ?_, if_pos rfl⟩
          change (state.localSecrets.set reference.credentialId secret).get? credentialId = _
          rw [material, Dict.get?_set_self]
      · rw [neverRevived_put_iff lawful never written about]
        constructor
        · rintro fresh _ ⟨⟩ revoked
          rcases status with ⟨active, _⟩ | ⟨_, before⟩
          · rw [active] at revoked
            exact absurd revoked (by decide)
          · exact fresh rfl (List.mem_append_left _ before)
        · intro unrevoked _ member
          rcases List.mem_append.mp member with old | new
          · rcases status with ⟨active, _⟩ | ⟨revoked, _⟩
            · exact never credentialId stored found active old
            · exact unrevoked stored rfl revoked
          · cases List.mem_singleton.mp new

/-- A revocation keeps the life cycle. -/
theorem revoke_step (never : NeverRevived store library state past) (tenantId credentialId : String)
    (now : UtcTime) :
    let answer := vaultMachine store library state (.revoke tenantId credentialId now)
    VaultKept store library answer.2 (past ++ [answer.1]) ∧
      NeverRevived store library answer.2 (past ++ [answer.1]) := by
  dsimp only
  rw [vaultMachine]
  cases read : CredentialVault.get store library state.persistence tenantId credentialId now with
  | error error =>
      have performed : (CredentialVault.revoke store library none tenantId credentialId
          now).perform state = (.error error, state) := by
        rw [CredentialVault.revoke, Effect.perform_bind_ok (Effect.perform_get state)]
        apply Effect.perform_bind_error
        rw [Effect.perform_ofExcept, read]
      rw [performed]
      exact kept.refused never
  | ok stored =>
      obtain ⟨found, own⟩ := (get_eq_ok_iff kept _ _ _ _).mp read
      obtain ⟨named, ⟨first, created⟩, status⟩ := kept.stored credentialId stored found
      let reference : CredentialReference :=
        { stored with status := "revoked", revokedAt := some now.toDateTime }
      let forgotten : ConnectorState State Number :=
        { state with localSecrets := state.localSecrets.erase reference.credentialId }
      obtain ⟨next, written, recorded⟩ := perform_record lawful "connector_credentials"
        credentialId reference.asDict forgotten
      have performed : (CredentialVault.revoke store library none tenantId credentialId
          now).perform state = (.ok reference, { forgotten with persistence := next }) := by
        rw [CredentialVault.revoke, Effect.perform_bind_ok (Effect.perform_get state)]
        have returned : (Effect.ofExcept (CredentialVault.get store library state.persistence
            tenantId credentialId now) : Effect (ConnectorState State Number) _).perform state =
              (.ok stored, state) := by
          rw [Effect.perform_ofExcept, read]
        have secretGone : (forget none reference).perform state = (.ok (), forgotten) := rfl
        exact (Effect.perform_bind_ok returned).trans
          ((Effect.perform_bind_ok secretGone).trans (Effect.perform_bind_ok recorded))
      rw [performed]
      simp only [Except.isOk, Except.toBool, if_true]
      have about := onlyAbout_revoked credentialId
      have material : reference.credentialId = credentialId := named
      constructor
      · apply kept.put lawful reference written named about
        · intro other different
          exact (Dict.get?_erase_of_ne _ (material ▸ different))
        · exact ⟨first, List.mem_append_left _ created⟩
        · exact .inr ⟨rfl, rfl⟩
      · apply (neverRevived_put_iff lawful never written about).mpr
        intro active
        have different : "revoked" ≠ "active" := by decide
        exact absurd active different

/-- One call keeps the life cycle exactly when it rotates no revoked credential of its tenant. -/
theorem vaultMachine_step (lifeCycle : LifeCycle store library state past) (call : VaultCall)
    (fresh : FreshCredential store state call) :
    let answer := vaultMachine store library state call
    VaultKept store library answer.2 (past ++ [answer.1]) ∧
      (LifeCycle store library answer.2 (past ++ [answer.1]) ↔
        KeepsRevoked store library state call) := by
  have never := (lifeCycle_iff kept).mp lifeCycle
  have exact (next : VaultKept store library (vaultMachine store library state call).2
      (past ++ [(vaultMachine store library state call).1]) ∧
        (NeverRevived store library (vaultMachine store library state call).2
          (past ++ [(vaultMachine store library state call).1]) ↔
            KeepsRevoked store library state call)) :
      VaultKept store library (vaultMachine store library state call).2
        (past ++ [(vaultMachine store library state call).1]) ∧
          (LifeCycle store library (vaultMachine store library state call).2
            (past ++ [(vaultMachine store library state call).1]) ↔
              KeepsRevoked store library state call) :=
    ⟨next.1, (lifeCycle_iff next.1).trans next.2⟩
  apply exact
  cases call with
  | create tenantId connectorId credentialType createdBy secret credentialId now =>
      obtain ⟨next, still⟩ := create_step lawful kept never tenantId connectorId credentialType
        createdBy secret credentialId now fresh
      exact ⟨next, iff_of_true still trivial⟩
  | rotate tenantId credentialId secret now =>
      exact rotate_step lawful kept never tenantId credentialId secret now
  | revoke tenantId credentialId now =>
      obtain ⟨next, still⟩ := revoke_step lawful kept never tenantId credentialId now
      exact ⟨next, iff_of_true still trivial⟩
  | resolve tenantId credentialId now =>
      rw [vaultMachine]
      split
      · rename_i secret _
        obtain ⟨next, same⟩ := kept.append (.resolved tenantId credentialId secret) (fun _ => rfl)
          (fun _ equal => by cases equal)
        exact ⟨next, iff_of_true (same never) trivial⟩
      · obtain ⟨next, still⟩ := kept.refused never
        exact ⟨next, iff_of_true still trivial⟩

end

end

/-- In every run whose credential ids are new, the life cycle is kept exactly when no tenant rotates
a revoked credential of its own. -/
theorem vaultRun_lifeCycle_iff (lawful : store.Lawful) (calls : List VaultCall)
    (fresh : Guarded (vaultMachine store library) (FreshCredential store)
      (ConnectorState.initial store) calls) :
    (∀ done rest, calls = done ++ rest →
      LifeCycle store library (run (vaultMachine store library) (ConnectorState.initial store) done)
        (responses (vaultMachine store library) (ConnectorState.initial store) done)) ↔
    Guarded (vaultMachine store library) (KeepsRevoked store library)
      (ConnectorState.initial store) calls := by
  have missing (credentialId : String) : held store library
      (ConnectorState.initial store : ConnectorState State Number) credentialId = none := by
    rw [held, ConnectorState.initial, lawful.get_initial]
    rfl
  have kept : VaultKept store library
      (ConnectorState.initial store : ConnectorState State Number) [] := by
    refine ⟨?_, by simp, ?_⟩
    · intro credentialId row found
      cases (lawful.get_initial _ _).symm.trans found
    · intro credentialId reference found
      cases (missing credentialId).symm.trans found
  have lifeCycle : LifeCycle store library
      (ConnectorState.initial store : ConnectorState State Number) [] := by
    apply (lifeCycle_iff kept).mpr
    intro credentialId reference found
    cases (missing credentialId).symm.trans found
  have parts := forall_parts_iff_guarded_of_guarded (vaultMachine store library)
    (FreshCredential store) (KeepsRevoked store library) (VaultKept store library)
    (LifeCycle store library)
    (fun _ _ call kept lifeCycle fresh => vaultMachine_step lawful kept lifeCycle call fresh)
    (ConnectorState.initial store) [] calls kept lifeCycle fresh
  simpa only [List.nil_append] using parts

end Step

end LifeCycle

/-- A credential is created, revoked and then rotated. -/
def revivedCredential : List VaultCall :=
  [.create "tenant-a" "github" "oauth" "owner-a" "development" "credential-1" .first,
    .revoke "tenant-a" "credential-1" .first, .rotate "tenant-a" "credential-1" "rotated" .first]

/-- A revoked credential resolves again after a rotation. -/
theorem vaultRun_not_lifeCycle :
    let machine := vaultMachine backend tenths
    let initial := ConnectorState.initial backend
    ¬ LifeCycle backend tenths (run machine initial revivedCredential)
      (responses machine initial revivedCredential) := by
  intro machine initial lifeCycle
  have resolved : resolve backend tenths none
      (run machine initial revivedCredential) "tenant-a" "credential-1" .first = .ok "rotated" := by
    rfl
  obtain ⟨_, unrevoked, _⟩ := lifeCycle "tenant-a" "credential-1" .first "rotated" resolved
  apply unrevoked
  have events : responses machine initial revivedCredential =
      [.created "tenant-a" "credential-1" "development", .revoked "credential-1",
        .rotated "credential-1" "rotated"] := rfl
  rw [events]
  exact .tail _ (.head _)

/-- A credential that is created and rotated keeps its life cycle. -/
theorem vaultRun_lifeCycle_rotated :
    let machine := vaultMachine backend tenths
    let initial := ConnectorState.initial backend
    let calls : List VaultCall :=
      [.create "tenant-a" "github" "oauth" "owner-a" "development" "credential-1" .first,
        .rotate "tenant-a" "credential-1" "rotated" .first]
    (∀ done rest, calls = done ++ rest →
      LifeCycle backend tenths (run machine initial done) (responses machine initial done)) ↔
    Guarded machine (KeepsRevoked backend tenths) initial calls :=
  vaultRun_lifeCycle_iff backend_lawful _ ⟨rfl, trivial, trivial⟩

end AgentFabric.Connectors
