import AgentFabric.Proof.Connectors.ConnectorGate

namespace AgentFabric.Connectors
open Persistence Transition Sorting
open ConnectorManifest ConnectorRegistry Effect MemoryPersistenceStore

section Reading

variable {Number : Type} (library : Library Number)

/-- A document that agrees with a list of texts is the list. -/
theorem eq_of_same_texts (texts : List String) {row : Json}
    (same : row.sortKeys = (Json.arr (texts.map .str)).sortKeys) : row = .arr (texts.map .str) := by
  cases row with
  | arr items =>
      simp only [Json.sortKeys, Json.arr.injEq, Json.sortItems_eq_map] at same ⊢
      induction texts generalizing items with
      | nil => simpa using same
      | cons text rest ih =>
          cases items with
          | nil => cases same
          | cons item others =>
              simp only [List.map_cons, List.cons.injEq] at same ⊢
              exact ⟨Json.eq_of_same_atom trivial same.1, ih others same.2⟩
  | _ => simp [Json.sortKeys] at same

variable {row document : Json}

theorem textsOr_of_same (same : row.Same document) (key : String)
    (texts : List String) (present : document.field? key = some (.arr (texts.map .str)))
    (default : List String) : library.textsOr row key default = .ok texts := by
  have fields : (row.field? key).map Json.sortKeys = some (Json.arr (texts.map .str)).sortKeys := by
    rw [← Json.field?_sortKeys, same, Json.field?_sortKeys, present, Option.map_some]
  obtain ⟨stored, found, equal⟩ := Option.map_eq_some_iff.mp fields
  rw [Library.textsOr, found, eq_of_same_texts texts equal]
  show Except.ok ((texts.map Json.str).map library.interpreter.str) = .ok texts
  rw [List.map_map]
  exact congrArg Except.ok (List.map_id texts)

/-- A loop that assigns values to new keys appends their items. -/
theorem foldlM_set {Item Key Value : Type} [DecidableEq Key]
    (step : Dict Key Value → Item → Except PyError (Dict Key Value)) (key : Item → Key)
    (value : Item → Value) (items : List Item) (dict : Dict Key Value)
    (sets : ∀ dict : Dict Key Value, ∀ item ∈ items, key item ∉ dict.items.map Prod.fst →
      step dict item = .ok (dict.set (key item) (value item)))
    (distinct : (dict.items.map Prod.fst ++ items.map key).Nodup) :
    ∃ final, items.foldlM step dict = .ok final ∧
      final.items = dict.items ++ items.map fun item => (key item, value item) := by
  induction items generalizing dict with
  | nil => exact ⟨dict, rfl, (List.append_nil _).symm⟩
  | cons item rest ih =>
      have fresh : key item ∉ dict.items.map Prod.fst := fun member =>
        List.disjoint_of_nodup_append distinct member (.head _)
      have appended := dict.set_items_of_absent (key item) (value item) fresh
      obtain ⟨final, returned, listed⟩ := ih (dict.set (key item) (value item))
        (fun dict other member => sets dict other (.tail _ member))
        (by rw [appended]; simpa using distinct)
      refine ⟨final, ?_, ?_⟩
      · rw [List.foldlM_cons, sets dict item List.mem_cons_self fresh]
        exact returned
      · rw [listed, appended, List.map_cons, List.append_assoc, List.singleton_append]

theorem dict_obj (interpreter : Interpreter) (fields : List (String × Json))
    (distinct : (fields.map Prod.fst).Nodup) :
    interpreter.dict (.obj fields) = .ok (fields.map fun field => (.str field.1, field.2)) := by
  let pairs : List (Json × Json) := fields.map fun field => (.str field.1, field.2)
  obtain ⟨final, returned, items⟩ := foldlM_set (fun (dict : Dict DictKey (Json × Json)) field =>
      interpreter.setItem dict (.str field.1) field.2) (fun field => .text field.1)
    (fun field => (.str field.1, field.2)) fields Dict.empty (by
      intro dict field _ fresh
      have absent : dict.get? (.text field.1) = none := by
        rw [Option.eq_none_iff_forall_ne_some]
        intro value held
        exact fresh (List.mem_map_of_mem (f := Prod.fst) ((dict.get?_eq_some_iff _ _).mp held))
      show Except.ok _ = _
      rw [absent]
      rfl) (by
      have keys : fields.map (fun field => DictKey.text field.1) =
          (fields.map Prod.fst).map DictKey.text := by
        rw [List.map_map]
        rfl
      rw [keys]
      exact distinct.map fun _ _ => DictKey.text.inj)
  have folded : pairs.foldlM (fun items pair => interpreter.setItem items pair.1 pair.2) Dict.empty =
      .ok final := by
    rw [List.foldlM_map]
    exact returned
  show (pairs.foldlM (fun items pair => interpreter.setItem items pair.1 pair.2) Dict.empty >>= fun
    items => Except.ok (items.items.map Prod.snd)) = _
  rw [folded]
  show Except.ok (final.items.map Prod.snd) = _
  rw [items]
  simp [Dict.empty]

/-- The number of a document that is an integer. -/
def integerOf : Json → Int
  | .int value => value
  | _ => 0

/-- Rate limits are read back up to their order. -/
theorem readRateLimits_of_same (same : row.Same document)
    (limits : Dict String Int) (present : document.field? "rate_limits" =
      some (.obj (limits.items.map fun limit => (limit.1, .int limit.2)))) :
    ∃ found, readRateLimits library row = .ok found ∧ found.items.Perm limits.items := by
  let shown : String × Int → String × Json := fun limit => (limit.1, .int limit.2)
  have fields : (row.field? "rate_limits").map Json.sortKeys =
      some (Json.obj (limits.items.map shown)).sortKeys := by
    rw [← Json.field?_sortKeys, same, Json.field?_sortKeys, present, Option.map_some]
  obtain ⟨stored, held, equal⟩ := Option.map_eq_some_iff.mp fields
  cases stored with
  | obj rows =>
      rw [Json.sortKeys_obj, Json.sortKeys_obj] at equal
      have sorted := (sortedBy_perm Prod.fst (Json.sortFields rows)).symm.trans
        ((List.Perm.of_eq (Json.obj.inj equal)).trans (sortedBy_perm Prod.fst _))
      rw [Json.sortFields_eq_map, Json.sortFields_eq_map, List.map_map] at sorted
      let number : String × Json → String × Int := fun field => (field.1, integerOf field.2)
      have numbers : ∀ field ∈ rows, shown (number field) = field := by
        intro field member
        obtain ⟨limit, _, same⟩ := List.mem_map.mp (sorted.mem_iff.mp (List.mem_map_of_mem member))
        obtain ⟨key, value⟩ := field
        have atom : value = .int limit.2 :=
          Json.eq_of_same_atom trivial (congrArg Prod.snd same).symm
        rw [atom]
        rfl
      have keys : (rows.map number).Perm limits.items := by
        have mapped := sorted.map number
        rw [List.map_map, List.map_map] at mapped
        have left : rows.map (number ∘ Prod.map id Json.sortKeys) = rows.map number := by
          apply List.map_congr_left
          intro field member
          rw [← numbers field member]
          rfl
        rw [left] at mapped
        exact mapped.trans (List.Perm.of_eq (List.map_id _))
      have distinct : (rows.map Prod.fst).Nodup := by
        have names := (keys.map Prod.fst).nodup_iff.mpr limits.distinct
        rw [List.map_map] at names
        exact names
      obtain ⟨found, returned, items⟩ := foldlM_set (fun (limits : Dict String Int) field => do
          let limit ← library.interpreter.int field.2
          .ok (limits.set (library.interpreter.str (.str field.1)) limit)) Prod.fst
        (fun field => (number field).2) rows Dict.empty (by
          intro dict field member _
          rw [← numbers field member]
          rfl) (by simpa [Dict.empty] using distinct)
      refine ⟨found, ?_, ?_⟩
      · rw [readRateLimits, held, Option.getD_some, dict_obj _ rows distinct]
        show List.foldlM _ Dict.empty (rows.map fun field => (Json.str field.1, field.2)) = _
        rw [List.foldlM_map]
        exact returned
      · rw [items]
        simpa [Dict.empty] using keys
  | _ => simp [Json.sortKeys] at equal

end Reading

/-- Trust scores are floats that `float` reads back. -/
structure ReadsTrust {Number : Type} (library : Library Number) : Prop where
  atom : ∀ number, (library.document number).IsAtom
  float : ∀ number, library.withinUnit number = true →
    library.float (library.document number) = .ok number

/-- A call of `register` with a valid manifest. -/
structure Registration {Number : Type} (library : Library Number) where
  manifest : ConnectorManifest Number
  tenantId : String
  createdBy : String
  valid : manifest.validate library = .ok ()

namespace Registration

variable {Number : Type} {library : Library Number} (registration : Registration library)

def key : String :=
  registration.manifest.connectorId ++ ":" ++ registration.manifest.version

/-- The record that the registry stores. -/
def document : Json :=
  .obj (registration.manifest.asDict library ++
    [("tenant_id", .str registration.tenantId), ("created_by", .str registration.createdBy)])

variable (first second : Registration library)

/-- Two registrations are about one version of a connector. -/
def SameVersion : Prop :=
  first.manifest.connectorId = second.manifest.connectorId ∧
    first.manifest.version = second.manifest.version

/-- The documents of two manifests differ. -/
def Different : Prop :=
  ¬ (Json.obj (first.manifest.asDict library)).Same (.obj (second.manifest.asDict library))

/-- The HTTP methods of a manifest are in upper case. -/
def UpperMethods : Prop :=
  registration.manifest.allowedHttpMethods.map library.upper =
    registration.manifest.allowedHttpMethods

theorem SameVersion.key {first second : Registration library} (same : first.SameVersion second) :
    first.key = second.key := by
  rw [Registration.key, Registration.key, same.1, same.2]

theorem validate_facts :
    registration.manifest.version ≠ "" ∧
      library.withinUnit registration.manifest.trustScore = true := by
  have valid := registration.valid
  unfold validate at valid
  split_ifs at valid with missing _ _ _ _ _ trust
  refine ⟨fun empty => missing ?_, by simpa using trust⟩
  rw [empty]
  exact .tail _ (.tail _ (.head _))

/-- The record is read back with its methods in upper case. -/
theorem fromDict_of_same (reads : ReadsTrust library) (registration : Registration library)
    {row : Json} (same : row.Same registration.document) :
    ∃ found, fromDict library row = .ok found ∧
      ((Json.obj (found.asDict library)).Same (.obj (registration.manifest.asDict library)) ↔
        registration.UpperMethods) := by
  obtain ⟨manifest, tenantId, createdBy, valid⟩ := registration
  have text (key value : String) (present : (Registration.document
      ⟨manifest, tenantId, createdBy, valid⟩).field? key = some (.str value)) :
        row.field? key = some (.str value) := Json.field?_of_same same present trivial
  have trust : row.field? "trust_score" = some (library.document manifest.trustScore) :=
    Json.field?_of_same same rfl (reads.atom _)
  obtain ⟨limits, limited, perm⟩ := readRateLimits_of_same library same manifest.rateLimits rfl
  have score := reads.float _ (validate_facts ⟨manifest, tenantId, createdBy, valid⟩).2
  refine ⟨{ manifest with
    rateLimits := limits
    allowedHttpMethods := manifest.allowedHttpMethods.map library.upper }, ?_, ?_⟩
  · unfold fromDict
    simp only [Library.textItem, Library.textOr, Library.floatOr, text "connector_id" _ rfl,
      text "name" _ rfl, text "version" _ rfl, text "description" _ rfl,
      text "connector_type" _ rfl, text "credential_type" _ rfl, text "risk_level" _ rfl,
      text "tenant_scope" _ rfl, trust, limited, Option.getD_some, score,
      textsOr_of_same library same "supported_actions" manifest.supportedActions rfl,
      textsOr_of_same library same "required_permissions" manifest.requiredPermissions rfl,
      textsOr_of_same library same "allowed_domains" manifest.allowedDomains rfl,
      textsOr_of_same library same "allowed_http_methods" manifest.allowedHttpMethods rfl]
    rfl
  · constructor
    · intro equal
      have fields := congrArg (fun document => document.field? "allowed_http_methods") equal
      dsimp only at fields
      rw [Json.field?_sortKeys, Json.field?_sortKeys] at fields
      have methods := Json.arr.inj (eq_of_same_texts manifest.allowedHttpMethods
        (Option.some.inj fields))
      exact List.map_injective_iff.mpr (fun _ _ => Json.str.inj) methods
    · intro upper
      have shown : (limits.items.map fun limit => (limit.1, Json.int limit.2)).Perm
          (manifest.rateLimits.items.map fun limit => (limit.1, .int limit.2)) := perm.map _
      have distinct : ((Json.sortFields
          (limits.items.map fun limit => (limit.1, Json.int limit.2))).map Prod.fst).Nodup := by
        rw [Json.sortFields_eq_map, List.map_map, List.map_map]
        exact limits.distinct
      have sorted : Json.sortObject (limits.items.map fun limit => (limit.1, .int limit.2)) =
          Json.sortObject (manifest.rateLimits.items.map fun limit => (limit.1, .int limit.2)) := by
        refine sortedBy_eq_of_perm Prod.fst _ _ ?_ distinct
        rw [Json.sortFields_eq_map, Json.sortFields_eq_map]
        exact shown.map _
      have sameLimits := congrArg Json.obj sorted
      rw [← Json.sortKeys_obj, ← Json.sortKeys_obj] at sameLimits
      unfold Json.Same
      rw [Json.sortKeys_obj, Json.sortKeys_obj, Json.sortObject, Json.sortObject]
      simp only [asDict, Json.sortFields, sameLimits,
        show manifest.allowedHttpMethods.map library.upper = _ from upper]

end Registration

section Runs

variable {State Number : Type} (store : PersistenceStore State) (library : Library Number)

/-- The stores with the registrations that they accepted. -/
abbrev RegistryHistory (State : Type) {Number : Type} (library : Library Number) :=
  ConnectorState State Number × List (Registration library)

/-- A call of `register` that returns joins the accepted registrations. -/
def registrationMachine : Machine (RegistryHistory State library) (Registration library)
    (Except PyError (ConnectorManifest Number)) :=
  fun history registration =>
    let (answer, after) := (register store library registration.manifest
      registration.tenantId registration.createdBy).perform history.1
    (answer, after, if answer.isOk then history.2 ++ [registration] else history.2)

variable (calls : List (Registration library))

/-- The registry after calls, with the registrations that it accepted. -/
def registered : RegistryHistory State library :=
  run (registrationMachine store library) (ConnectorState.initial store, []) calls

/-- A call conflicts exactly with a different manifest of its version, and a repeated registration
returns and leaves the stores as they are. -/
structure RegisterCorrect (history : RegistryHistory State library)
    (registration : Registration library) : Prop where
  conflict : (∃ message, (registrationMachine store library history registration).1 =
      .error (.conflictError message)) ↔
    ∃ earlier ∈ history.2, earlier.SameVersion registration ∧ earlier.Different registration
  repeated : ∀ earlier ∈ history.2, earlier.manifest = registration.manifest →
    earlier.tenantId = registration.tenantId → earlier.createdBy = registration.createdBy →
      (registrationMachine store library history registration).1 = .ok registration.manifest ∧
        ∀ collection key, store.get
          (registrationMachine store library history registration).2.1.persistence collection key =
            store.get history.1.persistence collection key

/-- The owner of a registered version reads its manifest. -/
def ReadsRegistered (history : RegistryHistory State library) : Prop :=
  ∀ registration ∈ history.2, ∀ context : TenantContext,
    context.tenantId = registration.tenantId →
      ∃ found, ConnectorRegistry.get store library history.1.persistence context
          registration.manifest.connectorId (some registration.manifest.version) = .ok found ∧
        (Json.obj (found.asDict library)).Same (.obj (registration.manifest.asDict library))

/-- Whatever was accepted under the key of a call is a different manifest of its version. -/
def ClearKey (accepted : List (Registration library)) (registration : Registration library) : Prop :=
  ∀ earlier ∈ accepted, earlier.key = registration.key →
    earlier.SameVersion registration ∧ earlier.Different registration

/-- Every call of a run is correct, and every accepted version is read at every moment. -/
def RunCorrect : Prop :=
  (∀ done registration rest, calls = done ++ registration :: rest →
    RegisterCorrect store library (registered store library done) registration) ∧
  ∀ done rest, calls = done ++ rest → ReadsRegistered store library (registered store library done)

/-- The key of every call is clear, and the accepted manifests have their methods in upper case. -/
def RunClear : Prop :=
  (∀ done registration rest, calls = done ++ registration :: rest →
    ClearKey library (registered store library done).2 registration) ∧
  ∀ registration ∈ (registered store library calls).2, registration.UpperMethods

/-- The records of the accepted registrations are stored, and no others. -/
structure RecordsAccepted (history : RegistryHistory State library) : Prop where
  stored : ∀ registration ∈ history.2, ∃ row,
    store.get history.1.persistence "enterprise_connector_manifests" registration.key = some row ∧
      row.Same registration.document
  absent : ∀ key, key ∉ history.2.map Registration.key →
    store.get history.1.persistence "enterprise_connector_manifests" key = none
  distinct : (history.2.map Registration.key).Nodup

variable {store library}

/-- A stored record has two more fields than every manifest. -/
theorem equal_document {row : Json} {earlier : Registration library}
    (same : row.Same earlier.document) (manifest : ConnectorManifest Number) :
    library.interpreter.equal row (.obj (manifest.asDict library)) = false := by
  cases row with
  | obj fields =>
      unfold Json.Same Registration.document at same
      rw [Json.sortKeys_obj, Json.sortKeys_obj] at same
      have lengths := congrArg List.length (Json.obj.inj same)
      simp only [Json.sortObject, length_sortedBy, Json.sortFields_eq_map, List.length_map] at lengths
      have longer : fields.length ≠ (manifest.asDict library).length := by
        rw [lengths]
        simp [asDict]
      simp [Interpreter.equal, longer]
  | _ => simp [Json.Same, Registration.document, Json.sortKeys] at same

variable {history : RegistryHistory State library}

/-- A call under a taken key conflicts and changes nothing. -/
theorem registration_taken (recorded : RecordsAccepted store library history)
    {earlier registration : Registration library} (member : earlier ∈ history.2)
    (same : earlier.key = registration.key) :
    registrationMachine store library history registration =
      (.error (.conflictError "connector version already exists with different manifest"),
        history) := by
  obtain ⟨row, stored, document⟩ := recorded.stored earlier member
  rw [same] at stored
  have held : store.get history.1.persistence "enterprise_connector_manifests"
      (registration.manifest.connectorId ++ ":" ++ registration.manifest.version) = some row := stored
  have refused : (store.get history.1.persistence "enterprise_connector_manifests"
      (registration.manifest.connectorId ++ ":" ++ registration.manifest.version)).any (fun document =>
        document.truthy && !library.interpreter.equal document
          (.obj (registration.manifest.asDict library))) = true := by
    rw [held, Option.any_some, equal_document document, Json.truthy_of_same document]
    rfl
  have performed : (register store library registration.manifest
      registration.tenantId registration.createdBy).perform history.1 =
        (.error (.conflictError "connector version already exists with different manifest"),
          history.1) := by
    rw [register, perform_bind, perform_ofExcept, registration.valid]
    dsimp only
    rw [perform_bind, perform_get]
    dsimp only
    rw [if_pos refused, perform_throw]
  simp [registrationMachine, performed, Except.isOk, Except.toBool]

/-- A call under a free key returns, and its record is stored. -/
theorem registration_free (lawful : store.Lawful)
    (recorded : RecordsAccepted store library history) {registration : Registration library}
    (free : registration.key ∉ history.2.map Registration.key) :
    (registrationMachine store library history registration).1 = .ok registration.manifest ∧
      (registrationMachine store library history registration).2.2 = history.2 ++ [registration] ∧
      RecordsAccepted store library (registrationMachine store library history registration).2 := by
  obtain ⟨next, written, first⟩ := perform_record lawful "enterprise_connector_manifests"
    registration.key registration.document history.1
  obtain ⟨last, latest, second⟩ := perform_record lawful "enterprise_connector_latest"
    registration.manifest.connectorId registration.document { history.1 with persistence := next }
  let events := history.1.events ++ [⟨"connector.registered", registration.manifest.connectorId,
    registration.document⟩]
  have performed : (register store library registration.manifest
      registration.tenantId registration.createdBy).perform history.1 =
        (.ok registration.manifest, { history.1 with persistence := last, events }) := by
    rw [register, perform_bind, perform_ofExcept, registration.valid]
    dsimp only
    rw [perform_bind, perform_get]
    dsimp only
    rw [show store.get history.1.persistence "enterprise_connector_manifests"
      (registration.manifest.connectorId ++ ":" ++ registration.manifest.version) = none from
        recorded.absent _ free, if_neg (by simp)]
    refine (perform_bind_ok first).trans ?_
    exact (perform_bind_ok second).trans rfl
  have stepped : registrationMachine store library history registration =
      (.ok registration.manifest, { history.1 with persistence := last, events },
        history.2 ++ [registration]) := by
    simp [registrationMachine, performed, Except.isOk, Except.toBool]
  have manifests (key : String) : store.get last "enterprise_connector_manifests" key =
      store.get next "enterprise_connector_manifests" key :=
    lawful.get_put_of_ne _ _ _ _ _ _ _ latest fun same => absurd (Prod.mk.inj same).1 (by decide)
  rw [stepped]
  refine ⟨rfl, rfl, ?_, ?_, ?_⟩
  · intro other member
    dsimp only
    rw [manifests]
    rcases List.mem_append.mp member with earlier | new
    · have apart : other.key ≠ registration.key := fun same =>
        free (same ▸ List.mem_map_of_mem earlier)
      rw [lawful.get_put_of_ne _ _ _ _ _ _ _ written fun same => apart (Prod.mk.inj same).2]
      exact recorded.stored other earlier
    · rw [List.mem_singleton.mp new]
      exact lawful.get_put_self _ _ _ _ _ written
  · intro key unused
    dsimp only
    rw [List.map_append, List.mem_append, not_or] at unused
    rw [manifests, lawful.get_put_of_ne _ _ _ _ _ _ _ written fun same =>
      unused.2 (List.mem_singleton.mpr (Prod.mk.inj same).2)]
    exact recorded.absent key unused.1
  · rw [List.map_append]
    exact List.nodup_append.mpr ⟨recorded.distinct, List.nodup_singleton _, by
      intro key earlier other new equal
      exact free (List.mem_singleton.mp new ▸ equal ▸ earlier)⟩

/-- A call is correct exactly when its key is clear. -/
theorem registerCorrect_iff (lawful : store.Lawful)
    (recorded : RecordsAccepted store library history) (registration : Registration library) :
    RegisterCorrect store library history registration ↔
      ClearKey library history.2 registration := by
  by_cases taken : registration.key ∈ history.2.map Registration.key
  · obtain ⟨earlier, member, same⟩ := List.mem_map.mp taken
    have refused := registration_taken recorded member same
    have only (other : Registration library) (listed : other ∈ history.2)
        (key : other.key = registration.key) : other = earlier :=
      List.inj_on_of_nodup_map recorded.distinct listed member (key.trans same.symm)
    constructor
    · intro correct other listed key
      obtain ⟨found, inside, version, different⟩ := correct.conflict.mp ⟨_, by rw [refused]⟩
      rw [only other listed key, ← only found inside version.key]
      exact ⟨version, different⟩
    · intro clear
      have differs := clear earlier member same
      refine ⟨iff_of_true ⟨_, by rw [refused]⟩ ⟨earlier, member, differs⟩, ?_⟩
      intro other listed manifest _ _
      have key : other.key = registration.key := by rw [Registration.key, manifest]; rfl
      rw [← only other listed key] at differs
      exact absurd (by rw [manifest]; rfl) differs.2
  · have free := registration_free lawful recorded taken
    have apart (other : Registration library) (listed : other ∈ history.2) :
        other.key ≠ registration.key := fun same => taken (same ▸ List.mem_map_of_mem listed)
    refine iff_of_true ⟨iff_of_false ?_ ?_, ?_⟩ fun other listed same =>
      absurd same (apart other listed)
    · rintro ⟨message, raised⟩
      rw [free.1] at raised
      cases raised
    · rintro ⟨other, listed, version, _⟩
      exact apart other listed version.key
    · intro other listed manifest _ _
      exact absurd (by rw [Registration.key, manifest]; rfl) (apart other listed)

theorem readsRegistered_iff (reads : ReadsTrust library)
    (recorded : RecordsAccepted store library history) :
    ReadsRegistered store library history ↔
      ∀ registration ∈ history.2, registration.UpperMethods := by
  have read (registration : Registration library) (member : registration ∈ history.2)
      (context : TenantContext) (owner : context.tenantId = registration.tenantId) :
      ∃ found, ConnectorRegistry.get store library history.1.persistence context
          registration.manifest.connectorId (some registration.manifest.version) = .ok found ∧
        ((Json.obj (found.asDict library)).Same (.obj (registration.manifest.asDict library)) ↔
          registration.UpperMethods) := by
    obtain ⟨row, stored, same⟩ := recorded.stored registration member
    have held : store.get history.1.persistence "enterprise_connector_manifests"
        (registration.manifest.connectorId ++ ":" ++ registration.manifest.version) = some row := stored
    obtain ⟨found, converted, upper⟩ := registration.fromDict_of_same reads same
    have named : row.field? "tenant_id" = some (.str registration.tenantId) :=
      Json.field?_of_same same rfl trivial
    refine ⟨found, ?_, upper⟩
    have filled : (some registration.manifest.version).filter (fun version => version ≠ "") =
        some registration.manifest.version := by simp [registration.validate_facts.1]
    simp only [ConnectorRegistry.get, filled]
    rw [held]
    simp [PersistenceStore.hasText, named, owner, converted]
  constructor
  · intro all registration member
    let owner : TenantContext := ⟨registration.tenantId, "", "", false⟩
    obtain ⟨found, returned, upper⟩ := read registration member owner rfl
    obtain ⟨again, repeated, same⟩ := all registration member owner rfl
    obtain rfl := Except.ok.inj (repeated.symm.trans returned)
    exact upper.mp same
  · intro all registration member context owner
    obtain ⟨found, returned, upper⟩ := read registration member context owner
    exact ⟨found, returned, upper.mpr (all registration member)⟩

theorem registered_recorded (lawful : store.Lawful) (calls : List (Registration library)) :
    RecordsAccepted store library (registered store library calls) := by
  refine run_invariant (registrationMachine store library) (RecordsAccepted store library) ?_ _ calls
    ⟨fun _ member => absurd member List.not_mem_nil, fun key _ => lawful.get_initial _ key,
      List.nodup_nil⟩
  intro history registration recorded
  by_cases taken : registration.key ∈ history.2.map Registration.key
  · obtain ⟨earlier, member, same⟩ := List.mem_map.mp taken
    rw [registration_taken recorded member same]
    exact recorded
  · exact (registration_free lawful recorded taken).2.2

/-- Only registrations that were called are accepted. -/
theorem registered_mem (calls : List (Registration library)) (registration : Registration library)
    (member : registration ∈ (registered store library calls).2) : registration ∈ calls := by
  refine run_invariant_of_guarded (registrationMachine store library) (fun _ call => call ∈ calls)
    (fun history => ∀ accepted ∈ history.2, accepted ∈ calls) ?_ _ calls
    (fun _ listed => absurd listed List.not_mem_nil)
    (guarded_of_forall (registrationMachine store library) (fun call => call ∈ calls) _ calls
      fun _ listed => listed) registration member
  intro history call kept listed accepted
  simp only [registrationMachine]
  split
  · intro joined
    rcases List.mem_append.mp joined with earlier | latest
    · exact kept accepted earlier
    · rwa [List.mem_singleton.mp latest]
  · exact kept accepted

/-- Accepted registrations stay accepted. -/
theorem mem_registered_append (done rest : List (Registration library))
    (registration : Registration library) (member : registration ∈ (registered store library done).2) :
    registration ∈ (registered store library (done ++ rest)).2 := by
  rw [registered, run_append]
  refine run_invariant (registrationMachine store library) (fun history => registration ∈ history.2)
    ?_ _ rest member
  intro history call listed
  simp only [registrationMachine]
  split
  · exact List.mem_append_left _ listed
  · exact listed

/-- In every run of `register` all calls are correct and all accepted versions are read, exactly when
the key of every call is clear and the accepted manifests have their methods in upper case. -/
theorem registerRun_correct_iff (lawful : store.Lawful) (reads : ReadsTrust library)
    (calls : List (Registration library)) :
    RunCorrect store library calls ↔ RunClear store library calls := by
  have recorded (done : List (Registration library)) := registered_recorded lawful done
  constructor
  · rintro ⟨correct, read⟩
    refine ⟨fun done registration rest split =>
      (registerCorrect_iff lawful (recorded done) registration).mp (correct done registration rest
        split), ?_⟩
    exact (readsRegistered_iff reads (recorded calls)).mp (read calls [] (List.append_nil _).symm)
  · rintro ⟨clear, upper⟩
    refine ⟨fun done registration rest split =>
      (registerCorrect_iff lawful (recorded done) registration).mpr (clear done registration rest
        split), fun done rest split => (readsRegistered_iff reads (recorded done)).mpr ?_⟩
    intro registration member
    refine upper registration ?_
    rw [split]
    exact mem_registered_append done rest registration member

end Runs

/-- The floats 0.8 and 1.0 are the only trust scores. -/
def twoScores : Library Nat := { tenths with withinUnit := fun value => value = 8 || value = 10 }

theorem twoScores_readsTrust : ReadsTrust twoScores where
  atom _ := trivial
  float number unit := by
    have cases : number = 8 ∨ number = 10 := by simpa [twoScores] using unit
    rcases cases with rfl | rfl <;> decide

/-- The manifest of a connector that reads repositories. -/
def githubRegistration : Registration twoScores where
  manifest := {
    connectorId := "github", name := "GitHub", version := "1", description := "Repositories"
    connectorType := "github", supportedActions := ["read"]
    requiredPermissions := ["github.read"], credentialType := "oauth"
    rateLimits := Dict.empty.set "requests_per_minute" 2, riskLevel := "medium"
    tenantScope := "tenant", allowedDomains := [], allowedHttpMethods := ["GET"], trustScore := 10 }
  tenantId := "tenant-a"
  createdBy := "owner-a"
  valid := by decide

/-- A repeated registration conflicts with itself. -/
theorem registerRun_not_correct :
    ¬ RegisterCorrect backend twoScores (registered backend twoScores [githubRegistration])
      githubRegistration := by
  intro correct
  have accepted : (registered backend twoScores [githubRegistration]).2 = [githubRegistration] := by
    have recorded := registered_recorded backend_lawful ([] : List (Registration twoScores))
    exact (registration_free backend_lawful recorded List.not_mem_nil).2.1
  have clear := (registerCorrect_iff backend_lawful
    (registered_recorded backend_lawful _) _).mp correct
  rw [accepted] at clear
  exact (clear githubRegistration (.head _) rfl).2 rfl

/-- The second version of the connector. -/
def secondVersion : Registration twoScores where
  manifest := { githubRegistration.manifest with version := "2" }
  tenantId := "tenant-b"
  createdBy := "owner-b"
  valid := by decide

/-- A different manifest of the second version. -/
def changedVersion : Registration twoScores where
  manifest := { secondVersion.manifest with description := "Issues" }
  tenantId := "tenant-b"
  createdBy := "owner-b"
  valid := by decide

theorem secondVersion_different : secondVersion.Different changedVersion := by
  intro same
  have texts := congrArg (fun document => document.field? "description") same
  rw [Json.field?_sortKeys, Json.field?_sortKeys] at texts
  exact absurd (Json.str.inj (Option.some.inj texts)) (by decide)

/-- A second version is registered after the first one, and then a different manifest of it. -/
def versionCalls : List (Registration twoScores) :=
  [githubRegistration, secondVersion, changedVersion]

theorem versionCalls_apart : versionCalls.Pairwise fun earlier later =>
    earlier.key = later.key → earlier.SameVersion later ∧ earlier.Different later := by
  refine .cons ?_ (.cons ?_ (List.pairwise_singleton _ _))
  · rw [List.forall_mem_cons, List.forall_mem_singleton]
    exact ⟨fun same => absurd same (by decide), fun same => absurd same (by decide)⟩
  · rw [List.forall_mem_singleton]
    exact fun _ => ⟨⟨rfl, rfl⟩, secondVersion_different⟩

theorem versionCalls_clear : RunClear backend twoScores versionCalls := by
  refine ⟨?_, ?_⟩
  · intro done registration rest split earlier listed
    have apart := versionCalls_apart
    rw [split, List.pairwise_append] at apart
    exact apart.2.2 earlier (registered_mem done earlier listed) registration (.head _)
  · intro registration listed
    have called := registered_mem versionCalls registration listed
    simp only [versionCalls, List.mem_cons, List.not_mem_nil, or_false] at called
    have upper : twoScores.upper "GET" = "GET" := by decide +kernel
    rcases called with rfl | rfl | rfl
    all_goals exact congrArg (fun method => [method]) upper

/-- The conflict is one with a different manifest. -/
theorem registerRun_correct_versions : RunCorrect backend twoScores versionCalls :=
  (registerRun_correct_iff backend_lawful twoScores_readsTrust versionCalls).mpr versionCalls_clear

end AgentFabric.Connectors
