import AgentFabric.Construction.AuditBundle.Exporter
import AgentFabric.Foundation.Comprehension

namespace AgentFabric.Audit
open Persistence Events Interpreter Comprehension AgentFabricEvent MemoryPersistenceStore
open Json (SameOutside AgreesOutside)

variable (value : Json)

/-- What a reader of the bundle sees of a value, up to the order of fields. -/
def seen : Json := (redact value).sortKeys

@[simp] theorem seen_str (text : String) : seen (.str text) = .str text := by
  simp only [seen, redact, Json.mask, Json.sortKeys]

theorem seen_arr (items : List Json) : seen (.arr items) = .arr (items.map seen) := by
  rw [seen, redact, Json.mask, Json.maskItems_eq_map, Json.sortKeys, Json.sortItems_eq_map,
    List.map_map]
  rfl

/-- The redaction of one field, up to the order of fields of its value. -/
def seenField (field : String × Json) : String × Json :=
  (field.1, if isSensitive field.1 then .str redactedText else seen field.2)

variable (fields : List (String × Json))

theorem sortFields_maskFields :
    Json.sortFields (Json.maskFields isSensitive redactedText fields) = fields.map seenField := by
  rw [Json.sortFields_eq_map, Json.maskFields_eq_map, List.map_map]
  apply List.map_congr_left
  intro field _
  rw [Function.comp_apply, Json.maskField, seenField, Prod.map]
  split
  · rw [Json.sortKeys]
    rfl
  · rfl

theorem seen_obj :
    seen (.obj fields) = .obj (Sorting.sortedBy Prod.fst (fields.map seenField)) := by
  rw [seen, redact, Json.mask, Json.sortKeys, sortFields_maskFields]

/-- A reader sees the same of agreeing values. -/
theorem seen_eq_of_agreesOutside {value other : Json} (agree : AgreesOutside isSensitive value other) :
    seen value = seen other :=
  Json.mask_same_of_agreesOutside agree

theorem map_seen_of_agreesOutside {rows others : List Json}
    (agree : List.Forall₂ (AgreesOutside isSensitive) rows others) :
    rows.map seen = others.map seen := by
  induction agree with
  | nil => rfl
  | cons head _ ih => rw [List.map_cons, List.map_cons, seen_eq_of_agreesOutside head, ih]

variable {key : String}

/-- A field that is not sensitive shows what a reader sees of its value. -/
theorem seen_field? (shown : isSensitive key = false) :
    (seen value).field? key = (value.field? key).map seen := by
  rw [seen, Json.field?_sortKeys, redact, Json.field?_mask value shown, Option.map_map]
  rfl

/-- A document is an object exactly when what a reader sees of it is. -/
theorem seen_subscript (shown : isSensitive key = false) :
    seen <$> subscript value key = subscript (seen value) key := by
  cases value with
  | obj fields =>
      have field := seen_field? (.obj fields) shown
      rw [seen_obj] at field ⊢
      rw [subscript, subscript, field]
      cases (Json.obj fields).field? key <;> rfl
  | arr items =>
      rw [seen_arr]
      rfl
  | _ => simp [seen, redact, Json.mask, Json.sortKeys, subscript, Functor.map, Except.map]

theorem subscript_congr {value other : Json} (same : seen value = seen other)
    (shown : isSensitive key = false) :
    seen <$> subscript value key = seen <$> subscript other key := by
  rw [seen_subscript value shown, seen_subscript other shown, same]

/-- The removal of the contents commutes with what a reader sees. -/
theorem seen_planWithoutContents (plan : Json) :
    seen (planWithoutContents plan) = planWithoutContents (seen plan) := by
  cases plan with
  | obj fields =>
      rw [planWithoutContents, seen_obj, seen_obj, planWithoutContents, Sorting.filter_sortedBy,
        List.filter_map]
      rfl
  | arr items =>
      rw [planWithoutContents, seen_arr]
      rfl
      simp
  | _ => simp [planWithoutContents, seen, redact, Json.mask, Json.sortKeys]

/-- The fields that an artifact record shows are not sensitive. -/
theorem artifactFields_shown : isSensitive "tenant_id" = false ∧ isSensitive "organization_id" = false ∧
    isSensitive "created_by" = false ∧ isSensitive "artifact" = false := by decide

/-- An object whose fields a reader sees alike is seen alike. -/
theorem seen_obj_congr {fields others : List (String × Json)}
    (same : fields.map (Prod.map id seen) = others.map (Prod.map id seen)) :
    seen (.obj fields) = seen (.obj others) := by
  let hide (field : String × Json) : String × Json :=
    (field.1, if isSensitive field.1 then .str redactedText else field.2)
  have view (entries : List (String × Json)) :
      entries.map seenField = (entries.map (Prod.map id seen)).map hide := by
    rw [List.map_map]
    rfl
  rw [seen_obj, seen_obj, view fields, view others, same]

/-- Records that a reader sees alike show their artifacts alike or lack the same field. -/
theorem renovationArtifact_congr {item other : Json} (same : seen item = seen other) :
    seen <$> renovationArtifact item = seen <$> renovationArtifact other := by
  obtain ⟨tenantShown, organizationShown, creatorShown, artifactShown⟩ := artifactFields_shown
  unfold renovationArtifact
  apply map_bind_congr seen seen (subscript_congr same tenantShown)
  intro tenantId otherTenant sameTenant
  apply map_bind_congr seen seen (subscript_congr same organizationShown)
  intro organizationId otherOrganization sameOrganization
  apply map_bind_congr seen seen (subscript_congr same creatorShown)
  intro createdBy otherCreator sameCreator
  apply map_bind_congr seen seen (subscript_congr same artifactShown)
  intro artifact otherArtifact sameArtifact
  apply congrArg Except.ok
  apply seen_obj_congr
  simp only [List.map_cons, List.map_nil, Prod.map, id_eq, sameTenant, sameOrganization,
    sameCreator, sameArtifact]

/-- A decision record lists its references as texts. -/
def ListsReferences (record : Json) : Prop :=
  ∀ value, record.field? "veil_audit_refs" = some value → ∃ texts : List String,
    value = .arr (texts.map .str)

/-- A value that is seen as a list of texts is that list. -/
theorem eq_of_seen_texts {value : Json} {texts : List String}
    (same : seen value = seen (.arr (texts.map .str))) : value = .arr (texts.map .str) := by
  have plain : (texts.map Json.str).map seen = texts.map .str := by
    rw [List.map_map]
    exact List.map_congr_left fun text _ => seen_str text
  rw [seen_arr, plain] at same
  cases value with
  | arr items =>
      rw [seen_arr, Json.arr.injEq] at same
      apply congrArg Json.arr
      rw [← same]
      apply (List.map_id items).symm.trans
      apply List.map_congr_left
      intro item member
      have shown : seen item ∈ texts.map Json.str := same ▸ List.mem_map_of_mem member
      obtain ⟨text, _, equal⟩ := List.mem_map.mp shown
      cases item <;> simp [seen, redact, Json.mask, Json.sortKeys] at equal ⊢
  | _ => simp [seen, redact, Json.mask, Json.sortKeys] at same

variable (interpreter : Interpreter)

theorem recordRefs_congr {record other : Json}
    (listed : ListsReferences record) (same : seen record = seen other) :
    recordRefs interpreter record = recordRefs interpreter other := by
  have shown : isSensitive "veil_audit_refs" = false := by decide
  have fields : (record.field? "veil_audit_refs").map seen =
      (other.field? "veil_audit_refs").map seen := by
    rw [← seen_field? record shown, ← seen_field? other shown, same]
  unfold recordRefs
  cases found : record.field? "veil_audit_refs" with
  | none =>
      rw [found, Option.map_none] at fields
      rw [Option.map_eq_none_iff.mp fields.symm]
  | some value =>
      obtain ⟨texts, rfl⟩ := listed value found
      rw [found, Option.map_some] at fields
      obtain ⟨otherValue, otherFound, equal⟩ := Option.map_eq_some_iff.mp fields.symm
      rw [otherFound, eq_of_seen_texts equal]

theorem veilRefs_congr {records others : List Json}
    (listed : ∀ record ∈ records, ListsReferences record)
    (same : records.map seen = others.map seen) :
    veilRefs interpreter records = veilRefs interpreter others := by
  unfold veilRefs
  apply congrArg (Except.map List.flatten)
  induction records generalizing others with
  | nil => rw [List.map_eq_nil_iff.mp same.symm]
  | cons record rest ih =>
      cases others with
      | nil => cases same
      | cons other later =>
          obtain ⟨head, tail⟩ := List.cons.inj same
          rw [List.mapM_cons, List.mapM_cons,
            recordRefs_congr interpreter (listed record (.head _)) head,
            ih (fun next member => listed next (.tail _ member)) tail]

/-- Lists of references are read without an exception. -/
theorem veilRefs_returns {records : List Json}
    (listed : ∀ record ∈ records, ListsReferences record) :
    ∃ references, veilRefs interpreter records = .ok references := by
  have each : ∃ references, records.mapM (recordRefs interpreter) = .ok references := by
    apply mapM_returns
    intro record member
    unfold recordRefs
    cases found : record.field? "veil_audit_refs" with
    | none => exact ⟨[], rfl⟩
    | some value =>
        obtain ⟨texts, rfl⟩ := listed record member value found
        exact ⟨_, rfl⟩
  obtain ⟨references, read⟩ := each
  exact ⟨references.flatten, by rw [veilRefs, read]; rfl⟩

section Stores

variable {State OtherState : Type} {store : PersistenceStore State}
  {other : PersistenceStore OtherState} {state : State} {otherState : OtherState} {tenantId : String}

/-- A reader sees the same of the rows that two stores list for a tenant. -/
def SeenAlike (store : PersistenceStore State) (other : PersistenceStore OtherState) (state : State)
    (otherState : OtherState) (tenantId : String) : Prop :=
  ∀ collection, (store.listTenant state collection tenantId).map seen =
    (other.listTenant otherState collection tenantId).map seen

section

variable (alike : SeenAlike store other state otherState tenantId)
include alike

theorem readSection_congr (reading : Reading) (collection : String) :
    List.map seen <$> readSection store state tenantId reading collection =
      List.map seen <$> readSection other otherState tenantId reading collection := by
  cases reading with
  | rows => exact congrArg Except.ok (alike collection)
  | plans =>
      have commutes : seen ∘ planWithoutContents = planWithoutContents ∘ seen :=
        funext seen_planWithoutContents
      apply congrArg Except.ok
      rw [List.map_map, List.map_map, commutes, ← List.map_map, ← List.map_map, alike collection]
  | artifacts =>
      exact mapM_congr_of_map seen (fun _ _ same => renovationArtifact_congr same)
        (alike collection)

theorem readSections_congr :
    List.map (Prod.map id (List.map seen)) <$> readSections store state tenantId =
      List.map (Prod.map id (List.map seen)) <$> readSections other otherState tenantId := by
  apply mapM_congr_of_map id _ rfl
  rintro entry _ rfl
  have view (answer : Except PyError (List Json)) :
      Prod.map id (List.map seen) <$> (answer.map fun items => (entry.1, items)) =
        (List.map seen <$> answer).map fun items => (entry.1, items) := by
    cases answer <;> rfl
  change Prod.map id (List.map seen) <$> Except.map _ _ = Prod.map id (List.map seen) <$> Except.map _ _
  rw [id_eq, view, view, readSection_congr alike]

end

/-- An artifact record has the fields that the bundle shows. -/
def HasArtifactFields (row : Json) : Prop :=
  ∀ key ∈ ["tenant_id", "organization_id", "created_by", "artifact"], ∃ value,
    row.field? key = some value

theorem subscript_of_field? {row value : Json} {key : String}
    (found : row.field? key = some value) : subscript row key = .ok value := by
  cases row with
  | obj fields => rw [subscript, found]
  | _ => cases found

theorem renovationArtifact_returns {row : Json} (complete : HasArtifactFields row) :
    ∃ artifact, renovationArtifact row = .ok artifact := by
  have read (key : String) (member : key ∈ ["tenant_id", "organization_id", "created_by", "artifact"]) :
      ∃ value, subscript row key = .ok value := by
    obtain ⟨value, found⟩ := complete key member
    exact ⟨value, subscript_of_field? found⟩
  obtain ⟨tenantId, tenant⟩ := read "tenant_id" (by decide)
  obtain ⟨organizationId, organization⟩ := read "organization_id" (by decide)
  obtain ⟨createdBy, creator⟩ := read "created_by" (by decide)
  obtain ⟨artifact, shown⟩ := read "artifact" (by decide)
  unfold renovationArtifact
  rw [tenant, organization, creator, shown]
  exact ⟨_, rfl⟩

/-- The artifact records of a tenant have the fields that the bundle shows. -/
def CompleteArtifacts (store : PersistenceStore State) (state : State) (tenantId : String) : Prop :=
  ∀ entry ∈ sectionTable, entry.2.1 = .artifacts →
    ∀ row ∈ store.listTenant state entry.2.2 tenantId, HasArtifactFields row

theorem readSections_returns (complete : CompleteArtifacts store state tenantId) :
    ∃ sections, readSections store state tenantId = .ok sections := by
  apply mapM_returns
  intro entry member
  have read : ∃ items, readSection store state tenantId entry.2.1 entry.2.2 = .ok items := by
    cases reading : entry.2.1 with
    | rows => exact ⟨_, rfl⟩
    | plans => exact ⟨_, rfl⟩
    | artifacts =>
        apply mapM_returns
        intro row inside
        exact renovationArtifact_returns (complete entry member reading row inside)
  obtain ⟨items, shown⟩ := read
  exact ⟨(entry.1, items), by rw [shown]; rfl⟩

/-- The contents of a bundle as a reader sees them. -/
def seenContents (bundle : AuditBundle) : List (String × Json) :=
  bundle.contents.map (Prod.map id seen)

section Events

/-- What a reader sees of an event names its kind. -/
def seenKind (document : Json) : Bool :=
  match document.field? "event_type" with
  | some (.str eventType) => timelineKinds.any fun kind => kind.toList.isPrefixOf eventType.toList
  | _ => false

def seenId (document : Json) : String :=
  match document.field? "event_id" with
  | some (.str eventId) => eventId
  | _ => ""

variable (event : AgentFabricEvent)

theorem onTimeline_eq_seenKind : onTimeline event = seenKind (seen event.asDict) := by
  have field : event.asDict.field? "event_type" = some (.str event.eventType) := by
    simp [asDict, Json.field?]
  rw [seenKind, seen_field? event.asDict (by decide), field, Option.map_some, seen_str, onTimeline]

theorem eventId_eq_seenId : event.eventId = seenId (seen event.asDict) := by
  have field : event.asDict.field? "event_id" = some (.str event.eventId) := by
    simp [asDict, Json.field?]
  rw [seenId, seen_field? event.asDict (by decide), field, Option.map_some, seen_str]

variable {events others : List AgentFabricEvent}
  (same : events.map (seen ∘ asDict) = others.map (seen ∘ asDict))

include same

/-- Events that are seen alike are in the timeline alike. -/
theorem timeline_congr :
    ((events.filter onTimeline).map asDict).map seen =
      ((others.filter onTimeline).map asDict).map seen := by
  have kinds : onTimeline = seenKind ∘ (seen ∘ asDict) := by
    funext event
    rw [Function.comp_apply, Function.comp_apply, onTimeline_eq_seenKind]
  rw [List.map_map, List.map_map, kinds, ← List.filter_map, ← List.filter_map, same]

theorem eventIds_congr : events.map eventId = others.map eventId := by
  have ids : eventId = seenId ∘ (seen ∘ asDict) := by
    funext event
    rw [Function.comp_apply, Function.comp_apply, ← eventId_eq_seenId]
  calc events.map eventId = (events.map (seen ∘ asDict)).map seenId := by rw [List.map_map, ← ids]
    _ = (others.map (seen ∘ asDict)).map seenId := by rw [same]
    _ = others.map eventId := by rw [List.map_map, ← ids]

/-- The summary of the chain depends on its validity and on the ids of the events. -/
theorem eventHashChain_congr {sha256 : String → String} {eventStore : EventStore State}
    {otherStore : EventStore OtherState}
    (integrity : eventStore.validateIntegrity sha256 = otherStore.validateIntegrity sha256) :
    eventHashChain sha256 eventStore events = eventHashChain sha256 otherStore others := by
  have ids := eventIds_congr same
  have count : events.length = others.length := by simpa using congrArg List.length ids
  rw [eventHashChain, eventHashChain, integrity, ← List.head?_map, ← List.head?_map,
    ← List.getLast?_map, ← List.getLast?_map, ids, count]

end Events

section Bundles

variable (interpreter : Interpreter) (sha256 : String → String)

/-- Stores that are seen alike give bundles that are seen alike. -/
theorem exportBundle_congr {eventStore : EventStore State} {otherEvents : EventStore OtherState}
    (alike : SeenAlike store other state otherState tenantId)
    (listed : ∀ record ∈ store.listTenant state "governance_decision_records" tenantId,
      ListsReferences record)
    (events : (tenantEvents eventStore tenantId).map (seen ∘ asDict) =
      (tenantEvents otherEvents tenantId).map (seen ∘ asDict))
    (integrity : eventStore.validateIntegrity sha256 = otherEvents.validateIntegrity sha256)
    (bundleId otherId : String) (createdAt otherTime : UtcTime) :
    seenContents <$> exportBundle interpreter sha256 store state eventStore tenantId bundleId createdAt =
      seenContents <$> exportBundle interpreter sha256 other otherState otherEvents tenantId otherId
        otherTime := by
  unfold exportBundle
  dsimp only
  rw [← veilRefs_congr interpreter listed (alike _)]
  apply map_bind_congr id seenContents rfl
  rintro references _ rfl
  apply map_bind_congr _ seenContents (readSections_congr alike)
  intro sections otherSections sameSections
  have count : (tenantEvents eventStore tenantId).length =
      (tenantEvents otherEvents tenantId).length := by simpa using congrArg List.length events
  have rows : (sections.map fun entry => (entry.1, Json.arr entry.2)).map (Prod.map id seen) =
      (otherSections.map fun entry => (entry.1, Json.arr entry.2)).map (Prod.map id seen) := by
    have view : Prod.map id seen ∘ (fun entry : String × List Json => (entry.1, Json.arr entry.2)) =
        (fun entry => (entry.1, Json.arr entry.2)) ∘ Prod.map id (List.map seen) := by
      funext entry
      rw [Function.comp_apply, Function.comp_apply, Prod.map, Prod.map, seen_arr]
    rw [List.map_map, List.map_map, view, ← List.map_map, ← List.map_map, sameSections]
  have reputation :
      seen (.obj [("records", .arr (store.listTenant state "reputation" tenantId))]) =
        seen (.obj [("records", .arr (other.listTenant otherState "reputation" tenantId))]) := by
    apply seen_obj_congr
    rw [List.map_singleton, List.map_singleton, Prod.map, Prod.map, seen_arr, seen_arr, alike]
  apply congrArg Except.ok
  simp only [seenContents, AuditBundle.contents, List.map_append, rows, List.map_cons, List.map_nil,
    Prod.map, id_eq, seen_arr, timeline_congr events, alike "governance_decision_records",
    alike "marketplace_installs", eventHashChain_congr events integrity, count, reputation]

theorem exportBundle_returns (eventStore : EventStore State)
    (listed : ∀ record ∈ store.listTenant state "governance_decision_records" tenantId,
      ListsReferences record)
    (complete : CompleteArtifacts store state tenantId) (bundleId : String) (createdAt : UtcTime) :
    ∃ bundle, exportBundle interpreter sha256 store state eventStore tenantId bundleId createdAt =
      .ok bundle ∧ readSections store state tenantId = .ok bundle.sections := by
  obtain ⟨references, read⟩ := veilRefs_returns interpreter listed
  obtain ⟨sections, shown⟩ := readSections_returns complete
  unfold exportBundle
  dsimp only
  rw [read, shown]
  exact ⟨_, rfl, rfl⟩

/-- The redacted contents of a bundle stand after its redacted manifest. -/
theorem asDict_eq (bundle : AuditBundle) :
    bundle.asDict = .ok (.obj (("manifest", redact bundle.manifest.asDict) ::
      Json.maskFields isSensitive redactedText bundle.contents)) := by
  have clean (value : Json) : containsRawSensitive (redact value) = false := Json.exposes_mask value
  have shown : isSensitive "manifest" = false := by decide
  rw [AuditBundle.asDict, if_neg (by rw [clean]; exact Bool.false_ne_true), redact, Json.mask,
    Json.maskFields, if_neg (by rw [shown]; exact Bool.false_ne_true)]
  rfl

/-- Bundles that are seen alike have equal redacted contents. -/
theorem maskFields_same {bundle otherBundle : AuditBundle}
    (same : seenContents bundle = seenContents otherBundle) :
    (Json.obj (Json.maskFields isSensitive redactedText bundle.contents)).Same
      (.obj (Json.maskFields isSensitive redactedText otherBundle.contents)) := by
  have congruent := seen_obj_congr same
  rw [seen, seen, redact, redact, Json.mask, Json.mask] at congruent
  exact congruent

/-- The redaction of the contents changes only sensitive values. -/
theorem maskFields_sameOutside (contents : List (String × Json)) :
    SameOutside isSensitive (.obj (Json.maskFields isSensitive redactedText contents))
      (.obj contents) := .obj (Json.maskFields_sameOutside contents)

/-- The bundle holds what each of its collections reads. -/
theorem readSections_contents {sections : List (String × List Json)}
    (read : readSections store state tenantId = .ok sections) {entry : String × Reading × String}
    (member : entry ∈ sectionTable) : ∃ items, (entry.1, items) ∈ sections ∧
      readSection store state tenantId entry.2.1 entry.2.2 = .ok items := by
  obtain ⟨shown, inside, converted⟩ := exists_of_mem_rows read member
  cases items : readSection store state tenantId entry.2.1 entry.2.2 with
  | error error =>
      rw [items] at converted
      cases converted
  | ok rows =>
      rw [items] at converted
      obtain rfl := Except.ok.inj converted
      exact ⟨rows, inside, rfl⟩

end Bundles

variable (interpreter : Interpreter) (sha256 : String → String) (store : PersistenceStore State)
  (other : PersistenceStore OtherState) (state : State) (otherState : OtherState)
  (eventStore : EventStore State) (otherEvents : EventStore OtherState) (tenantId : String)

/-- The export of a tenant succeeds and depends, beside its manifest, only on what the records and
events of the tenant hold outside the sensitive keys, which it keeps. -/
theorem export_noninterference
    (records : ∀ collection, List.Forall₂ (AgreesOutside isSensitive)
      (store.listTenant state collection tenantId) (other.listTenant otherState collection tenantId))
    (events : List.Forall₂ (AgreesOutside isSensitive)
      ((tenantEvents eventStore tenantId).map asDict)
      ((tenantEvents otherEvents tenantId).map asDict))
    (integrity : eventStore.validateIntegrity sha256 = otherEvents.validateIntegrity sha256)
    (listed : ∀ record ∈ store.listTenant state "governance_decision_records" tenantId,
      ListsReferences record)
    (complete : CompleteArtifacts store state tenantId) (bundleId otherId : String)
    (createdAt otherTime : UtcTime) :
    ∃ bundle manifest contents otherManifest otherContents,
      exportBundle interpreter sha256 store state eventStore tenantId bundleId createdAt = .ok bundle ∧
      exportDict interpreter sha256 store state eventStore tenantId bundleId createdAt =
        .ok (.obj (("manifest", manifest) :: contents)) ∧
      exportDict interpreter sha256 other otherState otherEvents tenantId otherId otherTime =
        .ok (.obj (("manifest", otherManifest) :: otherContents)) ∧
      (Json.obj contents).Same (.obj otherContents) ∧
      SameOutside isSensitive (.obj contents) (.obj bundle.contents) ∧
      ∀ entry ∈ sectionTable, ∃ items, (entry.1, Json.arr items) ∈ bundle.contents ∧
        readSection store state tenantId entry.2.1 entry.2.2 = .ok items := by
  have alike : SeenAlike store other state otherState tenantId :=
    fun collection => map_seen_of_agreesOutside (records collection)
  have seenEvents := map_seen_of_agreesOutside events
  rw [List.map_map, List.map_map] at seenEvents
  obtain ⟨bundle, shown, sections⟩ := exportBundle_returns interpreter sha256 eventStore listed
    complete bundleId createdAt
  have congruent := exportBundle_congr interpreter sha256 alike listed seenEvents integrity
    bundleId otherId createdAt otherTime
  rw [shown] at congruent
  cases again : exportBundle interpreter sha256 other otherState otherEvents tenantId otherId
      otherTime with
  | error error =>
      rw [again] at congruent
      cases congruent
  | ok otherBundle =>
      rw [again] at congruent
      have contents : seenContents bundle = seenContents otherBundle := Except.ok.inj congruent
      have first := asDict_eq bundle
      have second := asDict_eq otherBundle
      have same := maskFields_same contents
      have kept := maskFields_sameOutside bundle.contents
      refine ⟨bundle, redact bundle.manifest.asDict,
        Json.maskFields isSensitive redactedText bundle.contents, redact otherBundle.manifest.asDict,
        Json.maskFields isSensitive redactedText otherBundle.contents, shown, ?_, ?_, same, kept, ?_⟩
      · rw [exportDict, shown]
        exact first
      · rw [exportDict, again]
        exact second
      · intro entry member
        obtain ⟨items, inside, read⟩ := readSections_contents sections member
        have listed : (entry.1, Json.arr items) ∈ bundle.contents := by
          rw [AuditBundle.contents]
          apply List.mem_append_right
          exact List.mem_map.mpr ⟨(entry.1, items), inside, rfl⟩
        exact ⟨items, listed, read⟩

end Stores

/-- A float is not read in these runs. -/
def textInterpreter : Interpreter := ⟨fun _ => true, fun _ => 0, fun _ => false⟩

/-- A store without events. -/
def noEvents : EventStore MemoryPersistenceStore := ⟨none, []⟩

/-- A tool of one tenant with a secret. -/
def secretTool (secret : String) : MemoryPersistenceStore :=
  MemoryPersistenceStore.initial.put "tools" "tool-1"
    (.obj [("tenant_id", .str "tenant-a"), ("Secret", .str secret)])

theorem secretTool_list (secret collection : String) :
    backend.listTenant (secretTool secret) collection "tenant-a" =
      if collection = "tools" then [.obj [("tenant_id", .str "tenant-a"), ("Secret", .str secret)]]
      else [] := by
  unfold PersistenceStore.listTenant secretTool
  simp only [backend, MemoryPersistenceStore.list,
    documents, MemoryPersistenceStore.put, Dict.getD_set]
  split <;> rfl

/-- Two stores that differ in a secret export the same contents. -/
theorem export_noninterference_secret :
    ∃ manifest contents otherManifest otherContents,
      exportDict textInterpreter id backend (secretTool "one") noEvents "tenant-a"
        "audit-bundle-1" .first = .ok (.obj (("manifest", manifest) :: contents)) ∧
      exportDict textInterpreter id backend (secretTool "two") noEvents "tenant-a"
        "audit-bundle-2" .first = .ok (.obj (("manifest", otherManifest) :: otherContents)) ∧
      (Json.obj contents).Same (.obj otherContents) := by
  have records (collection : String) : List.Forall₂ (AgreesOutside isSensitive)
      (backend.listTenant (secretTool "one") collection "tenant-a")
      (backend.listTenant (secretTool "two") collection "tenant-a") := by
    rw [secretTool_list, secretTool_list]
    split
    · exact .cons (.obj (.hidden (by decide) (.shown (.str _) .nil))) .nil
    · exact .nil
  have listed (record : Json) (member : record ∈ backend.listTenant
      (secretTool "one") "governance_decision_records" "tenant-a") : ListsReferences record := by
    rw [secretTool_list] at member
    cases member
  have complete : CompleteArtifacts backend (secretTool "one") "tenant-a" := by
    intro entry inside reading row member
    rw [secretTool_list] at member
    split at member
    · rename_i own
      have plain : ∀ entry ∈ sectionTable, entry.2.2 = "tools" → entry.2.1 = .rows := by decide
      rw [plain entry inside own] at reading
      cases reading
    · cases member
  obtain ⟨_, manifest, contents, otherManifest, otherContents, _, first, second, same, _⟩ :=
    export_noninterference textInterpreter id backend
      backend (secretTool "one") (secretTool "two") noEvents noEvents "tenant-a"
      records .nil rfl listed complete "audit-bundle-1" "audit-bundle-2" .first .first
  exact ⟨manifest, contents, otherManifest, otherContents, first, second, same⟩

/-- A job record without an organization. -/
def ownerlessJob : MemoryPersistenceStore :=
  MemoryPersistenceStore.initial.put "renovation_jobs" "job-1" (.obj [("tenant_id", .str "tenant-a")])

/-- A store with a record that lacks a shown field agrees with itself and has no bundle. -/
theorem ownerlessJob_not_exported :
    (∀ collection, List.Forall₂ (AgreesOutside isSensitive)
      (backend.listTenant ownerlessJob collection "tenant-a")
      (backend.listTenant ownerlessJob collection "tenant-a")) ∧
    (∀ record ∈ backend.listTenant ownerlessJob
      "governance_decision_records" "tenant-a", ListsReferences record) ∧
    exportDict textInterpreter id backend ownerlessJob noEvents "tenant-a"
      "audit-bundle-1" .first = .error (.keyError "organization_id") := by
  refine ⟨fun collection => ?_, ?_, rfl⟩
  · exact List.forall₂_same.mpr fun row _ => Json.SameOutside.refl _ row.sortKeys
  · intro record member
    cases member

end AgentFabric.Audit
