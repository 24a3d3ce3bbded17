import AgentFabric.Construction.Renovation.CustomerPortal

namespace AgentFabric.Renovation.CustomerPortal
open Cloud Persistence PersistenceStore Sorting Comprehension StoredArtifacts LowerText
open MemoryPersistenceStore

section Validation

mutual

/-- A document that is accepted has no forbidden key at any depth. -/
theorem validate_deepKeys : ∀ value : Json, validate value = .ok () →
    ∀ key ∈ value.deepKeys, isForbidden key = false
  | .null, _ => nofun
  | .bool _, _ => nofun
  | .int _, _ => nofun
  | .float _, _ => nofun
  | .str _, _ => nofun
  | .arr items, accepted => by
      rw [validate] at accepted
      exact validateItems_deepKeys items accepted
  | .obj fields, accepted => by
      rw [validate] at accepted
      exact validateFields_deepKeys fields accepted

theorem validateItems_deepKeys : ∀ items : List Json, validateItems items = .ok () →
    ∀ key ∈ Json.deepKeysItems items, isForbidden key = false
  | [], _ => nofun
  | item :: rest, accepted => by
      intro key member
      rw [validateItems, bind_eq_ok_iff] at accepted
      obtain ⟨_, first, later⟩ := accepted
      obtain inside | outside := List.mem_append.mp member
      · exact validate_deepKeys item first key inside
      · exact validateItems_deepKeys rest later key outside

theorem validateFields_deepKeys : ∀ fields : List (String × Json), validateFields fields = .ok () →
    ∀ key ∈ Json.deepKeysFields fields, isForbidden key = false
  | [], _ => nofun
  | (name, item) :: rest, accepted => by
      intro key member
      rw [validateFields] at accepted
      split at accepted
      · cases accepted
      · rename_i allowed
        rw [bind_eq_ok_iff] at accepted
        obtain ⟨_, first, later⟩ := accepted
        rw [Json.deepKeysFields, List.cons_append] at member
        obtain rfl | member := List.mem_cons.mp member
        · exact Bool.eq_false_iff.mpr allowed
        · obtain inside | outside := List.mem_append.mp member
          · exact validate_deepKeys item first key inside
          · exact validateFields_deepKeys rest later key outside

end

/-- A key that is not forbidden contains no forbidden word, also not in lower case. -/
theorem not_isInfix_of_allowed {key : String} (allowed : isForbidden key = false) :
    ∀ word ∈ forbiddenKeys, ¬ word.toList <:+: key.toList ∧ ¬ word.toList <:+: lower key := by
  intro word member
  have absent : ¬ word.toList <:+: lower key := by
    have none := List.any_eq_false.mp allowed word member
    simpa using none
  have own : ∀ word ∈ forbiddenKeys, lower word = word.toList := by decide +kernel
  exact ⟨fun inside => absent (isInfix_lower (own word member) inside), absent⟩

variable {sha256 : String → String} {tenantId customerId generatedDate : String}
  {projects communications : List Json} {policy : CustomerVisibilityPolicy}
  {shown : CustomerPortalView}

/-- The keys of a view are allowed. -/
theorem view_deepKeys (returned : view sha256 tenantId customerId generatedDate projects
    communications policy = .ok shown) :
    ∀ key ∈ shown.asDict.deepKeys, isForbidden key = false := by
  obtain ⟨_, accepted, rest⟩ := bind_eq_ok_iff.mp returned
  obtain rfl := Except.ok.inj rest
  have inner := validate_deepKeys _ accepted
  intro key member
  simp only [CustomerPortalView.asDict, Json.deepKeys, Json.deepKeysFields, List.nil_append,
    List.append_nil, List.cons_append, List.mem_cons, List.mem_append] at member
  simp only [viewValue, Json.deepKeys, Json.deepKeysFields, List.nil_append, List.append_nil,
    List.cons_append, List.mem_cons, List.mem_append] at inner
  obtain rfl | member := member
  · decide +kernel
  · by_cases last : key = "view_hash"
    · rw [last]
      decide +kernel
    · exact inner key (by tauto)

end Validation

section Visible

variable (reader : Reader) {State : Type} (store : PersistenceStore State)
  (firstContext secondContext : TenantContext) (first second : State) (context : TenantContext)

/-- The rows of a tenant that pass a filter. -/
def shownRows (state : State) (collection : String)
    (keeps : Json → Except PyError Bool) : List Json :=
  (store.listTenant state collection context.tenantId).filter (passes keeps)

/-- The rows of the jobs of a customer. -/
def jobRows (state : State) (customerId : String) : List Json :=
  shownRows store context state "renovation_jobs"
    (isCustomerJob reader store state context customerId)

/-- Two states agree on the proposal, the schedules, the logs that are not internal, the approved
photos and change orders and the invoices of a job. -/
structure AgreesOnProject (job : StoredArtifacts.Job) : Prop where
  proposal : store.get first "renovation_proposals" job.proposalId =
    store.get second "renovation_proposals" job.proposalId
  schedules : shownRows store firstContext first "renovation_schedules" (ofJob reader job.jobId) =
    shownRows store secondContext second "renovation_schedules" (ofJob reader job.jobId)
  dailyLogs :
    shownRows store firstContext first "renovation_daily_logs" (isCustomerLog reader job.jobId) =
      shownRows store secondContext second "renovation_daily_logs" (isCustomerLog reader job.jobId)
  photos :
    shownRows store firstContext first "renovation_photo_records"
        (isApprovedPhoto reader job.jobId) =
      shownRows store secondContext second "renovation_photo_records"
        (isApprovedPhoto reader job.jobId)
  changeOrders :
    shownRows store firstContext first "renovation_change_orders"
        (isApprovedChangeOrder reader job.jobId) =
      shownRows store secondContext second "renovation_change_orders"
        (isApprovedChangeOrder reader job.jobId)
  invoices : shownRows store firstContext first "renovation_invoices" (ofJob reader job.jobId) =
    shownRows store secondContext second "renovation_invoices" (ofJob reader job.jobId)

/-- Two states of one tenant agree on what a customer may see. -/
structure AgreesFor (customerId : String) : Prop where
  tenant : firstContext.tenantId = secondContext.tenantId
  customer : customerRecord reader store first firstContext customerId =
    customerRecord reader store second secondContext customerId
  jobs : jobRows reader store firstContext first customerId =
    jobRows reader store secondContext second customerId
  projects : ∀ row ∈ jobRows reader store firstContext first customerId, ∀ job,
    artifact reader (jobFromDict reader) row = .ok job →
      AgreesOnProject reader store firstContext secondContext first second job
  messages :
    shownRows store firstContext first "renovation_customer_messages"
        (isCustomerMessage reader customerId) =
      shownRows store secondContext second "renovation_customer_messages"
        (isCustomerMessage reader customerId)

end Visible

section Projection

variable {reader : Reader} {State : Type} {store : PersistenceStore State}
  {firstContext secondContext : TenantContext} {first second : State} {customerId : String}

theorem tenantRecord_eq_ok {state : State} {context : TenantContext} {collection key label : String}
    {record : Json} (read : tenantRecord store state context collection key label = .ok record) :
    store.get state collection key = some record := by
  obtain ⟨_, -, found⟩ := bind_eq_ok_iff.mp read
  split at found
  · cases found
  · rename_i stored present
    split at found
    · rw [present, Except.ok.inj found]
    · cases found

/-- A project is a function of its visible rows. -/
theorem customerProjectProjection_unique {job : StoredArtifacts.Job} {one two : Json}
    (agree : AgreesOnProject reader store firstContext secondContext first second job)
    (shown : customerProjectProjection reader store first firstContext job = .ok one)
    (again : customerProjectProjection reader store second secondContext job = .ok two) :
    one = two := by
  obtain ⟨proposal, readProposal, shown⟩ := bind_eq_ok_iff.mp shown
  obtain ⟨schedules, readSchedules, shown⟩ := bind_eq_ok_iff.mp shown
  obtain ⟨dailyLogs, readLogs, shown⟩ := bind_eq_ok_iff.mp shown
  obtain ⟨photos, readPhotos, shown⟩ := bind_eq_ok_iff.mp shown
  obtain ⟨changeOrders, readOrders, shown⟩ := bind_eq_ok_iff.mp shown
  obtain ⟨invoices, readInvoices, shown⟩ := bind_eq_ok_iff.mp shown
  obtain ⟨otherProposal, readProposal', again⟩ := bind_eq_ok_iff.mp again
  obtain ⟨otherSchedules, readSchedules', again⟩ := bind_eq_ok_iff.mp again
  obtain ⟨otherLogs, readLogs', again⟩ := bind_eq_ok_iff.mp again
  obtain ⟨otherPhotos, readPhotos', again⟩ := bind_eq_ok_iff.mp again
  obtain ⟨otherOrders, readOrders', again⟩ := bind_eq_ok_iff.mp again
  obtain ⟨otherInvoices, readInvoices', again⟩ := bind_eq_ok_iff.mp again
  obtain ⟨record, stored, converted⟩ := bind_eq_ok_iff.mp readProposal
  obtain ⟨otherRecord, otherStored, otherConverted⟩ := bind_eq_ok_iff.mp readProposal'
  have sameRecord : record = otherRecord := by
    have found := tenantRecord_eq_ok stored
    rw [agree.proposal, tenantRecord_eq_ok otherStored] at found
    exact (Option.some.inj found).symm
  rw [sameRecord, otherConverted] at converted
  obtain rfl := Except.ok.inj converted
  obtain rfl := comprehension_unique agree.schedules readSchedules readSchedules'
  obtain rfl := comprehension_unique agree.dailyLogs readLogs readLogs'
  obtain rfl := comprehension_unique agree.photos readPhotos readPhotos'
  obtain rfl := comprehension_unique agree.changeOrders readOrders readOrders'
  obtain rfl := comprehension_unique agree.invoices readInvoices readInvoices'
  exact Except.ok.inj (shown.symm.trans again)

variable {one two : List Json}

section

variable (agree : AgreesFor reader store firstContext secondContext first second customerId)
include agree

theorem projects_unique (shown : projects reader store first firstContext customerId = .ok one)
    (again : projects reader store second secondContext customerId = .ok two) : one = two := by
  obtain ⟨jobs, readJobs, shown⟩ := bind_eq_ok_iff.mp shown
  obtain ⟨otherJobs, readJobs', again⟩ := bind_eq_ok_iff.mp again
  obtain rfl := comprehension_unique agree.jobs readJobs readJobs'
  refine mapM_unique ?_ shown again
  intro job member firstProject secondProject
  rw [mem_sortedBy] at member
  obtain ⟨row, found, converted⟩ := exists_of_mem_mapM (comprehension_eq_ok readJobs) member
  exact customerProjectProjection_unique (agree.projects row found job converted)

theorem communications_unique
    (shown : communications reader store first firstContext customerId = .ok one)
    (again : communications reader store second secondContext customerId = .ok two) : one = two := by
  obtain ⟨messages, readMessages, shown⟩ := bind_eq_ok_iff.mp shown
  obtain ⟨otherMessages, readMessages', again⟩ := bind_eq_ok_iff.mp again
  obtain rfl := comprehension_unique agree.messages readMessages readMessages'
  exact Except.ok.inj (shown.symm.trans again)

end

end Projection

section Portal

variable {reader : Reader} {sha256 : String → String} {State : Type}
  {store : PersistenceStore State} {context : TenantContext} {customerId generatedDate : String}
  {shown : CustomerPortalView}

/-- A returned view was computed from the store that the call found. -/
theorem customerPortalView_eq_ok {service : RenovationService State}
    (returned : ((customerPortalView reader sha256 store context customerId generatedDate).perform
      service).1 = .ok shown) :
    ∃ projects communications, computedView reader sha256 store context customerId generatedDate
      service.persistence = .ok (shown, projects, communications) := by
  rw [customerPortalView, Effect.perform_bind_ok (Effect.perform_get service)] at returned
  cases computed : computedView reader sha256 store context customerId generatedDate
      service.persistence with
  | error error =>
      rw [computed, Effect.perform_bind_error (Effect.perform_ofExcept _ _)] at returned
      cases returned
  | ok result =>
      obtain ⟨view, projects, communications⟩ := result
      rw [computed, Effect.perform_bind_ok (Effect.perform_ofExcept _ _)] at returned
      dsimp only at returned
      cases put : store.put service.persistence "renovation_portal_views" view.portalViewId
          (portalRecord context customerId generatedDate view projects communications) with
      | error error =>
          rw [put, Effect.perform_bind_error (Effect.perform_ofExcept _ _)] at returned
          cases returned
      | ok persistence =>
          rw [put, Effect.perform_bind_ok (Effect.perform_ofExcept _ _)] at returned
          have same : view = shown := Except.ok.inj returned
          rw [same]
          exact ⟨projects, communications, rfl⟩

theorem computedView_eq_ok {state : State}
    {projectRows communicationRows : List Json}
    (returned : computedView reader sha256 store context customerId generatedDate state =
      .ok (shown, projectRows, communicationRows)) :
    projects reader store state context customerId = .ok projectRows ∧
      communications reader store state context customerId = .ok communicationRows ∧
      view sha256 context.tenantId customerId generatedDate projectRows communicationRows
        defaultVisibilityPolicy = .ok shown := by
  obtain ⟨_, -, returned⟩ := bind_eq_ok_iff.mp returned
  obtain ⟨readProjects, projected, returned⟩ := bind_eq_ok_iff.mp returned
  obtain ⟨readMessages, communicated, returned⟩ := bind_eq_ok_iff.mp returned
  obtain ⟨built, viewed, returned⟩ := bind_eq_ok_iff.mp returned
  cases returned
  exact ⟨projected, communicated, viewed⟩

/-- Two states that agree on what a customer may see give the customer one view, and no key of the
view contains a forbidden word. -/
theorem portalView_noninterference (reader : Reader) (sha256 : String → String) {State : Type}
    (store : PersistenceStore State) (firstContext secondContext : TenantContext)
    (customerId generatedDate : String) (first second : RenovationService State)
    (agree : AgreesFor reader store firstContext secondContext first.persistence second.persistence
      customerId)
    (one two : CustomerPortalView)
    (shown : ((customerPortalView reader sha256 store firstContext customerId generatedDate).perform
      first).1 = .ok one)
    (again : ((customerPortalView reader sha256 store secondContext customerId generatedDate).perform
      second).1 = .ok two) :
    one = two ∧ ∀ key ∈ one.asDict.deepKeys, ∀ word ∈ forbiddenKeys,
      ¬ word.toList <:+: key.toList ∧ ¬ word.toList <:+: lower key := by
  obtain ⟨firstProjects, firstMessages, firstComputed⟩ := customerPortalView_eq_ok shown
  obtain ⟨secondProjects, secondMessages, secondComputed⟩ := customerPortalView_eq_ok again
  obtain ⟨projected, communicated, viewed⟩ := computedView_eq_ok firstComputed
  obtain ⟨projected', communicated', viewed'⟩ := computedView_eq_ok secondComputed
  constructor
  · obtain rfl := projects_unique agree projected projected'
    obtain rfl := communications_unique agree communicated communicated'
    rw [agree.tenant] at viewed
    exact Except.ok.inj (viewed.symm.trans viewed')
  · intro key member
    exact not_isInfix_of_allowed (view_deepKeys viewed key member)

/-- A reader that takes floats as they are. -/
def floatReader : Reader where
  interpreter := ⟨fun _ => true, fun _ => 0, fun _ => true⟩
  toFloat := fun value => match value with
    | .float value => .ok value
    | _ => .error (.typeError "float() argument must be a string or a real number")

/-- The record of an artifact with its input. -/
def kitchenRow (input artifact : Fields) : Json := .obj [
  ("tenant_id", .str "tenant-a"),
  ("organization_id", .str "org"),
  ("created_by", .str "alice"),
  ("input", .obj input),
  ("artifact", .obj artifact)]

def zero : Json := .float ⟨"0.0", Eq.refl true⟩

def kitchenEstimate : Fields := [
  ("estimate_id", .str "e-1"), ("tenant_id", .str "tenant-a"), ("project_id", .str "project-1"),
  ("scope_description", .str "Cabinets"), ("scope_items", .arr []), ("material_lines", .arr []),
  ("labor_lines", .arr []), ("material_total", zero), ("labor_total", zero), ("subtotal", zero),
  ("contingency_percentage", zero), ("contingency", zero), ("taxable_amount", zero),
  ("tax_percentage", zero), ("tax", zero), ("total", zero), ("notes", .str "")]

def kitchenProposal : Json := kitchenRow [] [
  ("proposal_id", .str "p-1"), ("tenant_id", .str "tenant-a"),
  ("customer", .obj [("customer_id", .str "c-1"), ("name", .str "Bo")]),
  ("project", .obj [("project_id", .str "project-1"), ("title", .str "Kitchen"),
    ("property_address", .str "200 Oak Street")]),
  ("estimate", .obj kitchenEstimate), ("template_id", .str "standard_proposal"),
  ("template_version", .str "1.0.0"), ("style", .str "plain"),
  ("scope_of_work", .arr [.str "Cabinets"]), ("payment_schedule", .arr []), ("timeline", .arr []),
  ("warranty", .str ""), ("terms_and_conditions", .arr []), ("rendered_text", .str "")]

def kitchenJobRow : Json := kitchenRow [] [
  ("job_id", .str "job-1"), ("tenant_id", .str "tenant-a"), ("proposal_id", .str "p-1"),
  ("project_id", .str "project-1"), ("title", .str "Kitchen"), ("status", .str "active"),
  ("accepted_date", .str "2026-08-03"), ("acceptance_reference", .str "signed"),
  ("phases", .arr []), ("current_phase", .str ""), ("template_id", .str "standard_proposal")]

def kitchenLog (input : Fields) (logId : String) (completedWork : Json) : Json := kitchenRow input [
  ("daily_log_id", .str logId), ("job_id", .str "job-1"), ("work_date", .str "2026-08-10"),
  ("summary", .str "Site protection"), ("completed_work", .arr [completedWork])]

/-- A store with a customer, a job and a log that is shown. -/
def kitchenStore : MemoryPersistenceStore :=
  ((((MemoryPersistenceStore.initial.put "renovation_customers" "c-1" (kitchenRow [] [])).put
    "renovation_proposals" "p-1" kitchenProposal).put
    "renovation_jobs" "job-1" kitchenJobRow).put
    "renovation_daily_logs" "log-1" (kitchenLog [] "log-1" (.obj [("area", .str "hall")])))

/-- The same store with a log that is internal and a cost. -/
def costedStore : MemoryPersistenceStore :=
  (kitchenStore.put "renovation_daily_logs" "log-2"
    (kitchenLog [("internal", .bool true)] "log-2" (.obj [("margin", .int 12)]))).put
    "renovation_job_costs" "cost-1" (kitchenRow [] [("amount", .int 900)])

/-- The view of the customer of the kitchen for a user of the tenant. -/
def kitchenView (principalId : String) (store : MemoryPersistenceStore) :
    Except PyError CustomerPortalView :=
  ((customerPortalView floatReader (fun _ => "5f2c") backend
    ⟨"tenant-a", "org", principalId⟩ "c-1" "2026-08-12").perform ⟨store, []⟩).1

theorem kitchenStore_agrees : AgreesFor floatReader backend
    ⟨"tenant-a", "org", "alice"⟩ ⟨"tenant-a", "org", "bob"⟩ kitchenStore costedStore "c-1" where
  tenant := rfl
  customer := rfl
  jobs := rfl
  projects := by
    intro row member job converted
    have only : jobRows floatReader backend ⟨"tenant-a", "org", "alice"⟩
        kitchenStore "c-1" = [kitchenJobRow] := rfl
    rw [only, List.mem_singleton] at member
    subst member
    have ids : (artifact floatReader (jobFromDict floatReader) kitchenJobRow).toOption.map
        (fun job => (job.jobId, job.proposalId)) = some ("job-1", "p-1") := by decide +kernel
    rw [converted] at ids
    obtain ⟨jobId, proposalId⟩ := Prod.mk.inj (Option.some.inj ids)
    constructor
    case proposal =>
      rw [proposalId]
      rfl
    all_goals
      rw [jobId]
      rfl
  messages := rfl

theorem portalView_noninterference_costedStore :
    ∃ one two, kitchenView "alice" kitchenStore = .ok one ∧ kitchenView "bob" costedStore = .ok two ∧
      one = two ∧ ∀ key ∈ one.asDict.deepKeys, ∀ word ∈ forbiddenKeys,
        ¬ word.toList <:+: key.toList ∧ ¬ word.toList <:+: lower key := by
  have first : (kitchenView "alice" kitchenStore).toOption.isSome = true := by decide +kernel
  have second : (kitchenView "bob" costedStore).toOption.isSome = true := by decide +kernel
  cases shown : kitchenView "alice" kitchenStore with
  | error error =>
      rw [shown] at first
      cases first
  | ok one =>
      cases again : kitchenView "bob" costedStore with
      | error error =>
          rw [again] at second
          cases second
      | ok two =>
          exact ⟨one, two, rfl, rfl, portalView_noninterference floatReader (fun _ => "5f2c")
            backend ⟨"tenant-a", "org", "alice"⟩ ⟨"tenant-a", "org", "bob"⟩
            "c-1" "2026-08-12" ⟨kitchenStore, []⟩ ⟨costedStore, []⟩ kitchenStore_agrees one two shown
            again⟩

end Portal

end AgentFabric.Renovation.CustomerPortal
