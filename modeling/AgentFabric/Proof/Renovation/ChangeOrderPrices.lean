import AgentFabric.Construction.Renovation.ChangeOrderService
import AgentFabric.Foundation.Money

namespace AgentFabric.Renovation
open ChangeOrderPricing

namespace ChangeOrderService

variable {library : FloatLibrary} {loadTemplate : String → Except PyError ChangeOrderTemplate}
  {render : ChangeOrder → List String → String} {sha256 : String → String}
  {tenantId jobId proposalId : String} {estimate estimateInput : Json}

section Identity

/-- The identity of an order is made of the payload, the priced lines and the template. -/
def identityOf (tenantId jobId proposalId : String) (payload : ChangeOrderPayload)
    (lines : List ChangeOrderLine) (template : ChangeOrderTemplate) : List (String × Json) := [
  ("tenant_id", .str tenantId),
  ("job_id", .str jobId),
  ("proposal_id", .str proposalId),
  ("source_type", .str payload.source),
  ("source_reference", .str payload.sourceReference),
  ("title", .str payload.title),
  ("description", .str (payload.description.getD "")),
  ("lines", .arr (lines.map ChangeOrderLine.asDict)),
  ("schedule_delta_days", .int (payload.scheduleDeltaDays.getD 0)),
  ("template_id", .str template.templateId),
  ("template_version", .str template.version)]

/-- A created order carries its price and is named by its identity. -/
structure Creates (library : FloatLibrary)
    (loadTemplate : String → Except PyError ChangeOrderTemplate) (sha256 : String → String)
    (tenantId jobId proposalId : String) (estimate estimateInput : Json)
    (payload : ChangeOrderPayload) (order : ChangeOrder) : Prop where
  priced : price library estimate estimateInput payload = .ok order.toChangeOrderPrice
  named : ∃ template, loadTemplate (payload.templateId.getD "change_order_standard") = .ok template ∧
    order.identity = identityOf tenantId jobId proposalId payload order.lines template
  digest : order.changeOrderId = "change-" ++ digestPrefix sha256 20 (.obj order.identity)

variable {payload : ChangeOrderPayload}

theorem create_eq_ok {order : ChangeOrder}
    (created : create (tools library loadTemplate render) sha256 tenantId jobId proposalId estimate
      estimateInput payload = .ok order) :
    Creates library loadTemplate sha256 tenantId jobId proposalId estimate estimateInput payload
      order := by
  unfold create at created
  split at created
  · cases created
  split at created
  · cases created
  split at created
  · cases created
  obtain ⟨found, priced, created⟩ := bind_eq_ok_iff.mp created
  obtain ⟨template, loaded, created⟩ := bind_eq_ok_iff.mp created
  cases created
  exact ⟨priced, ⟨template, loaded, rfl⟩, rfl⟩

theorem create_returns {found : ChangeOrderPrice}
    {template : ChangeOrderTemplate} (source : payload.source ∈ sourceTypes)
    (opening : payload.opening ∈ openingStatuses) (lines : payload.lines ≠ [])
    (priced : price library estimate estimateInput payload = .ok found)
    (loaded : loadTemplate (payload.templateId.getD "change_order_standard") = .ok template) :
    ∃ order, create (tools library loadTemplate render) sha256 tenantId jobId proposalId estimate
        estimateInput payload = .ok order ∧ order.toChangeOrderPrice = found ∧
      order.identity = identityOf tenantId jobId proposalId payload found.lines template := by
  unfold create
  rw [if_neg (not_not.mpr source), if_neg (not_not.mpr opening), if_neg lines]
  refine ⟨_, bind_eq_ok_iff.mpr ⟨found, priced, bind_eq_ok_iff.mpr
    ⟨template, loaded, rfl⟩⟩, rfl, rfl⟩

/-- A line is told by its dict. -/
theorem line_of_same {first second : ChangeOrderLine} (same : first.asDict.Same second.asDict) :
    first = second := by
  have text (key value : String) (present : second.asDict.field? key = some (.str value)) :
      first.asDict.field? key = some (.str value) := Json.field?_of_same same present trivial
  have number (key : String) (value : FloatRepr)
      (present : second.asDict.field? key = some (.float value)) :
      first.asDict.field? key = some (.float value) := Json.field?_of_same same present trivial
  have description := text "description" second.description rfl
  have category := text "category" second.category rfl
  have quantity := number "quantity" second.quantity rfl
  have unit := text "unit" second.unit rfl
  have materialCost := number "material_cost" second.materialCost rfl
  have laborHours := number "labor_hours" second.laborHours rfl
  have laborCost := number "labor_cost" second.laborCost rfl
  have total := number "total" second.total rfl
  cases first
  cases second
  cases description
  cases category
  cases quantity
  cases unit
  cases materialCost
  cases laborHours
  cases laborCost
  cases total
  rfl

/-- Lines are told by their dicts. -/
theorem lines_of_same {first second : List ChangeOrderLine}
    (same : (first.map ChangeOrderLine.asDict).map Json.sortKeys =
      (second.map ChangeOrderLine.asDict).map Json.sortKeys) : first = second := by
  induction first generalizing second with
  | nil =>
      cases second with
      | nil => rfl
      | cons line rest => cases same
  | cons line rest ih =>
      cases second with
      | nil => cases same
      | cons other others =>
          obtain ⟨heads, tails⟩ := List.cons_eq_cons.mp same
          rw [line_of_same heads, ih tails]

/-- Two identities with one text have the same lines. -/
theorem identity_lines {order other : ChangeOrder}
    (same : (Json.obj order.identity).dumps = (Json.obj other.identity).dumps) :
    order.lines = other.lines := by
  have documents := Json.same_of_dumps_eq same
  have fields : ((Json.obj order.identity).field? "lines").map Json.sortKeys =
      ((Json.obj other.identity).field? "lines").map Json.sortKeys := by
    rw [← Json.field?_sortKeys, ← Json.field?_sortKeys, documents]
  have listed : Json.sortKeys (.arr (order.lines.map ChangeOrderLine.asDict)) =
      Json.sortKeys (.arr (other.lines.map ChangeOrderLine.asDict)) := Option.some.inj fields
  rw [Json.sortKeys, Json.sortKeys, Json.sortItems_eq_map, Json.sortItems_eq_map] at listed
  exact lines_of_same (Json.arr.inj listed)

end Identity

section Price

/-- A price consists of the priced lines, the percentages and the amounts that these give. -/
structure Priced (library : FloatLibrary) (estimate estimateInput : Json)
    (payload : ChangeOrderPayload) (price : ChangeOrderPrice) : Prop where
  lines : priceLines library estimateInput payload.lines = .ok price.lines
  contingencyPercentage : percentage library payload.contingencyPercentage estimate
    "contingency_percentage" = .ok price.contingencyPercentage
  taxPercentage : percentage library payload.taxPercentage estimate "tax_percentage" =
    .ok price.taxPercentage
  amounts : ∃ totals, totals = amounts library (materialTotal library price.lines)
      (laborTotal library price.lines) price.contingencyPercentage price.taxPercentage ∧
    price.subtotal = totals.subtotal ∧ price.contingency = totals.contingency ∧
      price.tax = totals.tax ∧ price.totalAdjustment = totals.total

theorem calculate_eq_ok {material labor contingencyPercentage taxPercentage : FloatRepr}
    {totals : CostTotals}
    (returned : calculate library material labor contingencyPercentage taxPercentage = .ok totals) :
    totals = amounts library material labor contingencyPercentage taxPercentage := by
  unfold calculate at returned
  split at returned
  · cases returned
  split at returned
  · cases returned
  cases returned
  rfl

theorem price_eq_ok {payload : ChangeOrderPayload} {found : ChangeOrderPrice}
    (priced : price library estimate estimateInput payload = .ok found) :
    Priced library estimate estimateInput payload found := by
  obtain ⟨lines, listed, priced⟩ := bind_eq_ok_iff.mp priced
  obtain ⟨contingencyPercentage, contingency, priced⟩ := bind_eq_ok_iff.mp priced
  obtain ⟨taxPercentage, tax, priced⟩ := bind_eq_ok_iff.mp priced
  obtain ⟨totals, calculated, priced⟩ := bind_eq_ok_iff.mp priced
  cases priced
  exact ⟨listed, contingency, tax, totals, calculate_eq_ok calculated, rfl, rfl, rfl, rfl⟩

/-- The percentages of two payloads round to the same amounts on the lines of the first. -/
def SameAmounts (library : FloatLibrary) (estimate estimateInput : Json)
    (first second : ChangeOrderPayload) : Prop :=
  ∀ lines firstContingency firstTax secondContingency secondTax,
    priceLines library estimateInput first.lines = .ok lines →
    percentage library first.contingencyPercentage estimate "contingency_percentage" =
      .ok firstContingency →
    percentage library first.taxPercentage estimate "tax_percentage" = .ok firstTax →
    percentage library second.contingencyPercentage estimate "contingency_percentage" =
      .ok secondContingency →
    percentage library second.taxPercentage estimate "tax_percentage" = .ok secondTax →
      amounts library (materialTotal library lines) (laborTotal library lines) firstContingency
          firstTax =
        amounts library (materialTotal library lines) (laborTotal library lines) secondContingency
          secondTax

/-- The amounts agree when the ones that the order keeps agree. -/
theorem amounts_eq_iff (material labor contingency tax otherContingency otherTax : FloatRepr) :
    amounts library material labor contingency tax =
        amounts library material labor otherContingency otherTax ↔
      (amounts library material labor contingency tax).contingency =
          (amounts library material labor otherContingency otherTax).contingency ∧
        (amounts library material labor contingency tax).tax =
          (amounts library material labor otherContingency otherTax).tax := by
  constructor
  · intro same
    rw [same]
    exact ⟨rfl, rfl⟩
  · rintro ⟨contingencies, taxes⟩
    simp only [amounts, CostTotals.mk.injEq] at contingencies taxes ⊢
    rw [contingencies] at taxes ⊢
    rw [taxes]
    exact ⟨trivial, rfl, rfl, rfl, rfl⟩

/-- Two change orders of one job and estimate with the same id have the same price exactly when the
percentages of their payloads give the same amounts. -/
theorem create_samePrice_iff (library : FloatLibrary)
    (loadTemplate : String → Except PyError ChangeOrderTemplate)
    (render : ChangeOrder → List String → String) (sha256 : String → String)
    (tenantId jobId proposalId : String) (estimate estimateInput : Json)
    (first second : ChangeOrderPayload) (order other : ChangeOrder)
    (created : create (tools library loadTemplate render) sha256 tenantId jobId proposalId estimate
      estimateInput first = .ok order)
    (otherCreated : create (tools library loadTemplate render) sha256 tenantId jobId proposalId
      estimate estimateInput second = .ok other)
    (distinguishes : digestPrefix sha256 20 (.obj order.identity) =
        digestPrefix sha256 20 (.obj other.identity) →
      (Json.obj order.identity).dumps = (Json.obj other.identity).dumps)
    (sameId : order.changeOrderId = other.changeOrderId) :
    (order.subtotal = other.subtotal ∧ order.contingency = other.contingency ∧
        order.tax = other.tax ∧ order.totalAdjustment = other.totalAdjustment) ↔
      SameAmounts library estimate estimateInput first second := by
  have made := create_eq_ok created
  have otherMade := create_eq_ok otherCreated
  have digests : digestPrefix sha256 20 (.obj order.identity) =
      digestPrefix sha256 20 (.obj other.identity) := by
    have ids := made.digest.symm.trans (sameId.trans otherMade.digest)
    simpa using ids
  have lines := identity_lines (distinguishes digests)
  have priced := price_eq_ok made.priced
  have otherPriced := price_eq_ok otherMade.priced
  obtain ⟨totals, rfl, subtotal, contingency, tax, total⟩ := priced.amounts
  obtain ⟨otherTotals, rfl, otherSubtotal, otherContingency, otherTax, otherTotal⟩ :=
    otherPriced.amounts
  rw [← lines] at otherSubtotal otherContingency otherTax otherTotal
  have agree : SameAmounts library estimate estimateInput first second ↔
      amounts library (materialTotal library order.lines) (laborTotal library order.lines)
          order.contingencyPercentage order.taxPercentage =
        amounts library (materialTotal library order.lines) (laborTotal library order.lines)
          other.contingencyPercentage other.taxPercentage := by
    constructor
    · intro same
      exact same _ _ _ _ _ priced.lines priced.contingencyPercentage priced.taxPercentage
        otherPriced.contingencyPercentage otherPriced.taxPercentage
    · intro same found firstContingency firstTax secondContingency secondTax listed firstGiven
        firstTaxGiven secondGiven secondTaxGiven
      cases priced.lines.symm.trans listed
      cases priced.contingencyPercentage.symm.trans firstGiven
      cases priced.taxPercentage.symm.trans firstTaxGiven
      cases otherPriced.contingencyPercentage.symm.trans secondGiven
      cases otherPriced.taxPercentage.symm.trans secondTaxGiven
      exact same
  rw [agree, subtotal, contingency, tax, total, otherSubtotal, otherContingency, otherTax, otherTotal]
  constructor
  · rintro ⟨_, contingencies, taxes, _⟩
    exact (amounts_eq_iff _ _ _ _ _ _).mpr ⟨contingencies, taxes⟩
  · intro same
    rw [same]
    exact ⟨rfl, rfl, rfl, rfl⟩

end Price

section Example

/-- The cents of an amount with at most two decimal places. -/
def centsOf (amount : FloatRepr) : Int :=
  let digits (text : List Char) : Nat := text.foldl (fun value char => 10 * value + (char.toNat - 48)) 0
  let units := amount.text.toList.takeWhile (· ≠ '.')
  let places := (amount.text.toList.dropWhile (· ≠ '.')).drop 1
  digits units * 100 + digits ((places ++ ['0', '0']).take 2)

/-- The arithmetic of amounts in cents. -/
def centsLibrary : FloatLibrary where
  str := fun value => match value with
    | .str text => text
    | _ => ""
  float := fun value => match value with
    | .float amount => .ok amount
    | _ => .error (.typeError "float() argument must be a string or a real number")
  entries := fun value => match value with
    | .obj fields => .ok fields
    | _ => .error (.typeError "object is not iterable")
  add := fun first second => Money.repr (centsOf first + centsOf second)
  mul := fun first second => Money.repr (centsOf first * centsOf second / 100)
  div := fun first second => Money.repr (centsOf first * 100 / centsOf second)
  sum := fun amounts => Money.repr (amounts.map centsOf).sum
  round2 := fun amount => amount
  atMost := fun first second => centsOf first ≤ centsOf second

/-- A change order for one day of general work with a contingency. -/
def dayPayload (contingency : FloatRepr) : ChangeOrderPayload where
  jobId := "job-1"
  sourceType := none
  sourceReference := "scope-1"
  status := none
  title := "One more day"
  description := none
  lines := [.obj [("description", .str "General work"), ("category", .str "general"),
    ("quantity", .float ⟨"1.0", Eq.refl true⟩)]]
  contingencyPercentage := some contingency
  taxPercentage := some ⟨"0.0", Eq.refl true⟩
  scheduleDeltaDays := none
  templateId := none

def tenPercent : FloatRepr := ⟨"10.0", by decide⟩

def twentyPercent : FloatRepr := ⟨"20.0", by decide⟩

/-- The line of the day, whose materials cost 75 and whose hour of labor costs 65. -/
def dayLine : ChangeOrderLine where
  description := "General work"
  category := "general"
  quantity := ⟨"1.0", Eq.refl true⟩
  unit := "item"
  materialCost := ⟨"75.0", Eq.refl true⟩
  laborHours := ⟨"1.0", Eq.refl true⟩
  laborCost := ⟨"65.0", Eq.refl true⟩
  total := ⟨"140.0", by decide⟩

/-- The price of the day with a contingency. -/
def dayPrice (contingencyPercentage contingency total : FloatRepr) : ChangeOrderPrice where
  lines := [dayLine]
  materialTotal := ⟨"75.0", Eq.refl true⟩
  laborTotal := ⟨"65.0", Eq.refl true⟩
  subtotal := ⟨"140.0", by decide⟩
  contingencyPercentage := contingencyPercentage
  contingency := contingency
  taxPercentage := ⟨"0.0", Eq.refl true⟩
  tax := ⟨"0.0", Eq.refl true⟩
  totalAdjustment := total

theorem dayPrice_ten : price centsLibrary (.obj []) (.obj []) (dayPayload tenPercent) =
    .ok (dayPrice tenPercent ⟨"14.0", by decide⟩ ⟨"154.0", by decide⟩) := by
  rfl

theorem dayPrice_twenty : price centsLibrary (.obj []) (.obj []) (dayPayload twentyPercent) =
    .ok (dayPrice twentyPercent ⟨"28.0", by decide⟩ ⟨"168.0", by decide⟩) := by
  rfl

/-- The template of change orders, of which only the name and the version enter the identity. -/
def standardTemplate : ChangeOrderTemplate := ⟨"change_order_standard", "1.0.0", []⟩

/-- The order of a day for a price of its payload. -/
theorem dayOrder_created {payload : ChangeOrderPayload} {found : ChangeOrderPrice}
    (source : payload.source ∈ sourceTypes) (opening : payload.opening ∈ openingStatuses)
    (lines : payload.lines ≠ []) (priced : price centsLibrary (.obj []) (.obj []) payload = .ok found) :
    ∃ order, create (tools centsLibrary (fun _ => .ok standardTemplate) fun _ _ => "") id "tenant-a"
        "job-1" "proposal-1" (.obj []) (.obj []) payload = .ok order ∧
      order.toChangeOrderPrice = found ∧
      order.identity = identityOf "tenant-a" "job-1" "proposal-1" payload found.lines
        standardTemplate :=
  create_returns source opening lines priced rfl

/-- A draft and a sent order with one contingency share their id and their price. -/
theorem create_samePrice_draft :
    ∃ order other,
      create (tools centsLibrary (fun _ => .ok standardTemplate) fun _ _ => "") id "tenant-a" "job-1"
        "proposal-1" (.obj []) (.obj []) (dayPayload tenPercent) = .ok order ∧
      create (tools centsLibrary (fun _ => .ok standardTemplate) fun _ _ => "") id "tenant-a" "job-1"
        "proposal-1" (.obj []) (.obj []) { dayPayload tenPercent with status := some "draft" } =
          .ok other ∧
      ((order.subtotal = other.subtotal ∧ order.contingency = other.contingency ∧
          order.tax = other.tax ∧ order.totalAdjustment = other.totalAdjustment) ↔
        SameAmounts centsLibrary (.obj []) (.obj []) (dayPayload tenPercent)
          { dayPayload tenPercent with status := some "draft" }) := by
  obtain ⟨order, created, _, named⟩ := @dayOrder_created (dayPayload tenPercent) _ (by decide)
    (by decide) (List.cons_ne_nil _ _) dayPrice_ten
  obtain ⟨other, otherCreated, _, otherNamed⟩ :=
    @dayOrder_created { dayPayload tenPercent with status := some "draft" } _ (by decide) (by decide)
      (List.cons_ne_nil _ _) dayPrice_ten
  have same : order.identity = other.identity := named.trans otherNamed.symm
  have ids : order.changeOrderId = other.changeOrderId := by
    rw [(create_eq_ok created).digest, (create_eq_ok otherCreated).digest, same]
  refine ⟨order, other, created, otherCreated, ?_⟩
  exact create_samePrice_iff centsLibrary _ _ id "tenant-a" "job-1" "proposal-1" _ _ _ _ order other
    created otherCreated (fun _ => congrArg (fun fields => (Json.obj fields).dumps) same) ids

/-- Two orders that differ in their contingency only share their id. -/
theorem create_samePrice_fails :
    ¬ ∀ (library : FloatLibrary) (loadTemplate : String → Except PyError ChangeOrderTemplate)
      (render : ChangeOrder → List String → String) (sha256 : String → String)
      (tenantId jobId proposalId : String) (estimate estimateInput : Json)
      (first second : ChangeOrderPayload) (order other : ChangeOrder),
        create (tools library loadTemplate render) sha256 tenantId jobId proposalId estimate
            estimateInput first = .ok order →
          create (tools library loadTemplate render) sha256 tenantId jobId proposalId estimate
            estimateInput second = .ok other →
          (digestPrefix sha256 20 (.obj order.identity) =
              digestPrefix sha256 20 (.obj other.identity) →
            (Json.obj order.identity).dumps = (Json.obj other.identity).dumps) →
          order.changeOrderId = other.changeOrderId →
            order.subtotal = other.subtotal ∧ order.contingency = other.contingency ∧
              order.tax = other.tax ∧ order.totalAdjustment = other.totalAdjustment := by
  intro identifies
  obtain ⟨order, created, priced, named⟩ := @dayOrder_created (dayPayload tenPercent) _ (by decide)
    (by decide) (List.cons_ne_nil _ _) dayPrice_ten
  obtain ⟨other, otherCreated, otherPriced, otherNamed⟩ := @dayOrder_created
    (dayPayload twentyPercent) _ (by decide) (by decide) (List.cons_ne_nil _ _) dayPrice_twenty
  have same : order.identity = other.identity := named.trans otherNamed.symm
  have ids : order.changeOrderId = other.changeOrderId := by
    rw [(create_eq_ok created).digest, (create_eq_ok otherCreated).digest, same]
  obtain ⟨_, contingencies, _⟩ := identifies _ _ _ _ _ _ _ _ _ _ _ _ _ created otherCreated
    (fun _ => congrArg (fun fields => (Json.obj fields).dumps) same) ids
  rw [priced, otherPriced] at contingencies
  exact absurd (congrArg FloatRepr.text contingencies) (by decide)

end Example

end ChangeOrderService

end AgentFabric.Renovation
