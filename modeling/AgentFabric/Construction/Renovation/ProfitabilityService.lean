import AgentFabric.Construction.Renovation.InvoiceService
import AgentFabric.Foundation.Comprehension

namespace AgentFabric.Renovation
open Comprehension
open Sorting

/-- What a forecast reads of an invoice or a payable. -/
structure DueBalance where
  id : String
  outstandingBalance : Int
  dueDate : String

def Invoice.due (invoice : Invoice) : DueBalance :=
  ⟨invoice.invoiceId, invoice.outstandingBalance, invoice.dueDate⟩

def VendorPayable.due (payable : VendorPayable) : DueBalance :=
  ⟨payable.payableId, payable.outstandingBalance, payable.dueDate⟩

/-- A window of a forecast with its amounts in cents. -/
structure CashFlowWindow where
  days : Nat
  throughDate : String
  receivables : Int
  payables : Int
  netCashFlow : Int
  cumulativeNetCashFlow : Int

structure CashFlowForecast where
  forecastId : String
  tenantId : String
  asOfDate : String
  windows : List CashFlowWindow
  overdueReceivables : Int
  overduePayables : Int
  forecastHash : String

def CashFlowWindow.asDict (window : CashFlowWindow) : Json := .obj [
  ("days", .int window.days),
  ("through_date", .str window.throughDate),
  ("receivables", .float (Money.repr window.receivables)),
  ("payables", .float (Money.repr window.payables)),
  ("net_cash_flow", .float (Money.repr window.netCashFlow)),
  ("cumulative_net_cash_flow", .float (Money.repr window.cumulativeNetCashFlow))]

namespace CashFlowForecast

def asDict (forecast : CashFlowForecast) : Json := .obj [
  ("forecast_id", .str forecast.forecastId),
  ("tenant_id", .str forecast.tenantId),
  ("as_of_date", .str forecast.asOfDate),
  ("windows", .arr (forecast.windows.map CashFlowWindow.asDict)),
  ("overdue_receivables", .float (Money.repr forecast.overdueReceivables)),
  ("overdue_payables", .float (Money.repr forecast.overduePayables))]

end CashFlowForecast

namespace ProfitabilityService

def forecastWindows : List Nat := [7, 14, 30, 60, 90]

variable (sha256 : String → String) (balances : List DueBalance)

/-- The balances that are open. -/
def openBalances : List DueBalance :=
  balances.filter fun balance => 0 < balance.outstandingBalance

/-- The sum of the balances whose due dates are inside. -/
def dueSum (inside : Date → Bool) (balances : List DueBalance) : Except PyError Int := do
  let amounts ← comprehension
    (fun balance : DueBalance => do
      let due ← Date.fromisoformat balance.dueDate
      .ok (inside due))
    (fun balance => .ok balance.outstandingBalance) balances
  .ok amounts.sum

/-- The windows from a number of days on, each with its flows and the running total. -/
def windowsFrom (asOf : Date) (receivables payables : List DueBalance) (previousDays : Nat)
    (cumulative : Int) : List Nat → Except PyError (List CashFlowWindow)
  | [] => .ok []
  | days :: rest => do
      let lower ← asOf.addDays previousDays
      let upper ← asOf.addDays days
      let inside (due : Date) : Bool := lower ≤ due ∧ due ≤ upper
      let received ← dueSum inside receivables
      let paid ← dueSum inside payables
      let net := received - paid
      let later ← windowsFrom asOf receivables payables (days + 1) (cumulative + net) rest
      .ok ({
        days
        throughDate := upper.isoformat
        receivables := received
        payables := paid
        netCashFlow := net
        cumulativeNetCashFlow := cumulative + net } :: later)

/-- The balances of a list in their order. -/
def balancesDict : Json :=
  .arr ((sortedBy (fun balance : DueBalance =>
      toLex (balance.id, toLex (balance.outstandingBalance, balance.dueDate))) balances).map
    fun balance => .arr [
      .str balance.id, .float (Money.repr balance.outstandingBalance), .str balance.dueDate])

def forecast (tenantId asOfDate : String) (invoices : List Invoice)
    (payables : List VendorPayable) : Except PyError CashFlowForecast := do
  let asOf ← Date.fromisoformat asOfDate
  let openInvoices := openBalances (invoices.map Invoice.due)
  let openPayables := openBalances (payables.map VendorPayable.due)
  let overdueReceivables ← dueSum (fun due => due < asOf) openInvoices
  let overduePayables ← dueSum (fun due => due < asOf) openPayables
  let windows ← windowsFrom asOf openInvoices openPayables 0 (overdueReceivables - overduePayables)
    forecastWindows
  let identity : Json := .obj [
    ("tenant_id", .str tenantId),
    ("as_of_date", .str asOf.isoformat),
    ("invoice_balances", balancesDict openInvoices),
    ("payable_balances", balancesDict openPayables)]
  let unhashed : CashFlowForecast := {
    forecastId := "forecast-" ++ digestPrefix sha256 20 identity
    tenantId
    asOfDate := asOf.isoformat
    windows
    overdueReceivables
    overduePayables
    forecastHash := "" }
  .ok { unhashed with forecastHash := digest sha256 unhashed.asDict }

end ProfitabilityService

/-- What a scorecard reads of a cost record. -/
structure JobCostRecord where
  costRecordId : String
  amount : ℚ

structure MarginVariance where
  varianceId : String
  jobId : String
  estimatedMarginPercentage : ℚ
  actualMarginPercentage : ℚ
  variancePercentagePoints : ℚ
  severity : String

structure CostOverrunAlert where
  alertId : String
  jobId : String
  estimatedCost : ℚ
  actualCost : ℚ
  overrunAmount : ℚ
  overrunPercentage : ℚ
  severity : String

structure ProfitabilityScorecard where
  scorecardId : String
  tenantId : String
  jobId : String
  contractedRevenue : ℚ
  estimatedCost : ℚ
  actualCost : ℚ
  estimatedGrossProfit : ℚ
  actualGrossProfit : ℚ
  estimatedMarginPercentage : ℚ
  actualMarginPercentage : ℚ
  costVariance : ℚ
  profitabilityScore : ℚ
  marginVariance : Option MarginVariance
  costOverrunAlert : Option CostOverrunAlert
  financialHash : String

namespace ProfitabilityService

/-- The nearest number with two decimal places. -/
def money (value : ℚ) : ℚ := Rounding.roundTo 100 value

def percentage (numerator denominator : ℚ) : ℚ :=
  if denominator = 0 then 0 else money (numerator / denominator * 100)

def severity (value warning high critical : ℚ) : String :=
  if critical ≤ value then "critical"
  else if high ≤ value then "high"
  else if warning ≤ value then "warning"
  else "minor"

/-- The text of an exact number in a document, and the digest of a document. -/
structure ScorecardLibrary where
  number : ℚ → Json
  sha256 : String → String

variable (library : ScorecardLibrary)

def optionalDict {Value : Type} (asDict : Value → Json) : Option Value → Json
  | none => .null
  | some value => asDict value

def varianceDict (variance : MarginVariance) : Json := .obj [
  ("variance_id", .str variance.varianceId),
  ("job_id", .str variance.jobId),
  ("estimated_margin_percentage", library.number variance.estimatedMarginPercentage),
  ("actual_margin_percentage", library.number variance.actualMarginPercentage),
  ("variance_percentage_points", library.number variance.variancePercentagePoints),
  ("severity", .str variance.severity)]

def alertDict (alert : CostOverrunAlert) : Json := .obj [
  ("alert_id", .str alert.alertId),
  ("job_id", .str alert.jobId),
  ("estimated_cost", library.number alert.estimatedCost),
  ("actual_cost", library.number alert.actualCost),
  ("overrun_amount", library.number alert.overrunAmount),
  ("overrun_percentage", library.number alert.overrunPercentage),
  ("severity", .str alert.severity)]

/-- The variance of a margin that is below the estimated one. -/
def marginVariance (jobId : String) (estimatedMargin actualMargin : ℚ) : Option MarginVariance :=
  let variancePoints := money (actualMargin - estimatedMargin)
  if variancePoints < 0 then
    some {
      varianceId := "margin-" ++ digestPrefix library.sha256 20 (.obj [
        ("job_id", .str jobId),
        ("estimated_margin", library.number estimatedMargin),
        ("actual_margin", library.number actualMargin)])
      jobId
      estimatedMarginPercentage := estimatedMargin
      actualMarginPercentage := actualMargin
      variancePercentagePoints := variancePoints
      severity := severity |variancePoints| 5 10 20 }
  else none

/-- The alert of a cost over the estimated one. -/
def overrunAlert (jobId : String) (estimate actual : ℚ) : Option CostOverrunAlert :=
  let overrun := money (max 0 (actual - estimate))
  if overrun ≠ 0 then
    let overrunPercentage := percentage overrun estimate
    some {
      alertId := "overrun-" ++ digestPrefix library.sha256 20 (.obj [
        ("job_id", .str jobId),
        ("estimated_cost", library.number estimate),
        ("actual_cost", library.number actual)])
      jobId
      estimatedCost := estimate
      actualCost := actual
      overrunAmount := overrun
      overrunPercentage
      severity := severity overrunPercentage 5 10 20 }
  else none

/-- The overrun percentage of an alert, which is zero without one. -/
def overrunPoints : Option CostOverrunAlert → ℚ
  | none => 0
  | some alert => alert.overrunPercentage

def profitabilityScore (estimatedMargin actualMargin : ℚ) (alert : Option CostOverrunAlert) : ℚ :=
  max 0 (min 100 (money (70 + min 20 (actualMargin / 2) -
    max 0 (-money (actualMargin - estimatedMargin)) - overrunPoints alert)))

def scorecard (tenantId jobId : String) (contractedRevenue estimatedCost : ℚ)
    (costs : List JobCostRecord) : ProfitabilityScorecard :=
  let revenue := money contractedRevenue
  let estimate := money estimatedCost
  let actual := money (costs.map JobCostRecord.amount).sum
  let estimatedProfit := money (revenue - estimate)
  let actualProfit := money (revenue - actual)
  let estimatedMargin := percentage estimatedProfit revenue
  let actualMargin := percentage actualProfit revenue
  let variance := marginVariance library jobId estimatedMargin actualMargin
  let alert := overrunAlert library jobId estimate actual
  let score := profitabilityScore estimatedMargin actualMargin alert
  let identity : Json := .obj [
    ("tenant_id", .str tenantId),
    ("job_id", .str jobId),
    ("contracted_revenue", library.number revenue),
    ("estimated_cost", library.number estimate),
    ("actual_cost", library.number actual),
    ("cost_ids", .arr ((sortedBy id (costs.map JobCostRecord.costRecordId)).map .str))]
  let scorecardId := "scorecard-" ++ digestPrefix library.sha256 20 identity
  let value : Json := .obj [
    ("scorecard_id", .str scorecardId),
    ("tenant_id", .str tenantId),
    ("job_id", .str jobId),
    ("contracted_revenue", library.number revenue),
    ("estimated_cost", library.number estimate),
    ("actual_cost", library.number actual),
    ("estimated_gross_profit", library.number estimatedProfit),
    ("actual_gross_profit", library.number actualProfit),
    ("estimated_margin_percentage", library.number estimatedMargin),
    ("actual_margin_percentage", library.number actualMargin),
    ("cost_variance", library.number (money (actual - estimate))),
    ("profitability_score", library.number score),
    ("margin_variance", optionalDict (varianceDict library) variance),
    ("cost_overrun_alert", optionalDict (alertDict library) alert)]
  { scorecardId
    tenantId
    jobId
    contractedRevenue := revenue
    estimatedCost := estimate
    actualCost := actual
    estimatedGrossProfit := estimatedProfit
    actualGrossProfit := actualProfit
    estimatedMarginPercentage := estimatedMargin
    actualMarginPercentage := actualMargin
    costVariance := money (actual - estimate)
    profitabilityScore := score
    marginVariance := variance
    costOverrunAlert := alert
    financialHash := digest library.sha256 value }

end ProfitabilityService

end AgentFabric.Renovation
