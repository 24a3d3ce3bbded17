import AgentFabric.Construction.Renovation.ProfitabilityService
import AgentFabric.Foundation.Segments

namespace AgentFabric.Renovation.ProfitabilityService
open Comprehension ConsecutiveIntervals JobCostRecord

section Sums

variable {balances : List DueBalance} {inside : Date → Bool}

/-- The due date of a balance is inside. -/
def dueInside (inside : Date → Bool) (balance : DueBalance) : Bool :=
  (Date.fromisoformat? balance.dueDate).any inside

/-- The total of the balances whose due dates are inside. -/
def dueTotal (inside : Date → Bool) (balances : List DueBalance) : Int :=
  ((balances.filter (dueInside inside)).map DueBalance.outstandingBalance).sum

/-- Every due date is a date. -/
def Dated (balances : List DueBalance) : Prop :=
  ∀ balance ∈ balances, (Date.fromisoformat? balance.dueDate).isSome

/-- The amounts that a sum adds up, where all dates are read. -/
theorem comprehension_dated (dated : Dated balances) (inside : Date → Bool) :
    comprehension (fun balance : DueBalance => do
        let due ← Date.fromisoformat balance.dueDate
        .ok (inside due)) (fun balance => (.ok balance.outstandingBalance : Except PyError Int))
        balances =
      .ok ((balances.filter (dueInside inside)).map DueBalance.outstandingBalance) := by
  induction balances with
  | nil => rfl
  | cons balance rest ih =>
      have later := ih fun other member => dated other (.tail _ member)
      obtain ⟨due, read⟩ := Option.isSome_iff_exists.mp (dated balance (.head _))
      have returned : Date.fromisoformat balance.dueDate = .ok due := by
        rw [Date.fromisoformat, read]
      have chosen : dueInside inside balance = inside due := by
        rw [dueInside, read]
        rfl
      rw [comprehension, returned, later]
      cases keep : inside due with
      | true =>
          rw [List.filter_cons_of_pos (chosen.trans keep)]
          simp only [bind, Except.bind, keep]
          rfl
      | false =>
          rw [List.filter_cons_of_neg (by rw [chosen, keep]; exact Bool.false_ne_true)]
          simp only [bind, Except.bind, keep]
          rfl

theorem dueSum_eq_total (dated : Dated balances) (inside : Date → Bool) :
    dueSum inside balances = .ok (dueTotal inside balances) := by
  rw [dueSum, comprehension_dated dated]
  rfl

/-- Amounts that are listed have read all dates. -/
theorem dated_of_comprehension {amounts : List Int}
    (listed : comprehension (fun balance : DueBalance => do
        let due ← Date.fromisoformat balance.dueDate
        .ok (inside due)) (fun balance => (.ok balance.outstandingBalance : Except PyError Int))
        balances = .ok amounts) : Dated balances := by
  induction balances generalizing amounts with
  | nil =>
      intro balance member
      cases member
  | cons balance rest ih =>
      rw [comprehension] at listed
      obtain ⟨keep, kept, listed⟩ := bind_eq_ok_iff.mp listed
      obtain ⟨due, read, _⟩ := bind_eq_ok_iff.mp kept
      have some : (Date.fromisoformat? balance.dueDate).isSome := by
        unfold Date.fromisoformat at read
        cases found : Date.fromisoformat? balance.dueDate with
        | none =>
            rw [found] at read
            cases read
        | some date => rfl
      have later : Dated rest := by
        cases keep with
        | true =>
            obtain ⟨_, _, listed⟩ := bind_eq_ok_iff.mp listed
            obtain ⟨others, tail, _⟩ := bind_eq_ok_iff.mp listed
            exact ih tail
        | false => exact ih listed
      intro other member
      rcases List.mem_cons.mp member with rfl | inside
      · exact some
      · exact later other inside

theorem dated_of_dueSum {total : Int} (returned : dueSum inside balances = .ok total) :
    Dated balances := by
  obtain ⟨_, listed, _⟩ := bind_eq_ok_iff.mp returned
  exact dated_of_comprehension listed

/-- Several selections of dates count every balance as often as its date is selected. -/
theorem sum_dueTotal (selections : List (Date → Bool)) (dated : Dated balances) (once : Date → Bool)
    (counted : ∀ due, (selections.countP fun inside => inside due) = if once due then 1 else 0) :
    (selections.map fun inside => dueTotal inside balances).sum = dueTotal once balances := by
  have totals := sum_totals (selections.map dueInside) DueBalance.outstandingBalance balances
  rw [List.map_map] at totals
  refine totals.trans ?_
  rw [dueTotal, sum_filter]
  congr 1
  apply List.map_congr_left
  intro balance member
  obtain ⟨due, read⟩ := Option.isSome_iff_exists.mp (dated balance member)
  have chosen (inside : Date → Bool) : dueInside inside balance = inside due := by
    rw [dueInside, read]
    rfl
  have count : (selections.map dueInside).countP (fun selects => selects balance) =
      if once due then 1 else 0 := by
    rw [List.countP_map, ← counted due]
    congr 1
    funext inside
    exact chosen inside
  rw [count, chosen]
  cases once due with
  | true => simp
  | false => simp

end Sums

section Windows

variable {asOf : Date} {receivables payables : List DueBalance}

/-- A date lies in the window between two numbers of days after a date. -/
def insideWindow (asOf : Date) (days : Nat × Nat) (due : Date) : Bool :=
  Inside due.day (asOf.day + days.1, asOf.day + days.2)

def overdue (asOf due : Date) : Bool := due < asOf

/-- Every window nets its flows and adds them to the running total. -/
def Running : Int → List CashFlowWindow → Prop
  | _, [] => True
  | before, window :: rest =>
      window.netCashFlow = window.receivables - window.payables ∧
        window.cumulativeNetCashFlow = before + window.netCashFlow ∧
          Running window.cumulativeNetCashFlow rest

/-- A running total adds the flows of all windows up to it. -/
theorem Running.cumulative {before : Int} {windows done rest : List CashFlowWindow}
    {window : CashFlowWindow} (running : Running before windows)
    (split : windows = done ++ window :: rest) :
    window.cumulativeNetCashFlow =
      before + ((done ++ [window]).map CashFlowWindow.netCashFlow).sum := by
  induction done generalizing before windows with
  | nil =>
      subst split
      obtain ⟨_, total, _⟩ := running
      simpa using total
  | cons first done ih =>
      subst split
      obtain ⟨_, total, later⟩ := running
      rw [ih later rfl, total]
      simp only [List.cons_append, List.map_cons, List.sum_cons]
      ring

variable {windows : List CashFlowWindow}

/-- A running total of a list of windows with its flows. -/
theorem Running.net {before : Int} (running : Running before windows) :
    (windows.map CashFlowWindow.netCashFlow).sum =
      (windows.map CashFlowWindow.receivables).sum - (windows.map CashFlowWindow.payables).sum := by
  induction windows generalizing before with
  | nil => rfl
  | cons window rest ih =>
      obtain ⟨net, _, later⟩ := running
      simp only [List.map_cons, List.sum_cons]
      rw [ih later, net]
      ring

/-- The windows of a forecast have the flows of consecutive intervals. -/
structure Windowed (asOf : Date) (receivables payables : List DueBalance) (start : Nat)
    (cumulative : Int) (ends : List Nat) (windows : List CashFlowWindow) : Prop where
  days : windows.map CashFlowWindow.days = ends
  receivables : windows.map CashFlowWindow.receivables =
    (bounds start ends).map fun days => dueTotal (insideWindow asOf days) receivables
  payables : windows.map CashFlowWindow.payables =
    (bounds start ends).map fun days => dueTotal (insideWindow asOf days) payables
  running : Running cumulative windows

theorem windowsFrom_returns (received : Dated receivables) (paid : Dated payables)
    {start : Nat} (cumulative : Int) {ends : List Nat} (increasing : Increasing start ends)
    (inRange : ∀ days ∈ ends, asOf.day + days < limitDays) :
    ∃ windows, windowsFrom asOf receivables payables start cumulative ends = .ok windows ∧
      Windowed asOf receivables payables start cumulative ends windows := by
  induction ends generalizing start cumulative with
  | nil => exact ⟨[], rfl, rfl, rfl, rfl, trivial⟩
  | cons days rest ih =>
      obtain ⟨ordered, later⟩ := increasing
      have top := inRange days (.head _)
      obtain ⟨lower, lowerAdded⟩ := @Date.addDays_returns start asOf (by omega) (by omega)
      obtain ⟨upper, upperAdded⟩ := @Date.addDays_returns days asOf (by omega) (by omega)
      have lowerDay := Date.addDays_eq_ok lowerAdded
      have upperDay := Date.addDays_eq_ok upperAdded
      have window : (fun due : Date => decide (lower ≤ due ∧ due ≤ upper)) =
          insideWindow asOf (start, days) := by
        funext due
        rw [insideWindow]
        apply decide_eq_decide.mpr
        rw [Date.le_iff, Date.le_iff, Inside]
        dsimp only
        omega
      obtain ⟨windows, returned, windowed⟩ := ih
        (cumulative + (dueTotal (insideWindow asOf (start, days)) receivables -
          dueTotal (insideWindow asOf (start, days)) payables)) later
        fun other member => inRange other (.tail _ member)
      refine ⟨⟨days, upper.isoformat, _, _, _, _⟩ :: windows, ?_, ?_, ?_, ?_, rfl, rfl,
        windowed.running⟩
      · rw [windowsFrom, lowerAdded, upperAdded]
        simp only [bind, Except.bind, window, dueSum_eq_total received, dueSum_eq_total paid, returned]
        rfl
      · rw [List.map_cons, windowed.days]
      · rw [List.map_cons, windowed.receivables]
        rfl
      · rw [List.map_cons, windowed.payables]
        rfl

/-- Windows that are returned lie inside the calendar. -/
theorem inRange_of_windowsFrom {start : Nat} {cumulative : Int} {ends : List Nat}
    (returned : windowsFrom asOf receivables payables start cumulative ends = .ok windows) :
    ∀ days ∈ ends, asOf.day + days < limitDays := by
  induction ends generalizing start cumulative windows with
  | nil =>
      intro days member
      cases member
  | cons days rest ih =>
      rw [windowsFrom] at returned
      obtain ⟨lower, _, returned⟩ := bind_eq_ok_iff.mp returned
      obtain ⟨upper, upperAdded, returned⟩ := bind_eq_ok_iff.mp returned
      obtain ⟨_, _, returned⟩ := bind_eq_ok_iff.mp returned
      obtain ⟨_, _, returned⟩ := bind_eq_ok_iff.mp returned
      obtain ⟨_, later, _⟩ := bind_eq_ok_iff.mp returned
      have upperDay := Date.addDays_eq_ok upperAdded
      have inside := upper.inRange
      intro other member
      rcases List.mem_cons.mp member with rfl | further
      · omega
      · exact ih later other further

/-- Every date up to the last window is overdue or in exactly one window, and later ones are in none. -/
theorem countP_buckets (asOf due : Date) :
    ((overdue asOf :: (bounds 0 forecastWindows).map (insideWindow asOf)).countP
        fun inside => inside due) = if due.day ≤ asOf.day + 90 then 1 else 0 := by
  have windows : ((bounds 0 forecastWindows).map (insideWindow asOf)).countP
      (fun inside => inside due) = if asOf.day ≤ due.day ∧ due.day ≤ asOf.day + 90 then 1 else 0 := by
    rw [List.countP_map]
    by_cases before : due.day < asOf.day
    · rw [if_neg (by omega), List.countP_eq_zero]
      intro days _ inside
      have held : Inside due.day (asOf.day + days.1, asOf.day + days.2) := of_decide_eq_true inside
      have above := held.1
      dsimp only at above
      omega
    · have shifted : ((fun inside : Date → Bool => inside due) ∘ insideWindow asOf) =
          fun days => decide (Inside (due.day - asOf.day) days) := by
        funext days
        simp only [Function.comp_apply, insideWindow, Inside]
        apply decide_eq_decide.mpr
        omega
      rw [shifted, countP_bounds (by decide)]
      apply if_congr _ rfl rfl
      simp only [forecastWindows, List.mem_cons, List.not_mem_nil, or_false, exists_eq_or_imp,
        exists_eq_left]
      omega
  rw [List.countP_cons, windows, overdue]
  simp only [decide_eq_true_eq, Date.lt_iff]
  by_cases before : due.day < asOf.day
  · rw [if_neg (by omega), if_pos before, if_pos (by omega)]
  · by_cases inside : due.day ≤ asOf.day + 90
    · rw [if_pos ⟨by omega, inside⟩, if_neg before, if_pos inside]
    · rw [if_neg (by omega), if_neg before, if_neg inside]

end Windows

section Forecast

variable {sha256 : String → String} {tenantId asOfDate : String} {invoices : List Invoice}
  {payables : List VendorPayable}

/-- The open balances of invoices and of payables. -/
def receivableBalances (invoices : List Invoice) : List DueBalance :=
  openBalances (invoices.map Invoice.due)

def payableBalances (payables : List VendorPayable) : List DueBalance :=
  openBalances (payables.map VendorPayable.due)

/-- The dates of a forecast are dates, and ninety days after the first the calendar goes on. -/
structure Forecastable (asOfDate : String) (invoices : List Invoice) (payables : List VendorPayable) :
    Prop where
  asOf : ∃ asOf, Date.fromisoformat asOfDate = .ok asOf ∧ asOf.day + 90 < limitDays
  receivables : Dated (receivableBalances invoices)
  payables : Dated (payableBalances payables)

/-- A forecast counts every open balance that is due by the ninetieth day once and no later one. -/
structure Conserves (asOfDate : String) (invoices : List Invoice) (payables : List VendorPayable)
    (asOf : Date) (forecast : CashFlowForecast) : Prop where
  read : Date.fromisoformat asOfDate = .ok asOf
  overdueReceivables : forecast.overdueReceivables =
    dueTotal (overdue asOf) (receivableBalances invoices)
  overduePayables : forecast.overduePayables = dueTotal (overdue asOf) (payableBalances payables)
  received : forecast.windows.map CashFlowWindow.receivables =
    (bounds 0 forecastWindows).map fun days =>
      dueTotal (insideWindow asOf days) (receivableBalances invoices)
  paid : forecast.windows.map CashFlowWindow.payables =
    (bounds 0 forecastWindows).map fun days =>
      dueTotal (insideWindow asOf days) (payableBalances payables)
  once : ∀ due : Date,
    ((overdue asOf :: (bounds 0 forecastWindows).map (insideWindow asOf)).countP
        fun inside => inside due) = if due.day ≤ asOf.day + 90 then 1 else 0
  cumulative : ∀ done window rest, forecast.windows = done ++ window :: rest →
    window.cumulativeNetCashFlow = forecast.overdueReceivables - forecast.overduePayables +
      ((done ++ [window]).map CashFlowWindow.netCashFlow).sum
  last : ∃ last, forecast.windows.getLast? = some last ∧ last.cumulativeNetCashFlow =
    dueTotal (fun due => due.day ≤ asOf.day + 90) (receivableBalances invoices) -
      dueTotal (fun due => due.day ≤ asOf.day + 90) (payableBalances payables)

/-- The balances of the buckets are the ones that are due by the ninetieth day. -/
theorem sum_buckets {balances : List DueBalance} (dated : Dated balances) (asOf : Date) :
    dueTotal (overdue asOf) balances +
        ((bounds 0 forecastWindows).map fun days => dueTotal (insideWindow asOf days) balances).sum =
      dueTotal (fun due => due.day ≤ asOf.day + 90) balances := by
  have total := sum_dueTotal (overdue asOf :: (bounds 0 forecastWindows).map (insideWindow asOf))
    dated (fun due => due.day ≤ asOf.day + 90) fun due => by
      rw [countP_buckets]
      simp only [decide_eq_true_eq]
  rw [List.map_cons, List.sum_cons, List.map_map] at total
  exact total

theorem forecast_returns (sha256 : String → String) (tenantId : String)
    (forecastable : Forecastable asOfDate invoices payables) :
    ∃ result asOf, forecast sha256 tenantId asOfDate invoices payables = .ok result ∧
      Conserves asOfDate invoices payables asOf result := by
  obtain ⟨asOf, read, inRange⟩ := forecastable.asOf
  have receivables := dueSum_eq_total forecastable.receivables
  have paid := dueSum_eq_total forecastable.payables
  have within : ∀ days ∈ forecastWindows, asOf.day + days < limitDays := by
    intro days member
    have least : days ≤ 90 := by
      revert days
      decide
    omega
  obtain ⟨windows, returned, windowed⟩ := windowsFrom_returns forecastable.receivables
    forecastable.payables (dueTotal (overdue asOf) (receivableBalances invoices) -
      dueTotal (overdue asOf) (payableBalances payables))
    (show Increasing 0 forecastWindows by decide) within
  have made : ∃ result, forecast sha256 tenantId asOfDate invoices payables = .ok result ∧
      result.windows = windows ∧
        result.overdueReceivables = dueTotal (overdue asOf) (receivableBalances invoices) ∧
          result.overduePayables = dueTotal (overdue asOf) (payableBalances payables) := by
    refine ⟨_, bind_eq_ok_iff.mpr ⟨asOf, read, bind_eq_ok_iff.mpr
      ⟨_, receivables (overdue asOf), bind_eq_ok_iff.mpr ⟨_, paid (overdue asOf),
        bind_eq_ok_iff.mpr ⟨windows, returned, rfl⟩⟩⟩⟩, rfl, rfl, rfl⟩
  obtain ⟨result, forecasted, rfl, overdueIn, overdueOut⟩ := made
  refine ⟨result, asOf, forecasted, read, overdueIn, overdueOut, windowed.receivables,
    windowed.payables, countP_buckets asOf, ?_, ?_⟩
  · intro done window rest split
    rw [overdueIn, overdueOut]
    exact windowed.running.cumulative split
  · have nonempty : result.windows ≠ [] := by
      intro empty
      have days := windowed.days
      rw [empty] at days
      cases days
    refine ⟨result.windows.getLast nonempty, List.getLast?_eq_getLast_of_ne_nil nonempty, ?_⟩
    have split := (List.dropLast_append_getLast nonempty).symm
    rw [windowed.running.cumulative split, ← split, windowed.running.net, windowed.receivables,
      windowed.payables, ← sum_buckets forecastable.receivables asOf,
      ← sum_buckets forecastable.payables asOf]
    ring

theorem forecastable_of_returned {result : CashFlowForecast}
    (returned : forecast sha256 tenantId asOfDate invoices payables = .ok result) :
    Forecastable asOfDate invoices payables := by
  obtain ⟨asOf, read, returned⟩ := bind_eq_ok_iff.mp returned
  obtain ⟨_, receivables, returned⟩ := bind_eq_ok_iff.mp returned
  obtain ⟨_, paid, returned⟩ := bind_eq_ok_iff.mp returned
  obtain ⟨_, windows, _⟩ := bind_eq_ok_iff.mp returned
  exact ⟨⟨asOf, read, inRange_of_windowsFrom windows 90 (by decide)⟩, dated_of_dueSum receivables,
    dated_of_dueSum paid⟩

/-- A forecast is made exactly when its dates are dates of the calendar, and it then conserves the
open balances that are due by the ninetieth day. -/
theorem forecast_conserves (sha256 : String → String) (tenantId asOfDate : String)
    (invoices : List Invoice) (payables : List VendorPayable) :
    match forecast sha256 tenantId asOfDate invoices payables with
    | .ok result =>
        Forecastable asOfDate invoices payables ∧
          ∃ asOf, Conserves asOfDate invoices payables asOf result
    | .error _ => ¬ Forecastable asOfDate invoices payables := by
  cases returned : forecast sha256 tenantId asOfDate invoices payables with
  | ok result =>
      have forecastable := forecastable_of_returned returned
      obtain ⟨other, asOf, made, conserves⟩ := forecast_returns sha256 tenantId forecastable
      cases returned.symm.trans made
      exact ⟨forecastable, asOf, conserves⟩
  | error error =>
      intro forecastable
      obtain ⟨other, _, made, _⟩ := forecast_returns sha256 tenantId forecastable
      cases returned.symm.trans made

end Forecast

open Sorting

section Amounts

variable {first second : ℚ}

theorem money_mono (le : first ≤ second) : money first ≤ money second := Rounding.roundTo_mono le

@[simp] theorem money_zero : money 0 = 0 := Rounding.roundTo_zero 100

theorem money_nonneg (nonneg : 0 ≤ first) : 0 ≤ money first := Rounding.roundTo_nonneg nonneg

/-- A greater part of the same amount is not a smaller percentage. -/
theorem percentage_mono {denominator : ℚ} (nonneg : 0 ≤ denominator) (le : first ≤ second) :
    percentage first denominator ≤ percentage second denominator := by
  unfold percentage
  split
  · exact le_refl _
  · apply money_mono
    have parts : first / denominator ≤ second / denominator := div_le_div_of_nonneg_right le nonneg
    linarith

@[simp] theorem percentage_zero (denominator : ℚ) : percentage 0 denominator = 0 := by
  unfold percentage
  split
  · rfl
  · rw [zero_div, zero_mul, money_zero]

end Amounts

section Parts

variable {library : ScorecardLibrary} {jobId : String} {estimate first second : ℚ}

/-- The overrun of an actual cost. -/
def overrun (estimate actual : ℚ) : ℚ := money (max 0 (actual - estimate))

/-- The amount of an alert, which is zero without one. -/
def overrunAmount : Option CostOverrunAlert → ℚ
  | none => 0
  | some alert => alert.overrunAmount

theorem overrun_mono (le : first ≤ second) : overrun estimate first ≤ overrun estimate second :=
  money_mono (max_le_max_left 0 (by linarith))

theorem overrun_nonneg (estimate actual : ℚ) : 0 ≤ overrun estimate actual :=
  money_nonneg (le_max_left _ _)

/-- An alert carries the overrun and its percentage. -/
theorem overrunAlert_parts (library : ScorecardLibrary) (jobId : String) (estimate actual : ℚ) :
    ((overrunAlert library jobId estimate actual).isSome ↔ overrun estimate actual ≠ 0) ∧
      overrunAmount (overrunAlert library jobId estimate actual) = overrun estimate actual ∧
        overrunPoints (overrunAlert library jobId estimate actual) =
          percentage (overrun estimate actual) estimate := by
  unfold overrunAlert
  dsimp only
  by_cases none : overrun estimate actual = 0
  · have absent : ¬ money (max 0 (actual - estimate)) ≠ 0 := not_not.mpr none
    rw [if_neg absent, none, percentage_zero]
    exact ⟨by simp, rfl, rfl⟩
  · have present : money (max 0 (actual - estimate)) ≠ 0 := none
    rw [if_pos present]
    exact ⟨by simpa using none, rfl, rfl⟩

/-- A higher cost keeps an alert and does not lower it. -/
theorem overrunAlert_mono (nonneg : 0 ≤ estimate) (le : first ≤ second) :
    ((overrunAlert library jobId estimate first).isSome →
        (overrunAlert library jobId estimate second).isSome) ∧
      overrunAmount (overrunAlert library jobId estimate first) ≤
          overrunAmount (overrunAlert library jobId estimate second) ∧
        overrunPoints (overrunAlert library jobId estimate first) ≤
          overrunPoints (overrunAlert library jobId estimate second) := by
  obtain ⟨firstSome, firstAmount, firstPoints⟩ := overrunAlert_parts library jobId estimate first
  obtain ⟨secondSome, secondAmount, secondPoints⟩ := overrunAlert_parts library jobId estimate second
  have more := @overrun_mono estimate _ _ le
  rw [firstSome, secondSome, firstAmount, secondAmount, firstPoints, secondPoints]
  refine ⟨?_, more, percentage_mono nonneg more⟩
  intro present absent
  rw [absent] at more
  exact present (le_antisymm more (overrun_nonneg _ _))

/-- A lower margin keeps a variance. -/
theorem marginVariance_mono {estimated : ℚ} (le : second ≤ first)
    (present : (marginVariance library jobId estimated first).isSome) :
    (marginVariance library jobId estimated second).isSome := by
  have lower : money (second - estimated) ≤ money (first - estimated) := money_mono (by linarith)
  unfold marginVariance at present ⊢
  dsimp only at present ⊢
  by_cases negative : money (first - estimated) < 0
  · rw [if_pos (lt_of_le_of_lt lower negative)]
    rfl
  · rw [if_neg negative] at present
    cases present

/-- A lower margin and a higher overrun do not raise the score. -/
theorem profitabilityScore_mono {estimated : ℚ} {alert other : Option CostOverrunAlert}
    (margins : second ≤ first) (points : overrunPoints alert ≤ overrunPoints other) :
    profitabilityScore estimated second other ≤ profitabilityScore estimated first alert := by
  have variance : money (second - estimated) ≤ money (first - estimated) := money_mono (by linarith)
  have bonus : min 20 (second / 2) ≤ min 20 (first / 2) := min_le_min_left 20 (by linarith)
  have malus : max 0 (-money (first - estimated)) ≤ max 0 (-money (second - estimated)) :=
    max_le_max_left 0 (by linarith)
  unfold profitabilityScore
  apply max_le_max_left
  apply min_le_min_left
  apply money_mono
  linarith

end Parts

section Scorecard

variable (library : ScorecardLibrary) (tenantId jobId : String)
  (contractedRevenue estimatedCost : ℚ)

theorem scorecard_score_bounds (costs : List JobCostRecord) :
    0 ≤ (scorecard library tenantId jobId contractedRevenue estimatedCost costs).profitabilityScore ∧
      (scorecard library tenantId jobId contractedRevenue estimatedCost costs).profitabilityScore ≤
        100 := by
  refine ⟨le_max_left _ _, max_le (by norm_num) (min_le_left _ _)⟩

/-- The order of the costs does not matter. -/
theorem scorecard_perm {costs others : List JobCostRecord} (perm : costs.Perm others) :
    scorecard library tenantId jobId contractedRevenue estimatedCost costs =
      scorecard library tenantId jobId contractedRevenue estimatedCost others := by
  have sums : (costs.map amount).sum = (others.map amount).sum := (perm.map _).sum_eq
  have listed := ((sortedBy_perm id (costs.map costRecordId)).trans
    (perm.map _)).trans (sortedBy_perm id (others.map costRecordId)).symm
  have ids : sortedBy id (costs.map costRecordId) = sortedBy id (others.map costRecordId) :=
    listed.eq_of_pairwise (fun _ _ _ _ le ge => le_antisymm le ge) (sortedBy_pairwise _ _)
      (sortedBy_pairwise _ _)
  unfold scorecard
  rw [sums, ids]

/-- What a further cost does to a scorecard. -/
structure Worsens (before after : ProfitabilityScorecard) : Prop where
  score : after.profitabilityScore ≤ before.profitabilityScore
  margin : after.actualMarginPercentage ≤ before.actualMarginPercentage
  profit : after.actualGrossProfit ≤ before.actualGrossProfit
  alert : before.costOverrunAlert.isSome → after.costOverrunAlert.isSome
  variance : before.marginVariance.isSome → after.marginVariance.isSome
  overrun : overrunAmount before.costOverrunAlert ≤ overrunAmount after.costOverrunAlert

theorem scorecard_worsens {contractedRevenue estimatedCost : ℚ} (revenue : 0 < contractedRevenue)
    (estimated : 0 ≤ estimatedCost) (costs : List JobCostRecord) {cost : JobCostRecord}
    (nonneg : 0 ≤ cost.amount) :
    Worsens (scorecard library tenantId jobId contractedRevenue estimatedCost costs)
      (scorecard library tenantId jobId contractedRevenue estimatedCost (cost :: costs)) := by
  have total : money (costs.map amount).sum ≤ money ((cost :: costs).map amount).sum := by
    apply money_mono
    rw [List.map_cons, List.sum_cons]
    linarith
  have profit : money (money contractedRevenue -
      money ((cost :: costs).map amount).sum) ≤
        money (money contractedRevenue - money (costs.map amount).sum) :=
    money_mono (by linarith)
  have margin := percentage_mono (money_nonneg revenue.le) profit
  obtain ⟨alert, amount, points⟩ :=
    @overrunAlert_mono library jobId (money estimatedCost) _ _ (money_nonneg estimated) total
  exact {
    score := profitabilityScore_mono margin points
    margin
    profit
    alert
    variance := marginVariance_mono margin
    overrun := amount }

/-- A score lies between 0 and 100, does not depend on the order of the costs, and no further cost
betters a scorecard. -/
theorem scorecard_monotone (library : ScorecardLibrary) (tenantId jobId : String)
    {contractedRevenue estimatedCost : ℚ} (revenue : 0 < contractedRevenue)
    (estimated : 0 ≤ estimatedCost) (costs : List JobCostRecord)
    (nonneg : ∀ cost ∈ costs, 0 ≤ cost.amount) :
    (0 ≤ (scorecard library tenantId jobId contractedRevenue estimatedCost costs).profitabilityScore ∧
      (scorecard library tenantId jobId contractedRevenue estimatedCost costs).profitabilityScore ≤
        100) ∧
    (∀ others : List JobCostRecord, costs.Perm others →
      scorecard library tenantId jobId contractedRevenue estimatedCost costs =
        scorecard library tenantId jobId contractedRevenue estimatedCost others) ∧
    ∀ before cost after, costs = before ++ cost :: after →
      Worsens (scorecard library tenantId jobId contractedRevenue estimatedCost (before ++ after))
        (scorecard library tenantId jobId contractedRevenue estimatedCost costs) := by
  refine ⟨scorecard_score_bounds library tenantId jobId _ _ costs,
    fun others perm => scorecard_perm library tenantId jobId _ _ perm, ?_⟩
  rintro before cost after rfl
  have member : cost ∈ before ++ cost :: after := List.mem_append_right _ (.head _)
  have moved : (before ++ cost :: after).Perm (cost :: (before ++ after)) := List.perm_middle
  rw [scorecard_perm library tenantId jobId _ _ moved]
  exact scorecard_worsens library tenantId jobId revenue estimated _ (nonneg cost member)

/-- Amounts in documents are written with two decimal places. -/
def centsScorecards : ScorecardLibrary where
  number := fun value => .float (Money.repr (value * 100).floor)
  sha256 := id

/-- The scorecard of a job for a thousand with a cost. -/
theorem scorecard_monotone_thousand :
    Worsens (scorecard centsScorecards "tenant-a" "job-1" 1000 600 [])
      (scorecard centsScorecards "tenant-a" "job-1" 1000 600 [⟨"cost-1", 700⟩]) := by
  have costs : ∀ cost ∈ [(⟨"cost-1", 700⟩ : JobCostRecord)], 0 ≤ cost.amount := by
    intro cost member
    rw [List.mem_singleton.mp member]
    norm_num
  have monotone := scorecard_monotone centsScorecards "tenant-a" "job-1"
    (show (0 : ℚ) < 1000 by norm_num) (show (0 : ℚ) ≤ 600 by norm_num) [⟨"cost-1", 700⟩] costs
  exact monotone.2.2 [] _ [] rfl

end Scorecard

end AgentFabric.Renovation.ProfitabilityService
