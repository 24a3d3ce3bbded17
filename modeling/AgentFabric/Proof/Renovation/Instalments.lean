import AgentFabric.Construction.Renovation.PaymentTerms

namespace AgentFabric.Renovation.PaymentTerms
open Binary64

/-- The shares of the terms before the last one in cents. -/
def shares (total : Binary64) (terms : List PaymentTerm) : Option (List ℤ) :=
  terms.dropLast.mapM fun term => (share total term.percentage).cents?

/-- The amounts are floats of cents that sum exactly to the total. -/
structure SumsTo (cents : ℤ) (schedules : List PaymentSchedule) (amounts : List ℤ) : Prop where
  floats : schedules.map PaymentSchedule.amount = amounts.map ofCents
  read : schedules.mapM (fun schedule => schedule.amount.cents?) = some amounts
  sum : amounts.sum = cents

/-- The amounts that a client expects of the terms of a total in cents.
The sum holds as long as the cents of the total and of the shares are exact in floats. -/
structure Instalments (cents : ℤ) (terms : List PaymentTerm) (schedules : List PaymentSchedule) :
    Prop where
  ordered : schedules.map (fun schedule => (⟨schedule.label, schedule.percentage⟩ : PaymentTerm)) =
    terms
  rounded : ∀ schedule ∈ schedules.dropLast,
    schedule.amount = roundCents (share (ofCents cents) schedule.percentage)
  sum : ∀ parts, shares (ofCents cents) terms = some parts →
    |cents| + (parts.map abs).sum ≤ 10 ^ 14 → SumsTo cents schedules (parts ++ [cents - parts.sum])

section Allocation

variable (total : Binary64) (terms : List PaymentTerm) (allocated : Binary64)

theorem map_allocate :
    (allocate total allocated terms).map
      (fun schedule => (⟨schedule.label, schedule.percentage⟩ : PaymentTerm)) = terms := by
  induction terms generalizing allocated with
  | nil => rfl
  | cons term rest ih =>
      rw [allocate, List.map_cons, ih]

theorem dropLast_allocate :
    ∀ schedule ∈ (allocate total allocated terms).dropLast,
      schedule.amount = roundCents (share total schedule.percentage) := by
  induction terms generalizing allocated with
  | nil =>
      intro schedule member
      cases member
  | cons term rest ih =>
      intro schedule member
      cases rest with
      | nil => cases member
      | cons next later =>
          rcases List.mem_cons.mp member with same | inside
          · rw [same]
            rfl
          · exact ih _ schedule inside

end Allocation

variable {cents : ℤ}

theorem roundCents_of_cents {value : Binary64} (read : value.cents? = some cents) :
    roundCents value = ofCents cents := by
  cases value with
  | none => cases read
  | some value =>
      have whole : Rounding.halfEven (value * 100) = cents := Option.some.inj read
      show Binary64.round (Rounding.roundTo 100 value) = Binary64.round (cents / 100)
      rw [Rounding.roundTo, Nat.cast_ofNat, whole]

variable (first : PaymentTerm) (rest : List PaymentTerm)

/-- The allocated amount stays the float of its cents, so that the last term takes exactly the
rest. -/
theorem amounts_allocate (allocated : ℤ) {parts : List ℤ}
    (read : shares (ofCents cents) (first :: rest) = some parts)
    (small : |cents| + |allocated| + (parts.map abs).sum ≤ 10 ^ 14) :
    (allocate (ofCents cents) (ofCents allocated) (first :: rest)).map PaymentSchedule.amount =
      (parts ++ [cents - allocated - parts.sum]).map ofCents := by
  induction rest generalizing first allocated parts with
  | nil =>
      cases (Option.some.inj read : [] = parts)
      have remaining := roundCents_sub cents allocated
        (by simp at small; linarith [abs_nonneg allocated])
        (by simp at small; linarith [abs_nonneg cents])
      simp [allocate, remaining]
  | cons next later ih =>
      rw [shares, List.dropLast_cons_cons, List.mapM_cons] at read
      obtain ⟨part, partIs, others⟩ := Option.bind_eq_some_iff.mp read
      obtain ⟨remaining, remainingIs, same⟩ := Option.bind_eq_some_iff.mp others
      cases same
      rw [List.map_cons, List.sum_cons] at small
      have positive : 0 ≤ (remaining.map abs).sum := List.sum_nonneg (by simp)
      have running := roundCents_add allocated part
        (by linarith [abs_nonneg cents, abs_nonneg part])
        (by linarith [abs_nonneg cents, abs_nonneg allocated])
      have later := ih next (allocated + part) remainingIs
        (by linarith [abs_add_le allocated part])
      rw [allocate, List.map_cons]
      simp only [List.isEmpty_cons, Bool.false_eq_true, if_false]
      rw [roundCents_of_cents partIs, running, later, List.sum_cons, ← sub_sub cents allocated,
        sub_sub _ part, List.cons_append, List.map_cons]

variable {amounts : List ℤ}

theorem read_amounts {schedules : List PaymentSchedule}
    (floats : schedules.map PaymentSchedule.amount = amounts.map ofCents)
    (small : ∀ cents ∈ amounts, |cents| ≤ 10 ^ 14) :
    schedules.mapM (fun schedule => schedule.amount.cents?) = some amounts := by
  induction amounts generalizing schedules with
  | nil =>
      cases List.map_eq_nil_iff.mp floats
      rfl
  | cons cents rest ih =>
      obtain ⟨schedule, others, rfl, amount, remaining⟩ := List.map_eq_cons_iff.mp floats
      have back := cents?_ofCents (small cents (.head _))
      rw [List.mapM_cons, amount, back,
        ih remaining fun other member => small other (.tail _ member)]
      rfl

theorem abs_le_sum_abs : ∀ cents ∈ amounts, |cents| ≤ (amounts.map abs).sum :=
  fun _ member => List.single_le_sum (by simp) _ (List.mem_map_of_mem member)

theorem abs_sum_le (amounts : List ℤ) : |amounts.sum| ≤ (amounts.map abs).sum := by
  induction amounts with
  | nil => simp
  | cons cents rest ih =>
      rw [List.sum_cons, List.map_cons, List.sum_cons]
      exact (abs_add_le _ _).trans (by linarith)

theorem sum_allocate {parts : List ℤ} (read : shares (ofCents cents) (first :: rest) = some parts)
    (small : |cents| + (parts.map abs).sum ≤ 10 ^ 14) :
    SumsTo cents (allocate (ofCents cents) (ofCents 0) (first :: rest))
      (parts ++ [cents - parts.sum]) := by
  have floats := amounts_allocate first rest 0 read (by simpa using small)
  rw [sub_zero] at floats
  refine ⟨floats, read_amounts floats fun amount member => ?_, by simp⟩
  rcases List.mem_append.mp member with part | last
  · linarith [abs_le_sum_abs amount part, abs_nonneg cents]
  · rw [List.mem_singleton.mp last]
    linarith [abs_sub cents parts.sum, abs_sum_le parts]

theorem round_eq_of_nearest {value float : ℚ} (nearest : Binary64.nearest value = float)
    (small : |float| ≤ 2 ^ 128) : Binary64.round value = some float := by
  have finite : (2 : ℚ) ^ 128 < 2 ^ 1024 := pow_lt_pow_right₀ (by norm_num) (by norm_num)
  rw [Binary64.round, nearest, if_pos (small.trans_lt finite)]

/-- A multiple of a place with at most 53 bits is rounded to itself. -/
theorem round_of_multiple (whole place : ℤ) (normal : -1074 ≤ place)
    (fits : |(whole : ℚ) * 2 ^ place| < 2 ^ (place + 53))
    (small : |(whole : ℚ) * 2 ^ place| ≤ 2 ^ 128) :
    Binary64.round (whole * 2 ^ place) = some ((whole : ℚ) * 2 ^ place) :=
  round_eq_of_nearest (nearest_of_multiple whole place normal fits) small

theorem ofCents_zero : ofCents 0 = some 0 := by
  simpa [ofCents] using round_of_multiple 0 0 (by decide) (by norm_num) (by norm_num)

/-- Readable terms share the total, and terms that cannot be read raise. -/
theorem build_instalments (library : Library Binary64) (cents : ℤ) (first : Json)
    (others : List Json) :
    match (first :: others).mapM (readTerm library) with
    | .error error => build library (ofCents cents) (first :: others) = .error error
    | .ok terms => ∃ schedules, build library (ofCents cents) (first :: others) = .ok schedules ∧
        Instalments cents terms schedules := by
  cases read : (first :: others).mapM (readTerm library) with
  | error error =>
      rw [build, read]
      rfl
  | ok terms =>
      refine ⟨allocate (ofCents cents) (some 0) terms, by rw [build, read]; rfl,
        map_allocate _ terms _, dropLast_allocate _ terms _, ?_⟩
      rw [List.mapM_cons, bind_eq_ok_iff] at read
      obtain ⟨term, _, rest⟩ := read
      obtain ⟨later, _, same⟩ := bind_eq_ok_iff.mp rest
      cases same
      intro parts shared small
      rw [← ofCents_zero]
      exact sum_allocate term later shared small

section Examples

/-- The float of a whole number and texts in ASCII. -/
def wholePercentages : Library Binary64 where
  interpreter := ⟨fun _ => true, fun _ => 0, fun _ => true⟩
  upper := String.toUpper
  lower := String.toLower
  hostname := fun _ => .ok none
  timestamp := fun _ => "0.0"
  float
    | .int value => .ok (Binary64.round value)
    | _ => .error (.typeError "float() argument must be a string or a real number")
  document _ := .float ⟨"0.0", Eq.refl true⟩
  less _ _ := false
  withinUnit _ := false

/-- A deposit and the rest with their percentages. -/
def depositAndRest (deposit rest : ℤ) : List Json :=
  [.obj [("label", .str "deposit"), ("percentage", .int deposit)],
    .obj [("label", .str "rest"), ("percentage", .int rest)]]

theorem readTerm_depositAndRest {deposit rest : ℤ}
    (first : Binary64.round deposit = some (deposit : ℚ))
    (second : Binary64.round rest = some (rest : ℚ)) :
    (depositAndRest deposit rest).mapM (readTerm wholePercentages) =
      .ok [⟨"deposit", some deposit⟩, ⟨"rest", some rest⟩] := by
  have depositRead : wholePercentages.float (.int deposit) = .ok (some (deposit : ℚ)) :=
    congrArg Except.ok first
  have restRead : wholePercentages.float (.int rest) = .ok (some (rest : ℚ)) :=
    congrArg Except.ok second
  simp [depositAndRest, readTerm, Json.field?, depositRead, restRead, Library.textItem]
  rfl

theorem round_fifty : Binary64.round (50 : ℤ) = some ((50 : ℤ) : ℚ) := by
  simpa using round_of_multiple 50 0 (by decide) (by norm_num) (by norm_num)

/-- A half of an amount through its three floats. -/
theorem cents_half {cents : ℤ} {amount product quotient : ℚ} {part : ℤ}
    (amountIs : nearest (cents / 100) = amount) (productIs : nearest (amount * (50 : ℤ)) = product)
    (quotientIs : nearest (product / 100) = quotient)
    (small : |amount| ≤ 2 ^ 128 ∧ |product| ≤ 2 ^ 128 ∧ |quotient| ≤ 2 ^ 128)
    (near : |quotient * 100 - part| < 1 / 2) :
    (share (ofCents cents) (some ((50 : ℤ) : ℚ))).cents? = some part := by
  have amountFloat : ofCents cents = some amount := round_eq_of_nearest amountIs small.1
  have productFloat := round_eq_of_nearest productIs small.2.1
  have quotientFloat := round_eq_of_nearest quotientIs small.2.2
  have shared : share (ofCents cents) (some ((50 : ℤ) : ℚ)) = some quotient := by
    rw [amountFloat]
    show (Binary64.round (amount * (50 : ℤ)) >>= fun product => Binary64.round (product / 100)) = _
    rw [productFloat]
    exact quotientFloat
  rw [shared]
  exact congrArg some (Rounding.halfEven_eq near)

/-- The float of 10.05 is above it, so that a half of it is rounded to 5.03. -/
theorem cents_half_1005 : (share (ofCents 1005) (some ((50 : ℤ) : ℚ))).cents? = some 503 :=
  cents_half
    (nearest_eq 5657647031884186 (-49)
      (by norm_num) (by norm_num) (by decide) (by norm_num))
    (nearest_eq 8840073487319041 (-44)
      (by norm_num) (by norm_num) (by decide) (by norm_num))
    (nearest_eq 5657647031884186 (-50)
      (by norm_num) (by norm_num) (by decide) (by norm_num))
    (by norm_num) (by norm_num)

/-- The float of 0.15 is below it, so that a half of it is rounded to 0.07. -/
theorem cents_half_15 : (share (ofCents 15) (some ((50 : ℤ) : ℚ))).cents? = some 7 :=
  cents_half
    (nearest_eq 5404319552844595 (-55)
      (by norm_num) (by norm_num) (by decide) (by norm_num))
    (nearest_eq 8444249301319680 (-50)
      (by norm_num) (by norm_num) (by decide) (by norm_num))
    (nearest_eq 5404319552844595 (-56)
      (by norm_num) (by norm_num) (by decide) (by norm_num))
    (by norm_num) (by norm_num)

/-- The amounts of a total of 10.05 that is paid in two halves. -/
theorem build_instalments_halves : ∃ schedules,
    build wholePercentages (ofCents 1005) (depositAndRest 50 50) = .ok schedules ∧
      SumsTo 1005 schedules [503, 502] := by
  have built := build_instalments wholePercentages 1005
    (.obj [("label", .str "deposit"), ("percentage", .int 50)])
    [.obj [("label", .str "rest"), ("percentage", .int 50)]]
  have read := readTerm_depositAndRest round_fifty round_fifty
  unfold depositAndRest at read
  rw [read] at built
  obtain ⟨schedules, built, instalments⟩ := built
  have shared : shares (ofCents 1005) [⟨"deposit", some ((50 : ℤ) : ℚ)⟩, ⟨"rest", some ((50 : ℤ) : ℚ)⟩] =
      some [503] := by
    rw [shares, List.dropLast_cons_cons, List.dropLast_singleton, List.mapM_cons, cents_half_1005]
    rfl
  exact ⟨schedules, built, instalments.sum [503] shared (by norm_num)⟩

theorem roundCents_int {value : ℤ} (whole : Binary64.round value = some (value : ℚ)) :
    roundCents (some (value : ℚ)) = some (value : ℚ) := by
  have scaled : (value : ℚ) * (100 : ℕ) = ((value * 100 : ℤ) : ℚ) := by push_cast; rfl
  have hundredths : Rounding.roundTo 100 (value : ℚ) = value := by
    rw [Rounding.roundTo, scaled, Rounding.halfEven_intCast]
    push_cast
    ring
  show Binary64.round (Rounding.roundTo 100 (value : ℚ)) = _
  rw [hundredths, whole]

/-- A number above the exact integers of floats and its negation. -/
theorem round_tenPow : Binary64.round ((10 ^ 18 : ℤ) : ℚ) = some ((10 ^ 18 : ℤ) : ℚ) ∧
    Binary64.round ((-10 ^ 18 : ℤ) : ℚ) = some ((-10 ^ 18 : ℤ) : ℚ) := by
  have above := round_of_multiple 7812500000000000 7 (by decide) (by norm_num) (by norm_num)
  have below := round_of_multiple (-7812500000000000) 7 (by decide) (by norm_num) (by norm_num)
  norm_num at above below ⊢
  exact ⟨above, below⟩

/-- A half of 0.15 is a cent less than the exact product in cents, and amounts above the exact
integers of floats do not sum to a total of one. -/
theorem build_not_exact :
    (build wholePercentages (ofCents 15) (depositAndRest 50 50) =
        .ok [⟨"deposit", some ((50 : ℤ) : ℚ), ofCents 7⟩, ⟨"rest", some ((50 : ℤ) : ℚ), ofCents 8⟩] ∧
      Rounding.roundTo 100 (15 / 100 * 50 / 100) = 8 / 100 ∧ ofCents 7 ≠ ofCents 8) ∧
    (build wholePercentages (ofCents 100) (depositAndRest (10 ^ 20) 0) =
        .ok [⟨"deposit", some ((10 ^ 20 : ℤ) : ℚ), some ((10 ^ 18 : ℤ) : ℚ)⟩,
          ⟨"rest", some ((0 : ℤ) : ℚ), some ((-10 ^ 18 : ℤ) : ℚ)⟩] ∧
      ofCents 100 = some 1 ∧ (10 ^ 18 + -10 ^ 18 : ℤ) ≠ 1) := by
  have one : ofCents 100 = some 1 := by
    simpa [ofCents] using round_of_multiple 1 0 (by decide) (by norm_num) (by norm_num)
  have percentage : Binary64.round ((10 ^ 20 : ℤ) : ℚ) = some ((10 ^ 20 : ℤ) : ℚ) := by
    have multiple := round_of_multiple 95367431640625 20 (by decide) (by norm_num) (by norm_num)
    norm_num at multiple ⊢
    exact multiple
  have zero : Binary64.round ((0 : ℤ) : ℚ) = some ((0 : ℤ) : ℚ) := by
    simpa [ofCents] using ofCents_zero
  refine ⟨⟨?_, ?_, ?_⟩, ?_, one, by decide⟩
  · rw [build, readTerm_depositAndRest round_fifty round_fifty]
    have rest := roundCents_sub 15 7 (by norm_num) (by norm_num)
    have running := roundCents_add 0 7 (by norm_num) (by norm_num)
    rw [ofCents_zero] at running
    have deposit := roundCents_of_cents cents_half_15
    show Except.ok (allocate _ _ _) = _
    simp only [allocate, List.isEmpty_cons, Bool.false_eq_true, if_false, List.isEmpty_nil, if_true]
    rw [deposit, running]
    norm_num at rest ⊢
    exact rest
  · have whole : Rounding.halfEven (15 / 100 * 50 / 100 * (100 : ℕ)) = 8 := by
      have value : (15 : ℚ) / 100 * 50 / 100 * (100 : ℕ) = 15 / 2 := by norm_num
      have floor : (15 / 2 : ℚ).floor = 7 := by norm_num [Rat.floor]
      rw [value]
      norm_num [Rounding.halfEven, floor]
    rw [Rounding.roundTo, whole]
    norm_num
  · intro same
    have read := congrArg cents? same
    rw [cents?_ofCents (by norm_num), cents?_ofCents (by norm_num)] at read
    exact absurd (Option.some.inj read) (by decide)
  · rw [build, readTerm_depositAndRest percentage zero, one]
    have shared : share (some 1) (some ((10 ^ 20 : ℤ) : ℚ)) = some ((10 ^ 18 : ℤ) : ℚ) := by
      show (Binary64.round (1 * (10 ^ 20 : ℤ)) >>= fun product =>
        Binary64.round (product / 100)) = _
      rw [one_mul, percentage]
      have quotient : ((10 ^ 20 : ℤ) : ℚ) / 100 = (10 ^ 18 : ℤ) := by norm_num
      show Binary64.round (((10 ^ 20 : ℤ) : ℚ) / 100) = _
      rw [quotient, round_tenPow.1]
    have running : add (some 0) (some ((10 ^ 18 : ℤ) : ℚ)) = some ((10 ^ 18 : ℤ) : ℚ) := by
      show Binary64.round (0 + (10 ^ 18 : ℤ)) = _
      rw [zero_add, round_tenPow.1]
    have rest : sub (some 1) (some ((10 ^ 18 : ℤ) : ℚ)) = some ((-10 ^ 18 : ℤ) : ℚ) := by
      show Binary64.round (1 - (10 ^ 18 : ℤ)) = _
      have nearest : nearest (1 - (10 ^ 18 : ℤ)) = _ :=
        nearest_eq (-7812500000000000) 7 (by norm_num) (by norm_num) (by decide) (by norm_num)
      exact round_eq_of_nearest (nearest.trans (by norm_num)) (by norm_num)
    show Except.ok (allocate _ _ _) = _
    simp only [allocate, List.isEmpty_cons, Bool.false_eq_true, if_false, List.isEmpty_nil, if_true]
    rw [shared, roundCents_int round_tenPow.1, running, roundCents_int round_tenPow.1, rest,
      roundCents_int round_tenPow.2]

end Examples

end AgentFabric.Renovation.PaymentTerms
