import AgentFabric.Construction.Cloud.ScheduledJob

namespace AgentFabric.PyText

/-- A trailing character that is not a space stays. -/
theorem dropWhile_concat (keeps : Char → Bool) (text : List Char) (last : Char)
    (kept : keeps last = false) : ∃ front, (text ++ [last]).dropWhile keeps = front ++ [last] := by
  induction text with
  | nil => exact ⟨[], by simp [kept]⟩
  | cons head rest ih =>
      rw [List.cons_append, List.dropWhile_cons]
      split
      · exact ih
      · exact ⟨head :: rest, rfl⟩

/-- A text that starts with a star is not an integer. -/
theorem int_star {text : String} {rest : List Char} (starred : text.toList = '*' :: rest) :
    int text = none := by
  have shape : ∃ front, strip text.toList = '*' :: front := by
    obtain ⟨front, kept⟩ := dropWhile_concat isSpace rest.reverse '*' (by decide)
    refine ⟨front.reverse, ?_⟩
    rw [strip, starred, List.dropWhile_cons_of_neg (by decide), List.reverse_cons, kept,
      List.reverse_append]
    rfl
  obtain ⟨front, stripped⟩ := shape
  rw [int, stripped]
  rfl

end AgentFabric.PyText

namespace AgentFabric.Cloud.CronParser

/-- A field allows all values, the multiples of a step, or one number. -/
def Allows (field : String) (value : Nat) : Prop :=
  field = "*" ∨
    (∃ text step, field = "*/" ++ text ∧ int text = .ok step ∧ step ≠ 0 ∧ step ∣ (value : Int)) ∨
    int field = .ok (value : Int)

theorem int_star {text : String} {rest : List Char} (starred : text.toList = '*' :: rest)
    (value : Int) : int text ≠ .ok value := by
  rw [int, PyText.int_star starred]
  exact fun same => by cases same

/-- The comparison of a field decides whether it allows a value. -/
theorem allows_iff {field : String} {value : Nat} {answer : Bool}
    (answered : fieldMatches field value = .ok answer) : Allows field value ↔ answer = true := by
  unfold fieldMatches at answered
  split at answered
  · rename_i shape
    obtain rfl := Except.ok.inj answered
    exact iff_of_true (.inl (String.toList_injective shape)) rfl
  · rename_i text shape
    have own : field = "*/" ++ String.ofList text := by
      apply String.toList_injective
      rw [shape, String.toList_append, String.toList_ofList, String.toList_ofList]
      rfl
    obtain ⟨step, read, rest⟩ := bind_eq_ok_iff.mp answered
    by_cases zero : step = 0
    · rw [if_pos zero] at rest
      cases rest
    · rw [if_neg zero] at rest
      obtain rfl := Except.ok.inj rest
      rw [decide_eq_true_iff]
      constructor
      · rintro (star | ⟨other, divisor, form, again, _, divides⟩ | number)
        · rw [star] at shape
          cases shape
        · rw [own, String.append_right_inj] at form
          rw [← form, read] at again
          obtain rfl := Except.ok.inj again
          exact Int.fmod_eq_zero_of_dvd divides
        · exact absurd number (int_star shape value)
      · intro whole
        exact .inr (.inl ⟨_, step, own, read, zero, Int.dvd_of_fmod_eq_zero whole⟩)
  · rename_i notStar notStep
    obtain ⟨number, read, rest⟩ := bind_eq_ok_iff.mp answered
    obtain rfl := Except.ok.inj rest
    rw [decide_eq_true_iff]
    constructor
    · rintro (rfl | ⟨text, step, rfl, _⟩ | same)
      · exact absurd rfl notStar
      · exact absurd (by rw [String.toList_append]; rfl) (notStep text.toList)
      · exact Except.ok.inj (read.symm.trans same)
    · intro same
      exact .inr (.inr (same ▸ read))

variable (minute hour : String)

/-- A minute is allowed when both fields allow it. -/
def AllowsMinute (wall : WallClock) : Prop :=
  Allows minute wall.minute ∧ Allows hour wall.hour

theorem allowsMinute_iff {minute hour : String} {candidate : DateTime} {answer : Bool}
    (answered : candidateMatches minute hour candidate = .ok answer) :
    AllowsMinute minute hour candidate.wall ↔ answer = true := by
  obtain ⟨first, matched, rest⟩ := bind_eq_ok_iff.mp answered
  rw [AllowsMinute, allows_iff matched]
  cases first with
  | false =>
      obtain rfl := Except.ok.inj rest
      simp
  | true =>
      rw [allows_iff rest]
      simp

/-- The sum with a span moves the wall clock by it. -/
theorem add_eq_ok {value next : DateTime} {micros : Int} (added : add value micros = .ok next) :
    (next.wall.micros : Int) = value.wall.micros + micros ∧ next.offset = value.offset := by
  unfold add at added
  split at added
  · rename_i wall sum
    obtain rfl := Except.ok.inj added
    unfold WallClock.add? at sum
    split at sum
    · rename_i positive
      unfold WallClock.ofMicros? at sum
      split at sum
      · obtain rfl := Option.some.inj sum
        exact ⟨Int.toNat_of_nonneg positive, rfl⟩
      · cases sum
    · cases sum
  · cases added

/-- The search returns the first allowed minute from its start on. -/
theorem search_earliest {minute hour : String} (rounds : Nat) {candidate result : DateTime}
    (found : search minute hour rounds candidate = .ok result) :
    ∃ steps, result.wall.micros = candidate.wall.micros + steps * 60000000 ∧
      result.offset = candidate.offset ∧ AllowsMinute minute hour result.wall ∧
      ∀ earlier < steps, ∀ wall : WallClock,
        wall.micros = candidate.wall.micros + earlier * 60000000 → ¬ AllowsMinute minute hour wall := by
  induction rounds generalizing candidate with
  | zero => cases found
  | succ rounds ih =>
      rw [search] at found
      obtain ⟨answer, matched, rest⟩ := bind_eq_ok_iff.mp found
      have allowed := allowsMinute_iff matched
      cases answer with
      | true =>
          obtain rfl := Except.ok.inj rest
          exact ⟨0, by simp, rfl, allowed.mpr rfl, fun earlier below =>
            absurd below (Nat.not_lt_zero _)⟩
      | false =>
          obtain ⟨next, added, later⟩ := bind_eq_ok_iff.mp rest
          obtain ⟨moved, sameOffset⟩ := add_eq_ok added
          obtain ⟨steps, distance, offset, hit, missed⟩ := ih later
          refine ⟨steps + 1, by omega, offset.trans sameOffset, hit, ?_⟩
          intro earlier below wall position
          cases earlier with
          | zero =>
              have same : wall = candidate.wall := by
                obtain ⟨micros, inRange⟩ := wall
                have equal : micros = candidate.wall.micros := by simpa using position
                subst equal
                rfl
              rw [same, allowed]
              exact Bool.false_ne_true
          | succ earlier =>
              apply missed earlier (by omega) wall
              omega

/-- The result of a five-field expression is the earliest whole minute after an instant whose minute and
hour the first two fields allow. -/
def EarliestMinute (after result : WallClock) : Prop :=
  after.micros < result.micros ∧ result.micros % 60000000 = 0 ∧ AllowsMinute minute hour result ∧
    ∀ wall : WallClock, wall.micros % 60000000 = 0 → after.micros < wall.micros →
      AllowsMinute minute hour wall → result.micros ≤ wall.micros

theorem search_earliestMinute {minute hour : String} {rounds : Nat} {after start result : DateTime}
    (started : add { after with wall := after.wall.floorMinute } 60000000 = .ok start)
    (found : search minute hour rounds start = .ok result) :
    EarliestMinute minute hour after.wall result.wall ∧ result.offset = after.offset := by
  obtain ⟨first, sameOffset⟩ := add_eq_ok started
  obtain ⟨steps, distance, offset, hit, missed⟩ := search_earliest rounds found
  have floor : after.wall.floorMinute.micros = after.wall.micros - after.wall.micros % 60000000 := rfl
  dsimp only at first
  rw [floor] at first
  refine ⟨⟨by omega, by omega, hit, ?_⟩, offset.trans sameOffset⟩
  intro wall whole later allowed
  by_contra below
  have earlier : ∃ earlier < steps, wall.micros = start.wall.micros + earlier * 60000000 :=
    ⟨(wall.micros - start.wall.micros) / 60000000, by omega, by omega⟩
  obtain ⟨earlier, bound, position⟩ := earlier
  exact missed earlier bound wall position allowed

/-- An expression of the form `every N unit` gives the instant that is N units later. -/
def LaterByUnits (expression : String) (after result : WallClock) : Prop :=
  ∃ word amountText unit rest amount seconds,
    PyText.split expression = word :: amountText :: unit :: rest ∧ int amountText = .ok amount ∧
    unitSeconds unit = .ok seconds ∧
    (result.micros : Int) = after.micros + amount * seconds * 1000000 ∧
    (0 < amount → after.micros < result.micros)

theorem unitSeconds_pos {unit : String} {seconds : Int} (known : unitSeconds unit = .ok seconds) :
    0 < seconds := by
  unfold unitSeconds at known
  split at known <;> cases known <;> decide

theorem timedelta_eq_ok {seconds micros : Int} (span : timedelta seconds = .ok micros) :
    micros = seconds * 1000000 := by
  unfold timedelta at span
  dsimp only at span
  split at span
  · cases span
  · split at span
    · cases span
    · exact (Except.ok.inj span).symm

theorem nextEvery_later {expression : String} {after result : DateTime}
    (accepted : nextEvery expression after = .ok result) :
    LaterByUnits expression after.wall result.wall ∧ result.offset = after.offset := by
  unfold nextEvery at accepted
  split at accepted
  · rename_i word amountText unit rest words
    obtain ⟨amount, read, accepted⟩ := bind_eq_ok_iff.mp accepted
    obtain ⟨seconds, known, accepted⟩ := bind_eq_ok_iff.mp accepted
    obtain ⟨micros, span, added⟩ := bind_eq_ok_iff.mp accepted
    obtain ⟨moved, offset⟩ := add_eq_ok added
    rw [timedelta_eq_ok span] at moved
    refine ⟨⟨word, amountText, unit, rest, amount, seconds, words, read, known, moved, ?_⟩, offset⟩
    intro positive
    have product : 0 < amount * seconds := Int.mul_pos positive (unitSeconds_pos known)
    omega
  · cases accepted

/-- An accepted `every N unit` expression gives the instant that is its units later, and any other one
the earliest whole minute that its first two fields allow. Both keep the offset of the instant. -/
theorem nextAfter_earliest (expression : String) (after result : DateTime)
    (accepted : nextAfter expression after = .ok result) :
    ("every ".toList.isPrefixOf expression.toList = true →
      LaterByUnits expression after.wall result.wall) ∧
    ("every ".toList.isPrefixOf expression.toList = false →
      ∃ minute hour day month weekday,
        PyText.split expression = [minute, hour, day, month, weekday] ∧
        EarliestMinute minute hour after.wall result.wall) ∧
    result.offset = after.offset := by
  unfold nextAfter at accepted
  split at accepted
  · rename_i every
    obtain ⟨later, offset⟩ := nextEvery_later accepted
    exact ⟨fun _ => later, fun other => absurd (every.symm.trans other) (by decide), offset⟩
  · rename_i other
    split at accepted
    · rename_i minute hour day month weekday words
      obtain ⟨start, started, found⟩ := bind_eq_ok_iff.mp accepted
      obtain ⟨earliest, offset⟩ := search_earliestMinute started found
      exact ⟨fun every => absurd every other,
        fun _ => ⟨minute, hour, day, month, weekday, words, earliest⟩, offset⟩
    · cases accepted

/-- The first minute of year 1 gives its successor under five stars, and the fifth minute after it under
`every 5 minutes`. -/
theorem nextAfter_earliest_minute :
    (∃ minute hour day month weekday,
      PyText.split "* * * * *" = [minute, hour, day, month, weekday] ∧
      EarliestMinute minute hour UtcTime.first.wall ⟨60000000, by decide⟩) ∧
    LaterByUnits "every 5 minutes" UtcTime.first.wall ⟨300000000, by decide⟩ := by
  constructor
  · exact (nextAfter_earliest "* * * * *" UtcTime.first.toDateTime
      ⟨⟨60000000, by decide⟩, some Offset.utc⟩ (by decide)).2.1 (by decide)
  · exact (nextAfter_earliest "every 5 minutes" UtcTime.first.toDateTime
      ⟨⟨300000000, by decide⟩, some Offset.utc⟩ (by decide)).1 (by decide)

/-- The day of the month of a wall clock. -/
def dayOfMonth (wall : WallClock) : Nat := (civilOfDay (wall.micros / dayMicros)).2.2

/-- The expression for the fifth day of the month gives the first day, and no seconds are no step. -/
theorem nextAfter_not_earliest :
    (∃ result, nextAfter "* * 5 * *" UtcTime.first.toDateTime = .ok result ∧
      ¬ Allows "5" (dayOfMonth result.wall)) ∧
    nextAfter "every 0 seconds" UtcTime.first.toDateTime = .ok UtcTime.first.toDateTime := by
  refine ⟨⟨⟨⟨60000000, by decide⟩, some Offset.utc⟩, by decide, ?_⟩, by decide⟩
  have number : fieldMatches "5" (dayOfMonth ⟨60000000, by decide⟩) = .ok false := rfl
  rw [allows_iff number]
  exact Bool.false_ne_true

end AgentFabric.Cloud.CronParser
