import AgentFabric.Foundation.PyError
import Mathlib.Tactic

namespace AgentFabric

/-- The fixed-width decimal text starts with the highest digit. -/
def decimal : Nat → Nat → List Char
  | 0, _ => []
  | width + 1, value => Nat.digitChar (value / 10 ^ width % 10) :: decimal width value

/-- The reader takes exactly the requested number of ASCII digits. -/
def readDecimal : Nat → Nat → List Char → Option (Nat × List Char)
  | 0, value, rest => some (value, rest)
  | _ + 1, _, [] => none
  | width + 1, value, char :: rest =>
      if char.isDigit then readDecimal width (10 * value + (char.toNat - 48)) rest else none

theorem digitChar_digit (digit : Nat) (small : digit < 10) :
    (Nat.digitChar digit).isDigit = true ∧ (Nat.digitChar digit).toNat - 48 = digit := by
  interval_cases digit <;> decide

/-- The reader returns the written value and the text after it. -/
theorem readDecimal_decimal (width value start : Nat) (rest : List Char) :
    readDecimal width start (decimal width value ++ rest) =
      some (start * 10 ^ width + value % 10 ^ width, rest) := by
  induction width generalizing start with
  | zero => simp [decimal, readDecimal, Nat.mod_one]
  | succ width ih =>
      obtain ⟨isDigit, digitValue⟩ :=
        digitChar_digit (value / 10 ^ width % 10) (Nat.mod_lt _ (by decide))
      simp only [decimal, List.cons_append, readDecimal, isDigit, if_true, digitValue, ih]
      rw [Nat.mod_pow_succ]
      congr 2
      ring

theorem readDecimal_decimal_of_lt (width value : Nat) (rest : List Char)
    (small : value < 10 ^ width) :
    readDecimal width 0 (decimal width value ++ rest) = some (value, rest) := by
  rw [readDecimal_decimal, Nat.mod_eq_of_lt small, Nat.zero_mul, Nat.zero_add]

variable (expected : Char)

/-- The reader takes one fixed separator. -/
def readChar : List Char → Option (List Char)
  | [] => none
  | char :: rest => if char = expected then some rest else none

@[simp] theorem readChar_cons (rest : List Char) :
    readChar expected (expected :: rest) = some rest := by
  simp [readChar]

/-- The microseconds of one day. -/
def dayMicros : Nat := 86400000000

variable (year : Nat)

/-- A leap year of the proleptic Gregorian calendar. -/
def isLeap : Bool := year % 4 = 0 && (year % 100 ≠ 0 || year % 400 = 0)

variable (leap : Bool)

/-- The month lengths of one year. -/
def monthLengths : List Nat :=
  [31, if leap then 29 else 28, 31, 30, 31, 30, 31, 31, 30, 31, 30, 31]

/-- The days before the first of January. -/
def daysBeforeYear : Nat :=
  (year - 1) * 365 + (year - 1) / 4 - (year - 1) / 100 + (year - 1) / 400

/-- The search returns the month and the day from the months that remain. -/
def monthDay : List Nat → Nat → Nat → Nat × Nat
  | [], month, day => (month, day + 1)
  | length :: rest, month, day =>
      if day < length then (month, day + 1) else monthDay rest (month + 1) (day - length)

variable (day : Nat)

/-- A day number from 1 January of year 1 gives the calendar date. -/
def civilOfDay : Nat × Nat × Nat :=
  let cycle := day % 146097
  let century := min 3 (cycle / 36524)
  let inCentury := cycle - 36524 * century
  let inFour := inCentury % 1461
  let single := min 3 (inFour / 365)
  let year := day / 146097 * 400 + century * 100 + inCentury / 1461 * 4 + single + 1
  (year, monthDay (monthLengths (isLeap year)) 1 (inFour - 365 * single))

/-- A calendar date gives its day number when the month and the day exist. -/
def dayOfCivil (year month day : Nat) : Option Nat :=
  match (monthLengths (isLeap year))[month - 1]? with
  | none => none
  | some length =>
      if 1 ≤ year ∧ 1 ≤ month ∧ 1 ≤ day ∧ day ≤ length then
        some (daysBeforeYear year + ((monthLengths (isLeap year)).take (month - 1)).sum + (day - 1))
      else none

/-- The month search inverts the sum of the earlier month lengths. -/
theorem monthDay_spec (lengths : List Nat) (month day : Nat) (inside : day < lengths.sum) :
    ∃ index, (monthDay lengths month day).1 = month + index ∧
      (∃ length, lengths[index]? = some length ∧ (monthDay lengths month day).2 ≤ length) ∧
      1 ≤ (monthDay lengths month day).2 ∧
      (lengths.take index).sum + ((monthDay lengths month day).2 - 1) = day := by
  induction lengths generalizing month day with
  | nil => simp at inside
  | cons length rest ih =>
      by_cases here : day < length
      · refine ⟨0, ?_⟩
        simp only [monthDay, if_pos here]
        exact ⟨rfl, ⟨length, rfl, here⟩, by omega, by simp⟩
      · have remaining : day - length < rest.sum := by
          simp only [List.sum_cons] at inside
          omega
        obtain ⟨index, monthEqual, ⟨found, present, bound⟩, positive, total⟩ :=
          ih (month + 1) (day - length) remaining
        refine ⟨index + 1, ?_⟩
        simp only [monthDay, if_neg here]
        refine ⟨by omega, ⟨found, by simpa using present, bound⟩, positive, ?_⟩
        simp only [List.take_succ_cons, List.sum_cons]
        omega

theorem monthLengths_sum : (monthLengths leap).sum = if leap then 366 else 365 := by
  cases leap <;> rfl

theorem monthLengths_length : (monthLengths leap).length = 12 := rfl

theorem isLeap_iff : isLeap year = true ↔ year % 4 = 0 ∧ (year % 100 ≠ 0 ∨ year % 400 = 0) := by
  simp [isLeap]

/-- The days before a year follow from its place in the 400-year cycle. -/
theorem daysBeforeYear_cycle (cycles century fours single : Nat) (centuryBound : century ≤ 3)
    (foursBound : fours ≤ 24) (singleBound : single ≤ 3) :
    daysBeforeYear (cycles * 400 + century * 100 + fours * 4 + single + 1) =
      146097 * cycles + 36524 * century + 1461 * fours + 365 * single := by
  have quarter : (cycles * 400 + century * 100 + fours * 4 + single) / 4 =
      cycles * 100 + century * 25 + fours := by omega
  have hundred : (cycles * 400 + century * 100 + fours * 4 + single) / 100 =
      cycles * 4 + century := by omega
  have whole : (cycles * 400 + century * 100 + fours * 4 + single) / 400 = cycles := by omega
  simp only [daysBeforeYear, Nat.add_sub_cancel, quarter, hundred, whole]
  omega

/-- The year of a day number starts at most that day and has room for it. -/
theorem civilOfDay_year :
    1 ≤ (civilOfDay day).1 ∧ daysBeforeYear (civilOfDay day).1 ≤ day ∧
      day - daysBeforeYear (civilOfDay day).1 < (monthLengths (isLeap (civilOfDay day).1)).sum ∧
      (civilOfDay day).2 = monthDay (monthLengths (isLeap (civilOfDay day).1)) 1
        (day - daysBeforeYear (civilOfDay day).1) := by
  have start : daysBeforeYear (civilOfDay day).1 =
      day - ((day % 146097 - 36524 * min 3 (day % 146097 / 36524)) % 1461 -
        365 * min 3 ((day % 146097 - 36524 * min 3 (day % 146097 / 36524)) % 1461 / 365)) := by
    simp only [civilOfDay]
    rw [daysBeforeYear_cycle _ _ _ _ (by omega) (by omega) (by omega)]
    omega
  have leap := isLeap_iff (civilOfDay day).1
  have sum := monthLengths_sum (isLeap (civilOfDay day).1)
  refine ⟨by simp only [civilOfDay]; omega, by rw [start]; exact Nat.sub_le _ _, ?_, ?_⟩
  · rw [sum, start]
    by_cases isLeapYear : isLeap (civilOfDay day).1 = true
    · rw [if_pos isLeapYear]
      omega
    · rw [if_neg isLeapYear]
      have notLeap := (not_congr leap).mp isLeapYear
      simp only [civilOfDay] at notLeap
      omega
  · rw [start]
    simp only [civilOfDay]
    congr 1
    omega

/-- The calendar date of a day number reads back as that day number. -/
theorem dayOfCivil_civilOfDay :
    dayOfCivil (civilOfDay day).1 (civilOfDay day).2.1 (civilOfDay day).2.2 = some day := by
  obtain ⟨yearPositive, started, inside, rest⟩ := civilOfDay_year day
  obtain ⟨index, monthEqual, ⟨length, present, bound⟩, positive, total⟩ :=
    monthDay_spec _ 1 _ inside
  rw [← rest] at monthEqual bound positive total
  have position : (civilOfDay day).2.1 - 1 = index := by omega
  unfold dayOfCivil
  rw [position, present]
  have valid : 1 ≤ (civilOfDay day).1 ∧ 1 ≤ (civilOfDay day).2.1 ∧
      1 ≤ (civilOfDay day).2.2 ∧ (civilOfDay day).2.2 ≤ length :=
    ⟨yearPositive, by omega, positive, bound⟩
  simp only [valid, and_self, if_true, Option.some.injEq]
  omega

/-- The last supported year is 9999. -/
theorem civilOfDay_year_le (small : day < 3652059) : (civilOfDay day).1 ≤ 9999 := by
  simp only [civilOfDay]
  omega

/-- The month and the day of a date have two digits. -/
theorem civilOfDay_month_day_lt : (civilOfDay day).2.1 < 100 ∧ (civilOfDay day).2.2 < 100 := by
  obtain ⟨_, _, inside, rest⟩ := civilOfDay_year day
  obtain ⟨index, monthEqual, ⟨length, present, bound⟩, _⟩ := monthDay_spec _ 1 _ inside
  rw [← rest] at monthEqual bound
  have indexBound : index < 12 := by
    have inRange := (List.getElem?_eq_some_iff.mp present).1
    rwa [monthLengths_length] at inRange
  have lengthBound : length ≤ 31 := by
    have member := List.mem_of_getElem? present
    revert member
    cases isLeap (civilOfDay day).1 <;> simp only [monthLengths] <;> intro member <;>
      fin_cases member <;> decide
  omega

/-- The microseconds from 1 January of year 1 to the end of year 9999. -/
def limitMicros : Nat := 315537897600000000

/-- A naive datetime counts the microseconds from 1 January of year 1. -/
structure WallClock where
  micros : Nat
  inRange : micros < limitMicros
  deriving DecidableEq

variable (micros : Nat)

/-- A microsecond count is a datetime up to the end of year 9999. -/
def WallClock.ofMicros? : Option WallClock :=
  if inside : micros < limitMicros then some ⟨micros, inside⟩ else none

variable (value : WallClock)

@[simp] theorem WallClock.ofMicros?_micros :
    WallClock.ofMicros? value.micros = some value := dif_pos value.inRange

/-- The utcoffset of an aware datetime lies strictly between minus one day and one day. -/
structure Offset where
  negative : Bool
  micros : Nat
  inRange : micros < dayMicros
  signed : negative = true → micros ≠ 0
  deriving DecidableEq

/-- A datetime without an offset is naive. -/
structure DateTime where
  wall : WallClock
  offset : Option Offset
  deriving DecidableEq

/-- The offset of `timezone.utc`. -/
def Offset.utc : Offset := ⟨false, 0, by decide, by decide⟩

variable (offset : Offset)

/-- The signed offset in microseconds. -/
def Offset.toInt : Int :=
  if offset.negative then -(offset.micros : Int) else offset.micros

/-- The position of an aware datetime on the UTC axis. -/
def DateTime.instant (value : DateTime) : Int :=
  value.wall.micros - (value.offset.elim 0 Offset.toInt)

/-- The comparison `first > second` raises TypeError for a naive and an aware datetime. -/
def DateTime.later? (first second : DateTime) : Option Bool :=
  if first.offset.isSome = second.offset.isSome then
    some (decide (second.instant < first.instant))
  else none

/-- The minute of the wall clock. -/
def WallClock.minute : Nat := value.micros / 60000000 % 60

/-- The hour of the wall clock. -/
def WallClock.hour : Nat := value.micros / 3600000000 % 24

/-- The start of the current minute. -/
def WallClock.floorMinute : WallClock :=
  ⟨value.micros - value.micros % 60000000, lt_of_le_of_lt (Nat.sub_le _ _) value.inRange⟩

/-- Adding a timedelta fails outside years 1 to 9999. -/
def WallClock.add? (micros : Int) : Option WallClock :=
  if 0 ≤ value.micros + micros then WallClock.ofMicros? (value.micros + micros).toNat else none

/-- The microseconds follow a dot when they are not zero. -/
def fractionText : List Char :=
  if micros = 0 then [] else '.' :: decimal 6 micros

/-- The reader takes a fraction only after a dot. -/
def readFraction : List Char → Option (Nat × List Char)
  | [] => some (0, [])
  | char :: rest => if char = '.' then readDecimal 6 0 rest else some (0, char :: rest)

theorem readFraction_fractionText (rest : List Char) (small : micros < 1000000)
    (noDot : rest.head? ≠ some '.') :
    readFraction (fractionText micros ++ rest) = some (micros, rest) := by
  unfold fractionText
  split
  · subst micros
    cases rest with
    | nil => rfl
    | cons char rest =>
        have different : char ≠ '.' := fun equal => noDot (by rw [equal]; rfl)
        simp only [List.nil_append, readFraction, if_neg different]
  · exact readDecimal_decimal_of_lt 6 micros rest small

/-- The hour and the minute of a span below one day. -/
def hourMinuteText : List Char :=
  decimal 2 (micros / 3600000000) ++ ':' :: decimal 2 (micros / 60000000 % 60)

variable (text : List Char)

def readHourMinute : Option (Nat × List Char) := do
  let (hour, text) ← readDecimal 2 0 text
  let text ← readChar ':' text
  let (minute, text) ← readDecimal 2 0 text
  if hour < 24 ∧ minute < 60 then some (hour * 3600000000 + minute * 60000000, text) else none

theorem readHourMinute_text (rest : List Char) (small : micros < dayMicros) :
    readHourMinute (hourMinuteText micros ++ rest) = some (micros - micros % 60000000, rest) := by
  unfold dayMicros at small
  have hourSmall : micros / 3600000000 < 24 := by omega
  have minuteSmall : micros / 60000000 % 60 < 60 := Nat.mod_lt _ (by decide)
  simp only [readHourMinute, hourMinuteText, List.append_assoc, List.cons_append]
  rw [readDecimal_decimal_of_lt 2 _ _ (by omega)]
  simp only [Option.bind_eq_bind, Option.bind_some, readChar_cons]
  rw [readDecimal_decimal_of_lt 2 _ _ (by omega)]
  simp only [Option.bind_some, hourSmall, minuteSmall, and_self, if_true, Option.some.injEq,
    Prod.mk.injEq, and_true]
  omega

/-- The seconds and the fraction of the minute. -/
def secondText : List Char :=
  decimal 2 (micros / 1000000 % 60) ++ fractionText (micros % 1000000)

def readSecond : Option (Nat × List Char) := do
  let (second, text) ← readDecimal 2 0 text
  let (micros, text) ← readFraction text
  if second < 60 then some (second * 1000000 + micros, text) else none

theorem readSecond_text (rest : List Char) (noDot : rest.head? ≠ some '.') :
    readSecond (secondText micros ++ rest) = some (micros % 60000000, rest) := by
  have secondSmall : micros / 1000000 % 60 < 60 := Nat.mod_lt _ (by decide)
  simp only [readSecond, secondText, List.append_assoc]
  rw [readDecimal_decimal_of_lt 2 _ _ (by omega)]
  simp only [Option.bind_eq_bind, Option.bind_some]
  rw [readFraction_fractionText _ _ (Nat.mod_lt _ (by decide)) noDot]
  simp only [Option.bind_some, secondSmall, if_true, Option.some.injEq, Prod.mk.injEq, and_true]
  omega

/-- The date text is `YYYY-MM-DD`. -/
def dateText : List Char :=
  decimal 4 (civilOfDay day).1 ++ '-' :: (decimal 2 (civilOfDay day).2.1 ++
    '-' :: decimal 2 (civilOfDay day).2.2)

def readDate : Option (Nat × List Char) := do
  let (year, text) ← readDecimal 4 0 text
  let text ← readChar '-' text
  let (month, text) ← readDecimal 2 0 text
  let text ← readChar '-' text
  let (day, text) ← readDecimal 2 0 text
  (dayOfCivil year month day).map fun day => (day, text)

theorem readDate_dateText (rest : List Char) (small : day < 3652059) :
    readDate (dateText day ++ rest) = some (day, rest) := by
  have yearBound := civilOfDay_year_le day small
  obtain ⟨monthBound, dateBound⟩ := civilOfDay_month_day_lt day
  simp only [readDate, dateText, List.append_assoc, List.cons_append]
  rw [readDecimal_decimal_of_lt 4 _ _ (by omega)]
  simp only [Option.bind_eq_bind, Option.bind_some, readChar_cons]
  rw [readDecimal_decimal_of_lt 2 _ _ monthBound]
  simp only [Option.bind_some, readChar_cons]
  rw [readDecimal_decimal_of_lt 2 _ _ dateBound]
  simp only [Option.bind_some, dayOfCivil_civilOfDay, Option.map_some]

/-- The naive text is `YYYY-MM-DDTHH:MM:SS[.ffffff]`. -/
def WallClock.isoformat : List Char :=
  dateText (value.micros / dayMicros) ++ 'T' :: (hourMinuteText (value.micros % dayMicros) ++
    ':' :: secondText (value.micros % dayMicros))

def WallClock.read : Option (WallClock × List Char) := do
  let (day, text) ← readDate text
  let text ← readChar 'T' text
  let (minutes, text) ← readHourMinute text
  let text ← readChar ':' text
  let (seconds, text) ← readSecond text
  (WallClock.ofMicros? (dayMicros * day + minutes + seconds)).map fun value => (value, text)

/-- The three parts of the text determine the datetime. -/
theorem WallClock.read_parts (text clock second rest : List Char) (day minutes seconds : Nat)
    (dateRead : readDate text = some (day, 'T' :: clock))
    (minutesRead : readHourMinute clock = some (minutes, ':' :: second))
    (secondsRead : readSecond second = some (seconds, rest)) :
    WallClock.read text =
      (WallClock.ofMicros? (dayMicros * day + minutes + seconds)).map fun value => (value, rest) := by
  simp only [WallClock.read, dateRead, minutesRead, secondsRead, Option.bind_eq_bind,
    Option.bind_some, readChar_cons]

/-- The days and the time of day give back the microseconds. -/
theorem WallClock.micros_split :
    value.micros / dayMicros < 3652059 ∧ value.micros % dayMicros < dayMicros ∧
      dayMicros * (value.micros / dayMicros) +
        (value.micros % dayMicros - value.micros % dayMicros % 60000000) +
        value.micros % dayMicros % 60000000 = value.micros := by
  have inRange := value.inRange
  unfold limitMicros at inRange
  unfold dayMicros
  omega

theorem WallClock.read_isoformat (rest : List Char) (noDot : rest.head? ≠ some '.') :
    WallClock.read (value.isoformat ++ rest) = some (value, rest) := by
  obtain ⟨dayBound, timeBound, total⟩ := value.micros_split
  have parts := WallClock.read_parts (value.isoformat ++ rest) _ _ rest _ _ _
    (by simpa only [WallClock.isoformat, List.append_assoc, List.cons_append] using
      readDate_dateText _ _ dayBound)
    (readHourMinute_text _ _ timeBound) (readSecond_text _ _ noDot)
  rw [parts, total, WallClock.ofMicros?_micros, Option.map_some]

/-- The offset text is `+HH:MM[:SS[.ffffff]]` with its sign. -/
def Offset.isoformat : List Char :=
  (if offset.negative then '-' else '+') :: (hourMinuteText offset.micros ++
    if offset.micros % 60000000 = 0 then [] else ':' :: secondText offset.micros)

def Offset.read : List Char → Option Offset
  | [] => none
  | sign :: text => do
      let (minutes, text) ← readHourMinute text
      let (micros, text) ← match readChar ':' text with
        | some text => (readSecond text).map fun result => (minutes + result.1, result.2)
        | none => some (minutes, text)
      if valid : text = [] ∧ micros < dayMicros ∧ (sign = '+' ∨ (sign = '-' ∧ micros ≠ 0)) then
        some ⟨sign = '-', micros, valid.2.1, by
          rcases valid.2.2 with plus | minus
          · simp [plus]
          · exact fun _ => minus.2⟩
      else none

@[simp] theorem readChar_nil : readChar expected [] = none := rfl

theorem Offset.read_isoformat : Offset.read offset.isoformat = some offset := by
  obtain ⟨negative, micros, inRange, signed⟩ := offset
  have restored : micros - micros % 60000000 + micros % 60000000 = micros :=
    Nat.sub_add_cancel (Nat.mod_le _ _)
  simp only [Offset.isoformat, Offset.read]
  rw [readHourMinute_text _ _ inRange]
  by_cases whole : micros % 60000000 = 0
  · cases negative <;> simp_all
  · have second := readSecond_text micros [] (by simp)
    rw [List.append_nil] at second
    cases negative <;> simp_all

/-- The text of an aware datetime ends with its offset. -/
def DateTime.isoformat (value : DateTime) : String :=
  String.ofList (value.wall.isoformat ++ value.offset.elim [] Offset.isoformat)

section Characters

variable (char : Char) (noDigit : char.isDigit = false)

include noDigit

theorem not_mem_decimal (width value : Nat) : char ∉ decimal width value := by
  have digits : ∀ digit < 10, (Nat.digitChar digit).isDigit = true := by decide
  induction width with
  | zero => simp [decimal]
  | succ width ih =>
      rw [decimal, List.mem_cons, not_or]
      refine ⟨?_, ih⟩
      intro same
      rw [same, digits _ (Nat.mod_lt _ (by decide))] at noDigit
      cases noDigit

variable (noMark : char ∉ ['-', 'T', ':', '.', '+'])

include noMark

theorem not_mem_secondText (micros : Nat) : char ∉ secondText micros := by
  simp only [List.mem_cons, List.not_mem_nil, or_false, not_or] at noMark
  unfold secondText fractionText
  split <;> simp [not_mem_decimal char noDigit, noMark]

theorem not_mem_hourMinuteText (micros : Nat) : char ∉ hourMinuteText micros := by
  simp only [List.mem_cons, List.not_mem_nil, or_false, not_or] at noMark
  simp [hourMinuteText, not_mem_decimal char noDigit, noMark]

/-- An isoformat text has only digits and its own marks. -/
theorem DateTime.not_mem_isoformat (value : DateTime) : char ∉ value.isoformat.toList := by
  have seconds := not_mem_secondText char noDigit noMark
  have minutes := not_mem_hourMinuteText char noDigit noMark
  simp only [List.mem_cons, List.not_mem_nil, or_false, not_or] at noMark
  have wall : char ∉ value.wall.isoformat := by
    simp [WallClock.isoformat, dateText, not_mem_decimal char noDigit, seconds, minutes, noMark]
  have offset (offset : Offset) : char ∉ offset.isoformat := by
    unfold Offset.isoformat
    split <;> split <;> simp [seconds, minutes, noMark]
  rw [DateTime.isoformat, String.toList_ofList, List.mem_append, not_or]
  refine ⟨wall, ?_⟩
  cases value.offset with
  | none => exact List.not_mem_nil
  | some value => exact offset value

end Characters

/-- `datetime.fromisoformat` inverts `isoformat`. -/
def DateTime.fromisoformat (text : String) : Option DateTime := do
  let (wall, rest) ← WallClock.read text.toList
  if rest = [] then some ⟨wall, none⟩
  else (Offset.read rest).map fun offset => ⟨wall, some offset⟩

/-- Every datetime reads back from its own text. -/
theorem DateTime.fromisoformat_isoformat (value : DateTime) :
    DateTime.fromisoformat value.isoformat = some value := by
  obtain ⟨wall, offset⟩ := value
  cases offset with
  | none =>
      have read := WallClock.read_isoformat wall [] (by simp)
      rw [List.append_nil] at read
      simp [DateTime.fromisoformat, DateTime.isoformat, read]
  | some offset =>
      have noDot : offset.isoformat.head? ≠ some '.' := by
        cases sign : offset.negative <;> simp [Offset.isoformat, sign]
      have present : offset.isoformat ≠ [] := by simp [Offset.isoformat]
      simp [DateTime.fromisoformat, DateTime.isoformat, WallClock.read_isoformat _ _ noDot,
        present, Offset.read_isoformat]

/-- A clock reading of `utc_now` is an aware UTC datetime. -/
structure UtcTime where
  wall : WallClock
  deriving DecidableEq

/-- The text of a datetime is not empty. -/
theorem DateTime.isoformat_ne_empty (value : DateTime) : value.isoformat ≠ "" := by
  intro empty
  have read := DateTime.fromisoformat_isoformat value
  have nothing : DateTime.fromisoformat "" = none := rfl
  rw [empty, nothing] at read
  cases read

/-- The earliest reading is the start of year 1. -/
def UtcTime.first : UtcTime := ⟨⟨0, by decide⟩⟩

def UtcTime.toDateTime (value : UtcTime) : DateTime := ⟨value.wall, some Offset.utc⟩

def UtcTime.isoformat (value : UtcTime) : String := value.toDateTime.isoformat

/-- A stored UTC text reads back as a UTC reading. -/
def UtcTime.fromisoformat (text : String) : Option UtcTime :=
  (DateTime.fromisoformat text).bind fun value =>
    if value.offset = some Offset.utc then some ⟨value.wall⟩ else none

@[simp] theorem UtcTime.fromisoformat_isoformat (value : UtcTime) :
    UtcTime.fromisoformat value.isoformat = some value := by
  simp [UtcTime.fromisoformat, UtcTime.isoformat, DateTime.fromisoformat_isoformat,
    UtcTime.toDateTime]

theorem UtcTime.isoformat_ne_empty (value : UtcTime) : value.isoformat ≠ "" :=
  DateTime.isoformat_ne_empty value.toDateTime

/-- The number of days of the years 1 to 9999. -/
def limitDays : Nat := 3652059

/-- A calendar date is its day number from 1 January of year 1. -/
structure Date where
  day : Nat
  inRange : day < limitDays
  deriving DecidableEq

namespace Date

instance : LinearOrder Date := LinearOrder.lift' Date.day fun first second same => by
  cases first
  cases second
  cases same
  rfl

variable (first second : Date)

theorem le_iff : first ≤ second ↔ first.day ≤ second.day := Iff.rfl

theorem lt_iff : first < second ↔ first.day < second.day := Iff.rfl

theorem ext_day {first second : Date} (same : first.day = second.day) : first = second := by
  cases first
  cases second
  cases same
  rfl

theorem max_day : (max first second).day = max first.day second.day := by
  rcases le_total first second with less | less
  · rw [max_eq_right less, max_eq_right ((le_iff _ _).mp less)]
  · rw [max_eq_left less, max_eq_left ((le_iff _ _).mp less)]

def ofDay? (day : Nat) : Option Date :=
  if inRange : day < limitDays then some ⟨day, inRange⟩ else none

variable (date : Date)

/-- The text is `YYYY-MM-DD`. -/
def isoformat : String := String.ofList (dateText date.day)

/-- The first day of a week date, where day 0 is a Monday and week 1 holds the first Thursday. -/
def weekDay (year week weekday : Nat) : Option Nat :=
  let first := daysBeforeYear year
  let monday := if first % 7 > 3 then first - first % 7 + 7 else first - first % 7
  let long := first % 7 = 3 ∨ (first % 7 = 2 ∧ isLeap year)
  if 1 ≤ year ∧ 1 ≤ week ∧ (week ≤ 52 ∨ (week = 53 ∧ long)) ∧ 1 ≤ weekday ∧ weekday ≤ 7 then
    some (monday + (week - 1) * 7 + (weekday - 1))
  else none

/-- The date `YYYYMMDD` without separators. -/
def readBasic (text : List Char) : Option (Nat × List Char) := do
  let (year, text) ← readDecimal 4 0 text
  let (month, text) ← readDecimal 2 0 text
  let (day, text) ← readDecimal 2 0 text
  (dayOfCivil year month day).map fun day => (day, text)

/-- The week date `YYYY-Www[-D]`, or `YYYYWww[D]` without separators. -/
def readWeek (separated : Bool) (text : List Char) : Option (Nat × List Char) := do
  let (year, text) ← readDecimal 4 0 text
  let text ← if separated then readChar '-' text else some text
  let text ← readChar 'W' text
  let (week, text) ← readDecimal 2 0 text
  if text = [] then (weekDay year week 1).map fun day => (day, text)
  else
    let text ← if separated then readChar '-' text else some text
    let (weekday, text) ← readDecimal 1 0 text
    (weekDay year week weekday).map fun day => (day, text)

/-- A reader that has to take the whole text. -/
def whole (read : List Char → Option (Nat × List Char)) (text : String) : Option Nat :=
  (read text.toList).bind fun result => if result.2 = [] then some result.1 else none

/-- `date.fromisoformat` reads calendar dates and week dates with and without separators. -/
def fromisoformat? (text : String) : Option Date :=
  (whole readDate text <|> whole readBasic text <|> whole (readWeek true) text <|>
    whole (readWeek false) text).bind ofDay?

@[simp] theorem fromisoformat?_isoformat : fromisoformat? date.isoformat = some date := by
  have read := readDate_dateText date.day [] date.inRange
  rw [List.append_nil] at read
  have inside : ofDay? date.day = some date := dif_pos date.inRange
  have first : whole readDate date.isoformat = some date.day := by simp [whole, isoformat, read]
  rw [fromisoformat?, first]
  exact inside

/-- A malformed date raises. -/
def fromisoformat (text : String) : Except PyError Date :=
  match fromisoformat? text with
  | none => .error (.valueError ("Invalid isoformat string: " ++ text))
  | some date => .ok date

/-- Adding a timedelta fails outside years 1 to 9999. -/
def addDays (days : Int) : Except PyError Date :=
  if inside : 0 ≤ date.day + days ∧ date.day + days < limitDays then
    .ok ⟨(date.day + days).toNat, by omega⟩
  else .error (.overflowError "date value out of range")

variable {days : Int}

theorem addDays_eq_ok {date result : Date} (added : date.addDays days = .ok result) :
    (result.day : Int) = date.day + days := by
  unfold addDays at added
  split at added
  · cases added
    show (((date.day + days).toNat : Nat) : Int) = _
    omega
  · cases added

/-- Days inside the calendar are added. -/
theorem addDays_returns {date : Date} (positive : 0 ≤ date.day + days)
    (inside : date.day + days < limitDays) : ∃ result, date.addDays days = .ok result := by
  unfold addDays
  rw [dif_pos ⟨positive, inside⟩]
  exact ⟨_, rfl⟩

theorem addDays_error {date : Date} {error : PyError}
    (failed : date.addDays days = .error error) :
    error = .overflowError "date value out of range" := by
  unfold addDays at failed
  split at failed
  · cases failed
  · cases failed
    rfl

/-- The days between two dates. -/
def daysSince : Int := first.day - second.day

end Date

end AgentFabric
