import Mathlib.Data.String.Basic

namespace AgentFabric.DottedText

section Parts

variable {Symbol : Type*} [LinearOrder Symbol]

/-- The parts of a text between its separators. -/
def parts (separator : Symbol) : List Symbol → List (List Symbol)
  | [] => [[]]
  | symbol :: rest =>
      if symbol = separator then [] :: parts separator rest
      else
        match parts separator rest with
        | [] => [[symbol]]
        | first :: later => (symbol :: first) :: later

section

variable (separator : Symbol)

theorem parts_ne_nil (text : List Symbol) : parts separator text ≠ [] := by
  cases text with
  | nil => simp [parts]
  | cons symbol rest =>
      simp only [parts]
      split
      · simp
      · split <;> simp

theorem exists_parts (text : List Symbol) : ∃ first later, parts separator text = first :: later :=
  List.exists_cons_of_ne_nil (parts_ne_nil separator text)

theorem parts_separator (rest : List Symbol) :
    parts separator (separator :: rest) = [] :: parts separator rest := by
  rw [parts, if_pos rfl]

end

theorem parts_symbol {separator symbol : Symbol} (other : symbol ≠ separator)
    {rest first : List Symbol} {later : List (List Symbol)}
    (found : parts separator rest = first :: later) :
    parts separator (symbol :: rest) = (symbol :: first) :: later := by
  rw [parts, if_neg other, found]

/-- A separator below every other symbol makes the order of the texts the order of their parts. -/
theorem parts_lt_iff (separator : Symbol) (first second : List Symbol)
    (firstAbove : ∀ symbol ∈ first, separator ≤ symbol)
    (secondAbove : ∀ symbol ∈ second, separator ≤ symbol) :
    parts separator first < parts separator second ↔ first < second := by
  induction first generalizing second with
  | nil =>
      cases second with
      | nil => simp [parts]
      | cons other others =>
          have below : ([] : List Symbol) < other :: others := List.nil_lt_cons other others
          refine iff_of_true ?_ below
          obtain ⟨head, later, found⟩ := exists_parts separator others
          by_cases same : other = separator
          · rw [same, parts_separator, found, parts, List.cons_lt_cons_iff]
            exact .inr ⟨rfl, List.nil_lt_cons head later⟩
          · rw [parts_symbol same found, parts, List.cons_lt_cons_iff]
            exact .inl (List.nil_lt_cons other head)
  | cons symbol rest ih =>
      rw [List.forall_mem_cons] at firstAbove
      cases second with
      | nil =>
          refine iff_of_false ?_ (by simp)
          obtain ⟨head, later, found⟩ := exists_parts separator rest
          by_cases same : symbol = separator
          · rw [same, parts_separator, parts, List.cons_lt_cons_iff]
            simp
          · rw [parts_symbol same found, parts, List.cons_lt_cons_iff]
            simp
      | cons other others =>
          rw [List.forall_mem_cons] at secondAbove
          have inner := ih others firstAbove.2 secondAbove.2
          obtain ⟨head, later, found⟩ := exists_parts separator rest
          obtain ⟨otherHead, otherLater, otherFound⟩ := exists_parts separator others
          by_cases same : symbol = separator
          · by_cases otherSame : other = separator
            · rw [same, otherSame, parts_separator, parts_separator, List.cons_lt_cons_iff,
                List.cons_lt_cons_iff, inner]
              simp
            · have below : separator < other := lt_of_le_of_ne secondAbove.1 (Ne.symm otherSame)
              rw [same, parts_separator, parts_symbol otherSame otherFound, List.cons_lt_cons_iff,
                List.cons_lt_cons_iff]
              exact iff_of_true (.inl (List.nil_lt_cons other otherHead)) (.inl below)
          · have above : separator < symbol := lt_of_le_of_ne firstAbove.1 (Ne.symm same)
            by_cases otherSame : other = separator
            · rw [otherSame, parts_separator, parts_symbol same found, List.cons_lt_cons_iff,
                List.cons_lt_cons_iff]
              simp [above.ne', above.le]
            · rw [found, otherFound, List.cons_lt_cons_iff] at inner
              rw [parts_symbol same found, parts_symbol otherSame otherFound,
                List.cons_lt_cons_iff, List.cons_lt_cons_iff, List.cons_lt_cons_iff, ← inner]
              simp only [List.cons.injEq]
              tauto

end Parts

section Numbers

/-- The value of a word of decimal digits. -/
def digitsValue (digits : List Char) : Nat :=
  digits.foldl (fun value digit => 10 * value + (digit.toNat - '0'.toNat)) 0

/-- The numbers of the parts between dots. -/
def numbers (text : String) : List Nat := (parts '.' text.toList).map digitsValue

/-- One or more decimal numbers between dots. -/
def DottedNumeric (text : String) : Prop :=
  ∀ part ∈ parts '.' text.toList, part ≠ [] ∧ ∀ char ∈ part, char.isDigit = true

/-- A part is searched for a character that is not a digit. -/
instance digitsDecidable (part : List Char) : Decidable (∀ char ∈ part, char.isDigit = true) :=
  List.decidableBAll (fun char => char.isDigit = true) part

instance (text : String) : Decidable (DottedNumeric text) :=
  List.decidableBAll (fun part : List Char => part ≠ [] ∧ ∀ char ∈ part, char.isDigit = true)
    (parts '.' text.toList)

variable {char : Char}

theorem mem_parts_of_mem {text : List Char} (member : char ∈ text)
    (other : char ≠ '.') : ∃ part ∈ parts '.' text, char ∈ part := by
  induction text with
  | nil => cases member
  | cons symbol rest ih =>
      obtain ⟨head, later, found⟩ := exists_parts '.' rest
      rcases List.mem_cons.mp member with rfl | inside
      · rw [parts_symbol other found]
        exact ⟨_, .head _, .head _⟩
      · obtain ⟨part, listed, contains⟩ := ih inside
        by_cases same : symbol = '.'
        · rw [same, parts_separator]
          exact ⟨part, List.mem_cons_of_mem _ listed, contains⟩
        · rw [parts_symbol same found]
          rw [found] at listed
          rcases List.mem_cons.mp listed with rfl | deeper
          · exact ⟨_, .head _, List.mem_cons_of_mem _ contains⟩
          · exact ⟨part, List.mem_cons_of_mem _ deeper, contains⟩

/-- A dotted number has digits and dots only. -/
theorem DottedNumeric.chars {text : String} (dotted : DottedNumeric text)
    (member : char ∈ text.toList) : char = '.' ∨ char.isDigit = true := by
  by_cases same : char = '.'
  · exact .inl same
  · obtain ⟨part, listed, inside⟩ := mem_parts_of_mem member same
    exact .inr ((dotted part listed).2 char inside)

theorem dot_le_digit (digit : char.isDigit = true) : '.' ≤ char := by
  simp only [Char.isDigit, Bool.and_eq_true, decide_eq_true_eq] at digit
  exact le_trans (show '.' ≤ '0' by decide) digit.1

theorem DottedNumeric.dot_le {text : String} (dotted : DottedNumeric text) :
    ∀ char ∈ text.toList, '.' ≤ char := by
  intro char member
  rcases dotted.chars member with rfl | digit
  · exact le_refl _
  · exact dot_le_digit digit

/-- Dotted numbers are in the order of their parts as texts. -/
theorem DottedNumeric.le_iff {first second : String} (firstDotted : DottedNumeric first)
    (secondDotted : DottedNumeric second) :
    first ≤ second ↔ parts '.' first.toList ≤ parts '.' second.toList := by
  rw [String.le_iff_toList_le, ← not_lt, ← not_lt,
    parts_lt_iff '.' _ _ secondDotted.dot_le firstDotted.dot_le]

end Numbers

section Difference

variable {Part : Type*} [LinearOrder Part] (value : Part → Nat)

/-- What two lists do not share at their beginning. -/
def afterShared : List Part → List Part → List Part × List Part
  | first :: rest, second :: others =>
      if first = second then afterShared rest others else (first :: rest, second :: others)
  | first, second => (first, second)

/-- Where two lists first differ, the first one has the smaller part, and a comparison holds between
the numbers from there on. -/
def DifferBy (compare : List Nat → List Nat → Prop) (first second : List Part) : Prop :=
  match afterShared first second with
  | ([], others) => compare [] (others.map value)
  | (_ :: _, []) => False
  | (part :: rest, other :: others) =>
      part < other ∧ compare ((part :: rest).map value) ((other :: others).map value)

instance (compare : List Nat → List Nat → Prop) [DecidableRel compare] (first second : List Part) :
    Decidable (DifferBy value compare first second) := by
  unfold DifferBy
  split <;> infer_instance

variable (first second : List Part)

theorem differBy_le_iff :
    DifferBy value (· ≤ ·) first second ↔ first ≤ second ∧ first.map value ≤ second.map value := by
  induction first generalizing second with
  | nil =>
      have least (items : List Part) : [] ≤ items := not_lt.mp (List.not_lt_nil items)
      simp [DifferBy, afterShared, least]
  | cons part rest ih =>
      cases second with
      | nil =>
          have above : ¬ part :: rest ≤ [] := not_le.mpr (List.nil_lt_cons part rest)
          simp [DifferBy, afterShared, above]
      | cons other others =>
          by_cases same : part = other
          · subst same
            have step : DifferBy value (· ≤ ·) (part :: rest) (part :: others) ↔
                DifferBy value (· ≤ ·) rest others := by
              simp only [DifferBy, afterShared, if_true]
            rw [step, ih, ← not_lt, ← not_lt, ← not_lt, ← not_lt, List.map_cons, List.map_cons,
              List.cons_lt_cons_iff, List.cons_lt_cons_iff]
            simp
          · have heads : part :: rest ≤ other :: others ↔ part < other := by
              rw [← not_lt, List.cons_lt_cons_iff]
              simp [Ne.symm same, le_iff_lt_or_eq, same]
            simp only [DifferBy, afterShared, if_neg same, heads]

theorem differBy_lt_iff :
    DifferBy value (· < ·) first second ↔ first < second ∧ first.map value < second.map value := by
  induction first generalizing second with
  | nil => cases second <;> simp [DifferBy, afterShared]
  | cons part rest ih =>
      cases second with
      | nil => simp [DifferBy, afterShared]
      | cons other others =>
          by_cases same : part = other
          · subst same
            have step : DifferBy value (· < ·) (part :: rest) (part :: others) ↔
                DifferBy value (· < ·) rest others := by
              simp only [DifferBy, afterShared, if_true]
            rw [step, ih]
            simp
          · simp only [DifferBy, afterShared, if_neg same]
            rw [List.cons_lt_cons_iff]
            simp [same]

/-- The text order of two lists is their numeric order exactly when it is where they first differ. -/
theorem orders_agree_iff :
    (first ≤ second ↔ first.map value ≤ second.map value) ↔
      DifferBy value (· ≤ ·) first second ∨ DifferBy value (· < ·) second first := by
  rw [differBy_le_iff, differBy_lt_iff, ← not_le, ← not_le]
  exact iff_iff_and_or_not_and_not

end Difference

end AgentFabric.DottedText
