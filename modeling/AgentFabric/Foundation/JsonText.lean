import AgentFabric.Foundation.Json

namespace AgentFabric.Delimited

variable {Value Symbol : Type*}

/-- A self-delimiting encoding shows where it ends, whatever follows it. -/
def SelfDelimiting (encode : Value → List Symbol) : Prop :=
  ∀ first second rest later, encode first ++ rest = encode second ++ later →
    first = second ∧ rest = later

theorem SelfDelimiting.injective {encode : Value → List Symbol} (delimiting : SelfDelimiting encode) :
    Function.Injective encode := by
  intro first second same
  exact (delimiting first second [] [] (by rw [same])).1

/-- Two words that begin differently tell the truth values apart. -/
theorem selfDelimiting_bool (yes no : List Symbol)
    (different : ∀ rest later, yes ++ rest ≠ no ++ later) :
    SelfDelimiting fun value : Bool => if value then yes else no := by
  intro first second rest later same
  cases first with
  | true =>
      cases second with
      | true => exact ⟨rfl, List.append_cancel_left same⟩
      | false => exact absurd same (different rest later)
  | false =>
      cases second with
      | true => exact absurd same.symm (different later rest)
      | false => exact ⟨rfl, List.append_cancel_left same⟩

/-- A word of self-delimiting codes ends at a symbol that starts no code. -/
theorem selfDelimiting_flatMap (code : Value → List Symbol) (delimiting : SelfDelimiting code)
    (stop : Symbol) (starts : ∀ value, ∃ head tail, code value = head :: tail ∧ head ≠ stop) :
    SelfDelimiting fun word : List Value => word.flatMap code ++ [stop] := by
  intro first second rest later same
  dsimp only at same
  induction first generalizing second with
  | nil =>
      cases second with
      | nil =>
          simp only [List.flatMap_nil, List.nil_append, List.cons_append, List.cons.injEq] at same
          exact ⟨rfl, same.2⟩
      | cons value word =>
          obtain ⟨head, tail, shape, different⟩ := starts value
          rw [List.flatMap_nil, List.flatMap_cons, shape] at same
          simp only [List.nil_append, List.cons_append, List.cons.injEq] at same
          exact absurd same.1.symm different
  | cons value word ih =>
      cases second with
      | nil =>
          obtain ⟨head, tail, shape, different⟩ := starts value
          rw [List.flatMap_nil, List.flatMap_cons, shape] at same
          simp only [List.nil_append, List.cons_append, List.cons.injEq] at same
          exact absurd same.1 different
      | cons other others =>
          simp only [List.flatMap_cons, List.append_assoc] at same
          obtain ⟨rfl, tails⟩ := delimiting value other _ _ same
          obtain ⟨rfl, rests⟩ := ih others (by simpa only [List.append_assoc] using tails)
          exact ⟨rfl, rests⟩

variable (kind : Symbol → Bool)

/-- The rest of a text does not go on with a symbol of the given kind. -/
def Stops (rest : List Symbol) : Prop :=
  ∀ symbol, rest.head? = some symbol → kind symbol = false

/-- A run of symbols of one kind ends where another kind starts. -/
theorem run_cancel (first second rest later : List Symbol)
    (firstKind : first.all kind = true) (secondKind : second.all kind = true)
    (restStops : Stops kind rest) (laterStops : Stops kind later)
    (same : first ++ rest = second ++ later) : first = second ∧ rest = later := by
  have takes (word tail : List Symbol) (all : word.all kind = true) (stops : Stops kind tail) :
      (word ++ tail).takeWhile kind = word := by
    rw [List.takeWhile_append_of_pos (fun symbol member => List.all_eq_true.mp all symbol member)]
    have stopped : tail.takeWhile kind = [] := by
      cases tail with
      | nil => rfl
      | cons symbol tail => simp [stops symbol rfl]
    rw [stopped, List.append_nil]
  have words : first = second := by
    rw [← takes first rest firstKind restStops, ← takes second later secondKind laterStops, same]
  subst words
  exact ⟨rfl, List.append_cancel_left same⟩

/-- Two texts with equally many separators before their last part split at the same places. -/
theorem split_cancel [DecidableEq Symbol] (separator : Symbol) (first second rest later : List Symbol)
    (counts : first.count separator = second.count separator)
    (same : first ++ separator :: rest = second ++ separator :: later) :
    first = second ∧ rest = later := by
  induction first generalizing second with
  | nil =>
      cases second with
      | nil =>
          simp only [List.nil_append, List.cons.injEq] at same
          exact ⟨rfl, same.2⟩
      | cons symbol second =>
          simp only [List.nil_append, List.cons_append, List.cons.injEq] at same
          rw [← same.1] at counts
          simp at counts
  | cons symbol first ih =>
      cases second with
      | nil =>
          simp only [List.nil_append, List.cons_append, List.cons.injEq] at same
          rw [same.1] at counts
          simp at counts
      | cons other second =>
          simp only [List.cons_append, List.cons.injEq] at same
          obtain ⟨rfl, tails⟩ := same
          have less : first.count separator = second.count separator := by
            simpa [List.count_cons] using counts
          obtain ⟨rfl, rests⟩ := ih second less tails
          exact ⟨rfl, rests⟩

end AgentFabric.Delimited

namespace AgentFabric.Json
open Delimited

/-- A reader that undoes the encoding in front of any rest makes it self-delimiting. -/
theorem selfDelimiting_of_read {Value Symbol : Type*} (encode : Value → List Symbol)
    (read : List Symbol → Option (Value × List Symbol))
    (restores : ∀ value rest, read (encode value ++ rest) = some (value, rest)) :
    SelfDelimiting encode := by
  intro first second rest later same
  have read : some (first, rest) = some (second, later) := by rw [← restores, ← restores, same]
  exact Prod.mk.inj (Option.some.inj read)

/-- A number in a fixed number of hexadecimal digits. -/
def hexText : Nat → Nat → List Char
  | 0, _ => []
  | width + 1, value => hexDigit (value / 16 ^ width) :: hexText width value

variable (char : Char)

/-- The value of one hexadecimal digit. -/
def hexValue : Nat :=
  ((List.range 16).find? fun digit => Nat.digitChar digit = char).getD 0

def readHex : Nat → Nat → List Char → Option (Nat × List Char)
  | 0, value, rest => some (value, rest)
  | _ + 1, _, [] => none
  | width + 1, value, char :: rest => readHex width (value * 16 + hexValue char) rest

theorem hexValue_hexDigit (value : Nat) : hexValue (hexDigit value) = value % 16 := by
  have all : ∀ digit < 16, hexValue (Nat.digitChar digit) = digit := by decide
  exact all (value % 16) (Nat.mod_lt value (by decide))

theorem readHex_hexText (width start value : Nat) (rest : List Char) :
    readHex width start (hexText width value ++ rest) =
      some (start * 16 ^ width + value % 16 ^ width, rest) := by
  induction width generalizing start with
  | zero => simp [hexText, readHex, Nat.mod_one]
  | succ width ih =>
      simp only [hexText, List.cons_append, readHex, ih, hexValue_hexDigit]
      have digits := Nat.mod_pow_succ (x := value) (b := 16) (k := width)
      have shifted : (start * 16 + value / 16 ^ width % 16) * 16 ^ width =
          start * 16 ^ (width + 1) + 16 ^ width * (value / 16 ^ width % 16) := by
        rw [Nat.pow_succ, Nat.add_mul, Nat.mul_assoc, Nat.mul_comm 16 (16 ^ width),
          Nat.mul_comm (value / 16 ^ width % 16)]
      rw [digits, shifted, Nat.add_assoc, Nat.add_comm (value % 16 ^ width)]

theorem readHex_hexText_of_lt (width value : Nat) (rest : List Char) (small : value < 16 ^ width) :
    readHex width 0 (hexText width value ++ rest) = some (value, rest) := by
  rw [readHex_hexText, Nat.zero_mul, Nat.zero_add, Nat.mod_eq_of_lt small]

theorem unicodeEscape_eq (unit : Nat) : unicodeEscape unit = '\\' :: 'u' :: hexText 4 unit := by
  simp [unicodeEscape, hexText]

section Literals

/-- The reader of one character of a JSON string literal. -/
def readEscape : List Char → Option (Char × List Char)
  | '\\' :: 'n' :: rest => some ('\n', rest)
  | '\\' :: 'r' :: rest => some ('\r', rest)
  | '\\' :: 't' :: rest => some ('\t', rest)
  | '\\' :: 'f' :: rest => some (Char.ofNat 12, rest)
  | '\\' :: 'b' :: rest => some (Char.ofNat 8, rest)
  | '\\' :: 'u' :: rest => do
      let (unit, rest) ← readHex 4 0 rest
      if 55296 ≤ unit ∧ unit < 56320 then
        let (low, rest) ← readHex 4 0 (rest.drop 2)
        some (Char.ofNat (65536 + (unit - 55296) * 1024 + (low - 56320)), rest)
      else some (Char.ofNat unit, rest)
  | '\\' :: char :: rest => some (char, rest)
  | char :: rest => some (char, rest)
  | [] => none

variable (char : Char)

theorem readEscape_plain (rest : List Char) (plain : char ≠ '\\') :
    readEscape (char :: rest) = some (char, rest) := by
  unfold readEscape
  split <;> simp_all

/-- A character is no surrogate. -/
theorem char_not_surrogate : ¬ (55296 ≤ char.toNat ∧ char.toNat < 56320) := by
  have valid : char.toNat.isValidChar := char.valid
  rw [Nat.isValidChar] at valid
  omega

theorem char_toNat_lt : char.toNat < 1114112 := by
  have valid : char.toNat.isValidChar := char.valid
  rw [Nat.isValidChar] at valid
  omega

/-- The escape of a code unit is read as the unit and, for a high surrogate, its partner. -/
theorem readEscape_unicode (unit : Nat) (rest : List Char) (small : unit < 16 ^ 4) :
    readEscape (unicodeEscape unit ++ rest) =
      if 55296 ≤ unit ∧ unit < 56320 then
        (readHex 4 0 (rest.drop 2)).bind fun (low, rest) =>
          some (Char.ofNat (65536 + (unit - 55296) * 1024 + (low - 56320)), rest)
      else some (Char.ofNat unit, rest) := by
  rw [unicodeEscape_eq, List.cons_append, List.cons_append, readEscape,
    readHex_hexText_of_lt 4 unit rest small, Option.bind_eq_bind, Option.bind_some]

theorem readEscape_escapeChar (rest : List Char) :
    readEscape (escapeChar char ++ rest) = some (char, rest) := by
  unfold escapeChar
  split
  · rename_i quote
    subst quote
    rfl
  split
  · rename_i backslash
    subst backslash
    rfl
  split
  · rename_i newline
    subst newline
    rfl
  split
  · rename_i carriage
    subst carriage
    rfl
  split
  · rename_i tab
    subst tab
    rfl
  split
  · rename_i formFeed
    rw [← Char.ofNat_toNat char, formFeed]
    rfl
  split
  · rename_i backspace
    rw [← Char.ofNat_toNat char, backspace]
    rfl
  split
  · rename_i notBackslash _ _ _ _ _ _
    exact readEscape_plain char rest notBackslash
  split
  · rename_i unit
    have small : char.toNat < 16 ^ 4 := by omega
    rw [readEscape_unicode char.toNat rest small, if_neg (char_not_surrogate char),
      Char.ofNat_toNat]
  · have bound := char_toNat_lt char
    have high : 55296 + (char.toNat - 65536) / 1024 < 16 ^ 4 := by omega
    have low : 56320 + (char.toNat - 65536) % 1024 < 16 ^ 4 := by omega
    have surrogate : 55296 ≤ 55296 + (char.toNat - 65536) / 1024 ∧
        55296 + (char.toNat - 65536) / 1024 < 56320 := by omega
    have whole : 65536 + (55296 + (char.toNat - 65536) / 1024 - 55296) * 1024 +
        (56320 + (char.toNat - 65536) % 1024 - 56320) = char.toNat := by omega
    rw [List.append_assoc, readEscape_unicode _ _ high, if_pos surrogate, unicodeEscape_eq,
      List.cons_append, List.cons_append, List.drop_succ_cons, List.drop_succ_cons, List.drop_zero,
      readHex_hexText_of_lt 4 _ rest low, Option.bind_some]
    dsimp only
    rw [whole, Char.ofNat_toNat]

theorem escapeChar_starts : ∃ head tail, escapeChar char = head :: tail ∧ head ≠ '"' := by
  unfold escapeChar
  split
  · exact ⟨_, _, rfl, by decide⟩
  · rename_i plain
    repeat' split
    all_goals first
      | exact ⟨_, _, rfl, plain⟩
      | exact ⟨_, _, rfl, by decide⟩

/-- A JSON string literal shows where it ends. -/
theorem renderString_selfDelimiting : SelfDelimiting renderString := by
  intro first second rest later same
  have code := selfDelimiting_flatMap escapeChar
    (selfDelimiting_of_read escapeChar readEscape readEscape_escapeChar) '"' escapeChar_starts
  simp only [renderString, List.cons_append, List.cons.injEq, true_and] at same
  obtain ⟨chars, rests⟩ := code first.toList second.toList rest later same
  exact ⟨String.ext chars, rests⟩

end Literals

section IntegerText

variable (value : Nat)

theorem int_text_ofNat : (toString (Int.ofNat value)).toList = Nat.toDigits 10 value := by
  rw [← Nat.toList_repr]
  rfl

theorem int_text_negSucc :
    (toString (Int.negSucc value)).toList = '-' :: Nat.toDigits 10 (value + 1) := by
  rw [← Nat.toList_repr]
  show ("-" ++ Nat.repr (value + 1)).toList = _
  rw [String.toList_append]
  rfl

theorem digit_of_mem_toDigits (char : Char) (member : char ∈ Nat.toDigits 10 value) :
    char.isDigit = true :=
  Nat.isDigit_of_mem_toDigits (by decide) (by decide) member

theorem toDigits_injective (first second : Nat)
    (same : Nat.toDigits 10 first = Nat.toDigits 10 second) : first = second := by
  rw [← Nat.ofDigitChars_ten_toDigits (n := first), same, Nat.ofDigitChars_ten_toDigits]

/-- The decimal text has digits and possibly a sign. -/
theorem int_text_chars (value : Int) (char : Char) (member : char ∈ (toString value).toList) :
    char.isDigit = true ∨ char = '-' := by
  cases value with
  | ofNat value =>
      rw [int_text_ofNat] at member
      exact .inl (digit_of_mem_toDigits value char member)
  | negSucc value =>
      rw [int_text_negSucc, List.mem_cons] at member
      exact member.symm.imp (digit_of_mem_toDigits _ char) id

theorem int_text_head (value : Int) :
    ∃ head tail, (toString value).toList = head :: tail ∧ (head.isDigit = true ∨ head = '-') := by
  have nonempty : (toString value).toList ≠ [] := by
    cases value with
    | ofNat value =>
        rw [int_text_ofNat]
        exact Nat.toDigits_ne_nil
    | negSucc value =>
        rw [int_text_negSucc]
        exact List.cons_ne_nil _ _
  obtain ⟨head, tail, shape⟩ := List.exists_cons_of_ne_nil nonempty
  exact ⟨head, tail, shape, int_text_chars value head (shape ▸ List.mem_cons_self)⟩

/-- An integer is determined by its decimal text. -/
theorem int_text_injective (first second : Int)
    (same : (toString first).toList = (toString second).toList) : first = second := by
  have unsigned (value : Nat) (tail : List Char) : Nat.toDigits 10 value ≠ '-' :: tail := by
    intro signed
    have digit := digit_of_mem_toDigits value '-' (by simp [signed])
    exact absurd digit (by decide)
  cases first with
  | ofNat first =>
      cases second with
      | ofNat second =>
          rw [int_text_ofNat, int_text_ofNat] at same
          rw [toDigits_injective first second same]
      | negSucc second =>
          rw [int_text_ofNat, int_text_negSucc] at same
          exact absurd same (unsigned _ _)
  | negSucc first =>
      cases second with
      | ofNat second =>
          rw [int_text_ofNat, int_text_negSucc] at same
          exact absurd same.symm (unsigned _ _)
      | negSucc second =>
          rw [int_text_negSucc, int_text_negSucc, List.cons.injEq] at same
          have values := toDigits_injective _ _ same.2
          rw [Nat.add_right_cancel values]

end IntegerText

/-- The words of one text form of a document. -/
structure Dialect where
  null : List Char
  ofBool : Bool → List Char
  quote : String → List Char
  comma : List Char
  colon : List Char

mutual

/-- The text of a document in one dialect with the stored field order. -/
def write (dialect : Dialect) : Json → List Char
  | .null => dialect.null
  | .bool value => dialect.ofBool value
  | .int value => (toString value).toList
  | .float value => value.text.toList
  | .str value => dialect.quote value
  | .arr items => '[' :: writeItems dialect [] items
  | .obj fields => '\x7b' :: writeFields dialect [] fields

/-- Every element after the first stands behind a comma. -/
def writeItems (dialect : Dialect) (separator : List Char) : List Json → List Char
  | [] => [']']
  | item :: rest => separator ++ (write dialect item ++ writeItems dialect dialect.comma rest)

/-- Every field after the first stands behind a comma. -/
def writeFields (dialect : Dialect) (separator : List Char) : List (String × Json) → List Char
  | [] => ['\x7d']
  | (key, value) :: rest =>
      separator ++ (dialect.quote key ++
        (dialect.colon ++ (write dialect value ++ writeFields dialect dialect.comma rest)))

end

/-- The class of the first character of a text. -/
inductive Lead where
  | null | bool | number | string | array | object | close | other
  deriving DecidableEq

def leadOf : Lead :=
  if char ∈ ['n', 'N'] then .null
  else if char ∈ ['t', 'f', 'T', 'F'] then .bool
  else if char.isDigit || char = '-' then .number
  else if char ∈ ['"', '\''] then .string
  else if char = '[' then .array
  else if char = '\x7b' then .object
  else if char ∈ [']', '\x7d'] then .close
  else .other

/-- The class of character that starts the text of a document. -/
def lead : Json → Lead
  | .null => .null
  | .bool _ => .bool
  | .int _ => .number
  | .float _ => .number
  | .str _ => .string
  | .arr _ => .array
  | .obj _ => .object

/-- A text starts with a character of one class. -/
def LedBy (kind : Lead) (text : List Char) : Prop :=
  ∃ head tail, text = head :: tail ∧ leadOf head = kind

/-- A dialect whose words can be told apart from their first character on. -/
structure Dialect.Lawful (dialect : Dialect) : Prop where
  null : LedBy .null dialect.null
  ofBool : ∀ value, LedBy .bool (dialect.ofBool value)
  boolDelimited : SelfDelimiting dialect.ofBool
  quote : ∀ text, LedBy .string (dialect.quote text)
  quoteDelimited : SelfDelimiting dialect.quote
  comma : LedBy .other dialect.comma
  commaStops : ∀ rest, Stops isFloatChar (dialect.comma ++ rest)

variable {text : List Char}

theorem LedBy.append {kind : Lead} (led : LedBy kind text) (rest : List Char) :
    LedBy kind (text ++ rest) := by
  obtain ⟨head, tail, shape, known⟩ := led
  exact ⟨head, tail ++ rest, by rw [shape, List.cons_append], known⟩

theorem LedBy.unique {first second : Lead} (one : LedBy first text)
    (two : LedBy second text) : first = second := by
  obtain ⟨head, tail, shape, known⟩ := one
  obtain ⟨other, others, otherShape, otherKnown⟩ := two
  rw [shape, List.cons.injEq] at otherShape
  rw [← known, ← otherKnown, otherShape.1]

theorem leadOf_number (number : char.isDigit = true ∨ char = '-') : leadOf char = .number := by
  rcases number with digit | rfl
  · have different (other : Char) (noDigit : other.isDigit = false) : char ≠ other := by
      rintro rfl
      rw [digit] at noDigit
      cases noDigit
    simp [leadOf, digit, different 'n' rfl, different 'N' rfl, different 't' rfl, different 'f' rfl,
      different 'T' rfl, different 'F' rfl]
  · decide

variable {dialect : Dialect}

/-- The text of a document starts with a character of its own class. -/
theorem write_ledBy (lawful : dialect.Lawful) (document : Json) :
    LedBy document.lead (document.write dialect) := by
  cases document with
  | null => exact lawful.null
  | bool value => exact lawful.ofBool value
  | int value =>
      obtain ⟨head, tail, shape, number⟩ := int_text_head value
      exact ⟨head, tail, shape, leadOf_number head number⟩
  | float value =>
      have wellFormed := value.wellFormed
      simp only [isFloatText, Bool.and_eq_true] at wellFormed
      obtain ⟨⟨_, _⟩, starts⟩ := wellFormed
      show LedBy .number value.text.toList
      cases shape : value.text.toList with
      | nil => simp [shape] at starts
      | cons head tail =>
          simp only [shape, List.head?_cons, Option.any_some, Bool.or_eq_true,
            decide_eq_true_eq] at starts
          exact ⟨head, tail, rfl, leadOf_number head starts⟩
  | str value => exact lawful.quote value
  | arr items => exact ⟨'[', _, rfl, rfl⟩
  | obj fields => exact ⟨'\x7b', _, rfl, rfl⟩

theorem float_text_chars (value : FloatRepr) : value.text.toList.all isFloatChar = true := by
  have wellFormed := value.wellFormed
  simp only [isFloatText, Bool.and_eq_true] at wellFormed
  exact wellFormed.1.1

theorem int_text_floatChars (value : Int) : (toString value).toList.all isFloatChar = true := by
  rw [List.all_eq_true]
  intro char member
  rcases int_text_chars value char member with digit | rfl
  · simp [isFloatChar, digit]
  · decide

/-- A float has a fraction or an exponent, which no integer has. -/
theorem int_text_ne_float (value : Int) (float : FloatRepr) :
    (toString value).toList ≠ float.text.toList := by
  intro same
  have wellFormed := float.wellFormed
  simp only [isFloatText, Bool.and_eq_true, List.any_eq_true, Bool.or_eq_true,
    decide_eq_true_eq] at wellFormed
  obtain ⟨⟨_, char, member, mark⟩, _⟩ := wellFormed
  rw [← same] at member
  rcases int_text_chars value char member with digit | rfl
  · rcases mark with rfl | rfl <;> exact absurd digit (by decide)
  · exact absurd mark (by decide)

theorem floatRepr_ext (first second : FloatRepr)
    (same : first.text.toList = second.text.toList) : first = second := by
  cases first
  cases second
  simp only [FloatRepr.mk.injEq]
  exact String.ext same

theorem close_stops (close : Char) (rest : List Char) (noNumber : isFloatChar close = false) :
    Stops isFloatChar (close :: rest) := by
  intro symbol shown
  rw [List.head?_cons, Option.some.injEq] at shown
  rw [← shown, noNumber]

/-- What follows an element is a comma or the closing bracket. -/
theorem writeItems_stops (lawful : dialect.Lawful) (items : List Json) (rest : List Char) :
    Stops isFloatChar (writeItems dialect dialect.comma items ++ rest) := by
  cases items with
  | nil => exact close_stops ']' rest (by decide)
  | cons item items =>
      rw [writeItems, List.append_assoc]
      exact lawful.commaStops _

theorem writeFields_stops (lawful : dialect.Lawful) (fields : List (String × Json))
    (rest : List Char) : Stops isFloatChar (writeFields dialect dialect.comma fields ++ rest) := by
  cases fields with
  | nil => exact close_stops '\x7d' rest (by decide)
  | cons field fields =>
      rw [writeFields, List.append_assoc]
      exact lawful.commaStops _

/-- A separator keeps a text from starting with a closing bracket. -/
def Separates (separator : List Char) : Prop :=
  separator = [] ∨ LedBy .other separator

theorem Separates.open_ne_close {separator : List Char} (separates : Separates separator)
    {kind : Lead} (opens : kind ≠ .close) (led : LedBy kind text)
    {other : List Char} (closes : LedBy .close other) : separator ++ text ≠ other := by
  intro same
  rcases separates with rfl | separated
  · rw [List.nil_append] at same
    exact opens (led.unique (same ▸ closes))
  · exact absurd ((separated.append text).unique (same ▸ closes)) (by decide)

theorem lead_ne_close (document : Json) : document.lead ≠ .close := by
  cases document <;> exact fun equal => by cases equal

mutual

/-- A document's text in front of no number character determines it and its rest. -/
theorem write_cancel (lawful : dialect.Lawful) : ∀ (first second : Json) (rest later : List Char),
    Stops isFloatChar rest → Stops isFloatChar later →
      first.write dialect ++ rest = second.write dialect ++ later → first = second ∧ rest = later
  | first, second, rest, later, restStops, laterStops, same => by
      have leads : first.lead = second.lead :=
        ((write_ledBy lawful first).append rest).unique
          (same ▸ (write_ledBy lawful second).append later)
      cases first with
      | null =>
          cases second with
          | null => exact ⟨rfl, List.append_cancel_left same⟩
          | _ => cases leads
      | bool value =>
          cases second with
          | bool other =>
              obtain ⟨rfl, rests⟩ := lawful.boolDelimited value other rest later same
              exact ⟨rfl, rests⟩
          | _ => cases leads
      | int value =>
          cases second with
          | int other =>
              obtain ⟨texts, rests⟩ := run_cancel isFloatChar _ _ rest later
                (int_text_floatChars value) (int_text_floatChars other) restStops laterStops same
              exact ⟨by rw [int_text_injective value other texts], rests⟩
          | float other =>
              obtain ⟨texts, _⟩ := run_cancel isFloatChar _ _ rest later
                (int_text_floatChars value) (float_text_chars other) restStops laterStops same
              exact absurd texts (int_text_ne_float value other)
          | _ => cases leads
      | float value =>
          cases second with
          | int other =>
              obtain ⟨texts, _⟩ := run_cancel isFloatChar _ _ rest later
                (float_text_chars value) (int_text_floatChars other) restStops laterStops same
              exact absurd texts.symm (int_text_ne_float other value)
          | float other =>
              obtain ⟨texts, rests⟩ := run_cancel isFloatChar _ _ rest later
                (float_text_chars value) (float_text_chars other) restStops laterStops same
              exact ⟨by rw [floatRepr_ext value other texts], rests⟩
          | _ => cases leads
      | str value =>
          cases second with
          | str other =>
              obtain ⟨rfl, rests⟩ := lawful.quoteDelimited value other rest later same
              exact ⟨rfl, rests⟩
          | _ => cases leads
      | arr items =>
          cases second with
          | arr others =>
              simp only [write, List.cons_append, List.cons.injEq, true_and] at same
              obtain ⟨rfl, rests⟩ :=
                writeItems_cancel lawful items others [] rest later (.inl rfl) same
              exact ⟨rfl, rests⟩
          | _ => cases leads
      | obj fields =>
          cases second with
          | obj others =>
              simp only [write, List.cons_append, List.cons.injEq, true_and] at same
              obtain ⟨rfl, rests⟩ :=
                writeFields_cancel lawful fields others [] rest later (.inl rfl) same
              exact ⟨rfl, rests⟩
          | _ => cases leads

theorem writeItems_cancel (lawful : dialect.Lawful) : ∀ (first second : List Json)
    (separator rest later : List Char), Separates separator →
      writeItems dialect separator first ++ rest = writeItems dialect separator second ++ later →
        first = second ∧ rest = later
  | [], [], separator, rest, later, _, same => by simpa [writeItems] using same
  | [], item :: items, separator, rest, later, separates, same => by
      simp only [writeItems, List.append_assoc] at same
      exact absurd same.symm (separates.open_ne_close (lead_ne_close item)
        ((write_ledBy lawful item).append _) ⟨']', rest, rfl, rfl⟩)
  | item :: items, [], separator, rest, later, separates, same => by
      simp only [writeItems, List.append_assoc] at same
      exact absurd same (separates.open_ne_close (lead_ne_close item)
        ((write_ledBy lawful item).append _) ⟨']', later, rfl, rfl⟩)
  | item :: items, other :: others, separator, rest, later, _, same => by
      simp only [writeItems, List.append_assoc] at same
      obtain ⟨rfl, tails⟩ := write_cancel lawful item other _ _
        (writeItems_stops lawful items rest) (writeItems_stops lawful others later)
        (List.append_cancel_left same)
      obtain ⟨rfl, rests⟩ :=
        writeItems_cancel lawful items others dialect.comma rest later (.inr lawful.comma) tails
      exact ⟨rfl, rests⟩

theorem writeFields_cancel (lawful : dialect.Lawful) : ∀ (first second : List (String × Json))
    (separator rest later : List Char), Separates separator →
      writeFields dialect separator first ++ rest = writeFields dialect separator second ++ later →
        first = second ∧ rest = later
  | [], [], separator, rest, later, _, same => by simpa [writeFields] using same
  | [], (key, value) :: fields, separator, rest, later, separates, same => by
      simp only [writeFields, List.append_assoc] at same
      exact absurd same.symm (separates.open_ne_close (by decide)
        ((lawful.quote key).append _) ⟨'\x7d', rest, rfl, rfl⟩)
  | (key, value) :: fields, [], separator, rest, later, separates, same => by
      simp only [writeFields, List.append_assoc] at same
      exact absurd same (separates.open_ne_close (by decide)
        ((lawful.quote key).append _) ⟨'\x7d', later, rfl, rfl⟩)
  | (key, value) :: fields, (otherKey, otherValue) :: others, separator, rest, later, _, same => by
      simp only [writeFields, List.append_assoc] at same
      obtain ⟨rfl, values⟩ := lawful.quoteDelimited key otherKey _ _ (List.append_cancel_left same)
      obtain ⟨rfl, tails⟩ := write_cancel lawful value otherValue _ _
        (writeFields_stops lawful fields rest) (writeFields_stops lawful others later)
        (List.append_cancel_left values)
      obtain ⟨rfl, rests⟩ :=
        writeFields_cancel lawful fields others dialect.comma rest later (.inr lawful.comma) tails
      exact ⟨rfl, rests⟩

end

/-- A document is determined by its text in a lawful dialect. -/
theorem write_injective (lawful : dialect.Lawful) : Function.Injective (write dialect) := by
  intro first second same
  have nothing : Stops isFloatChar [] := fun _ shown => by cases shown
  exact (write_cancel lawful first second [] [] nothing nothing (by rw [same])).1

section CanonicalText

/-- The words of `json.dumps` with compact separators. -/
def compact : Dialect where
  null := "null".toList
  ofBool value := if value then "true".toList else "false".toList
  quote := renderString
  comma := [',']
  colon := [':']

theorem compact_lawful : compact.Lawful where
  null := ⟨'n', _, rfl, rfl⟩
  ofBool value := by
    cases value with
    | true => exact ⟨'t', _, rfl, rfl⟩
    | false => exact ⟨'f', _, rfl, rfl⟩
  boolDelimited := by
    apply selfDelimiting_bool
    intro rest later same
    exact absurd (List.head_eq_of_cons_eq same) (by decide)
  quote _ := ⟨'"', _, rfl, rfl⟩
  quoteDelimited := renderString_selfDelimiting
  comma := ⟨',', [], rfl, rfl⟩
  commaStops rest := close_stops ',' rest (by decide)

mutual

theorem render_eq_write : ∀ document : Json, document.render = document.write compact
  | .null | .bool _ | .int _ | .float _ | .str _ => by simp only [render, write, compact]
  | .arr items => by rw [render, write, List.cons_append, renderItems_eq_write items]
  | .obj fields => by rw [render, write, List.cons_append, renderFields_eq_write fields]

theorem renderItems_eq_write : ∀ items : List Json,
    renderItems items ++ [']'] = writeItems compact [] items
  | [] => rfl
  | [item] => by simp only [renderItems, writeItems, List.nil_append, render_eq_write item]
  | item :: next :: rest => by
      have tail := renderItems_eq_write (next :: rest)
      simp only [renderItems, writeItems, List.nil_append, List.append_assoc, List.cons_append,
        render_eq_write item] at tail ⊢
      rw [tail]
      rfl

theorem renderFields_eq_write : ∀ fields : List (String × Json),
    renderFields fields ++ ['\x7d'] = writeFields compact [] fields
  | [] => rfl
  | [(key, value)] => by
      simp only [renderFields, writeFields, List.nil_append, render_eq_write value,
        List.append_assoc, List.cons_append]
      rfl
  | (key, value) :: next :: rest => by
      have tail := renderFields_eq_write (next :: rest)
      obtain ⟨nextKey, nextValue⟩ := next
      simp only [renderFields, writeFields, List.nil_append, List.append_assoc, List.cons_append,
        render_eq_write value] at tail ⊢
      rw [tail]
      rfl

end

/-- The canonical text determines a document up to the order of its fields. -/
theorem same_of_dumps_eq {first second : Json} (same : first.dumps = second.dumps) :
    first.Same second := by
  have texts : first.sortKeys.render = second.sortKeys.render := by
    have listed := congrArg String.toList same
    rwa [dumps, dumps, String.toList_ofList, String.toList_ofList] at listed
  rw [render_eq_write, render_eq_write] at texts
  exact write_injective compact_lawful texts

end CanonicalText

end AgentFabric.Json
