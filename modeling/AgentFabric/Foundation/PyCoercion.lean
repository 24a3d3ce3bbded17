import AgentFabric.Foundation.DateTime
import AgentFabric.Foundation.Dict
import AgentFabric.Foundation.JsonText

namespace AgentFabric.PyText

/-- The characters that `str.split` and `int` treat as white space. -/
def isSpace (char : Char) : Bool :=
  char.toNat ∈ [
    0x9, 0xa, 0xb, 0xc, 0xd, 0x1c, 0x1d, 0x1e, 0x1f, 0x20, 0x85, 0xa0, 0x1680, 0x2000, 0x2001,
    0x2002, 0x2003, 0x2004, 0x2005, 0x2006, 0x2007, 0x2008, 0x2009, 0x200a, 0x2028, 0x2029, 0x202f,
    0x205f, 0x3000]

/-- The zero of each block of ten Unicode decimal digits. -/
def decimalZeros : List Nat := [
  0x30, 0x660, 0x6f0, 0x7c0, 0x966, 0x9e6, 0xa66, 0xae6, 0xb66, 0xbe6, 0xc66, 0xce6, 0xd66, 0xde6,
  0xe50, 0xed0, 0xf20, 0x1040, 0x1090, 0x17e0, 0x1810, 0x1946, 0x19d0, 0x1a80, 0x1a90, 0x1b50,
  0x1bb0, 0x1c40, 0x1c50, 0xa620, 0xa8d0, 0xa900, 0xa9d0, 0xa9f0, 0xaa50, 0xabf0, 0xff10, 0x104a0,
  0x10d30, 0x11066, 0x110f0, 0x11136, 0x111d0, 0x112f0, 0x11450, 0x114d0, 0x11650, 0x116c0,
  0x11730, 0x118e0, 0x11950, 0x11c50, 0x11d50, 0x11da0, 0x16a60, 0x16ac0, 0x16b50, 0x1d7ce,
  0x1d7d8, 0x1d7e2, 0x1d7ec, 0x1d7f6, 0x1e140, 0x1e2f0, 0x1e950, 0x1fbf0]

/-- The value of a decimal digit. -/
def digitValue (char : Char) : Option Nat :=
  (decimalZeros.find? fun base => base ≤ char.toNat ∧ char.toNat < base + 10).map
    fun base => char.toNat - base

/-- The words between white space with the open word in reverse. -/
def splitWords : List Char → List Char → List (List Char)
  | [], [] => []
  | word, [] => [word.reverse]
  | word, char :: rest =>
      if isSpace char then
        if word.isEmpty then splitWords [] rest else word.reverse :: splitWords [] rest
      else splitWords (char :: word) rest

/-- `str.split` without a separator. -/
def split (text : String) : List String := (splitWords [] text.toList).map String.ofList

/-- The digits may have one underscore between two of them. -/
def readDigits (value : Nat) (pending : Bool) : List Char → Option Nat
  | [] => if pending then none else some value
  | char :: rest =>
      match digitValue char with
      | some digit => readDigits (10 * value + digit) false rest
      | none => if char = '_' ∧ ¬ pending then readDigits value true rest else none

def strip (text : List Char) : List Char :=
  ((text.dropWhile isSpace).reverse.dropWhile isSpace).reverse

/-- `int` reads a signed decimal text. -/
def int (text : String) : Option Int :=
  match strip text.toList with
  | '-' :: digits => (readDigits 0 true digits).map fun value => -(value : Int)
  | '+' :: digits => (readDigits 0 true digits).map fun value => (value : Int)
  | digits => (readDigits 0 true digits).map fun value => (value : Int)

end AgentFabric.PyText

namespace AgentFabric.Json
open Delimited

section Literals

variable (isPrintable : Char → Bool) (quote char : Char)

/-- The escape of one character in a literal with the given quote.
Which characters above ASCII are printable is a matter of the Unicode database. -/
def reprChar : List Char :=
  if char = quote then ['\\', char]
  else if char = '\\' then ['\\', '\\']
  else if char = '\t' then ['\\', 't']
  else if char = '\n' then ['\\', 'n']
  else if char = '\r' then ['\\', 'r']
  else if char.toNat < 32 ∨ char.toNat = 127 then '\\' :: 'x' :: hexText 2 char.toNat
  else if char.toNat < 127 ∨ isPrintable char then [char]
  else if char.toNat < 256 then '\\' :: 'x' :: hexText 2 char.toNat
  else if char.toNat < 65536 then '\\' :: 'u' :: hexText 4 char.toNat
  else '\\' :: 'U' :: hexText 8 char.toNat

variable (text : String)

/-- A literal takes double quotes only for a text with single quotes and no double quote. -/
def reprQuote : Char :=
  if '\'' ∈ text.toList ∧ '"' ∉ text.toList then '"' else '\''

/-- The `repr` of a string. -/
def reprString : List Char :=
  reprQuote text :: text.toList.flatMap (reprChar isPrintable (reprQuote text)) ++ [reprQuote text]

/-- The reader of one hexadecimal escape. -/
def readCode (width : Nat) (rest : List Char) : Option (Char × List Char) :=
  (readHex width 0 rest).map fun read => (Char.ofNat read.1, read.2)

/-- The reader of one character of a Python string literal. -/
def readRepr : List Char → Option (Char × List Char)
  | '\\' :: 't' :: rest => some ('\t', rest)
  | '\\' :: 'n' :: rest => some ('\n', rest)
  | '\\' :: 'r' :: rest => some ('\r', rest)
  | '\\' :: 'x' :: rest => readCode 2 rest
  | '\\' :: 'u' :: rest => readCode 4 rest
  | '\\' :: 'U' :: rest => readCode 8 rest
  | '\\' :: char :: rest => some (char, rest)
  | char :: rest => some (char, rest)
  | [] => none

theorem readRepr_plain (char : Char) (rest : List Char) (plain : char ≠ '\\') :
    readRepr (char :: rest) = some (char, rest) := by
  unfold readRepr
  split <;> simp_all

theorem readCode_hexText (width : Nat) (char : Char) (rest : List Char)
    (small : char.toNat < 16 ^ width) :
    readCode width (hexText width char.toNat ++ rest) = some (char, rest) := by
  rw [readCode, readHex_hexText_of_lt width char.toNat rest small, Option.map_some,
    Char.ofNat_toNat]

theorem readRepr_reprChar (isQuote : quote = '\'' ∨ quote = '"')
    (rest : List Char) : readRepr (reprChar isPrintable quote char ++ rest) = some (char, rest) := by
  unfold reprChar
  split
  · rename_i quoted
    subst quoted
    rcases isQuote with rfl | rfl
    · rfl
    · rfl
  split
  · rename_i backslash
    subst backslash
    rfl
  split
  · rename_i tab
    subst tab
    rfl
  split
  · rename_i newline
    subst newline
    rfl
  split
  · rename_i carriage
    subst carriage
    rfl
  split
  · rename_i control
    have small : char.toNat < 16 ^ 2 := by omega
    rw [List.cons_append, List.cons_append, readRepr, readCode_hexText 2 char rest small]
  split
  · rename_i notBackslash _ _ _ _ _
    exact readRepr_plain char rest notBackslash
  split
  · rename_i byte
    have small : char.toNat < 16 ^ 2 := by omega
    rw [List.cons_append, List.cons_append, readRepr, readCode_hexText 2 char rest small]
  split
  · rename_i unit
    have small : char.toNat < 16 ^ 4 := by omega
    rw [List.cons_append, List.cons_append, readRepr, readCode_hexText 4 char rest small]
  · have small : char.toNat < 16 ^ 8 := by
      have bound := char_toNat_lt char
      omega
    rw [List.cons_append, List.cons_append, readRepr, readCode_hexText 8 char rest small]

theorem reprChar_starts (quote : Char) (isQuote : quote = '\'' ∨ quote = '"') (char : Char) :
    ∃ head tail, reprChar isPrintable quote char = head :: tail ∧ head ≠ quote := by
  have backslash : '\\' ≠ quote := by rcases isQuote with rfl | rfl <;> decide
  unfold reprChar
  split
  · exact ⟨_, _, rfl, backslash⟩
  · rename_i plain
    repeat' split
    all_goals first
      | exact ⟨_, _, rfl, plain⟩
      | exact ⟨_, _, rfl, backslash⟩

theorem reprQuote_cases : reprQuote text = '\'' ∨ reprQuote text = '"' := by
  unfold reprQuote
  split
  · exact .inr rfl
  · exact .inl rfl

/-- A Python string literal shows where it ends. -/
theorem reprString_selfDelimiting : SelfDelimiting (reprString isPrintable) := by
  intro first second rest later same
  simp only [reprString, List.cons_append, List.cons.injEq] at same
  obtain ⟨quotes, tails⟩ := same
  rw [quotes] at tails
  have isQuote := reprQuote_cases second
  obtain ⟨chars, rests⟩ := selfDelimiting_flatMap (reprChar isPrintable (reprQuote second))
    (selfDelimiting_of_read _ readRepr fun char later =>
      readRepr_reprChar isPrintable _ char isQuote later)
    (reprQuote second) (reprChar_starts isPrintable _ isQuote)
    first.toList second.toList rest later tails
  exact ⟨String.ext chars, rests⟩

end Literals

variable (isPrintable : Char → Bool)

/-- The words of the Python `repr` of a document. -/
def python : Dialect where
  null := "None".toList
  ofBool value := if value then "True".toList else "False".toList
  quote := reprString isPrintable
  comma := [',', ' ']
  colon := [':', ' ']

theorem python_lawful : (python isPrintable).Lawful where
  null := ⟨'N', _, rfl, rfl⟩
  ofBool value := by
    cases value with
    | true => exact ⟨'T', _, rfl, rfl⟩
    | false => exact ⟨'F', _, rfl, rfl⟩
  boolDelimited := by
    apply selfDelimiting_bool
    intro rest later same
    exact absurd (List.head_eq_of_cons_eq same) (by decide)
  quote text := by
    refine ⟨reprQuote text, _, rfl, ?_⟩
    rcases reprQuote_cases text with single | double
    · rw [single]
      rfl
    · rw [double]
      rfl
  quoteDelimited := reprString_selfDelimiting isPrintable
  comma := ⟨',', [' '], rfl, rfl⟩
  commaStops rest := close_stops ',' (' ' :: rest) (by decide)

/-- The Python `repr` of a document with the stored field order. -/
def repr (document : Json) : String :=
  String.ofList (document.write (python isPrintable))

/-- A document with its field order is determined by its `repr`. -/
theorem repr_injective : Function.Injective (repr isPrintable) := by
  intro first second same
  apply write_injective (python_lawful isPrintable)
  have texts := congrArg String.toList same
  rwa [repr, repr, String.toList_ofList, String.toList_ofList] at texts

end AgentFabric.Json

namespace AgentFabric

/-- What the interpreter decides about characters and floats. -/
structure Interpreter where
  isPrintable : Char → Bool
  truncate : FloatRepr → Int
  isIntegral : FloatRepr → Bool

/-- The identity of a dict key, where equal numbers are one key. -/
inductive DictKey where
  | none
  | number (value : Int)
  | fraction (text : String)
  | text (value : String)
  deriving DecidableEq

namespace Interpreter

variable (interpreter : Interpreter)

/-- `str` of a JSON value. -/
def str : Json → String
  | .str value => value
  | value => value.repr interpreter.isPrintable

/-- `int` of a JSON value. -/
def int : Json → Except PyError Int
  | .int value => .ok value
  | .bool value => .ok (if value then 1 else 0)
  | .float value => .ok (interpreter.truncate value)
  | .str text =>
      match PyText.int text with
      | none => .error (.valueError ("invalid literal for int() with base 10: " ++
          (Json.str text).repr interpreter.isPrintable))
      | some value => .ok value
  | .null => .error (.typeError "int() argument must be a string, a bytes-like object or a real number, not 'NoneType'")
  | .arr _ => .error (.typeError "int() argument must be a string, a bytes-like object or a real number, not 'list'")
  | .obj _ => .error (.typeError "int() argument must be a string, a bytes-like object or a real number, not 'dict'")

/-- The values that a `for` loop takes from a JSON value. -/
def iterate : Json → Except PyError (List Json)
  | .arr items => .ok items
  | .str text => .ok (text.toList.map fun char => .str (String.ofList [char]))
  | .obj fields => .ok (fields.map fun field => .str field.1)
  | _ => .error (.typeError "object is not iterable")

/-- The identity of a key, which a list or a dict does not have. -/
def dictKey : Json → Except PyError DictKey
  | .null => .ok .none
  | .bool value => .ok (.number (if value then 1 else 0))
  | .int value => .ok (.number value)
  | .float value =>
      .ok (if interpreter.isIntegral value then .number (interpreter.truncate value)
        else .fraction value.text)
  | .str value => .ok (.text value)
  | .arr _ => .error (.typeError "unhashable type: 'list'")
  | .obj _ => .error (.typeError "unhashable type: 'dict'")

/-- A repeated key keeps its first form and takes the new value. -/
def setItem (items : Dict DictKey (Json × Json)) (key value : Json) :
    Except PyError (Dict DictKey (Json × Json)) := do
  let identity ← interpreter.dictKey key
  .ok (items.set identity (((items.get? identity).map Prod.fst).getD key, value))

/-- The pairs that `dict` reads from a value. -/
def pairs : Json → Except PyError (List (Json × Json))
  | .obj fields => .ok (fields.map fun field => (.str field.1, field.2))
  | value => do
      let items ← iterate value
      items.mapM fun item => do
        match ← iterate item with
        | [key, value] => .ok (key, value)
        | _ => .error (.valueError "dictionary update sequence element has the wrong length")

/-- `dict` of a JSON value with its items in insertion order. -/
def dict (value : Json) : Except PyError (List (Json × Json)) := do
  let items ← (← pairs value).foldlM (fun items pair => interpreter.setItem items pair.1 pair.2)
    Dict.empty
  .ok (items.items.map Prod.snd)

/-- The subscript of a JSON value with a text. -/
def subscript : Json → String → Except PyError Json
  | .obj fields, key =>
      match (Json.obj fields).field? key with
      | none => .error (.keyError key)
      | some value => .ok value
  | _, _ => .error (.typeError "indices must be integers or slices, not str")

end Interpreter

namespace Json

mutual

/-- The separators of a text that `json.dumps` writes with its default separators. -/
def separators : Json → Nat
  | .null => 0
  | .bool _ => 0
  | .int _ => 0
  | .float _ => 0
  | .str _ => 0
  | .arr items => separatorsItems items + (items.length - 1)
  | .obj fields => separatorsFields fields + fields.length + (fields.length - 1)

def separatorsItems : List Json → Nat
  | [] => 0
  | item :: rest => item.separators + separatorsItems rest

def separatorsFields : List (String × Json) → Nat
  | [] => 0
  | (_, value) :: rest => value.separators + separatorsFields rest

end

/-- The bytes of `json.dumps` with its default separators, which are ASCII and have one more blank
for each separator than the compact text. -/
def encodedBytes (document : Json) : Nat := document.sortKeys.render.length + document.separators

end Json

namespace Interpreter

variable (interpreter : Interpreter)

/-- Equal scalars are one dict key. -/
def equalScalars (first second : Json) : Bool :=
  match interpreter.dictKey first, interpreter.dictKey second with
  | .ok key, .ok other => key = other
  | _, _ => false

mutual

/-- The comparison `first == second` of loaded values, where the order of fields does not matter. -/
def equal : Json → Json → Bool
  | .arr items, .arr others => equalItems items others
  | .obj fields, .obj others => fields.length = others.length && equalFields fields others
  | .null, second => interpreter.equalScalars .null second
  | .bool value, second => interpreter.equalScalars (.bool value) second
  | .int value, second => interpreter.equalScalars (.int value) second
  | .float value, second => interpreter.equalScalars (.float value) second
  | .str value, second => interpreter.equalScalars (.str value) second
  | .arr _, _ => false
  | .obj _, _ => false

def equalItems : List Json → List Json → Bool
  | [], [] => true
  | item :: rest, other :: others => equal item other && equalItems rest others
  | _, _ => false

def equalFields : List (String × Json) → List (String × Json) → Bool
  | [], _ => true
  | (key, value) :: rest, others =>
      (match (Json.obj others).field? key with
        | none => false
        | some other => equal value other) && equalFields rest others

end

end Interpreter

/-- What the standard library decides about texts, URLs, times and floats. -/
structure Library (Number : Type) where
  interpreter : Interpreter
  upper : String → String
  lower : String → String
  hostname : String → Except PyError (Option String)
  timestamp : UtcTime → String
  float : Json → Except PyError Number
  document : Number → Json
  less : Number → Number → Bool
  withinUnit : Number → Bool

namespace Library

variable {Number : Type} (library : Library Number) (document : Json) (key : String)

/-- `str(value[key])`. -/
def textItem : Except PyError String :=
  match document.field? key with
  | none => .error (.keyError key)
  | some value => .ok (library.interpreter.str value)

/-- `str(value.get(key, default))`. -/
def textOr (key default : String) : String :=
  ((document.field? key).map library.interpreter.str).getD default

/-- `str(value[key]) if value.get(key) else None`. -/
def textIfTrue : Option String :=
  match document.field? key with
  | none => none
  | some value => if value.truthy then some (library.interpreter.str value) else none

/-- `tuple(str(item) for item in value.get(key, default))`. -/
def textsOr (default : List String) : Except PyError (List String) :=
  match document.field? key with
  | none => .ok default
  | some value => (Interpreter.iterate value).map fun items => items.map library.interpreter.str

/-- `int(value.get(key, default))`. -/
def intOr (default : Int) : Except PyError Int :=
  match document.field? key with
  | none => .ok default
  | some value => library.interpreter.int value

/-- `bool(value.get(key, default))`. -/
def boolOr (default : Bool) : Bool :=
  ((document.field? key).map Json.truthy).getD default

/-- `float(value.get(key, default))`, where the default is a document of a float. -/
def floatOr (default : Json) : Except PyError Number :=
  library.float ((document.field? key).getD default)

/-- `datetime.fromisoformat` of a text. -/
def readTime (text : String) : Except PyError DateTime :=
  match DateTime.fromisoformat text with
  | none => .error (.valueError ("Invalid isoformat string: " ++ text))
  | some value => .ok value

/-- A time that is missing or empty is the time of the reading. -/
def timeOrNow (now : UtcTime) : Except PyError DateTime :=
  match library.textIfTrue document key with
  | none => .ok now.toDateTime
  | some text => readTime text

/-- A time that is missing or empty is None. -/
def timeOrNone : Except PyError (Option DateTime) :=
  match library.textIfTrue document key with
  | none => .ok none
  | some text => (readTime text).map some

end Library

end AgentFabric
