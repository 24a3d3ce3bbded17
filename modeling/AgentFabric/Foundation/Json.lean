import AgentFabric.Foundation.Lists
import Mathlib.Algebra.GroupWithZero.Nat
import Mathlib.Algebra.Order.BigOperators.Group.List
import Mathlib.Data.String.Basic

namespace AgentFabric

/-- A character of a decimal float. -/
def isFloatChar (char : Char) : Bool := char.isDigit || char ∈ ['-', '+', '.', 'e']

/-- The text of a finite float starts with a digit or a sign and has a fraction or an exponent. -/
def isFloatText (text : List Char) : Bool :=
  text.all isFloatChar && text.any (fun char => char = '.' || char = 'e') &&
    text.head?.any fun char => char.isDigit || char = '-'

theorem lawfulBEq_chars : LawfulBEq (List Char) := inferInstance

/-- A finite float is its repr. -/
structure FloatRepr where
  text : String
  wellFormed : isFloatText text.toList = true

/-- A JSON document keeps the field order of its source. -/
inductive Json where
  | null
  | bool (value : Bool)
  | int (value : Int)
  | float (value : FloatRepr)
  | str (value : String)
  | arr (items : List Json)
  | obj (fields : List (String × Json))

namespace Json

open Sorting

mutual

/-- The value that `json.loads` reads from the text of `json.dumps` with `sort_keys`. -/
def sortKeys : Json → Json
  | .null => .null
  | .bool value => .bool value
  | .int value => .int value
  | .float value => .float value
  | .str value => .str value
  | .arr items => .arr (sortItems items)
  | .obj fields => .obj (sortedBy Prod.fst (sortFields fields))

/-- The list form sorts every element. -/
def sortItems : List Json → List Json
  | [] => []
  | item :: rest => item.sortKeys :: sortItems rest

/-- The field form sorts every value and keeps the field order. -/
def sortFields : List (String × Json) → List (String × Json)
  | [] => []
  | (key, value) :: rest => (key, value.sortKeys) :: sortFields rest

end

theorem sortItems_eq_map (items : List Json) : sortItems items = items.map sortKeys := by
  induction items with
  | nil => rfl
  | cons item rest ih => simp only [sortItems, List.map_cons, ih]

variable (fields : List (String × Json))

theorem sortFields_eq_map : sortFields fields = fields.map (Prod.map id sortKeys) := by
  induction fields with
  | nil => rfl
  | cons field rest ih => simp only [sortFields, List.map_cons, ih, Prod.map, id_eq]

/-- The sort moves the fields and the inner sort changes only their values. -/
theorem sortFields_sortedBy :
    sortFields (sortedBy Prod.fst fields) = sortedBy Prod.fst (sortFields fields) := by
  rw [sortFields_eq_map, sortFields_eq_map]
  exact map_sortedBy _ _ _ _ fun _ _ => rfl

mutual

/-- A sorted document is its own sorted form. -/
theorem sortKeys_sortKeys : ∀ document : Json, document.sortKeys.sortKeys = document.sortKeys
  | .null | .bool _ | .int _ | .float _ | .str _ => by simp only [sortKeys]
  | .arr items => by simp only [sortKeys, sortItems_sortItems items]
  | .obj fields => by
      simp only [sortKeys, sortFields_sortedBy, sortFields_sortFields fields]
      rw [sortedBy_of_pairwise _ _ (sortedBy_pairwise _ _)]

theorem sortItems_sortItems : ∀ items : List Json, sortItems (sortItems items) = sortItems items
  | [] => rfl
  | item :: rest => by simp only [sortItems, sortKeys_sortKeys item, sortItems_sortItems rest]

theorem sortFields_sortFields : ∀ fields : List (String × Json),
    sortFields (sortFields fields) = sortFields fields
  | [] => rfl
  | (_, value) :: rest => by
      simp only [sortFields, sortKeys_sortKeys value, sortFields_sortFields rest]

end

mutual

/-- Every object of a document lists its keys in order. -/
def KeysSorted : Json → Prop
  | .null => True
  | .bool _ => True
  | .int _ => True
  | .float _ => True
  | .str _ => True
  | .arr items => ItemsSorted items
  | .obj fields => (fields.map Prod.fst).Pairwise (· ≤ ·) ∧ FieldsSorted fields

def ItemsSorted : List Json → Prop
  | [] => True
  | item :: rest => item.KeysSorted ∧ ItemsSorted rest

def FieldsSorted : List (String × Json) → Prop
  | [] => True
  | (_, value) :: rest => value.KeysSorted ∧ FieldsSorted rest

end

/-- The sort leaves an object alone exactly when its keys and values are sorted. -/
theorem sortedBy_sortFields_eq_iff :
    sortedBy Prod.fst (sortFields fields) = fields ↔
      (fields.map Prod.fst).Pairwise (· ≤ ·) ∧ sortFields fields = fields := by
  have keys : (sortFields fields).map Prod.fst = fields.map Prod.fst := by
    rw [sortFields_eq_map, List.map_map]
    rfl
  constructor
  · intro same
    have ordered : (fields.map Prod.fst).Pairwise (· ≤ ·) := by
      rw [← same]
      exact List.pairwise_map.mpr (sortedBy_pairwise Prod.fst _)
    rw [sortedBy_of_pairwise _ _ (List.pairwise_map.mp (keys ▸ ordered))] at same
    exact ⟨ordered, same⟩
  · rintro ⟨ordered, same⟩
    rw [same, sortedBy_of_pairwise _ _ (List.pairwise_map.mp ordered)]

mutual

/-- A document is its own sorted form exactly when its keys are sorted. -/
theorem sortKeys_eq_iff : ∀ document : Json, document.sortKeys = document ↔ document.KeysSorted
  | .null | .bool _ | .int _ | .float _ | .str _ => by simp only [sortKeys, KeysSorted]
  | .arr items => by rw [sortKeys, Json.arr.injEq, sortItems_eq_iff items, KeysSorted]
  | .obj fields => by
      rw [sortKeys, Json.obj.injEq, sortedBy_sortFields_eq_iff, sortFields_eq_iff fields, KeysSorted]

theorem sortItems_eq_iff : ∀ items : List Json, sortItems items = items ↔ ItemsSorted items
  | [] => by simp only [sortItems, ItemsSorted]
  | item :: rest => by
      rw [sortItems, List.cons.injEq, sortKeys_eq_iff item, sortItems_eq_iff rest, ItemsSorted]

theorem sortFields_eq_iff : ∀ fields : List (String × Json),
    sortFields fields = fields ↔ FieldsSorted fields
  | [] => by simp only [sortFields, FieldsSorted]
  | (key, value) :: rest => by
      rw [sortFields, List.cons.injEq, Prod.mk.injEq, sortKeys_eq_iff value,
        sortFields_eq_iff rest, FieldsSorted, eq_self_iff_true, true_and]

end

/-- Two documents are equal in Python when they differ only in the order of fields. -/
def Same (first second : Json) : Prop := first.sortKeys = second.sortKeys

variable (document : Json)

theorem sortKeys_same : document.sortKeys.Same document :=
  sortKeys_sortKeys document

/-- The lookup of a document field fails on a missing key and on a value without keys. -/
def field? : Json → String → Option Json
  | .obj fields, key => (fields.find? fun field => field.1 = key).map Prod.snd
  | _, _ => none

/-- The sorted field list of one document. -/
def sortObject : List (String × Json) :=
  sortedBy Prod.fst (sortFields fields)

theorem sortKeys_obj : (Json.obj fields).sortKeys = .obj (sortObject fields) := by
  simp only [sortKeys, sortObject]

@[simp] theorem sortObject_sortObject : sortObject (sortObject fields) = sortObject fields := by
  have idempotent := sortKeys_sortKeys (.obj fields)
  rw [sortKeys_obj, sortKeys_obj] at idempotent
  exact Json.obj.inj idempotent

theorem sortKeys_obj_sortObject :
    (Json.obj (sortObject fields)).sortKeys = (Json.obj fields).sortKeys := by
  rw [sortKeys_obj, sortKeys_obj, sortObject_sortObject]

/-- The stable sort keeps the first field with each key in front. -/
theorem find?_sortedBy (key : String) :
    (sortedBy Prod.fst fields).find? (fun field => field.1 = key) =
      fields.find? fun field => field.1 = key := by
  induction fields with
  | nil => rfl
  | cons field rest ih =>
      have inserted (sorted : List (String × Json)) :
          (sorted.orderedInsert (fun first second => first.1 ≤ second.1) field).find?
              (fun field => field.1 = key) =
            (field :: sorted).find? fun field => field.1 = key := by
        induction sorted with
        | nil => rfl
        | cons head tail tailStep =>
            simp only [List.orderedInsert]
            split
            · rfl
            · rename_i later
              have different : head.1 ≠ field.1 := fun equal => later (le_of_eq equal.symm)
              by_cases hit : head.1 = key
              · have missed : field.1 ≠ key := fun equal => different (hit.trans equal.symm)
                simp [hit, missed]
              · simp only [List.find?_cons, hit, decide_false] at tailStep ⊢
                exact tailStep
      change ((sortedBy Prod.fst rest).orderedInsert (fun first second => first.1 ≤ second.1)
        field).find? _ = _
      rw [inserted, List.find?_cons, List.find?_cons, ih]

/-- The sorted document answers each field with its sorted value. -/
theorem field?_sortKeys (key : String) :
    document.sortKeys.field? key = (document.field? key).map sortKeys := by
  cases document with
  | obj fields =>
      simp only [sortKeys, field?, find?_sortedBy, sortFields_eq_map, List.find?_map,
        Function.comp_def, Prod.map_fst, id_eq, Option.map_map]
      rfl
  | _ => simp [sortKeys, field?]

/-- An empty value is false in a Python condition. -/
def truthy : Json → Bool
  | .null => false
  | .bool value => value
  | .int value => value ≠ 0
  | .float value => value.text ≠ "0.0" && value.text ≠ "-0.0"
  | .str value => value ≠ ""
  | .arr items => !items.isEmpty
  | .obj fields => !fields.isEmpty

/-- One lower-case hexadecimal digit. -/
def hexDigit (value : Nat) : Char := Nat.digitChar (value % 16)

/-- The `\uXXXX` escape of one UTF-16 code unit. -/
def unicodeEscape (unit : Nat) : List Char :=
  ['\\', 'u', hexDigit (unit / 4096), hexDigit (unit / 256), hexDigit (unit / 16), hexDigit unit]

/-- The `ensure_ascii` escape keeps printable ASCII and splits a supplementary character. -/
def escapeChar (char : Char) : List Char :=
  if char = '"' then ['\\', '"']
  else if char = '\\' then ['\\', '\\']
  else if char = '\n' then ['\\', 'n']
  else if char = '\r' then ['\\', 'r']
  else if char = '\t' then ['\\', 't']
  else if char.toNat = 12 then ['\\', 'f']
  else if char.toNat = 8 then ['\\', 'b']
  else if 32 ≤ char.toNat ∧ char.toNat ≤ 126 then [char]
  else if char.toNat < 65536 then unicodeEscape char.toNat
  else unicodeEscape (55296 + (char.toNat - 65536) / 1024) ++
    unicodeEscape (56320 + (char.toNat - 65536) % 1024)

/-- A JSON string literal stands in double quotes. -/
def renderString (text : String) : List Char := '"' :: text.toList.flatMap escapeChar ++ ['"']

mutual

/-- The text of a document with the separators `,` and `:` and the stored field order. -/
def render : Json → List Char
  | .null => "null".toList
  | .bool value => if value then "true".toList else "false".toList
  | .int value => (toString value).toList
  | .float value => value.text.toList
  | .str value => renderString value
  | .arr items => '[' :: renderItems items ++ [']']
  | .obj fields => '\x7b' :: renderFields fields ++ ['\x7d']

/-- The elements stand between commas. -/
def renderItems : List Json → List Char
  | [] => []
  | [item] => item.render
  | item :: rest => item.render ++ ',' :: renderItems rest

/-- The fields stand between commas with a colon after each key. -/
def renderFields : List (String × Json) → List Char
  | [] => []
  | [(key, value)] => renderString key ++ ':' :: value.render
  | (key, value) :: rest => renderString key ++ ':' :: value.render ++ ',' :: renderFields rest

end

/-- The canonical text of `json.dumps` with `sort_keys` and compact separators. -/
def dumps : String := String.ofList document.sortKeys.render

/-- Equal documents have one canonical text. -/
theorem dumps_eq_of_same {first second : Json} (same : first.Same second) :
    first.dumps = second.dumps := by
  rw [dumps, dumps, same]

end Json

end AgentFabric

namespace AgentFabric.Json

/-- An optional text is null when it is absent. -/
def optionalText : Option String → Json
  | none => .null
  | some text => .str text

variable (document : Json) (key : String)

/-- A text field reads a string or its default. -/
def textField (default : Option String) : Option String :=
  match document.field? key with
  | none => default
  | some (.str text) => some text
  | some _ => none

def intField (default : Int) : Option Int :=
  match document.field? key with
  | none => some default
  | some (.int value) => some value
  | some _ => none

def objectField : Option (List (String × Json)) :=
  match document.field? key with
  | none => some []
  | some (.obj fields) => some fields
  | some _ => none

/-- An empty or missing optional text is None. -/
def optionalField : Option (Option String) :=
  match document.field? key with
  | none => some none
  | some .null => some none
  | some (.str text) => some (if text = "" then none else some text)
  | some _ => none

section Readers

variable (document : Json) (key : String)

theorem textField_sortKeys (default : Option String) :
    textField document.sortKeys key default = textField document key default := by
  simp only [textField, Json.field?_sortKeys]
  cases document.field? key with
  | none => rfl
  | some value => cases value <;> simp [Json.sortKeys]

theorem intField_sortKeys (default : Int) :
    intField document.sortKeys key default = intField document key default := by
  simp only [intField, Json.field?_sortKeys]
  cases document.field? key with
  | none => rfl
  | some value => cases value <;> simp [Json.sortKeys]

theorem objectField_sortKeys :
    objectField document.sortKeys key = (objectField document key).map Json.sortObject := by
  simp only [objectField, Json.field?_sortKeys]
  cases document.field? key with
  | none => rfl
  | some value => cases value <;> simp [Json.sortKeys, Json.sortObject]

theorem optionalField_sortKeys :
    optionalField document.sortKeys key = optionalField document key := by
  simp only [optionalField, Json.field?_sortKeys]
  cases document.field? key with
  | none => rfl
  | some value => cases value <;> simp [Json.sortKeys]

theorem truthy_sortKeys : document.sortKeys.truthy = document.truthy := by
  cases document <;> simp [Json.sortKeys, Json.truthy, Json.sortItems_eq_map,
    Json.sortFields_eq_map]

end Readers

section Same

variable {first second : Json} (same : first.Same second)

include same

theorem truthy_of_same : first.truthy = second.truthy := by
  rw [← truthy_sortKeys, same, truthy_sortKeys]

variable (key : String)

theorem textField_of_same (default : Option String) :
    textField first key default = textField second key default := by
  rw [← textField_sortKeys, same, textField_sortKeys]

theorem intField_of_same (default : Int) :
    intField first key default = intField second key default := by
  rw [← intField_sortKeys, same, intField_sortKeys]

theorem optionalField_of_same : optionalField first key = optionalField second key := by
  rw [← optionalField_sortKeys, same, optionalField_sortKeys]

/-- Equal documents hold objects that differ only in their field order. -/
theorem objectField_of_same (fields : List (String × Json))
    (present : objectField second key = some fields) :
    ∃ read, objectField first key = some read ∧ sortObject read = sortObject fields := by
  have object : (objectField first key).map sortObject = (objectField second key).map sortObject := by
    rw [← objectField_sortKeys, same, objectField_sortKeys]
  rw [present, Option.map_some, Option.map_eq_some_iff] at object
  exact object

end Same

variable (text : Option String)

theorem optionalField_text (present : document.field? key = some (optionalText text)) :
    optionalField document key = some (text.filter fun value => value ≠ "") := by
  cases text with
  | none => simp [optionalField, present, optionalText]
  | some text =>
      simp only [optionalField, present, optionalText, Option.filter]
      by_cases empty : text = "" <;> simp [empty]

/-- A value without parts. -/
def IsAtom : Json → Prop
  | .arr _ => False
  | .obj _ => False
  | _ => True

theorem eq_of_same_atom {value other : Json} (atom : value.IsAtom)
    (same : other.sortKeys = value.sortKeys) : other = value := by
  cases value <;> cases other <;> simp_all [sortKeys, IsAtom]

/-- Equal documents hold the same values without parts. -/
theorem field?_of_same {row document : Json} (same : row.Same document) {key : String}
    {value : Json} (present : document.field? key = some value) (atom : value.IsAtom) :
    row.field? key = some value := by
  have fields : (row.field? key).map sortKeys = some value.sortKeys := by
    rw [← field?_sortKeys, same, field?_sortKeys, present, Option.map_some]
  obtain ⟨stored, found, equal⟩ := Option.map_eq_some_iff.mp fields
  rw [found, eq_of_same_atom atom equal]

theorem optionalText_isAtom : (optionalText text).IsAtom := by
  cases text <;> trivial

mutual

/-- The keys of a document at every depth. -/
def deepKeys : Json → List String
  | .null => []
  | .bool _ => []
  | .int _ => []
  | .float _ => []
  | .str _ => []
  | .arr items => deepKeysItems items
  | .obj fields => deepKeysFields fields

def deepKeysItems : List Json → List String
  | [] => []
  | item :: rest => item.deepKeys ++ deepKeysItems rest

def deepKeysFields : List (String × Json) → List String
  | [] => []
  | (key, value) :: rest => key :: value.deepKeys ++ deepKeysFields rest

end

end AgentFabric.Json

namespace AgentFabric.LowerText

/-- The characters that `str.lower` makes of one character, as far as they are ASCII: the dotted
capital I and the Kelvin sign are the only other characters that become ASCII letters. -/
def lowerChar (char : Char) : List Char :=
  if char.toNat = 304 then ['i', Char.ofNat 775]
  else if char.toNat = 8490 then ['k']
  else [char.toLower]

def lower (text : String) : List Char := text.toList.flatMap lowerChar

/-- A word that is its own lower case stands in the lower case of every text that it stands in. -/
theorem isInfix_lower {word text : String} (own : lower word = word.toList)
    (inside : word.toList <:+: text.toList) : word.toList <:+: lower text := by
  obtain ⟨before, after, split⟩ := inside
  refine ⟨before.flatMap lowerChar, after.flatMap lowerChar, ?_⟩
  rw [lower, ← split, List.flatMap_append, List.flatMap_append]
  exact congrArg (fun middle => before.flatMap lowerChar ++ middle ++ after.flatMap lowerChar) own.symm

end AgentFabric.LowerText

namespace AgentFabric.Json
open Sorting

mutual

/-- The number of values in a document. -/
def size : Json → Nat
  | .arr items => sizeItems items + 1
  | .obj fields => sizeFields fields + 1
  | _ => 1

def sizeItems : List Json → Nat
  | [] => 0
  | item :: rest => item.size + sizeItems rest

def sizeFields : List (String × Json) → Nat
  | [] => 0
  | (_, value) :: rest => value.size + sizeFields rest

end

variable (fields : List (String × Json))

theorem sizeFields_eq_sum : sizeFields fields = (fields.map fun field => field.2.size).sum := by
  induction fields with
  | nil => rfl
  | cons field rest ih => simp only [sizeFields, List.map_cons, List.sum_cons, ih]

theorem sizeFields_sortedBy : sizeFields (sortedBy Prod.fst fields) = sizeFields fields := by
  rw [sizeFields_eq_sum, sizeFields_eq_sum]
  exact ((sortedBy_perm Prod.fst fields).map _).sum_eq

mutual

theorem size_sortKeys : ∀ document : Json, document.sortKeys.size = document.size
  | .null | .bool _ | .int _ | .float _ | .str _ => by simp only [sortKeys]
  | .arr items => by simp only [sortKeys, size, sizeItems_sortItems items]
  | .obj fields => by simp only [sortKeys, size, sizeFields_sortedBy, sizeFields_sortFields fields]

theorem sizeItems_sortItems : ∀ items : List Json, sizeItems (sortItems items) = sizeItems items
  | [] => rfl
  | item :: rest => by
      simp only [sortItems, sizeItems, size_sortKeys item, sizeItems_sortItems rest]

theorem sizeFields_sortFields : ∀ fields : List (String × Json),
    sizeFields (sortFields fields) = sizeFields fields
  | [] => rfl
  | (_, value) :: rest => by
      simp only [sortFields, sizeFields, size_sortKeys value, sizeFields_sortFields rest]

end

theorem size_of_same {first second : Json} (same : first.Same second) :
    first.size = second.size := by
  rw [← size_sortKeys first, same, size_sortKeys]

/-- A field is smaller than its document. -/
theorem size_lt_of_field? {document value : Json} {key : String}
    (found : document.field? key = some value) : value.size < document.size := by
  cases document with
  | obj fields =>
      obtain ⟨field, listed, rfl⟩ := Option.map_eq_some_iff.mp found
      have member := List.mem_of_find?_eq_some listed
      have bound : field.2.size ≤ sizeFields fields := by
        rw [sizeFields_eq_sum]
        exact List.single_le_sum (fun _ _ => Nat.zero_le _) _
          (List.mem_map_of_mem (f := fun field : String × Json => field.2.size) member)
      rw [size]
      omega
  | _ => cases found

end AgentFabric.Json
