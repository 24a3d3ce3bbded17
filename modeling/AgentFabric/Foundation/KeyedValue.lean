import AgentFabric.Foundation.Json
import Mathlib.Algebra.Order.Ring.Rat

namespace AgentFabric
open Sorting

/-- A key of a dict. A number, as a bool is one too, has its value and its JSON text. -/
inductive ValueKey where
  | text (value : String)
  | number (value : ℚ) (text : String)
  | none
  | unwritable

/-- A Python value whose dicts have keys of every kind. The `str` of an object may raise. -/
inductive KeyedValue where
  | null
  | bool (value : Bool)
  | int (value : Int)
  | float (value : FloatRepr)
  | str (value : String)
  | arr (items : List KeyedValue)
  | obj (fields : List (ValueKey × KeyedValue))
  | object (text : Option String)

namespace ValueKey

def text? : ValueKey → Option String
  | .text value => some value
  | _ => Option.none

def number? : ValueKey → Option (ℚ × String)
  | .number value written => some (value, written)
  | _ => Option.none

/-- The fields under their texts in sorted order, or none where `json.dumps` raises.
A text and a number cannot be compared, and None cannot be compared with any other key. -/
def sortFields? (fields : List (ValueKey × Json)) : Option (List (String × Json)) :=
  match fields with
  | [(.none, value)] => some [("null", value)]
  | fields =>
      match fields.mapM fun field => field.1.text?.map fun key => (key, field.2) with
      | some texts => some (sortedBy Prod.fst texts)
      | Option.none => do
          let numbers ← fields.mapM fun field => field.1.number?.map fun key => (key, field.2)
          some ((sortedBy (fun field => field.1.1) numbers).map fun field => (field.1.2, field.2))

end ValueKey

namespace KeyedValue

mutual

/-- The document that `json.dumps` writes with `sort_keys`, in the order in which it writes it, or
none where it raises. The flag is `default=str`. -/
def written? (default : Bool) : KeyedValue → Option Json
  | .null => some .null
  | .bool value => some (.bool value)
  | .int value => some (.int value)
  | .float value => some (.float value)
  | .str value => some (.str value)
  | .arr items => (writtenItems? default items).map .arr
  | .obj fields => ((writtenFields? default fields).bind ValueKey.sortFields?).map .obj
  | .object text => if default then text.map .str else none

def writtenItems? (default : Bool) : List KeyedValue → Option (List Json)
  | [] => some []
  | item :: rest => do
      let item ← written? default item
      let rest ← writtenItems? default rest
      some (item :: rest)

def writtenFields? (default : Bool) : List (ValueKey × KeyedValue) → Option (List (ValueKey × Json))
  | [] => some []
  | (key, value) :: rest => do
      let value ← written? default value
      let rest ← writtenFields? default rest
      some ((key, value) :: rest)

end

/-- The fields that `json.dumps` writes of a dict. -/
def writtenDict? (default : Bool) (fields : List (ValueKey × KeyedValue)) :
    Option (List (String × Json)) :=
  (writtenFields? default fields).bind ValueKey.sortFields?

mutual

/-- What is written without `default=str` is written with it in the same way. -/
theorem written?_default : ∀ (value : KeyedValue) (document : Json),
    value.written? false = some document → value.written? true = some document
  | .null, document, written | .bool _, document, written | .int _, document, written
  | .float _, document, written | .str _, document, written => by
      simpa only [written?] using written
  | .arr items, document, written => by
      simp only [written?, Option.map_eq_some_iff] at written ⊢
      obtain ⟨documents, read, same⟩ := written
      exact ⟨documents, writtenItems?_default items documents read, same⟩
  | .obj fields, document, written => by
      simp only [written?, Option.map_eq_some_iff, Option.bind_eq_some_iff] at written ⊢
      obtain ⟨sorted, ⟨documents, read, sort⟩, same⟩ := written
      exact ⟨sorted, ⟨documents, writtenFields?_default fields documents read, sort⟩, same⟩
  | .object text, document, written => by simp [written?] at written

theorem writtenItems?_default : ∀ (items : List KeyedValue) (documents : List Json),
    writtenItems? false items = some documents → writtenItems? true items = some documents
  | [], documents, written => by simpa only [writtenItems?] using written
  | item :: rest, documents, written => by
      simp only [writtenItems?, Option.bind_eq_bind, Option.bind_eq_some_iff] at written ⊢
      obtain ⟨document, itemRead, others, restRead, same⟩ := written
      exact ⟨document, written?_default item document itemRead, others,
        writtenItems?_default rest others restRead, same⟩

theorem writtenFields?_default : ∀ (fields : List (ValueKey × KeyedValue))
    (documents : List (ValueKey × Json)),
    writtenFields? false fields = some documents → writtenFields? true fields = some documents
  | [], documents, written => by simpa only [writtenFields?] using written
  | (key, value) :: rest, documents, written => by
      simp only [writtenFields?, Option.bind_eq_bind, Option.bind_eq_some_iff] at written ⊢
      obtain ⟨document, valueRead, others, restRead, same⟩ := written
      exact ⟨document, written?_default value document valueRead, others,
        writtenFields?_default rest others restRead, same⟩

end

theorem writtenDict?_default {fields : List (ValueKey × KeyedValue)}
    {documents : List (String × Json)} (written : writtenDict? false fields = some documents) :
    writtenDict? true fields = some documents := by
  obtain ⟨read, fieldsRead, sorted⟩ := Option.bind_eq_some_iff.mp written
  exact Option.bind_eq_some_iff.mpr ⟨read, writtenFields?_default fields read fieldsRead, sorted⟩

end KeyedValue

end AgentFabric
