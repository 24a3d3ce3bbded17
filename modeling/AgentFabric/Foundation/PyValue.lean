import AgentFabric.Foundation.Json

namespace AgentFabric

/-- A Python value is a JSON value or an object that only `str` can write. -/
inductive PyValue where
  | null
  | bool (value : Bool)
  | int (value : Int)
  | float (value : FloatRepr)
  | str (value : String)
  | arr (items : List PyValue)
  | obj (fields : List (String × PyValue))
  | object (text : String)

namespace PyValue

mutual

/-- The document that `json.dumps` writes, or none where it raises a TypeError. -/
def json? : PyValue → Option Json
  | .null => some .null
  | .bool value => some (.bool value)
  | .int value => some (.int value)
  | .float value => some (.float value)
  | .str value => some (.str value)
  | .arr items => (jsonItems? items).map .arr
  | .obj fields => (jsonFields? fields).map .obj
  | .object _ => none

def jsonItems? : List PyValue → Option (List Json)
  | [] => some []
  | item :: rest => do
      let item ← json? item
      let rest ← jsonItems? rest
      some (item :: rest)

def jsonFields? : List (String × PyValue) → Option (List (String × Json))
  | [] => some []
  | (key, value) :: rest => do
      let value ← json? value
      let rest ← jsonFields? rest
      some ((key, value) :: rest)

end

mutual

/-- The document that `json.dumps` writes with `default=str`. -/
def defaultStr : PyValue → Json
  | .null => .null
  | .bool value => .bool value
  | .int value => .int value
  | .float value => .float value
  | .str value => .str value
  | .arr items => .arr (defaultStrItems items)
  | .obj fields => .obj (defaultStrFields fields)
  | .object text => .str text

def defaultStrItems : List PyValue → List Json
  | [] => []
  | item :: rest => defaultStr item :: defaultStrItems rest

def defaultStrFields : List (String × PyValue) → List (String × Json)
  | [] => []
  | (key, value) :: rest => (key, defaultStr value) :: defaultStrFields rest

end

end PyValue

end AgentFabric

namespace AgentFabric.PyValue

variable (fields : List (String × PyValue)) (key : String)

/-- The value of a key in a dictionary of Python values. -/
def lookup : Option PyValue :=
  (fields.find? fun field => field.1 = key).map Prod.snd

/-- A text field reads a string or its default. -/
def textField (default : Option String) : Option String :=
  match lookup fields key with
  | none => default
  | some (.str text) => some text
  | some _ => none

def intField (default : Int) : Option Int :=
  match lookup fields key with
  | none => some default
  | some (.int value) => some value
  | some _ => none

def objectField : Option (List (String × PyValue)) :=
  match lookup fields key with
  | none => some []
  | some (.obj inner) => some inner
  | some _ => none

mutual

/-- The value that `json.loads` makes of a document. -/
def ofJson : Json → PyValue
  | .null => .null
  | .bool value => .bool value
  | .int value => .int value
  | .float value => .float value
  | .str value => .str value
  | .arr items => .arr (ofJsonItems items)
  | .obj fields => .obj (ofJsonFields fields)

def ofJsonItems : List Json → List PyValue
  | [] => []
  | item :: rest => ofJson item :: ofJsonItems rest

def ofJsonFields : List (String × Json) → List (String × PyValue)
  | [] => []
  | (key, value) :: rest => (key, ofJson value) :: ofJsonFields rest

end

mutual

/-- A loaded document is written as it was. -/
theorem defaultStr_ofJson : ∀ document : Json, (ofJson document).defaultStr = document
  | .null | .bool _ | .int _ | .float _ | .str _ => by simp only [ofJson, defaultStr]
  | .arr items => by simp only [ofJson, defaultStr, defaultStrItems_ofJson items]
  | .obj fields => by simp only [ofJson, defaultStr, defaultStrFields_ofJson fields]

theorem defaultStrItems_ofJson : ∀ items : List Json, defaultStrItems (ofJsonItems items) = items
  | [] => by simp only [ofJsonItems, defaultStrItems]
  | item :: rest => by
      simp only [ofJsonItems, defaultStrItems, defaultStr_ofJson item, defaultStrItems_ofJson rest]

theorem defaultStrFields_ofJson : ∀ fields : List (String × Json),
    defaultStrFields (ofJsonFields fields) = fields
  | [] => by simp only [ofJsonFields, defaultStrFields]
  | (key, value) :: rest => by
      simp only [ofJsonFields, defaultStrFields, defaultStr_ofJson value,
        defaultStrFields_ofJson rest]

end

/-- The dictionary that is read from the text of another one. -/
def reloadFields : List (String × PyValue) :=
  ofJsonFields (Json.sortObject (defaultStrFields fields))

theorem lookup_ofJsonFields (fields : List (String × Json)) (key : String) :
    lookup (ofJsonFields fields) key = ((Json.obj fields).field? key).map ofJson := by
  simp only [lookup, Json.field?]
  induction fields with
  | nil => simp [ofJsonFields]
  | cons field rest ih =>
      obtain ⟨name, value⟩ := field
      rw [ofJsonFields]
      by_cases same : name = key
      · simp [same]
      · simpa [same] using ih

theorem field?_defaultStrFields :
    (Json.obj (defaultStrFields fields)).field? key = (lookup fields key).map defaultStr := by
  simp only [lookup, Json.field?]
  induction fields with
  | nil => simp [defaultStrFields]
  | cons field rest ih =>
      obtain ⟨name, value⟩ := field
      rw [defaultStrFields]
      by_cases same : name = key
      · simp [same]
      · simpa [same] using ih

/-- A reloaded dictionary answers each key with the sorted document of its value. -/
theorem lookup_reloadFields :
    lookup (reloadFields fields) key =
      (lookup fields key).map fun value => ofJson value.defaultStr.sortKeys := by
  rw [reloadFields, lookup_ofJsonFields, ← Json.sortKeys_obj, Json.field?_sortKeys,
    field?_defaultStrFields, Option.map_map, Option.map_map]
  rfl

/-- A reloaded dictionary is the same document. -/
theorem reloadFields_same :
    (Json.obj (defaultStrFields (reloadFields fields))).Same (.obj (defaultStrFields fields)) := by
  rw [reloadFields, defaultStrFields_ofJson]
  exact Json.sortKeys_obj_sortObject _

end AgentFabric.PyValue
