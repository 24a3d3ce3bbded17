import AgentFabric.Foundation.PyCoercion

namespace AgentFabric

/-- A Python value that is built from dictionaries, lists, tuples and scalars. -/
inductive PyData where
  | null
  | bool (value : Bool)
  | int (value : Int)
  | float (value : FloatRepr)
  | str (value : String)
  | list (items : List PyData)
  | tuple (items : List PyData)
  | dict (fields : List (String × PyData))

namespace PyData

/-- The default value is None. -/
instance : Inhabited PyData := ⟨.null⟩

mutual

/-- The document that `json.dumps` writes, where a tuple becomes a list. -/
def toJson : PyData → Json
  | .null => .null
  | .bool value => .bool value
  | .int value => .int value
  | .float value => .float value
  | .str value => .str value
  | .list items => .arr (toJsonItems items)
  | .tuple items => .arr (toJsonItems items)
  | .dict fields => .obj (toJsonFields fields)

def toJsonItems : List PyData → List Json
  | [] => []
  | item :: rest => item.toJson :: toJsonItems rest

def toJsonFields : List (String × PyData) → List (String × Json)
  | [] => []
  | (key, value) :: rest => (key, value.toJson) :: toJsonFields rest

end

mutual

/-- The value that `json.loads` makes of a document. -/
def ofJson : Json → PyData
  | .null => .null
  | .bool value => .bool value
  | .int value => .int value
  | .float value => .float value
  | .str value => .str value
  | .arr items => .list (ofJsonItems items)
  | .obj fields => .dict (ofJsonFields fields)

def ofJsonItems : List Json → List PyData
  | [] => []
  | item :: rest => ofJson item :: ofJsonItems rest

def ofJsonFields : List (String × Json) → List (String × PyData)
  | [] => []
  | (key, value) :: rest => (key, ofJson value) :: ofJsonFields rest

end

/-- An empty value is false in a Python condition. -/
def truthy : PyData → Bool
  | .null => false
  | .bool value => value
  | .int value => value ≠ 0
  | .float value => value.text ≠ "0.0" && value.text ≠ "-0.0"
  | .str value => value ≠ ""
  | .list items => !items.isEmpty
  | .tuple items => !items.isEmpty
  | .dict fields => !fields.isEmpty

variable (fields : List (String × PyData)) (key : String)

/-- The value of a key in a field list. -/
def field? : Option PyData :=
  (fields.find? fun field => field.1 = key).map Prod.snd

/-- The assignments of `dict.update`. -/
def update (fields values : List (String × PyData)) : List (String × PyData) :=
  values.foldl (fun fields value => Dict.setItems value.1 value.2 fields) fields

/-- The dict under a key, or the default for an absent key. -/
def dictField (default : Except PyError (List (String × PyData))) :
    Except PyError (List (String × PyData)) :=
  match field? fields key with
  | none => default
  | some (.dict inner) => .ok inner
  | some _ => .error (.typeError "a dict is required")

/-- The list under a key, or the default for an absent key. -/
def listField (default : Except PyError (List PyData)) : Except PyError (List PyData) :=
  match field? fields key with
  | none => default
  | some (.list items) => .ok items
  | some (.tuple items) => .ok items
  | some _ => .error (.typeError "a list is required")

/-- An optional text is None when it is absent. -/
def optionalText : Option String → PyData
  | none => .null
  | some text => .str text

section Text

variable (isPrintable : Char → Bool)

mutual

/-- The Python `repr`, where a tuple of one item ends with a comma. -/
def repr : PyData → List Char
  | .null => "None".toList
  | .bool value => if value then "True".toList else "False".toList
  | .int value => (toString value).toList
  | .float value => value.text.toList
  | .str value => Json.reprString isPrintable value
  | .list items => '[' :: reprItems items ++ [']']
  | .tuple [item] => '(' :: repr item ++ [',', ')']
  | .tuple items => '(' :: reprItems items ++ [')']
  | .dict fields => '\x7b' :: reprFields fields ++ ['\x7d']

def reprItems : List PyData → List Char
  | [] => []
  | [item] => repr item
  | item :: rest => repr item ++ ',' :: ' ' :: reprItems rest

def reprFields : List (String × PyData) → List Char
  | [] => []
  | [(key, value)] => Json.reprString isPrintable key ++ ':' :: ' ' :: repr value
  | (key, value) :: rest =>
      Json.reprString isPrintable key ++ ':' :: ' ' :: repr value ++ ',' :: ' ' :: reprFields rest

end

/-- `str` of a value. -/
def text : PyData → String
  | .str value => value
  | value => String.ofList (repr isPrintable value)

end Text

end PyData

/-- `str` of an exception, which shows the `repr` of a missing key. -/
def PyError.text (isPrintable : Char → Bool) : PyError → String
  | .keyError key => String.ofList (Json.reprString isPrintable key)
  | .valueError message | .typeError message | .overflowError message
  | .zeroDivisionError message | .authorizationError message | .conflictError message
  | .responseError message | .permissionError message | .indexError message
  | .validationError message | .notFoundError message | .integrityError message
  | .attributeError message | .fileExistsError message => message

end AgentFabric

namespace AgentFabric.PyData

variable {field : String × PyData}

/-- Every item after an assignment is an old one or the new one. -/
theorem mem_setItems {key : String} {value : PyData} {fields : List (String × PyData)}
    (member : field ∈ Dict.setItems key value fields) :
    field ∈ fields ∨ field = (key, value) := by
  induction fields with
  | nil => exact .inr (List.mem_singleton.mp member)
  | cons first rest ih =>
      unfold Dict.setItems at member
      split at member
      · rcases List.mem_cons.mp member with new | old
        · exact .inr new
        · exact .inl (.tail _ old)
      · rcases List.mem_cons.mp member with same | later
        · exact .inl (List.mem_cons.mpr (.inl same))
        · exact (ih later).imp_left (List.mem_cons_of_mem _)

/-- Every item after an update is an old one or an assigned one. -/
theorem mem_update {fields values : List (String × PyData)}
    (member : field ∈ update fields values) : field ∈ fields ∨ field ∈ values := by
  induction values generalizing fields with
  | nil => exact .inl member
  | cons value rest ih =>
      rcases ih member with old | new
      · rcases mem_setItems old with earlier | rfl
        · exact .inl earlier
        · exact .inr (.head _)
      · exact .inr (.tail _ new)

variable (fields : List (String × PyData))

theorem field?_setItems (key query : String) (value : PyData) :
    field? (Dict.setItems key value fields) query =
      if query = key then some value else field? fields query := by
  induction fields with
  | nil =>
      by_cases same : query = key
      · simp [field?, Dict.setItems, same]
      · simp [field?, Dict.setItems, same, Ne.symm same]
  | cons first rest ih =>
      unfold Dict.setItems
      simp only [field?] at ih ⊢
      by_cases hit : first.1 = key
      · by_cases same : query = key
        · simp [hit, same]
        · simp [hit, same, Ne.symm same]
      · by_cases found : first.1 = query
        · have different : query ≠ key := fun same => hit (found.trans same)
          simp [found, different]
        · simpa [hit, found] using ih

/-- A property that a value has when its parts and the keys of its dicts have theirs. -/
structure Hereditary (value : PyData → Prop) (key : String → Prop) : Prop where
  str : ∀ text, value (.str text)
  list : ∀ items, value (.list items) ↔ ∀ item ∈ items, value item
  tuple : ∀ items, value (.tuple items) → value (.list items)
  dict : ∀ fields, value (.dict fields) ↔ ∀ field ∈ fields, key field.1 ∧ value field.2

namespace Hereditary

variable {value : PyData → Prop} {key : String → Prop} (hereditary : Hereditary value key)
  {fields : List (String × PyData)}

include hereditary

theorem dict_nil : value (.dict []) := (hereditary.dict []).mpr (by simp)

theorem list_nil : value (.list []) := (hereditary.list []).mpr (by simp)

variable {name : String}

section

variable (holds : value (.dict fields))
include holds

theorem field? {found : PyData}
    (present : PyData.field? fields name = some found) : value found := by
  obtain ⟨field, listed, rfl⟩ := Option.map_eq_some_iff.mp present
  exact ((hereditary.dict fields).mp holds field (List.mem_of_find?_eq_some listed)).2

theorem setItems {new : PyData} (named : key name)
    (assigned : value new) : value (.dict (Dict.setItems name new fields)) := by
  rw [hereditary.dict] at holds ⊢
  intro field member
  rcases mem_setItems member with old | rfl
  · exact holds field old
  · exact ⟨named, assigned⟩

theorem update {values : List (String × PyData)}
    (assigned : value (.dict values)) : value (.dict (PyData.update fields values)) := by
  rw [hereditary.dict] at holds assigned ⊢
  intro field member
  rcases mem_update member with old | new
  · exact holds field old
  · exact assigned field new

end

theorem append {items : List PyData} (holds : value (.list items)) {item : PyData}
    (added : value item) : value (.list (items ++ [item])) := by
  rw [hereditary.list] at holds ⊢
  intro part member
  rcases List.mem_append.mp member with old | new
  · exact holds part old
  · rw [List.mem_singleton.mp new]
    exact added

/-- A dict under a key has the property when its default has it. -/
theorem dictField (holds : value (.dict fields))
    {default : Except PyError (List (String × PyData))} {inner : List (String × PyData)}
    (fallback : default = .ok inner → value (.dict inner))
    (read : PyData.dictField fields name default = .ok inner) : value (.dict inner) := by
  unfold PyData.dictField at read
  split at read
  · exact fallback read
  · rename_i found present
    obtain rfl := Except.ok.inj read
    exact hereditary.field? holds present
  · cases read

/-- A list under a key has the property when its default has it. -/
theorem listField (holds : value (.dict fields))
    {default : Except PyError (List PyData)} {inner : List PyData}
    (fallback : default = .ok inner → value (.list inner))
    (read : PyData.listField fields name default = .ok inner) : value (.list inner) := by
  unfold PyData.listField at read
  split at read
  · exact fallback read
  · rename_i items present
    obtain rfl := Except.ok.inj read
    exact hereditary.field? holds present
  · rename_i items present
    obtain rfl := Except.ok.inj read
    exact hereditary.tuple items (hereditary.field? holds present)
  · cases read

end Hereditary

variable (items : List PyData)

theorem toJsonItems_eq_map : toJsonItems items = items.map toJson := by
  induction items with
  | nil => rfl
  | cons item rest ih => simp only [toJsonItems, List.map_cons, ih]

theorem toJsonFields_eq_map : toJsonFields fields = fields.map (Prod.map id toJson) := by
  induction fields with
  | nil => rfl
  | cons field rest ih => simp only [toJsonFields, List.map_cons, ih, Prod.map, id_eq]

theorem ofJsonItems_eq_map (items : List Json) : ofJsonItems items = items.map ofJson := by
  induction items with
  | nil => rfl
  | cons item rest ih => simp only [ofJsonItems, List.map_cons, ih]

theorem ofJsonFields_eq_map (fields : List (String × Json)) :
    ofJsonFields fields = fields.map (Prod.map id ofJson) := by
  induction fields with
  | nil => rfl
  | cons field rest ih => simp only [ofJsonFields, List.map_cons, ih, Prod.map, id_eq]

mutual

/-- A document that is read is written back as it was. -/
theorem toJson_ofJson : ∀ document : Json, (ofJson document).toJson = document
  | .null | .bool _ | .int _ | .float _ | .str _ => by simp only [ofJson, toJson]
  | .arr items => by simp only [ofJson, toJson, toJsonItems_ofJsonItems items]
  | .obj fields => by simp only [ofJson, toJson, toJsonFields_ofJsonFields fields]

theorem toJsonItems_ofJsonItems : ∀ items : List Json, toJsonItems (ofJsonItems items) = items
  | [] => rfl
  | item :: rest => by
      simp only [ofJsonItems, toJsonItems, toJson_ofJson item, toJsonItems_ofJsonItems rest]

theorem toJsonFields_ofJsonFields : ∀ fields : List (String × Json),
    toJsonFields (ofJsonFields fields) = fields
  | [] => rfl
  | (_, value) :: rest => by
      simp only [ofJsonFields, toJsonFields, toJson_ofJson value, toJsonFields_ofJsonFields rest]

end

/-- A JSON value is read back as it was, since it holds no tuple. -/
def IsJson (value : PyData) : Prop := ofJson value.toJson = value

theorem isJson_ofJson (document : Json) : (ofJson document).IsJson := by rw [IsJson, toJson_ofJson]

theorem isJson_str (value : String) : (PyData.str value).IsJson := by
  simp only [IsJson, toJson, ofJson]

theorem isJson_list_iff : (PyData.list items).IsJson ↔ ∀ item ∈ items, item.IsJson := by
  simp only [IsJson, toJson, ofJson, toJsonItems_eq_map, ofJsonItems_eq_map, List.map_map,
    PyData.list.injEq]
  conv_lhs => rhs; rw [← List.map_id items]
  exact List.map_inj_left

theorem isJson_dict_iff : (PyData.dict fields).IsJson ↔ ∀ field ∈ fields, field.2.IsJson := by
  simp only [IsJson, toJson, ofJson, toJsonFields_eq_map, ofJsonFields_eq_map, List.map_map,
    PyData.dict.injEq]
  conv_lhs => rhs; rw [← List.map_id fields]
  refine List.map_inj_left.trans (forall₂_congr fun field _ => ?_)
  simp [Prod.ext_iff]

/-- A value is JSON exactly when its parts are. -/
theorem hereditary_isJson : Hereditary IsJson fun _ => True where
  str := isJson_str
  list := isJson_list_iff
  tuple := by
    intro items json
    simp [IsJson, toJson, ofJson] at json
  dict := fun fields => (isJson_dict_iff fields).trans (by simp)

/-- Two JSON values are equal when they differ only in the order of dict keys. -/
structure Equal (first second : PyData) : Prop where
  left : first.IsJson
  right : second.IsJson
  same : first.toJson.Same second.toJson

namespace Equal

variable {first second third : PyData}

theorem refl (json : first.IsJson) : first.Equal first := ⟨json, json, rfl⟩

theorem trans (equal : first.Equal second) (next : second.Equal third) : first.Equal third :=
  ⟨equal.left, next.right, equal.same.trans next.same⟩

end Equal

/-- A document that is the same as a written value is read as an equal value. -/
theorem equal_ofJson {document : Json} {value : PyData} (json : value.IsJson)
    (same : document.Same value.toJson) : (ofJson document).Equal value := by
  refine ⟨isJson_ofJson document, json, ?_⟩
  rwa [toJson_ofJson]

section Lookup

variable {fields others : List (String × PyData)}

theorem field?_toJson (fields : List (String × PyData)) (key : String) :
    (PyData.dict fields).toJson.field? key = (field? fields key).map toJson := by
  simp only [toJson, Json.field?, field?, toJsonFields_eq_map, List.find?_map, Function.comp_def,
    Prod.map_fst, id_eq, Option.map_map]
  rfl

/-- Equal dicts have equal values under each key. -/
theorem Equal.field? (equal : (PyData.dict fields).Equal (.dict others)) (key : String)
    {value : PyData}
    (found : PyData.field? others key = some value) :
    ∃ read, PyData.field? fields key = some read ∧ read.Equal value := by
  have lookup := congrArg (fun document : Json => document.field? key) equal.same
  simp only [Json.field?_sortKeys, field?_toJson, found, Option.map_map, Option.map_some,
    Option.map_eq_some_iff] at lookup
  obtain ⟨read, present, same⟩ := lookup
  exact ⟨read, present, hereditary_isJson.field? equal.left present,
    hereditary_isJson.field? equal.right found, same⟩

/-- Only a dict equals a dict. -/
theorem Equal.eq_dict {value : PyData} (equal : value.Equal (.dict others)) :
    ∃ fields, value = .dict fields := by
  have document := equal.same
  cases value with
  | dict fields => exact ⟨fields, rfl⟩
  | _ => simp [Json.Same, toJson, Json.sortKeys] at document

section

variable (equal : (PyData.dict fields).Equal (.dict others))
include equal

/-- Equal dicts hold equal dicts. -/
theorem Equal.dict (key : String)
    {inner : List (String × PyData)} (found : PyData.field? others key = some (.dict inner)) :
    ∃ read, PyData.field? fields key = some (.dict read) ∧
      (PyData.dict read).Equal (.dict inner) := by
  obtain ⟨read, present, same⟩ := equal.field? key found
  obtain ⟨inside, rfl⟩ := same.eq_dict
  exact ⟨inside, present, same⟩

/-- Equal dicts hold equal lists. -/
theorem Equal.list (key : String)
    {inner : List PyData}
    (found : PyData.field? others key = some (.list inner)) :
    ∃ read, PyData.field? fields key = some (.list read) ∧
      (PyData.list read).Equal (.list inner) := by
  obtain ⟨read, present, same⟩ := equal.field? key found
  have document := same.same
  have json := same.left
  cases read with
  | list read => exact ⟨read, present, same⟩
  | tuple items => simp [IsJson, toJson, ofJson] at json
  | _ => simp [Json.Same, toJson, Json.sortKeys] at document

/-- Equal dicts hold the same texts. -/
theorem Equal.str (key : String) {text : String}
    (found : PyData.field? others key = some (.str text)) :
    PyData.field? fields key = some (.str text) := by
  obtain ⟨read, present, same⟩ := equal.field? key found
  have document := same.same
  cases read with
  | str read =>
      simp only [Json.Same, toJson, Json.sortKeys, Json.str.injEq] at document
      rw [present, document]
  | _ => simp [Json.Same, toJson, Json.sortKeys] at document

end

end Lookup

end AgentFabric.PyData
