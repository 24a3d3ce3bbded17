import AgentFabric.Foundation.Json

namespace AgentFabric.Json

section Masking

variable (hidden : String → Bool) (mark : String)

mutual

/-- The mark stands in the place of every value under a hidden key. -/
def mask : Json → Json
  | .null => .null
  | .bool value => .bool value
  | .int value => .int value
  | .float value => .float value
  | .str value => .str value
  | .arr items => .arr (maskItems items)
  | .obj fields => .obj (maskFields fields)

def maskItems : List Json → List Json
  | [] => []
  | item :: rest => item.mask :: maskItems rest

def maskFields : List (String × Json) → List (String × Json)
  | [] => []
  | (key, value) :: rest => (key, if hidden key then .str mark else value.mask) :: maskFields rest

end

/-- The value is the given text. -/
def isText (text : String) : Json → Bool
  | .str value => value = text
  | _ => false

mutual

/-- Some hidden key has another value than the mark. -/
def exposes : Json → Bool
  | .null => false
  | .bool _ => false
  | .int _ => false
  | .float _ => false
  | .str _ => false
  | .arr items => exposesItems items
  | .obj fields => exposesFields fields

def exposesItems : List Json → Bool
  | [] => false
  | item :: rest => item.exposes || exposesItems rest

def exposesFields : List (String × Json) → Bool
  | [] => false
  | (key, value) :: rest =>
      hidden key && !isText mark value || value.exposes || exposesFields rest

end

mutual

/-- Two documents differ only in the values under hidden keys. -/
inductive SameOutside : Json → Json → Prop
  | null : SameOutside .null .null
  | bool (value : Bool) : SameOutside (.bool value) (.bool value)
  | int (value : Int) : SameOutside (.int value) (.int value)
  | float (value : FloatRepr) : SameOutside (.float value) (.float value)
  | str (value : String) : SameOutside (.str value) (.str value)
  | arr {items others : List Json} (same : ItemsSameOutside items others) :
      SameOutside (.arr items) (.arr others)
  | obj {fields others : List (String × Json)} (same : FieldsSameOutside fields others) :
      SameOutside (.obj fields) (.obj others)

inductive ItemsSameOutside : List Json → List Json → Prop
  | nil : ItemsSameOutside [] []
  | cons {item other : Json} {rest later : List Json} (head : SameOutside item other)
      (tail : ItemsSameOutside rest later) : ItemsSameOutside (item :: rest) (other :: later)

inductive FieldsSameOutside : List (String × Json) → List (String × Json) → Prop
  | nil : FieldsSameOutside [] []
  | hidden {key : String} {value other : Json} {rest later : List (String × Json)}
      (sensitive : hidden key = true) (tail : FieldsSameOutside rest later) :
      FieldsSameOutside ((key, value) :: rest) ((key, other) :: later)
  | shown {key : String} {value other : Json} {rest later : List (String × Json)}
      (head : SameOutside value other) (tail : FieldsSameOutside rest later) :
      FieldsSameOutside ((key, value) :: rest) ((key, other) :: later)

end

mutual

theorem SameOutside.refl : ∀ document : Json, SameOutside hidden document document
  | .null => .null
  | .bool value => .bool value
  | .int value => .int value
  | .float value => .float value
  | .str value => .str value
  | .arr items => .arr (ItemsSameOutside.refl items)
  | .obj fields => .obj (FieldsSameOutside.refl fields)

theorem ItemsSameOutside.refl : ∀ items : List Json, ItemsSameOutside hidden items items
  | [] => .nil
  | item :: rest => .cons (SameOutside.refl item) (ItemsSameOutside.refl rest)

theorem FieldsSameOutside.refl : ∀ fields : List (String × Json),
    FieldsSameOutside hidden fields fields
  | [] => .nil
  | (_, value) :: rest => .shown (SameOutside.refl value) (FieldsSameOutside.refl rest)

end

/-- Two documents agree when they differ only in hidden values and in the order of fields. -/
def AgreesOutside (document other : Json) : Prop :=
  SameOutside hidden document.sortKeys other.sortKeys

end Masking

variable {hidden : String → Bool} {mark : String}

theorem maskItems_eq_map (items : List Json) :
    maskItems hidden mark items = items.map (mask hidden mark) := by
  induction items with
  | nil => rfl
  | cons item rest ih => simp only [maskItems, List.map_cons, ih]

/-- The mask of one field keeps its key. -/
def maskField (hidden : String → Bool) (mark : String) (field : String × Json) : String × Json :=
  (field.1, if hidden field.1 then .str mark else field.2.mask hidden mark)

theorem maskFields_eq_map (fields : List (String × Json)) :
    maskFields hidden mark fields = fields.map (maskField hidden mark) := by
  induction fields with
  | nil => rfl
  | cons field rest ih => simp only [maskFields, List.map_cons, ih, maskField]

mutual

/-- The mask does not depend on the values under hidden keys. -/
theorem mask_eq_of_sameOutside : ∀ {document other : Json},
    SameOutside hidden document other → document.mask hidden mark = other.mask hidden mark
  | _, _, .null => rfl
  | _, _, .bool _ => rfl
  | _, _, .int _ => rfl
  | _, _, .float _ => rfl
  | _, _, .str _ => rfl
  | _, _, .arr same => by rw [mask, mask, maskItems_eq_of_sameOutside same]
  | _, _, .obj same => by rw [mask, mask, maskFields_eq_of_sameOutside same]

theorem maskItems_eq_of_sameOutside : ∀ {items others : List Json},
    ItemsSameOutside hidden items others → maskItems hidden mark items = maskItems hidden mark others
  | _, _, .nil => rfl
  | _, _, .cons head tail => by
      rw [maskItems, maskItems, mask_eq_of_sameOutside head, maskItems_eq_of_sameOutside tail]

theorem maskFields_eq_of_sameOutside : ∀ {fields others : List (String × Json)},
    FieldsSameOutside hidden fields others →
      maskFields hidden mark fields = maskFields hidden mark others
  | _, _, .nil => rfl
  | _, _, .hidden sensitive tail => by
      rw [maskFields, maskFields, if_pos sensitive, if_pos sensitive,
        maskFields_eq_of_sameOutside tail]
  | _, _, .shown head tail => by
      rw [maskFields, maskFields, mask_eq_of_sameOutside head, maskFields_eq_of_sameOutside tail]

end

mutual

/-- The mask leaves every value outside the hidden keys as it is. -/
theorem mask_sameOutside : ∀ document : Json,
    SameOutside hidden (document.mask hidden mark) document
  | .null => .null
  | .bool value => .bool value
  | .int value => .int value
  | .float value => .float value
  | .str value => .str value
  | .arr items => by
      rw [mask]
      exact .arr (maskItems_sameOutside items)
  | .obj fields => by
      rw [mask]
      exact .obj (maskFields_sameOutside fields)

theorem maskItems_sameOutside : ∀ items : List Json,
    ItemsSameOutside hidden (maskItems hidden mark items) items
  | [] => .nil
  | item :: rest => .cons (mask_sameOutside item) (maskItems_sameOutside rest)

theorem maskFields_sameOutside : ∀ fields : List (String × Json),
    FieldsSameOutside hidden (maskFields hidden mark fields) fields
  | [] => .nil
  | (key, value) :: rest => by
      rw [maskFields]
      by_cases sensitive : hidden key = true
      · exact .hidden sensitive (maskFields_sameOutside rest)
      · rw [if_neg sensitive]
        exact .shown (mask_sameOutside value) (maskFields_sameOutside rest)

end

mutual

/-- A masked document exposes nothing. -/
theorem exposes_mask : ∀ document : Json, (document.mask hidden mark).exposes hidden mark = false
  | .null | .bool _ | .int _ | .float _ | .str _ => by simp only [mask, exposes]
  | .arr items => by rw [mask, exposes, exposesItems_maskItems items]
  | .obj fields => by rw [mask, exposes, exposesFields_maskFields fields]

theorem exposesItems_maskItems : ∀ items : List Json,
    exposesItems hidden mark (maskItems hidden mark items) = false
  | [] => rfl
  | item :: rest => by
      rw [maskItems, exposesItems, exposes_mask item, exposesItems_maskItems rest, Bool.or_false]

theorem exposesFields_maskFields : ∀ fields : List (String × Json),
    exposesFields hidden mark (maskFields hidden mark fields) = false
  | [] => rfl
  | (key, value) :: rest => by
      rw [maskFields, exposesFields, exposesFields_maskFields rest, Bool.or_false]
      by_cases sensitive : hidden key = true
      · simp [sensitive, isText, exposes]
      · simp [sensitive, exposes_mask value]

end

mutual

/-- The mask and the sort of the keys commute. -/
theorem mask_sortKeys : ∀ document : Json,
    document.sortKeys.mask hidden mark = (document.mask hidden mark).sortKeys
  | .null | .bool _ | .int _ | .float _ | .str _ => by simp only [mask, sortKeys]
  | .arr items => by rw [sortKeys, mask, mask, sortKeys, maskItems_sortItems items]
  | .obj fields => by
      rw [sortKeys, mask, mask, sortKeys, ← maskFields_sortFields fields, maskFields_eq_map,
        maskFields_eq_map,
        Sorting.map_sortedBy Prod.fst Prod.fst (maskField hidden mark) _ fun _ _ => rfl]

theorem maskItems_sortItems : ∀ items : List Json,
    maskItems hidden mark (sortItems items) = sortItems (maskItems hidden mark items)
  | [] => rfl
  | item :: rest => by
      rw [sortItems, maskItems, maskItems, sortItems, mask_sortKeys item, maskItems_sortItems rest]

theorem maskFields_sortFields : ∀ fields : List (String × Json),
    maskFields hidden mark (sortFields fields) = sortFields (maskFields hidden mark fields)
  | [] => rfl
  | (key, value) :: rest => by
      rw [sortFields, maskFields, maskFields, sortFields, maskFields_sortFields rest,
        mask_sortKeys value]
      by_cases sensitive : hidden key = true
      · rw [if_pos sensitive, if_pos sensitive, sortKeys]
      · rw [if_neg sensitive, if_neg sensitive]

end

/-- Agreeing documents have equal masks. -/
theorem mask_same_of_agreesOutside {document other : Json}
    (agree : AgreesOutside hidden document other) :
    (document.mask hidden mark).Same (other.mask hidden mark) := by
  rw [Same, ← mask_sortKeys, ← mask_sortKeys]
  exact mask_eq_of_sameOutside agree

/-- A masked document answers a shown field with its masked value. -/
theorem field?_mask (document : Json) {key : String} (shown : hidden key = false) :
    (document.mask hidden mark).field? key = (document.field? key).map (mask hidden mark) := by
  cases document with
  | obj fields =>
      rw [mask, maskFields_eq_map, field?, field?, List.find?_map, Option.map_map, Option.map_map]
      have keys : ((fun field : String × Json => decide (field.1 = key)) ∘ maskField hidden mark) =
          fun field => decide (field.1 = key) := rfl
      rw [keys]
      cases found : fields.find? fun field => field.1 = key with
      | none => rfl
      | some field =>
          have own : field.1 = key := by simpa using List.find?_some found
          simp only [Option.map_some, Function.comp_apply, maskField, own, shown]
          rfl
  | _ => simp only [mask, field?, Option.map_none]

end AgentFabric.Json
