import AgentFabric.Foundation.Lists
import Mathlib.Algebra.Ring.Int.Defs
import Mathlib.Data.List.Perm.Basic
import Mathlib.Data.String.Basic

namespace AgentFabric

/-- A Python dict lists its items in first-insertion order and holds each key once. -/
structure Dict (Key Value : Type*) where
  items : List (Key × Value)
  distinct : (items.map Prod.fst).Nodup

namespace Dict

variable {Key Value : Type*} [DecidableEq Key]

/-- The empty dict has no item. -/
def empty : Dict Key Value := ⟨[], List.nodup_nil⟩

variable (dict : Dict Key Value)

/-- The items in insertion order determine the values. -/
def values : List Value := dict.items.map Prod.snd

/-- The lookup finds the only item with the key. -/
def get? (key : Key) : Option Value :=
  (dict.items.find? fun item => item.1 = key).map Prod.snd

/-- An assignment replaces the value in place or appends a new item. -/
def setItems (key : Key) (value : Value) : List (Key × Value) → List (Key × Value)
  | [] => [(key, value)]
  | item :: rest => if item.1 = key then (key, value) :: rest else item :: setItems key value rest

/-- An assignment changes what is read under its key only. -/
theorem lookup_setItems {Value : Type*} (key other : String) (value : Value)
    (items : List (String × Value)) :
    (setItems key value items).lookup other = if other = key then some value else items.lookup other := by
  induction items with
  | nil =>
      by_cases same : other = key
      · simp [setItems, same]
      · simp [setItems, same]
  | cons item rest ih =>
      obtain ⟨name, stored⟩ := item
      by_cases replaced : name = key
      · subst replaced
        by_cases same : other = name
        · simp [setItems, same]
        · simp [setItems, same, List.lookup_cons, beq_false_of_ne same]
      · simp only [setItems, if_neg replaced, List.lookup_cons, ih]
        by_cases same : other = name
        · subst same
          simp [replaced]
        · simp [beq_false_of_ne same]

theorem setItems_keys (key : Key) (value : Value) (items : List (Key × Value)) :
    (setItems key value items).map Prod.fst =
      if key ∈ items.map Prod.fst then items.map Prod.fst else items.map Prod.fst ++ [key] := by
  induction items with
  | nil => simp [setItems]
  | cons item rest ih =>
      by_cases same : item.1 = key
      · simp [setItems, same]
      · have different : ¬ key = item.1 := fun equal => same equal.symm
        simp only [setItems, if_neg same, List.map_cons, ih, List.mem_cons, different, false_or]
        split <;> simp

/-- The assignment keeps the keys distinct. -/
def set (key : Key) (value : Value) : Dict Key Value where
  items := setItems key value dict.items
  distinct := by
    rw [setItems_keys]
    split
    · exact dict.distinct
    · rename_i absent
      rw [List.nodup_append]
      exact ⟨dict.distinct, List.nodup_singleton key, by
        intro stored member new added equal
        rw [List.mem_singleton] at added
        exact absent (added ▸ equal ▸ member)⟩

/-- The lookup returns the default for an absent key. -/
def getD (key : Key) (default : Value) : Value :=
  (dict.get? key).getD default

@[simp] theorem get?_empty (key : Key) : (empty : Dict Key Value).get? key = none := rfl

@[simp] theorem get?_set_self (key : Key) (value : Value) :
    (dict.set key value).get? key = some value := by
  change ((setItems key value dict.items).find? fun item => item.1 = key).map Prod.snd = some value
  induction dict.items with
  | nil => simp [setItems]
  | cons item rest ih =>
      by_cases same : item.1 = key
      · simp [setItems, same]
      · simpa [setItems, same] using ih

theorem get?_set_of_ne {key query : Key} (value : Value)
    (different : query ≠ key) : (dict.set key value).get? query = dict.get? query := by
  change ((setItems key value dict.items).find? fun item => item.1 = query).map Prod.snd =
    (dict.items.find? fun item => item.1 = query).map Prod.snd
  induction dict.items with
  | nil => simp [setItems, different.symm]
  | cons item rest ih =>
      by_cases same : item.1 = key
      · simp [setItems, same, different.symm]
      · by_cases hit : item.1 = query
        · simp [setItems, hit, different]
        · simpa [setItems, same, hit] using ih

/-- The assignment has the lookup rule of a function update. -/
theorem get?_set (key query : Key) (value : Value) :
    (dict.set key value).get? query = if query = key then some value else dict.get? query := by
  by_cases same : query = key
  · subst query; simp
  · rw [if_neg same, get?_set_of_ne dict value same]

theorem getD_set (key query : Key) (value default : Value) :
    (dict.set key value).getD query default =
      if query = key then value else dict.getD query default := by
  unfold getD
  rw [get?_set]
  split <;> rfl

/-- An item of the dict answers the lookup of its key. -/
theorem get?_eq_some_iff (key : Key) (value : Value) :
    dict.get? key = some value ↔ (key, value) ∈ dict.items := by
  obtain ⟨items, distinct⟩ := dict
  change (items.find? fun item => item.1 = key).map Prod.snd = some value ↔ (key, value) ∈ items
  induction items with
  | nil => simp
  | cons item rest ih =>
      simp only [List.map_cons, List.nodup_cons] at distinct
      by_cases same : item.1 = key
      · have absent : (key, value) ∉ rest := by
          intro member
          exact distinct.1 (same ▸ List.mem_map_of_mem member)
        simp only [List.find?_cons, same, decide_true, Option.map_some, Option.some.injEq,
          List.mem_cons, absent, or_false]
        rw [eq_comm, Prod.ext_iff]
        simp [same]
      · have different : (key, value) ≠ item := fun equal => same (congrArg Prod.fst equal).symm
        simp only [List.find?_cons, same, decide_false, List.mem_cons, different, false_or]
        exact ih distinct.2

/-- The values are exactly the answers of the lookups. -/
theorem mem_values_iff (value : Value) :
    value ∈ dict.values ↔ ∃ key, dict.get? key = some value := by
  simp only [values, List.mem_map, get?_eq_some_iff]
  constructor
  · rintro ⟨⟨key, stored⟩, member, rfl⟩
    exact ⟨key, member⟩
  · rintro ⟨key, member⟩
    exact ⟨(key, value), member, rfl⟩

omit [DecidableEq Key] in
/-- The items determine the dict. -/
theorem ext_items {first second : Dict Key Value} (same : first.items = second.items) :
    first = second := by
  obtain ⟨items, _⟩ := first
  obtain ⟨_, _⟩ := second
  obtain rfl : items = _ := same
  rfl

/-- A new key goes to the end. -/
theorem set_items_of_absent (key : Key) (value : Value) (absent : key ∉ dict.items.map Prod.fst) :
    (dict.set key value).items = dict.items ++ [(key, value)] := by
  change setItems key value dict.items = _
  revert absent
  induction dict.items with
  | nil => intro _; rfl
  | cons item rest ih =>
      intro absent
      rw [List.map_cons, List.mem_cons, not_or] at absent
      simp only [setItems, if_neg (Ne.symm absent.1), List.cons_append, ih absent.2]

omit [DecidableEq Key] in
theorem items_nodup : dict.items.Nodup := dict.distinct.of_map _

/-- A dict that keeps the values with a property lists exactly these values. -/
theorem values_perm_filter (first second : Dict Key Value) (condition : Value → Prop)
    [DecidablePred condition]
    (same : ∀ key value, first.get? key = some value ↔ second.get? key = some value ∧ condition value) :
    first.values.Perm (second.values.filter fun value => condition value) := by
  have items : first.items.Perm (second.items.filter fun item => condition item.2) := by
    rw [List.perm_ext_iff_of_nodup first.items_nodup (second.items_nodup.filter _)]
    intro item
    rw [List.mem_filter, decide_eq_true_iff, ← get?_eq_some_iff, ← get?_eq_some_iff]
    exact same item.1 item.2
  rw [Dict.values, Dict.values, List.filter_map]
  exact items.map Prod.snd

end Dict

end AgentFabric

namespace AgentFabric.Dict

variable {Key Value Row : Type*} [DecidableEq Key] (dict : Dict Key Value)
  (items : List (Key × Value))

/-- The assignments of a list of items in their order. -/
def setAll : Dict Key Value :=
  items.foldl (fun dict item => dict.set item.1 item.2) dict

theorem get?_setAll_of_not_mem (key : Key)
    (absent : key ∉ items.map Prod.fst) : (dict.setAll items).get? key = dict.get? key := by
  induction items generalizing dict with
  | nil => rfl
  | cons item rest ih =>
      rw [List.map_cons, List.mem_cons, not_or] at absent
      show ((dict.set item.1 item.2).setAll rest).get? key = _
      rw [ih _ absent.2, get?_set_of_ne _ _ absent.1]

theorem get?_setAll_of_mem (distinct : (items.map Prod.fst).Nodup) (item : Key × Value)
    (member : item ∈ items) :
    (dict.setAll items).get? item.1 = some item.2 := by
  induction items generalizing dict with
  | nil => cases member
  | cons head rest ih =>
      rw [List.map_cons, List.nodup_cons] at distinct
      show ((dict.set head.1 head.2).setAll rest).get? item.1 = _
      rcases List.mem_cons.mp member with rfl | inside
      · rw [get?_setAll_of_not_mem _ _ _ distinct.1, get?_set_self]
      · exact ih _ distinct.2 inside

theorem setAll_items (distinct : ((dict.items ++ items).map Prod.fst).Nodup) :
    (dict.setAll items).items = dict.items ++ items := by
  induction items generalizing dict with
  | nil => exact (List.append_nil _).symm
  | cons item rest ih =>
      have absent : item.1 ∉ dict.items.map Prod.fst := by
        intro member
        rw [List.map_append] at distinct
        exact List.disjoint_of_nodup_append distinct member (by simp)
      have appended := set_items_of_absent dict item.1 item.2 absent
      show ((dict.set item.1 item.2).setAll rest).items = _
      rw [ih _ (by rw [appended]; simpa using distinct), appended]
      simp

/-- The assignments of a partial function at some keys. -/
theorem get?_setAll_filterMap (value : Key → Option Value) (keys : List Key) (query : Key) :
    (dict.setAll (keys.filterMap fun key => (value key).map fun found => (key, found))).get? query =
      if query ∈ keys ∧ (value query).isSome then value query else dict.get? query := by
  induction keys generalizing dict with
  | nil => simp [setAll]
  | cons first rest ih =>
      cases found : value first with
      | none =>
          rw [List.filterMap_cons, found, Option.map_none, ih]
          by_cases same : query = first
          · subst same
            simp [found]
          · simp [same]
      | some result =>
          rw [List.filterMap_cons, found, Option.map_some]
          show ((dict.set first result).setAll _).get? query = _
          rw [ih, get?_set]
          by_cases same : query = first
          · subst same
            simp [found]
          · simp [same]

theorem keys_setAll (key : Key) :
    key ∈ (dict.setAll items).items.map Prod.fst ↔
      key ∈ dict.items.map Prod.fst ∨ key ∈ items.map Prod.fst := by
  induction items generalizing dict with
  | nil => simp [setAll]
  | cons item rest ih =>
      have keys : (dict.set item.1 item.2).items.map Prod.fst = _ :=
        setItems_keys item.1 item.2 dict.items
      show key ∈ ((dict.set item.1 item.2).setAll rest).items.map Prod.fst ↔ _
      rw [ih, keys, List.map_cons, List.mem_cons]
      split
      · rename_i present
        constructor
        · exact Or.imp_right .inr
        · rintro (old | rfl | new)
          · exact .inl old
          · exact .inl present
          · exact .inr new
      · rw [List.mem_append, List.mem_singleton, or_assoc]

/-- Every item of the result is an old one or an assigned one. -/
theorem mem_setAll (item : Key × Value)
    (member : item ∈ (dict.setAll items).items) : item ∈ dict.items ∨ item ∈ items := by
  induction items generalizing dict with
  | nil => exact .inl member
  | cons head rest ih =>
      rcases ih (dict.set head.1 head.2) member with old | inside
      · rw [← get?_eq_some_iff, get?_set] at old
        split at old
        · rename_i same
          have equal : head = item := Prod.ext same.symm (Option.some.inj old)
          exact .inr (equal ▸ List.mem_cons_self)
        · exact .inl ((get?_eq_some_iff _ _ _).mp old)
      · exact .inr (.tail _ inside)

section Loop

variable (key : Row → Key) (value : Row → Value) (condition : Dict Key Value → Row → Prop)

/-- Every row meets the condition in the dict of the rows before it. -/
def Stepwise : Dict Key Value → List Row → Prop
  | _, [] => True
  | dict, row :: rest => condition dict row ∧ Stepwise (dict.set (key row) (value row)) rest

/-- The items that a loop over rows assigns. -/
def itemsOf (rows : List Row) : List (Key × Value) := rows.map fun row => (key row, value row)

omit [DecidableEq Key] in
theorem itemsOf_keys (rows : List Row) : (itemsOf key value rows).map Prod.fst = rows.map key := by
  rw [itemsOf, List.map_map]
  rfl

variable {key value condition}

/-- A condition that only needs the earlier rows holds in the dict of all rows. -/
theorem Stepwise.final
    (grows : ∀ (first second : Dict Key Value) row, condition first row →
      (∀ query found, first.get? query = some found → second.get? query = some found) →
        condition second row)
    {dict : Dict Key Value} {rows : List Row} (stepwise : Stepwise key value condition dict rows)
    (distinct : (rows.map key).Nodup) (fresh : ∀ row ∈ rows, dict.get? (key row) = none) :
    ∀ row ∈ rows, condition (dict.setAll (itemsOf key value rows)) row := by
  induction rows generalizing dict with
  | nil => simp
  | cons head rest ih =>
      obtain ⟨first, later⟩ := stepwise
      rw [List.map_cons, List.nodup_cons] at distinct
      intro row member
      rcases List.mem_cons.mp member with rfl | inside
      · apply grows dict _ row first
        intro query found present
        rw [get?_setAll_of_not_mem _ _ _ ?_, present]
        rw [itemsOf_keys]
        intro repeated
        obtain ⟨other, otherMember, rfl⟩ := List.mem_map.mp repeated
        rw [fresh other otherMember] at present
        cases present
      · apply ih later distinct.2 _ row inside
        intro other otherMember
        have different : key other ≠ key head := fun same =>
          distinct.1 (same ▸ List.mem_map_of_mem otherMember)
        rw [get?_set_of_ne _ _ different]
        exact fresh other (.tail _ otherMember)

end Loop

end AgentFabric.Dict

namespace AgentFabric.Dict

variable {Key Value : Type*} [DecidableEq Key] (dict : Dict Key Value) (key : Key)

/-- A deletion removes the item with the key and keeps the order of the others. -/
def erase : Dict Key Value where
  items := dict.items.filter fun item => item.1 ≠ key
  distinct := dict.distinct.sublist (List.filter_sublist.map Prod.fst)

@[simp] theorem erase_items :
    (dict.erase key).items = dict.items.filter fun item => item.1 ≠ key := rfl

@[simp] theorem get?_erase_self : (dict.erase key).get? key = none := by
  cases found : (dict.erase key).get? key with
  | none => rfl
  | some value =>
      rw [get?_eq_some_iff, erase_items, List.mem_filter] at found
      simp at found

theorem get?_erase_of_ne {key query : Key} (different : query ≠ key) :
    (dict.erase key).get? query = dict.get? query := by
  apply Option.ext
  intro value
  simp [get?_eq_some_iff, different]

/-- The deletion has the lookup rule of a function update. -/
theorem get?_erase (key query : Key) :
    (dict.erase key).get? query = if query = key then none else dict.get? query := by
  by_cases same : query = key
  · subst query; simp
  · rw [if_neg same, get?_erase_of_ne dict same]

variable (keeps : Key → Bool)

/-- The items whose keys are kept, in their order. -/
def filterKeys : Dict Key Value where
  items := dict.items.filter fun item => keeps item.1
  distinct := dict.distinct.sublist (List.filter_sublist.map Prod.fst)

theorem get?_filterKeys (key : Key) :
    (dict.filterKeys keeps).get? key = if keeps key then dict.get? key else none := by
  apply Option.ext
  intro value
  cases kept : keeps key with
  | true => simp [get?_eq_some_iff, filterKeys, kept]
  | false => simp [get?_eq_some_iff, filterKeys, kept]

/-- The keys of a dict are the keys that its lookup answers. -/
theorem mem_keys_iff : key ∈ dict.items.map Prod.fst ↔ ∃ value, dict.get? key = some value := by
  simp only [List.mem_map, get?_eq_some_iff]
  constructor
  · rintro ⟨⟨stored, value⟩, member, rfl⟩
    exact ⟨value, member⟩
  · rintro ⟨value, member⟩
    exact ⟨(key, value), member, rfl⟩

/-- Two dicts whose values name their keys list the same values exactly when they answer every
lookup alike. -/
theorem values_perm_iff (keyOf : Value → Key) (first second : Dict Key Value)
    (named : ∀ key value, first.get? key = some value → keyOf value = key)
    (otherNamed : ∀ key value, second.get? key = some value → keyOf value = key) :
    first.values.Perm second.values ↔ ∀ key, first.get? key = second.get? key := by
  constructor
  · intro same key
    apply Option.ext
    intro value
    constructor
    · intro found
      obtain ⟨other, stored⟩ := (mem_values_iff second value).mp
        (same.mem_iff.mp ((mem_values_iff first value).mpr ⟨key, found⟩))
      rwa [← named key value found, otherNamed other value stored]
    · intro found
      obtain ⟨other, stored⟩ := (mem_values_iff first value).mp
        (same.mem_iff.mpr ((mem_values_iff second value).mpr ⟨key, found⟩))
      rwa [← otherNamed key value found, named other value stored]
  · intro same
    have items : first.items.Perm second.items := by
      rw [List.perm_ext_iff_of_nodup first.items_nodup second.items_nodup]
      intro item
      rw [← get?_eq_some_iff, ← get?_eq_some_iff, same]
    exact items.map Prod.snd

variable {Other : Type*} (view : Value → Other)

/-- The values of a dict change and its keys stay. -/
def mapValues : Dict Key Other where
  items := dict.items.map (Prod.map id view)
  distinct := by
    rw [List.map_map]
    exact dict.distinct

theorem get?_mapValues : (dict.mapValues view).get? key = (dict.get? key).map view := by
  simp only [get?, mapValues, List.find?_map, Function.comp_def, Prod.map_fst, id_eq,
    Option.map_map]
  rfl

omit [DecidableEq Key] in
theorem values_mapValues : (dict.mapValues view).values = dict.values.map view := by
  simp only [values, mapValues, List.map_map]
  rfl

/-- The dict with its items in key order. -/
def sorted [LinearOrder Key] : Dict Key Value where
  items := Sorting.sortedBy Prod.fst dict.items
  distinct := ((Sorting.sortedBy_perm Prod.fst _).map Prod.fst).nodup_iff.mpr dict.distinct

@[simp] theorem get?_sorted {Name : Type*} [LinearOrder Name] (dict : Dict Name Value)
    (key : Name) : dict.sorted.get? key = dict.get? key := by
  apply Option.ext
  intro value
  rw [get?_eq_some_iff, get?_eq_some_iff]
  exact Sorting.mem_sortedBy _ _ _

end AgentFabric.Dict

namespace AgentFabric.Collection
open Sorting

variable {Record : Type*} (collection : Dict String Record)

/-- The records of a collection in the order of their keys. -/
def rows : List Record :=
  (sortedBy Prod.fst collection.items).map Prod.snd

theorem mem_rows_iff (record : Record) :
    record ∈ rows collection ↔ ∃ key, collection.get? key = some record := by
  simp only [rows, List.mem_map, mem_sortedBy, Dict.get?_eq_some_iff]
  constructor
  · rintro ⟨⟨key, stored⟩, member, rfl⟩
    exact ⟨key, member⟩
  · rintro ⟨key, member⟩
    exact ⟨(key, record), member, rfl⟩

/-- Records that stand under their own names are listed once. -/
theorem rows_map_nodup (name : Record → String)
    (named : ∀ key record, collection.get? key = some record → name record = key) :
    ((rows collection).map name).Nodup := by
  have names : (rows collection).map name = (sortedBy Prod.fst collection.items).map Prod.fst := by
    rw [rows, List.map_map]
    refine List.map_congr_left ?_
    intro item member
    rw [mem_sortedBy] at member
    exact named item.1 item.2 ((collection.get?_eq_some_iff item.1 item.2).mpr member)
  rw [names]
  exact ((sortedBy_perm Prod.fst collection.items).map Prod.fst).nodup_iff.mpr collection.distinct

/-- Some record of a collection has a property. -/
def Holds (condition : Record → Prop) : Prop :=
  ∃ key record, collection.get? key = some record ∧ condition record

/-- Every record of a collection has a property with its key. -/
def All (condition : String → Record → Prop) : Prop :=
  ∀ key record, collection.get? key = some record → condition key record

section Write

variable {collection : Dict String Record} {key : String} {record : Record}

theorem all_empty (condition : String → Record → Prop) : All Dict.empty condition := by
  intro key record found
  cases found

theorem All.set {condition : String → Record → Prop} (all : All collection condition)
    (written : condition key record) : All (collection.set key record) condition := by
  intro other found present
  rw [Dict.get?_set] at present
  split at present
  · rename_i same
    obtain rfl := Option.some.inj present
    exact same ▸ written
  · exact all other found present

variable {condition : Record → Prop}

/-- A record under a new key adds what it satisfies. -/
theorem holds_set_of_absent (absent : collection.get? key = none) :
    Holds (collection.set key record) condition ↔ Holds collection condition ∨ condition record := by
  constructor
  · rintro ⟨other, found, present, holds⟩
    rw [Dict.get?_set] at present
    split at present
    · obtain rfl := Option.some.inj present
      exact .inr holds
    · exact .inl ⟨other, found, present, holds⟩
  · rintro (⟨other, found, present, holds⟩ | holds)
    · refine ⟨other, found, ?_, holds⟩
      rw [Dict.get?_set_of_ne]
      · exact present
      · rintro rfl
        rw [absent] at present
        cases present
    · exact ⟨key, record, Dict.get?_set_self _ _ _, holds⟩

/-- A record that replaces one with the same truth changes nothing. -/
theorem holds_set_of_same {replaced : Record}
    (present : collection.get? key = some replaced) (same : condition replaced ↔ condition record) :
    Holds (collection.set key record) condition ↔ Holds collection condition := by
  constructor
  · rintro ⟨other, found, stored, holds⟩
    rw [Dict.get?_set] at stored
    split at stored
    · obtain rfl := Option.some.inj stored
      exact ⟨key, replaced, present, same.mpr holds⟩
    · exact ⟨other, found, stored, holds⟩
  · rintro ⟨other, found, stored, holds⟩
    by_cases own : other = key
    · subst own
      obtain rfl := Option.some.inj (present.symm.trans stored)
      exact ⟨other, record, Dict.get?_set_self _ _ _, same.mp holds⟩
    · exact ⟨other, found, (Dict.get?_set_of_ne _ _ own).trans stored, holds⟩

end Write

/-- A written record replaces the weight of the record under its key. -/
theorem sum_values_set (key : String) (record : Record) (weight : Record → Int) :
    ((collection.set key record).values.map weight).sum =
      (collection.values.map weight).sum - ((collection.get? key).map weight).getD 0 +
        weight record := by
  change (((Dict.setItems key record collection.items).map Prod.snd).map weight).sum =
    ((collection.items.map Prod.snd).map weight).sum -
      (((collection.items.find? fun item => item.1 = key).map Prod.snd).map weight).getD 0 +
        weight record
  induction collection.items with
  | nil => simp [Dict.setItems]
  | cons item rest ih =>
      by_cases same : item.1 = key
      · simp [Dict.setItems, same]
        omega
      · simp only [Dict.setItems, same, if_false, List.map_cons, List.sum_cons, ih,
          List.find?_cons, decide_false]
        omega

/-- The search of the kept records returns a stored record, or no record is kept and sought. -/
theorem search_cases (kept sought : Record → Prop) [DecidablePred kept] [DecidablePred sought] :
    (((rows collection).filter fun record => kept record).find? (fun record => sought record) = none ∧
      ¬ Holds collection fun record => kept record ∧ sought record) ∨
    ∃ key record,
      ((rows collection).filter fun record => kept record).find? (fun record => sought record) =
        some record ∧ collection.get? key = some record ∧ kept record ∧ sought record := by
  cases found : ((rows collection).filter fun record => kept record).find?
      fun record => sought record with
  | none =>
      refine .inl ⟨rfl, ?_⟩
      rintro ⟨key, record, present, isKept, isSought⟩
      have listed := (mem_rows_iff collection record).mpr ⟨key, present⟩
      have absent := List.find?_eq_none.mp found record
        (List.mem_filter.mpr ⟨listed, decide_eq_true isKept⟩)
      exact absent (decide_eq_true isSought)
  | some record =>
      obtain ⟨listed, isKept⟩ := List.mem_filter.mp (List.mem_of_find?_eq_some found)
      obtain ⟨key, present⟩ := (mem_rows_iff collection record).mp listed
      have isSought := List.find?_some found
      exact .inr ⟨key, record, rfl, present, of_decide_eq_true isKept, of_decide_eq_true isSought⟩

end AgentFabric.Collection
