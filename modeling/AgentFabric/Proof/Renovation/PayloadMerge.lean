import AgentFabric.Construction.Renovation.DictObjects

namespace AgentFabric.Renovation.MvpWorkflow

section Paths

/-- The value at a path of keys. -/
def valueAt : List String → Json → Option Json
  | [], value => some value
  | key :: rest, .obj fields => (fields.lookup key).bind (valueAt rest)
  | _ :: _, _ => none

/-- A value at a proper beginning of a path is no dict. -/
def Replaced : List String → Json → Prop
  | [], _ => False
  | key :: rest, .obj fields => ∃ value, fields.lookup key = some value ∧ Replaced rest value
  | _ :: _, _ => True

mutual

/-- The keys of a dict and of the dicts below it are distinct. -/
def Distinct : Json → Prop
  | .obj fields => (fields.map Prod.fst).Nodup ∧ DistinctFields fields
  | _ => True

def DistinctFields : Fields → Prop
  | [] => True
  | (_, value) :: rest => Distinct value ∧ DistinctFields rest

end

variable {fields : Fields} {key : String} {value : Json}

theorem DistinctFields.mem (distinct : DistinctFields fields) (member : (key, value) ∈ fields) :
    Distinct value := by
  induction fields with
  | nil => cases member
  | cons field rest ih =>
      rcases List.mem_cons.mp member with rfl | inside
      · exact distinct.1
      · exact ih distinct.2 inside

theorem lookup_of_absent (absent : key ∉ fields.map Prod.fst) : fields.lookup key = none := by
  refine List.lookup_eq_none_iff.mpr fun field member => bne_iff_ne.mpr fun same => absent ?_
  rw [same]
  exact List.mem_map_of_mem member

theorem lookup_of_mem (distinct : (fields.map Prod.fst).Nodup) (member : (key, value) ∈ fields) :
    fields.lookup key = some value := by
  obtain ⟨before, after, rfl⟩ := List.append_of_mem member
  refine List.lookup_eq_some_iff.mpr ⟨before, after, rfl, fun field earlier =>
    bne_iff_ne.mpr fun same => ?_⟩
  rw [List.map_append] at distinct
  refine List.disjoint_of_nodup_append distinct (List.mem_map_of_mem earlier) ?_
  rw [← same]
  exact .head _

theorem mergeValue_of_not_dict {base : Option Json} (missing : ∀ fields, base ≠ some (.obj fields))
    (value : Json) : mergeValue base value = value := by
  cases base with
  | none => cases value <;> rfl
  | some held =>
      cases held <;> cases value <;> first | rfl | exact absurd rfl (missing _)

theorem mergeValue_leaf (leaf : ∀ fields, value ≠ .obj fields)
    (base : Option Json) : mergeValue base value = value := by
  cases base with
  | none => cases value <;> rfl
  | some held =>
      cases value <;> first | exact absurd rfl (leaf _) | cases held <;> rfl

/-- A merged dict holds the merged value of every key of the override. -/
theorem lookup_deepMerge (base override : Fields) (distinct : (override.map Prod.fst).Nodup)
    (key : String) : (deepMerge base override).lookup key =
      match override.lookup key with
      | some value => some (mergeValue (base.lookup key) value)
      | none => base.lookup key := by
  induction override generalizing base with
  | nil => rfl
  | cons field rest ih =>
      obtain ⟨name, value⟩ := field
      rw [List.map_cons, List.nodup_cons] at distinct
      rw [deepMerge, ih _ distinct.2, List.lookup_cons, Dict.lookup_setItems]
      by_cases same : key = name
      · subst same
        have absent : rest.lookup key = none := lookup_of_absent distinct.1
        simp [absent]
      · simp [same, beq_false_of_ne same]

/-- At every path a merged value has the merged value of the override, and where the override has
none, the value of the base that no override replaces above. -/
theorem valueAt_mergeValue (path : List String) (base : Option Json) (override : Json)
    (distinct : Distinct override) :
    (∀ value, valueAt path override = some value →
      valueAt path (mergeValue base override) =
        some (mergeValue (base.bind (valueAt path)) value)) ∧
    (valueAt path override = none →
      (Replaced path override → valueAt path (mergeValue base override) = none) ∧
      (¬ Replaced path override →
        valueAt path (mergeValue base override) = base.bind (valueAt path))) := by
  induction path generalizing base override with
  | nil => simp [valueAt]
  | cons key rest ih =>
      by_cases leaf : ∀ fields, override ≠ .obj fields
      · rw [mergeValue_leaf leaf]
        cases override <;> first | exact absurd rfl (leaf _) | simp [valueAt, Replaced]
      · push Not at leaf
        obtain ⟨fields, rfl⟩ := leaf
        by_cases missing : ∀ under, base ≠ some (.obj under)
        · have none : base.bind (valueAt (key :: rest)) = none := by
            cases base with
            | none => rfl
            | some held => cases held <;> first | exact absurd rfl (missing _) | rfl
          rw [mergeValue_of_not_dict missing, none]
          have plain (value : Json) : mergeValue Option.none value = value :=
            mergeValue_of_not_dict (fun _ absent => by cases absent) value
          simp +contextual [plain]
        · push Not at missing
          obtain ⟨under, rfl⟩ := missing
          simp only [mergeValue, Option.bind_some, valueAt, Replaced,
            lookup_deepMerge under fields distinct.1]
          cases given : fields.lookup key with
          | none => simp
          | some value =>
              obtain ⟨before, after, split, _⟩ := List.lookup_eq_some_iff.mp given
              have listed : (key, value) ∈ fields := by simp [split]
              simpa using ih (under.lookup key) value (distinct.2.mem listed)

end Paths

section Repetition

theorem setItems_self {Value : Type} (key : String) (value : Value) (items : List (String × Value))
    (held : items.lookup key = some value) : Dict.setItems key value items = items := by
  induction items with
  | nil => cases held
  | cons item rest ih =>
      obtain ⟨name, stored⟩ := item
      by_cases same : name = key
      · subst same
        simp_all [Dict.setItems]
      · rw [List.lookup_cons, beq_false_of_ne (Ne.symm same)] at held
        rw [Dict.setItems, if_neg same, ih held]

/-- A merge changes nothing where every merged value is there already. -/
theorem deepMerge_absorbed (merged override : Fields)
    (absorbed : ∀ key value, (key, value) ∈ override →
      ∃ held, merged.lookup key = some held ∧ mergeValue (some held) value = held) :
    deepMerge merged override = merged := by
  induction override with
  | nil => rfl
  | cons field rest ih =>
      obtain ⟨key, value⟩ := field
      obtain ⟨held, found, same⟩ := absorbed key value (.head _)
      rw [deepMerge, found, same, setItems_self key held merged found]
      exact ih fun other value member => absorbed other value (.tail _ member)

theorem mergeLeaf_again {value : Json} (leaf : ∀ fields, value ≠ .obj fields)
    (base : Option Json) : mergeValue (some (mergeValue base value)) value = mergeValue base value := by
  rw [mergeValue_leaf leaf, mergeValue_leaf leaf]

mutual

/-- A second merge of the same override changes nothing. -/
theorem mergeValue_again : ∀ (value : Json), Distinct value → ∀ base : Option Json,
    mergeValue (some (mergeValue base value)) value = mergeValue base value
  | .obj fields, distinct, base => by
      have again := mergeFields_again fields distinct.2
      by_cases missing : ∀ under, base ≠ some (.obj under)
      · rw [mergeValue_of_not_dict missing, mergeValue, deepMerge_absorbed]
        intro key value member
        refine ⟨value, lookup_of_mem distinct.1 member, ?_⟩
        simpa [mergeValue_of_not_dict] using again key value member none
      · push Not at missing
        obtain ⟨under, rfl⟩ := missing
        rw [mergeValue, mergeValue, deepMerge_absorbed]
        intro key value member
        refine ⟨mergeValue (under.lookup key) value, ?_, again key value member _⟩
        rw [lookup_deepMerge under fields distinct.1, lookup_of_mem distinct.1 member]
  | .null, _, base => mergeLeaf_again (fun _ same => by cases same) base
  | .bool _, _, base => mergeLeaf_again (fun _ same => by cases same) base
  | .int _, _, base => mergeLeaf_again (fun _ same => by cases same) base
  | .float _, _, base => mergeLeaf_again (fun _ same => by cases same) base
  | .str _, _, base => mergeLeaf_again (fun _ same => by cases same) base
  | .arr _, _, base => mergeLeaf_again (fun _ same => by cases same) base

theorem mergeFields_again : ∀ (fields : Fields), DistinctFields fields →
    ∀ key value, (key, value) ∈ fields → ∀ base : Option Json,
      mergeValue (some (mergeValue base value)) value = mergeValue base value
  | [], _, _, _, member, _ => by cases member
  | (_, first) :: rest, distinct, key, value, member, base => by
      rcases List.mem_cons.mp member with same | inside
      · cases same
        exact mergeValue_again first distinct.1 base
      · exact mergeFields_again rest distinct.2 key value inside base

end

/-- A merge into an empty dict assigns the items of the override. -/
theorem deepMerge_nil (override : Fields) (distinct : (override.map Prod.fst).Nodup) :
    deepMerge [] override = override := by
  have appended (merged : Fields) (apart : ((merged ++ override).map Prod.fst).Nodup) :
      deepMerge merged override = merged ++ override := by
    clear distinct
    induction override generalizing merged with
    | nil => simp [deepMerge]
    | cons field rest ih =>
        obtain ⟨key, value⟩ := field
        have fresh : key ∉ merged.map Prod.fst := by
          intro member
          rw [List.map_append] at apart
          exact List.disjoint_of_nodup_append apart member (.head _)
        have absent : merged.lookup key = none := lookup_of_absent fresh
        have keys : (merged.map Prod.fst).Nodup := by
          rw [List.map_append] at apart
          exact apart.of_append_left
        have set : Dict.setItems key value merged = merged ++ [(key, value)] :=
          Dict.set_items_of_absent ⟨merged, keys⟩ key value fresh
        have plain : mergeValue none value = value :=
          mergeValue_of_not_dict (fun _ absent => by cases absent) value
        rw [deepMerge, absent, plain, set, ih _ (by simpa using apart)]
        simp
  exact appended [] distinct

end Repetition

section Objects

open PyObject

theorem itemValues_lookup (items : List (String × PyObject)) (key : String) :
    (itemValues items).lookup key = (items.lookup key).map value := by
  induction items with
  | nil => rfl
  | cons item rest ih =>
      obtain ⟨name, object⟩ := item
      rw [itemValues, List.lookup_cons, List.lookup_cons, ih]
      cases key == name <;> rfl

theorem itemValues_setItems (key : String) (object : PyObject) (items : List (String × PyObject)) :
    itemValues (Dict.setItems key object items) =
      Dict.setItems key object.value (itemValues items) := by
  induction items with
  | nil => rfl
  | cons item rest ih =>
      obtain ⟨name, held⟩ := item
      by_cases same : name = key
      · simp [Dict.setItems, itemValues, same]
      · simp [Dict.setItems, itemValues, same, ih]

mutual

theorem value_deepcopy : ∀ (object : PyObject) (log : HeapLog),
    (deepcopy object log).1.value = object.value
  | .leaf _ _, _ => rfl
  | .dict _ items, log => congrArg Json.obj (itemValues_deepcopyItems items log.allocated)

theorem itemValues_deepcopyItems : ∀ (items : List (String × PyObject)) (log : HeapLog),
    itemValues (deepcopyItems items log).1 = itemValues items
  | [], _ => rfl
  | (key, object) :: rest, log => by
      simp only [deepcopyItems, itemValues, value_deepcopy object, itemValues_deepcopyItems rest]

end

mutual

/-- The assigned object has the merged value. -/
theorem value_assigned : ∀ (base : Option PyObject) (override : PyObject) (log : HeapLog),
    (assigned base override log).1.value = mergeValue (base.map value) override.value
  | base, .leaf held kind, log => by
      have copied : (assigned base (.leaf held kind) log).1 = .leaf held kind := by
        cases base with
        | none => rfl
        | some object => cases object <;> rfl
      rw [copied]
      exact (mergeValue_leaf kind _).symm
  | none, .dict address items, log => value_deepcopy (.dict address items) log
  | some (.leaf held kind), .dict address items, log => by
      have missing : ∀ fields, some held ≠ some (.obj fields) :=
        fun fields same => kind fields (Option.some.inj same)
      exact (value_deepcopy (.dict address items) log).trans (mergeValue_of_not_dict missing _).symm
  | some (.dict _ base), .dict _ override, log => by
      rw [assigned, value_mergeItems, itemValues_deepcopyItems]
      rfl

theorem value_mergeItems : ∀ (address : Nat) (merged override : List (String × PyObject))
    (log : HeapLog), (mergeItems address merged override log).1.value =
      .obj (MvpWorkflow.deepMerge (itemValues merged) (itemValues override))
  | _, _, [], _ => rfl
  | address, merged, (key, object) :: rest, log => by
      rw [mergeItems, value_mergeItems, itemValues_setItems, value_assigned, itemValues,
        MvpWorkflow.deepMerge, itemValues_lookup]

end

/-- A part of a call writes only from an address on. -/
def WritesFrom (start : Nat) (before after : HeapLog) : Prop :=
  before.next ≤ after.next ∧ ∀ address ∈ after.writes, address ∈ before.writes ∨ start ≤ address

theorem WritesFrom.trans {start : Nat} {first second third : HeapLog}
    (left : WritesFrom start first second) (right : WritesFrom start second third) :
    WritesFrom start first third := by
  refine ⟨left.1.trans right.1, fun address written => ?_⟩
  rcases right.2 address written with earlier | own
  · exact left.2 address earlier
  · exact .inr own

theorem writesFrom_allocated (start : Nat) (log : HeapLog) : WritesFrom start log log.allocated :=
  ⟨Nat.le_succ _, fun _ => .inl⟩

theorem writesFrom_written {start address : Nat} (fresh : start ≤ address) (log : HeapLog) :
    WritesFrom start log (log.written address) := by
  refine ⟨le_refl _, fun other written => ?_⟩
  rcases List.mem_append.mp written with earlier | own
  · exact .inl earlier
  · rw [List.mem_singleton.mp own]
    exact .inr fresh

mutual

theorem writesFrom_deepcopy : ∀ (start : Nat) (object : PyObject) (log : HeapLog),
    WritesFrom start log (deepcopy object log).2
  | _, .leaf _ _, _ => ⟨le_refl _, fun _ => .inl⟩
  | start, .dict _ items, log =>
      (writesFrom_allocated start log).trans (writesFrom_deepcopyItems start items log.allocated)

theorem writesFrom_deepcopyItems : ∀ (start : Nat) (items : List (String × PyObject))
    (log : HeapLog), WritesFrom start log (deepcopyItems items log).2
  | _, [], _ => ⟨le_refl _, fun _ => .inl⟩
  | start, (_, object) :: rest, log =>
      (writesFrom_deepcopy start object log).trans (writesFrom_deepcopyItems start rest _)

end

mutual

/-- A call below another one writes only dicts that it allocates. -/
theorem writesFrom_assigned : ∀ (start : Nat) (base : Option PyObject) (override : PyObject)
    (log : HeapLog), start ≤ log.next → WritesFrom start log (assigned base override log).2
  | start, base, .leaf held kind, log, _ => by
      cases base with
      | none => exact writesFrom_deepcopy start _ log
      | some object => cases object <;> exact writesFrom_deepcopy start _ log
  | start, none, .dict _ _, log, _ => writesFrom_deepcopy start _ log
  | start, some (.leaf _ _), .dict _ _, log, _ => writesFrom_deepcopy start _ log
  | start, some (.dict _ base), .dict _ override, log, le => by
      have shallow := (writesFrom_allocated start log).trans
        (writesFrom_allocated start log.allocated)
      have copied := shallow.trans (writesFrom_deepcopyItems start base log.allocated.allocated)
      exact copied.trans (writesFrom_mergeItems start _ _ override _
        (le.trans (Nat.le_succ _)) (le.trans copied.1))

theorem writesFrom_mergeItems : ∀ (start address : Nat) (merged override : List (String × PyObject))
    (log : HeapLog), start ≤ address → start ≤ log.next →
      WritesFrom start log (mergeItems address merged override log).2
  | _, _, _, [], _, _, _ => ⟨le_refl _, fun _ => .inl⟩
  | start, address, merged, (key, object) :: rest, log, fresh, le => by
      have found := writesFrom_assigned start (merged.lookup key) object log le
      have written := found.trans (writesFrom_written fresh _)
      exact written.trans (writesFrom_mergeItems start address _ rest _ fresh (le.trans written.1))

end

end Objects

section Laws

/-- The arguments of a call, whose dicts are allocated and have distinct keys. -/
structure MergeCall where
  base : List (String × PyObject)
  override : List (String × PyObject)
  log : HeapLog
  allocated : ∀ address ∈ PyObject.itemAddresses base ++ PyObject.itemAddresses override,
    address < log.next
  unwritten : log.writes = []
  distinct : Distinct (.obj (PyObject.itemValues override))

/-- At every path an override that has a value replaces or merges, and an override without one keeps
the value of the base unless a value above the path replaces it. -/
structure MergeLaws (base override : Fields) : Prop where
  replaced : ∀ path value, valueAt path (.obj override) = some value →
    ((∀ fields, value ≠ .obj fields) ∨
      ∀ under, valueAt path (.obj base) ≠ some (.obj under)) →
        valueAt path (.obj (deepMerge base override)) = some value
  merged : ∀ path under fields, valueAt path (.obj base) = some (.obj under) →
    valueAt path (.obj override) = some (.obj fields) →
      valueAt path (.obj (deepMerge base override)) = some (.obj (deepMerge under fields))
  kept : ∀ path, valueAt path (.obj override) = none → ¬ Replaced path (.obj override) →
    valueAt path (.obj (deepMerge base override)) = valueAt path (.obj base)
  dropped : ∀ path, valueAt path (.obj override) = none → Replaced path (.obj override) →
    valueAt path (.obj (deepMerge base override)) = none
  repeated : deepMerge (deepMerge base override) override = deepMerge base override
  empty : deepMerge base [] = base ∧ deepMerge [] override = override

theorem deepMerge_laws (base override : Fields) (distinct : Distinct (.obj override)) :
    MergeLaws base override where
  replaced := by
    intro path value given kind
    have merged := (valueAt_mergeValue path (some (.obj base)) (.obj override) distinct).1 value given
    refine merged.trans ?_
    rw [Option.bind_some]
    rcases kind with leaf | missing
    · rw [mergeValue_leaf leaf]
    · rw [mergeValue_of_not_dict missing]
  merged := by
    intro path under fields held given
    have merged := (valueAt_mergeValue path (some (.obj base)) (.obj override) distinct).1 _ given
    rw [Option.bind_some, held] at merged
    exact merged
  kept := fun path missing =>
    ((valueAt_mergeValue path (some (.obj base)) _ distinct).2 missing).2
  dropped := fun path missing =>
    ((valueAt_mergeValue path (some (.obj base)) _ distinct).2 missing).1
  repeated := Json.obj.inj (mergeValue_again (.obj override) distinct (some (.obj base)))
  empty := ⟨rfl, deepMerge_nil override distinct.1⟩

/-- A call returns the merge of the values of its arguments and writes into no dict of them. -/
theorem deepMerge_returns (call : MergeCall) :
    let base := PyObject.itemValues call.base
    let override := PyObject.itemValues call.override
    let result := PyObject.deepMerge call.base call.override call.log
    result.1.value = .obj (deepMerge base override) ∧ MergeLaws base override ∧
      ∀ address ∈ result.2.writes,
        address ∉ PyObject.itemAddresses call.base ++ PyObject.itemAddresses call.override := by
  refine ⟨?_, deepMerge_laws _ _ call.distinct, fun address written argument => ?_⟩
  · rw [PyObject.deepMerge, value_mergeItems, itemValues_deepcopyItems]
  · have copied := (writesFrom_allocated call.log.next call.log).trans
      (writesFrom_deepcopyItems call.log.next call.base call.log.allocated)
    have merged := copied.trans (writesFrom_mergeItems call.log.next call.log.next
      (PyObject.deepcopyItems call.base call.log.allocated).1 call.override _ (le_refl _) copied.1)
    rcases merged.2 address written with earlier | fresh
    · rw [call.unwritten] at earlier
      cases earlier
    · exact absurd (call.allocated address argument) (Nat.not_lt.mpr fresh)

/-- A merge of an estimate into a payload, with nested dicts on both sides. -/
def nestedCall : MergeCall where
  base := [
    ("estimate", .dict 0 [
      ("total", .leaf (.int 5) fun _ same => by cases same),
      ("terms", .dict 1 [("net", .leaf (.int 30) fun _ same => by cases same)])])]
  override := [
    ("estimate", .dict 2 [
      ("terms", .dict 3 [("net", .leaf (.int 10) fun _ same => by cases same)])]),
    ("customer", .dict 4 [])]
  log := ⟨5, []⟩
  allocated := by decide
  unwritten := rfl
  distinct := by simp [Distinct, DistinctFields, PyObject.itemValues, PyObject.value]

/-- The nested dicts are merged, and no dict of the two payloads is written. -/
theorem deepMerge_returns_nested :
    (PyObject.deepMerge nestedCall.base nestedCall.override nestedCall.log).1.value =
      .obj [("estimate", .obj [("total", .int 5), ("terms", .obj [("net", .int 10)])]),
        ("customer", .obj [])] ∧
    ∀ address ∈ (PyObject.deepMerge nestedCall.base nestedCall.override nestedCall.log).2.writes,
      address ∉ [0, 1, 2, 3, 4] := by
  obtain ⟨value, _, unwritten⟩ := deepMerge_returns nestedCall
  exact ⟨value, unwritten⟩

/-- Below a replaced dict the value of the base is gone, although the override has none there. -/
theorem deepMerge_not_kept :
    ¬ ∀ (base override : Fields) (path : List String),
      Distinct (.obj base) → Distinct (.obj override) → valueAt path (.obj override) = none →
        valueAt path (.obj (deepMerge base override)) = valueAt path (.obj base) := by
  intro kept
  have lost := kept [("a", .obj [("b", .int 1)])] [("a", .int 5)] ["a", "b"]
    (by simp [Distinct, DistinctFields]) (by simp [Distinct, DistinctFields]) rfl
  cases lost

end Laws

end AgentFabric.Renovation.MvpWorkflow
