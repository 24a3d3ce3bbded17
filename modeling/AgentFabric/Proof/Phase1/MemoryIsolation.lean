import AgentFabric.Construction.Phase1.Memory

namespace AgentFabric.Phase1
open ScopedMemoryStore Effect

/-- A reading of the clock is not before another one. -/
def NotBefore (earlier later : UtcTime) : Prop := earlier.wall.micros ≤ later.wall.micros

variable (history : List (UtcTime × MemoryOperation)) (now : UtcTime)

/-- The times of a history never decrease and end at the latest now. -/
def Ordered : Prop :=
  (history.Pairwise fun first second => NotBefore first.1 second.1) ∧
    ∀ entry ∈ history, NotBefore entry.1 now

/-- What a write leaves to be read. -/
structure Remembered where
  value : Json
  expiresAt : Option UtcTime

def Remembered.expiredAt (remembered : Remembered) (now : UtcTime) : Prop :=
  ∃ expiresAt, remembered.expiresAt = some expiresAt ∧ NotBefore expiresAt now

instance (remembered : Remembered) (now : UtcTime) : Decidable (remembered.expiredAt now) :=
  match present : remembered.expiresAt with
  | none => .isFalse fun ⟨_, found, _⟩ => nomatch present.symm.trans found
  | some expiresAt =>
      if late : expiresAt.wall.micros ≤ now.wall.micros then .isTrue ⟨expiresAt, present, late⟩
      else .isFalse fun ⟨_, found, reached⟩ =>
        late (Option.some.inj (present.symm.trans found) ▸ reached)

variable (selects : MemoryScope → String → Prop)

/-- A successful write of a selected scope and key replaces what was remembered. -/
def remember [∀ scope key, Decidable (selects scope key)]
    (past : Option Remembered) (entry : UtcTime × MemoryOperation) : Option Remembered :=
  match entry.2 with
  | .set scope key value ttlSeconds =>
      if selects scope key then
        match expiry entry.1 ttlSeconds with
        | .ok expiresAt => some ⟨value, expiresAt⟩
        | .error _ => past
      else past
  | _ => past

/-- The latest successful write of the selected scopes and keys. -/
def latest [∀ scope key, Decidable (selects scope key)]
    (history : List (UtcTime × MemoryOperation)) : Option Remembered :=
  history.foldl (remember selects) none

/-- The value of a write until it expires, and None afterwards. -/
def visible : Option Remembered → Json
  | none => .null
  | some remembered => if remembered.expiredAt now then .null else remembered.value

/-- What the latest write under one joined text leaves. -/
abbrev latestText (text : String) : Option Remembered :=
  latest (fun scope key => composite scope key = text) history

/-- A stored record is the latest write under its text, up to the order of fields. -/
structure Stores (item : MemoryItem) (remembered : Remembered) : Prop where
  value : item.value.Same remembered.value
  expiresAt : item.expiresAt = remembered.expiresAt.map UtcTime.isoformat

/-- Nothing is left to be read. -/
def Gone (past : Option Remembered) : Prop :=
  ∀ remembered, past = some remembered → remembered.expiredAt now

/-- The record that a text has in memory or in the file. -/
def Reflects (stored : Option MemoryItem) (past : Option Remembered) : Prop :=
  match stored with
  | some item => ∃ remembered, past = some remembered ∧ Stores item remembered
  | none => Gone now past

/-- The records and the file hold the latest write under each text unless it has expired. -/
structure Faithful (store : ScopedMemoryStore) (now : UtcTime)
    (past : String → Option Remembered) : Prop where
  records : ∀ text, Reflects now (store.records.get? text) (past text)
  file : ∀ text, Reflects now ((store.storageFile.getD Dict.empty).get? text) (past text)

section Readings

variable {now next : UtcTime} {item : MemoryItem} {remembered : Remembered}
  {past : Option Remembered} {stored : Option MemoryItem}

theorem Remembered.expiredAt_later (expired : remembered.expiredAt now)
    (after : NotBefore now next) : remembered.expiredAt next := by
  obtain ⟨expiresAt, present, reached⟩ := expired
  exact ⟨expiresAt, present, le_trans reached after⟩

theorem Reflects.later (reflects : Reflects now stored past) (after : NotBefore now next) :
    Reflects next stored past := by
  cases stored with
  | some item => exact reflects
  | none =>
      intro remembered present
      exact Remembered.expiredAt_later (reflects remembered present) after

/-- The stored text of an expiry is read as the expiry of the write. -/
theorem expired_eq (stores : Stores item remembered) (now : UtcTime) :
    expired now item = .ok (decide (remembered.expiredAt now)) := by
  rw [expired, stores.expiresAt]
  cases present : remembered.expiresAt with
  | none =>
      have never : ¬ remembered.expiredAt now := by
        rintro ⟨expiresAt, found, -⟩
        cases present.symm.trans found
      simp [never]
  | some expiresAt =>
      have reached : remembered.expiredAt now ↔ NotBefore expiresAt now := by
        constructor
        · rintro ⟨other, found, reached⟩
          exact Option.some.inj (present.symm.trans found) ▸ reached
        · exact fun reached => ⟨expiresAt, present, reached⟩
      have read : DateTime.fromisoformat expiresAt.isoformat = some expiresAt.toDateTime :=
        DateTime.fromisoformat_isoformat _
      simp only [Option.map_some, UtcTime.isoformat_ne_empty, if_false, read]
      simp only [DateTime.later?, UtcTime.toDateTime, DateTime.instant, Option.isSome_some,
        if_true, reached, NotBefore]
      congr 1
      rw [Bool.eq_iff_iff]
      simp

/-- A record that reflects a write is read as that write. -/
theorem Reflects.expired_eq {item : MemoryItem} (reflects : Reflects now (some item) past)
    (next : UtcTime) :
    ∃ remembered, past = some remembered ∧ Stores item remembered ∧
      expired next item = .ok (decide (remembered.expiredAt next)) := by
  obtain ⟨remembered, present, stores⟩ := reflects
  exact ⟨remembered, present, stores, Phase1.expired_eq stores next⟩

end Readings

section Stored

variable {store : ScopedMemoryStore} {now : UtcTime} {past : String → Option Remembered}

theorem get?_dumped (records : Dict String MemoryItem) (text : String) :
    (dumped records).get? text =
      (records.get? text).map fun item => { item with value := item.value.sortKeys } := by
  rw [dumped, Dict.get?_sorted, Dict.get?_mapValues]

variable {records : Dict String MemoryItem}

/-- The file of a store that was just written reflects what its records reflect. -/
theorem reflects_dumped {text : String}
    {past : Option Remembered} (reflects : Reflects now (records.get? text) past) :
    Reflects now ((dumped records).get? text) past := by
  rw [get?_dumped]
  cases present : records.get? text with
  | none =>
      rw [present] at reflects
      exact reflects
  | some item =>
      rw [present] at reflects
      obtain ⟨remembered, found, stores⟩ := reflects
      exact ⟨remembered, found, (Json.sortKeys_same item.value).trans stores.value,
        stores.expiresAt⟩

theorem faithful_persist (records : ∀ text, Reflects now (store.records.get? text) (past text)) :
    Faithful store.persist now past :=
  ⟨records, fun text => reflects_dumped (records text)⟩

theorem Faithful.later {next : UtcTime} (faithful : Faithful store now past)
    (after : NotBefore now next) : Faithful store next past :=
  ⟨fun text => (faithful.records text).later after, fun text => (faithful.file text).later after⟩

/-- A reload reads the records back from the file. -/
theorem faithful_load (faithful : Faithful store now past) : Faithful store.load now past := by
  have read : store.load.records = store.storageFile.getD Dict.empty ∧
      store.load.storageFile = store.storageFile := by
    unfold load
    split
    · rename_i records present
      simp [present]
    · rename_i absent
      simp [absent]
  refine ⟨fun text => ?_, fun text => ?_⟩
  · rw [read.1]
    exact faithful.file text
  · rw [read.2]
    exact faithful.file text

/-- The deletion of an expired record is what a later read would do. -/
theorem reflects_erase {text other : String}
    {past : String → Option Remembered}
    (reflects : ∀ text, Reflects now (records.get? text) (past text))
    (gone : Gone now (past text)) : Reflects now ((records.erase text).get? other) (past other) := by
  rw [Dict.get?_erase]
  split
  · rename_i same
    subst same
    exact gone
  · exact reflects other

end Stored

section Operations

variable {store : ScopedMemoryStore} {now : UtcTime} {past : String → Option Remembered}

/-- A write is what is remembered under its text. -/
theorem faithful_set (faithful : Faithful store now past) (scope : MemoryScope) (key : String)
    (value : Json) (ttlSeconds : Option Int) :
    Faithful (store.step now (.set scope key value ttlSeconds)) now fun text =>
      remember (fun scope key => composite scope key = text) (past text)
        (now, .set scope key value ttlSeconds) := by
  show Faithful ((ScopedMemoryStore.set now scope key value ttlSeconds).perform store).2 now _
  rw [ScopedMemoryStore.set, perform_bind, perform_ofExcept]
  simp only [remember]
  cases allowed : expiry now ttlSeconds with
  | error error =>
      simp only [ite_self]
      exact faithful
  | ok expiresAt =>
      refine faithful_persist fun text => ?_
      show Reflects now ((store.records.set _ _).get? text) _
      rw [Dict.get?_set]
      by_cases same : composite scope key = text
      · rw [if_pos same.symm, if_pos same]
        exact ⟨_, rfl, rfl, rfl⟩
      · rw [if_neg (Ne.symm same), if_neg same]
        exact faithful.records text

/-- A read answers with the visible part of the latest write under its text. -/
theorem get_answer (faithful : Faithful store now past) (scope : MemoryScope) (key : String) :
    (∃ value, ((ScopedMemoryStore.get now scope key).perform store).1 = .ok value ∧
      value.Same (visible now (past (composite scope key)))) ∧
    Faithful ((ScopedMemoryStore.get now scope key).perform store).2 now past := by
  have reflects := faithful.records (composite scope key)
  rw [ScopedMemoryStore.get, perform_bind, perform_get]
  dsimp only
  cases present : store.records.get? (composite scope key) with
  | none =>
      rw [present] at reflects
      refine ⟨⟨.null, rfl, ?_⟩, faithful⟩
      cases written : past (composite scope key) with
      | none => rfl
      | some remembered =>
          rw [visible, if_pos (reflects remembered written)]
          rfl
  | some item =>
      rw [present] at reflects
      obtain ⟨remembered, written, stores, read⟩ := reflects.expired_eq now
      rw [perform_bind, perform_ofExcept, read, written, visible]
      dsimp only
      by_cases expired : remembered.expiredAt now
      · rw [if_pos expired, decide_eq_true expired, if_pos rfl]
        refine ⟨⟨.null, rfl, rfl⟩, faithful_persist fun text => ?_⟩
        apply reflects_erase faithful.records
        intro other found
        exact Option.some.inj (written.symm.trans found) ▸ expired
      · rw [if_neg expired, decide_eq_false expired]
        exact ⟨⟨item.value, rfl, stores.value⟩, faithful⟩

/-- The loop deletes only expired records and changes nothing when it counts none. -/
theorem purgeKeys_faithful (file : Option (Dict String MemoryItem)) (keys : List String)
    (distinct : keys.Nodup) (count : Nat) (records : Dict String MemoryItem)
    (present : ∀ key ∈ keys, ∃ item, records.get? key = some item)
    (reflects : ∀ text, Reflects now (records.get? text) (past text)) :
    ∃ removed left, (purgeKeys now keys count).perform ⟨records, file⟩ = (.ok removed, ⟨left, file⟩) ∧
      count ≤ removed ∧ (removed = count → left = records) ∧
      ∀ text, Reflects now (left.get? text) (past text) := by
  induction keys generalizing count records with
  | nil => exact ⟨count, records, rfl, le_rfl, fun _ => rfl, reflects⟩
  | cons key rest ih =>
      obtain ⟨fresh, restDistinct⟩ := List.nodup_cons.mp distinct
      obtain ⟨item, found⟩ := present key (.head _)
      have reflected := reflects key
      rw [found] at reflected
      obtain ⟨remembered, written, -, read⟩ := reflected.expired_eq now
      rw [purgeKeys, perform_bind, perform_get]
      simp only [found]
      rw [perform_bind, perform_ofExcept, read]
      dsimp only
      by_cases expired : remembered.expiredAt now
      · rw [decide_eq_true expired, if_pos rfl, perform_bind, perform_set]
        obtain ⟨removed, left, performed, counted, -, kept⟩ := ih restDistinct (count + 1)
          (records.erase key)
          (fun other member => by
            have different : other ≠ key := fun same => fresh (same ▸ member)
            rw [Dict.get?_erase_of_ne _ different]
            exact present other (.tail _ member))
          (fun text => reflects_erase reflects fun other stored =>
            Option.some.inj (written.symm.trans stored) ▸ expired)
        exact ⟨removed, left, performed, by omega, by omega, kept⟩
      · rw [decide_eq_false expired]
        exact ih restDistinct count records
          (fun other member => present other (.tail _ member)) reflects

theorem faithful_purgeExpired (faithful : Faithful store now past) :
    Faithful ((purgeExpired now).perform store).2 now past := by
  obtain ⟨records, file⟩ := store
  have present : ∀ key ∈ records.items.map Prod.fst, ∃ item, records.get? key = some item :=
    fun key member => (records.mem_keys_iff key).mp member
  obtain ⟨removed, left, performed, -, unchanged, kept⟩ := @purgeKeys_faithful now _ file
    (records.items.map Prod.fst) records.distinct 0 records present faithful.records
  rw [purgeExpired, perform_bind, perform_get]
  dsimp only
  rw [perform_bind, performed]
  dsimp only
  by_cases none : removed = 0
  · rw [if_pos none, unchanged none]
    exact faithful
  · rw [if_neg none]
    exact @faithful_persist ⟨left, file⟩ _ _ kept

/-- One operation keeps the records and the file faithful to the writes. -/
theorem faithful_step (faithful : Faithful store now past) (operation : MemoryOperation) :
    Faithful (store.step now operation) now fun text =>
      remember (fun scope key => composite scope key = text) (past text) (now, operation) := by
  cases operation with
  | set scope key value ttlSeconds => exact faithful_set faithful scope key value ttlSeconds
  | get scope key => exact (get_answer faithful scope key).2
  | purgeExpired => exact faithful_purgeExpired faithful
  | reload => exact faithful_load faithful

end Operations

/-- Every history at increasing times leaves the records and the file faithful to its writes. -/
theorem after_faithful (ordered : Ordered history now) :
    Faithful (after history) now (latestText history) := by
  induction history using List.reverseRecOn generalizing now with
  | nil =>
      refine ⟨fun text => ?_, fun text => ?_⟩
      · exact fun remembered present => nomatch present
      · exact fun remembered present => nomatch present
  | append_singleton history entry ih =>
      obtain ⟨pairwise, bounded⟩ := ordered
      rw [List.pairwise_append] at pairwise
      have earlier : Ordered history entry.1 :=
        ⟨pairwise.1, fun other member => pairwise.2.2 other member entry (List.mem_singleton_self _)⟩
      have stepped := faithful_step (ih entry.1 earlier) entry.2
      have reached : after (history ++ [entry]) = (after history).step entry.1 entry.2 := by
        simp [after, List.foldl_append]
      have written : latestText (history ++ [entry]) = fun text =>
          remember (fun scope key => composite scope key = text) (latestText history text)
            entry := by
        funext text
        simp [latestText, latest, List.foldl_append]
      rw [reached, written]
      exact stepped.later (bounded entry (by simp))

variable (used : MemoryScope → String → Prop)

/-- An operation names a scope and key of the given ones, if it names any. -/
def MemoryOperation.Within : MemoryOperation → Prop
  | .set scope key _ _ => used scope key
  | .get scope key => used scope key
  | .purgeExpired => True
  | .reload => True

/-- What the latest write of exactly one scope and key leaves. -/
abbrev latestOf (scope : MemoryScope) (key : String) : Option Remembered :=
  latest (fun writtenScope writtenKey => writtenScope = scope ∧ writtenKey = key) history

/-- Every read returns the latest write of its own scope and key until that write expires. -/
def Isolated : Prop :=
  ∀ (history : List (UtcTime × MemoryOperation)) (now : UtcTime), Ordered history now →
    (∀ entry ∈ history, entry.2.Within used) → ∀ scope key, used scope key →
      ∃ value, ((ScopedMemoryStore.get now scope key).perform (after history)).1 = .ok value ∧
        value.Same (visible now (latestOf history scope key))

/-- Selections that agree on every write of a history have the same latest write. -/
theorem latest_congr (selects other : MemoryScope → String → Prop)
    [∀ scope key, Decidable (selects scope key)] [∀ scope key, Decidable (other scope key)]
    (used : MemoryScope → String → Prop)
    (agree : ∀ scope key, used scope key → (selects scope key ↔ other scope key))
    (history : List (UtcTime × MemoryOperation))
    (within : ∀ entry ∈ history, entry.2.Within used) :
    latest selects history = latest other history := by
  induction history using List.reverseRecOn with
  | nil => rfl
  | append_singleton history entry ih =>
      have earlier := ih fun other member => within other (List.mem_append_left _ member)
      have last : entry.2.Within used := within entry (by simp)
      simp only [latest, List.foldl_append, List.foldl_cons, List.foldl_nil] at earlier ⊢
      rw [earlier]
      obtain ⟨time, operation⟩ := entry
      cases operation with
      | set scope key value ttlSeconds => simp only [remember, agree scope key last]
      | get scope key => rfl
      | purgeExpired => rfl
      | reload => rfl

/-- A write under the joined text of another scope and key is returned for it. -/
theorem not_isolated_of_collision {scope other : MemoryScope}
    {key name : String} (written : used scope key) (read : used other name)
    (same : composite scope key = composite other name) (different : ¬ (scope = other ∧ key = name)) :
    ¬ Isolated used := by
  intro isolated
  obtain ⟨value, answered, expected⟩ :=
    isolated [(UtcTime.first, .set scope key (.str "x") none)] UtcTime.first
      ⟨List.pairwise_singleton _ _, fun entry member => by
        rw [List.mem_singleton.mp member]
        exact le_rfl⟩
      (fun entry member => by
        rw [List.mem_singleton.mp member]
        exact written) other name read
  have nothing : latestOf [(UtcTime.first, .set scope key (.str "x") none)] other name = none := by
    simp [latest, remember, different]
  have stored : (after
      [(UtcTime.first, .set scope key (.str "x") none)]).records.get? (composite other name) =
        some ⟨.str "x", none⟩ := by
    rw [← same]
    exact Dict.get?_set_self _ _ _
  have returned : ((ScopedMemoryStore.get UtcTime.first other name).perform
      (after [(UtcTime.first, .set scope key (.str "x") none)])).1 = .ok (.str "x") := by
    rw [ScopedMemoryStore.get, perform_bind, perform_get]
    simp only [stored]
    rfl
  rw [nothing] at expected
  cases answered.symm.trans returned
  cases expected

/-- The reads of the scopes and keys in use are isolated exactly when no two of them join to one
text. -/
theorem memory_isolated_iff (used : MemoryScope → String → Prop) :
    Isolated used ↔ ∀ scope key other name, used scope key → used other name →
      composite scope key = composite other name → scope = other ∧ key = name := by
  constructor
  · intro isolated scope key other name written read same
    by_contra different
    exact not_isolated_of_collision used written read same different isolated
  · intro separated history now ordered within scope key asked
    obtain ⟨value, answered, same⟩ := (get_answer (after_faithful history now ordered) scope key).1
    refine ⟨value, answered, ?_⟩
    have own : latestText history (composite scope key) = latestOf history scope key := by
      apply latest_congr _ _ used _ history within
      intro writtenScope writtenKey written
      constructor
      · exact separated writtenScope writtenKey scope key written asked
      · rintro ⟨rfl, rfl⟩
        rfl
    rw [own] at same
    exact same

/-- A user with a colon in the name writes into the memory of another user. -/
theorem memory_not_isolated : ¬ Isolated fun _ _ => True :=
  @not_isolated_of_collision (fun _ _ => True) ⟨"a:b", "c", "d"⟩ ⟨"a", "b:c", "d"⟩ "k" "k" trivial
    trivial rfl (by decide)

end AgentFabric.Phase1
