import AgentFabric.Construction.Cloud.ScheduledJob
import AgentFabric.Foundation.Effect

namespace AgentFabric.Phase1

/-- A memory belongs to one agent in one session of one user. -/
structure MemoryScope where
  userId : String
  sessionId : String
  agentId : String
  deriving DecidableEq

variable (scope : MemoryScope)

def MemoryScope.keyPrefix : String :=
  scope.userId ++ ":" ++ scope.sessionId ++ ":" ++ scope.agentId

/-- The store keeps every record under the joined text of its scope and key. -/
def composite (key : String) : String := scope.keyPrefix ++ ":" ++ key

/-- A record holds a JSON value and the text of its expiry. -/
structure MemoryItem where
  value : Json
  expiresAt : Option String

/-- The records are a dict in memory and the document that the storage file holds. -/
structure ScopedMemoryStore where
  records : Dict String MemoryItem
  storageFile : Option (Dict String MemoryItem)

namespace ScopedMemoryStore

/-- A new store has no record and no file. -/
def initial : ScopedMemoryStore := ⟨Dict.empty, none⟩

/-- `json.loads` reads the sorted form of what `json.dumps` with `sort_keys` wrote. -/
def dumped (records : Dict String MemoryItem) : Dict String MemoryItem :=
  (records.mapValues fun item => { item with value := item.value.sortKeys }).sorted

variable (store : ScopedMemoryStore)

/-- A store on an existing file starts with the records of the file. -/
def load : ScopedMemoryStore :=
  match store.storageFile with
  | some records => { store with records }
  | none => { store with records := Dict.empty }

def persist : ScopedMemoryStore :=
  { store with storageFile := some (dumped store.records) }

/-- The time of expiry of a write, which lies outside the calendar for a distant one. -/
def expiry (now : UtcTime) (ttlSeconds : Option Int) : Except PyError (Option UtcTime) :=
  match ttlSeconds with
  | none => .ok none
  | some seconds => do
      let micros ← Cloud.CronParser.timedelta seconds
      let expiresAt ← Cloud.CronParser.add now.toDateTime micros
      .ok (some ⟨expiresAt.wall⟩)

def set (now : UtcTime) (scope : MemoryScope) (key : String) (value : Json)
    (ttlSeconds : Option Int) : Effect ScopedMemoryStore Unit := do
  let expiresAt ← Effect.ofExcept (expiry now ttlSeconds)
  let store ← MonadState.get
  MonadStateOf.set (persist { store with
    records := store.records.set (composite scope key) ⟨value, expiresAt.map UtcTime.isoformat⟩ })

/-- A record without an expiry text never expires. -/
def expired (now : UtcTime) (item : MemoryItem) : Except PyError Bool :=
  match item.expiresAt with
  | none => .ok false
  | some text =>
      if text = "" then .ok false
      else match DateTime.fromisoformat text with
        | none => .error (.valueError ("Invalid isoformat string: '" ++ text ++ "'"))
        | some expiresAt =>
            match expiresAt.later? now.toDateTime with
            | none => .error (.typeError "can't compare offset-naive and offset-aware datetimes")
            | some later => .ok !later

/-- A read deletes an expired record and returns None for it. -/
def get (now : UtcTime) (scope : MemoryScope) (key : String) : Effect ScopedMemoryStore Json := do
  let store ← MonadState.get
  match store.records.get? (composite scope key) with
  | none => pure .null
  | some item =>
      if ← Effect.ofExcept (expired now item) then
        MonadStateOf.set (persist { store with records := store.records.erase (composite scope key) })
        pure .null
      else pure item.value

/-- The loop of `purge_expired` counts the records that it deletes. -/
def purgeKeys (now : UtcTime) : List String → Nat → Effect ScopedMemoryStore Nat
  | [], removed => pure removed
  | key :: rest, removed => do
      let store ← MonadState.get
      match store.records.get? key with
      | none => throw (.keyError key)
      | some item =>
          if ← Effect.ofExcept (expired now item) then
            MonadStateOf.set { store with records := store.records.erase key }
            purgeKeys now rest (removed + 1)
          else purgeKeys now rest removed

def purgeExpired (now : UtcTime) : Effect ScopedMemoryStore Nat := do
  let store ← MonadState.get
  let removed ← purgeKeys now (store.records.items.map Prod.fst) 0
  if removed = 0 then pure removed
  else
    let purged ← MonadState.get
    MonadStateOf.set (persist purged)
    pure removed

end ScopedMemoryStore

/-- The operations of a store at one reading of the clock. -/
inductive MemoryOperation where
  | set (scope : MemoryScope) (key : String) (value : Json) (ttlSeconds : Option Int)
  | get (scope : MemoryScope) (key : String)
  | purgeExpired
  | reload

/-- The store after one operation, which keeps its writes when it raises. -/
def ScopedMemoryStore.step (store : ScopedMemoryStore) (now : UtcTime) :
    MemoryOperation → ScopedMemoryStore
  | .set scope key value ttlSeconds => ((set now scope key value ttlSeconds).perform store).2
  | .get scope key => ((get now scope key).perform store).2
  | .purgeExpired => ((purgeExpired now).perform store).2
  | .reload => store.load

/-- The store after a history of timed operations on a new store. -/
def ScopedMemoryStore.after (history : List (UtcTime × MemoryOperation)) : ScopedMemoryStore :=
  history.foldl (fun store entry => store.step entry.1 entry.2) initial

end AgentFabric.Phase1
