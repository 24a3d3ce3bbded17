import AgentFabric.Construction.Persistence.DocumentStore
import AgentFabric.Foundation.Transition

namespace AgentFabric.Persistence
open Transition PersistenceStore

/-- The calls of a persistence store, where a document is a dict. -/
inductive StoreCall where
  | put (collection key : String) (document : List (String × Json))
  | get (collection key : String)
  | delete (collection key : String)
  | list (collection : String)
  | listTenant (collection tenantId : String)
  | keys (collection : String)

/-- The results of the calls. -/
inductive StoreResult where
  | none
  | document (value : Option Json)
  | deleted (found : Bool)
  | documents (values : List Json)
  | keys (names : List String)

/-- Two results are equal in Python. -/
inductive StoreResult.Same : StoreResult → StoreResult → Prop where
  | none : Same .none .none
  | document {first second : Option Json} (same : Option.Rel Json.Same first second) :
      Same (.document first) (.document second)
  | deleted (found : Bool) : Same (.deleted found) (.deleted found)
  | documents {first second : List Json} (same : List.Forall₂ Json.Same first second) :
      Same (.documents first) (.documents second)
  | keys (names : List String) : Same (.keys names) (.keys names)

namespace DocumentStore

variable {State Other : Type}

/-- A store answers one call and moves to its next state. -/
def answer (store : DocumentStore State) : Machine State StoreCall (Except PyError StoreResult)
  | state, .put collection key document =>
      match store.put state collection key (.obj document) with
      | .ok next => (.ok .none, next)
      | .error error => (.error error, state)
  | state, .get collection key => (.ok (.document (store.get state collection key)), state)
  | state, .delete collection key =>
      (.ok (.deleted (store.delete state collection key).1), (store.delete state collection key).2)
  | state, .list collection => (.ok (.documents (store.list state collection)), state)
  | state, .listTenant collection tenantId =>
      (.ok (.documents (store.listTenant state collection tenantId)), state)
  | state, .keys collection => (.ok (.keys (store.keys state collection)), state)

/-- Two answers are the same exception or results that are equal in Python. -/
def SameAnswer : Except PyError StoreResult → Except PyError StoreResult → Prop
  | .ok first, .ok second => first.Same second
  | .error first, .error second => first = second
  | _, _ => False

/-- Two stores hold equal documents under the same collections and keys. -/
def Holding (store : DocumentStore State) (other : DocumentStore Other) (state : State)
    (otherState : Other) : Prop :=
  ∀ collection key, Option.Rel Json.Same (store.get state collection key)
    (other.get otherState collection key)

/-- Rows with strictly increasing keys and matching lookups match row by row. -/
theorem rows_match {first second : List (String × Json)}
    (firstOrder : (first.map Prod.fst).Pairwise (· < ·))
    (secondOrder : (second.map Prod.fst).Pairwise (· < ·))
    (forward : ∀ row ∈ first, ∃ value, (row.1, value) ∈ second ∧ row.2.Same value)
    (backward : ∀ row ∈ second, ∃ value, (row.1, value) ∈ first) :
    List.Forall₂ (fun left right => left.1 = right.1 ∧ left.2.Same right.2) first second := by
  have keys : first.map Prod.fst = second.map Prod.fst := by
    have perm : (first.map Prod.fst).Perm (second.map Prod.fst) := by
      rw [List.perm_ext_iff_of_nodup firstOrder.nodup secondOrder.nodup]
      intro key
      constructor
      · intro member
        obtain ⟨row, listed, rfl⟩ := List.mem_map.mp member
        obtain ⟨value, found, -⟩ := forward row listed
        exact List.mem_map.mpr ⟨_, found, rfl⟩
      · intro member
        obtain ⟨row, listed, rfl⟩ := List.mem_map.mp member
        obtain ⟨value, found⟩ := backward row listed
        exact List.mem_map.mpr ⟨_, found, rfl⟩
    exact perm.eq_of_pairwise (fun _ _ _ _ below above => absurd below (lt_asymm above))
      firstOrder secondOrder
  rw [List.forall₂_iff_get]
  have lengths : first.length = second.length := by simpa using congrArg List.length keys
  refine ⟨lengths, fun index inFirst inSecond => ?_⟩
  have sameKey : (first.get ⟨index, inFirst⟩).1 = (second.get ⟨index, inSecond⟩).1 := by
    have entries := congrArg (fun names => names[index]?) keys
    simpa [List.getElem?_map, List.getElem?_eq_getElem inFirst,
      List.getElem?_eq_getElem inSecond] using entries
  refine ⟨sameKey, ?_⟩
  obtain ⟨value, found, same⟩ := forward _ (List.get_mem first ⟨index, inFirst⟩)
  have own : (value : Json) = (second.get ⟨index, inSecond⟩).2 := by
    have distinct : (second.map Prod.fst).Nodup := secondOrder.nodup
    have row := List.inj_on_of_nodup_map distinct found (List.get_mem second ⟨index, inSecond⟩)
      sameKey
    exact congrArg Prod.snd row
  rw [← own]
  exact same

/-- Related options are both present or both absent. -/
theorem isSome_of_rel {relation : Json → Json → Prop} {first second : Option Json}
    (related : Option.Rel relation first second) : first.isSome = second.isSome := by
  cases related <;> rfl

variable {store : DocumentStore State} {other : DocumentStore Other} {state : State}
  {otherState : Other}

/-- Two lawful stores that hold equal documents list them in one order under the same keys. -/
theorem Holding.rows (lawful : store.Lawful) (otherLawful : other.Lawful)
    (holding : Holding store other state otherState) (collection : String) :
    List.Forall₂ Json.Same (store.list state collection) (other.list otherState collection) ∧
      store.keys state collection = other.keys otherState collection := by
  obtain ⟨rows, listed, named, ordered, stored⟩ := lawful.keys_rows state collection
  obtain ⟨otherRows, otherListed, otherNamed, otherOrdered, otherStored⟩ :=
    otherLawful.keys_rows otherState collection
  have forward : ∀ row ∈ rows, ∃ value, (row.1, value) ∈ otherRows ∧ row.2.Same value := by
    intro row member
    have present : store.get state collection row.1 = some row.2 := (stored row).mp member
    have related := holding collection row.1
    rw [present] at related
    cases found : other.get otherState collection row.1 with
    | none =>
        rw [found] at related
        cases related
    | some value =>
        rw [found] at related
        cases related with
        | some same => exact ⟨value, (otherStored (row.1, value)).mpr found, same⟩
  have backward : ∀ row ∈ otherRows, ∃ value, (row.1, value) ∈ rows := by
    intro row member
    have present : other.get otherState collection row.1 = some row.2 := (otherStored row).mp member
    have related := holding collection row.1
    rw [present] at related
    cases found : store.get state collection row.1 with
    | none =>
        rw [found] at related
        cases related
    | some value => exact ⟨value, (stored (row.1, value)).mpr found⟩
  have matching := rows_match ordered otherOrdered forward backward
  constructor
  · rw [listed, otherListed, List.forall₂_map_left_iff, List.forall₂_map_right_iff]
    exact matching.imp fun _ _ both => both.2
  · rw [named, otherNamed, ← List.forall₂_eq_eq_eq, List.forall₂_map_left_iff,
      List.forall₂_map_right_iff]
    exact matching.imp fun _ _ both => both.1

/-- Equal documents carry the same text under a key. -/
theorem hasText_same {first second : Json} (same : first.Same second) (key text : String) :
    hasText first key text = hasText second key text := by
  have fields : (first.field? key).map Json.sortKeys = (second.field? key).map Json.sortKeys := by
    rw [← Json.field?_sortKeys, ← Json.field?_sortKeys, same]
  unfold hasText
  cases firstField : first.field? key with
  | none =>
      rw [firstField, Option.map_none] at fields
      rw [Option.map_eq_none_iff.mp fields.symm]
  | some value =>
      cases secondField : second.field? key with
      | none =>
          rw [firstField, secondField] at fields
          cases fields
      | some otherValue =>
          rw [firstField, secondField] at fields
          have sorted : value.sortKeys = otherValue.sortKeys := Option.some.inj fields
          cases value <;> cases otherValue <;> simp [Json.sortKeys] at sorted ⊢
          rw [sorted]

/-- Lists of equal documents keep equal rows of one tenant. -/
theorem listTenant_same {first second : List Json} (same : List.Forall₂ Json.Same first second)
    (tenantId : String) :
    List.Forall₂ Json.Same (first.filter fun row => hasText row "tenant_id" tenantId)
      (second.filter fun row => hasText row "tenant_id" tenantId) := by
  induction same with
  | nil => exact .nil
  | cons head _ ih =>
      rw [List.filter_cons, List.filter_cons, hasText_same head]
      split
      · exact .cons head ih
      · exact ih

/-- One call has equal answers in two lawful stores and keeps their documents equal. -/
theorem answer_same (lawful : store.Lawful) (otherLawful : other.Lawful)
    (holding : Holding store other state otherState) (call : StoreCall) :
    SameAnswer (store.answer state call).1 (other.answer otherState call).1 ∧
      Holding store other (store.answer state call).2 (other.answer otherState call).2 := by
  cases call with
  | put collection key document =>
      obtain ⟨next, written⟩ :=
        lawful.toPersistenceStore.put_succeeds state collection key (.obj document)
      obtain ⟨otherNext, otherWritten⟩ :=
        otherLawful.toPersistenceStore.put_succeeds otherState collection key (.obj document)
      simp only [answer, written, otherWritten]
      refine ⟨.none, fun queryCollection query => ?_⟩
      by_cases hit : (queryCollection, query) = (collection, key)
      · obtain ⟨rfl, rfl⟩ := Prod.mk.inj hit
        obtain ⟨value, present, same⟩ := lawful.toPersistenceStore.get_put_self _ _ _ _ _ written
        obtain ⟨otherValue, otherPresent, otherSame⟩ :=
          otherLawful.toPersistenceStore.get_put_self _ _ _ _ _ otherWritten
        rw [present, otherPresent]
        exact .some (same.trans otherSame.symm)
      · rw [lawful.toPersistenceStore.get_put_of_ne _ _ _ _ _ _ _ written hit,
          otherLawful.toPersistenceStore.get_put_of_ne _ _ _ _ _ _ _ otherWritten hit]
        exact holding queryCollection query
  | get collection key => exact ⟨.document (holding collection key), holding⟩
  | delete collection key =>
      have found : (store.delete state collection key).1 =
          (other.delete otherState collection key).1 := by
        rw [lawful.delete_found, otherLawful.delete_found]
        exact isSome_of_rel (holding collection key)
      refine ⟨?_, fun queryCollection query => ?_⟩
      · show StoreResult.Same (.deleted _) (.deleted _)
        rw [found]
        exact .deleted _
      · simp only [answer]
        rw [lawful.get_delete, otherLawful.get_delete]
        split
        · exact .none
        · exact holding queryCollection query
  | list collection => exact ⟨.documents (holding.rows lawful otherLawful collection).1, holding⟩
  | listTenant collection tenantId =>
      exact ⟨.documents (listTenant_same (holding.rows lawful otherLawful collection).1 tenantId),
        holding⟩
  | keys collection =>
      refine ⟨?_, holding⟩
      show StoreResult.Same (.keys _) (.keys _)
      rw [(holding.rows lawful otherLawful collection).2]
      exact .keys _

/-- Two new lawful stores give equal answers to every sequence of calls. -/
theorem responses_same (lawful : store.Lawful) (otherLawful : other.Lawful)
    (calls : List StoreCall) :
    List.Forall₂ SameAnswer (responses store.answer store.initial calls)
      (responses other.answer other.initial calls) := by
  apply responses_related store.answer other.answer (fun _ _ => True) (Holding store other)
  · intro state otherState call holding _
    exact answer_same lawful otherLawful holding call
  · intro collection key
    rw [lawful.toPersistenceStore.get_initial, otherLawful.toPersistenceStore.get_initial]
    exact .none
  · exact guarded_of_forall _ (fun _ => True) _ _ fun _ _ => trivial

end DocumentStore

/-- The three stores give equal answers to every sequence of calls. -/
theorem stores_interchangeable (calls : List StoreCall) :
    List.Forall₂ DocumentStore.SameAnswer
      (responses MemoryPersistenceStore.documentStore.answer MemoryPersistenceStore.initial calls)
      (responses JsonPersistenceStore.documentStore.answer JsonPersistenceStore.initial calls) ∧
    List.Forall₂ DocumentStore.SameAnswer
      (responses MemoryPersistenceStore.documentStore.answer MemoryPersistenceStore.initial calls)
      (responses SQLitePersistenceStore.documentStore.answer SQLitePersistenceStore.initial calls) ∧
    List.Forall₂ DocumentStore.SameAnswer
      (responses JsonPersistenceStore.documentStore.answer JsonPersistenceStore.initial calls)
      (responses SQLitePersistenceStore.documentStore.answer SQLitePersistenceStore.initial calls) :=
  ⟨DocumentStore.responses_same MemoryPersistenceStore.documentStore_lawful
      JsonPersistenceStore.documentStore_lawful calls,
    DocumentStore.responses_same MemoryPersistenceStore.documentStore_lawful
      SQLitePersistenceStore.documentStore_lawful calls,
    DocumentStore.responses_same JsonPersistenceStore.documentStore_lawful
      SQLitePersistenceStore.documentStore_lawful calls⟩

end AgentFabric.Persistence

namespace AgentFabric.Persistence
open UnitOfWork LastEntry

/-- The collection and key of a change. -/
def Change.target : Change → String × String
  | .put collection key _ => (collection, key)
  | .delete collection key => (collection, key)

variable (changes : List Change)

/-- The last change of one key in a list of changes. -/
def lastChange (collection key : String) : Option Change :=
  lastWhere (fun change => change.target = (collection, key)) changes

/-- The document that a last change leaves under its key. -/
def leaves (prior : Option Json) : Option Change → Option Json
  | none => prior
  | some (.put _ _ document) => some (Json.obj document).sortKeys
  | some (.delete _ _) => none

/-- The documents of a store up to the order of their fields. -/
def DocumentStore.documents {State : Type} (store : DocumentStore State) (state : State)
    (collection key : String) : Option Json :=
  (store.get state collection key).map Json.sortKeys

/-- The documents after some changes of a prior content. -/
def settled (prior : String → String → Option Json) (collection key : String) : Option Json :=
  leaves (prior collection key) (lastChange changes collection key)

/-- A unit that ends with an exception takes back the changes since it was entered. -/
def observe (seen : List Change × List (List Change)) : UnitEvent → List Change × List (List Change)
  | .changed change => (seen.1 ++ [change], seen.2)
  | .entered => (seen.1, seen.1 :: seen.2)
  | .left raised =>
      match seen.2 with
      | [] => seen
      | entry :: outer => (if raised then entry else seen.1, outer)

/-- The changes of a run that no failed unit takes back. -/
def visibleChanges (events : List UnitEvent) : List Change := (events.foldl observe ([], [])).1

variable (backend : Backend) (body : List Statement) (prior : backend.State)

/-- After an exception the store has its prior content, and otherwise every change is visible that
no nested unit has taken back. -/
def Backend.Atomic : Prop :=
  let outcome := backend.unitOfWork body prior
  let documents := backend.store.documents outcome.state.stored
  (outcome.raised = true → documents = backend.store.documents prior) ∧
  (outcome.raised = false →
    documents = settled (visibleChanges outcome.events) (backend.store.documents prior))

/-- Where a change goes: into the transaction of the innermost unit, which has changed nothing yet or
holds the write lock, past a lock that another connection holds, or at once into the store. -/
inductive Phase where
  | fresh
  | holding
  | locked
  | direct
  deriving DecidableEq

/-- A change in a transaction takes the lock. -/
def Phase.changing : Phase → Phase
  | .fresh => .holding
  | phase => phase

/-- A unit that ends takes the connection away from the units around it. -/
def Phase.closing : Phase → Phase
  | .fresh | .direct => .direct
  | .holding | .locked => .locked

namespace Backend

/-- Only a unit of the database opens a transaction. -/
def opening : Backend → Phase → Phase
  | .sqlite, .fresh | .sqlite, .direct => .fresh
  | .sqlite, .holding | .sqlite, .locked => .locked
  | _, phase => phase

/-- Whether an exception takes back what a unit has changed: always in memory, never in the JSON file,
and in the database unless the changes went into the store at once. -/
def takesBack : Backend → Phase → Bool
  | .memory, _ => true
  | .json, _ => false
  | .sqlite, phase => phase ≠ .direct

end Backend

/-- What the text of a statement says about its run: whether it raises, the phase after it, the changes
that stay in the store and the changes that no failed unit takes back. -/
structure Forecast where
  raised : Bool
  phase : Phase
  staying : List Change
  visible : List Change

namespace Backend

variable (backend : Backend)

mutual

def forecast (phase : Phase) : Statement → Forecast
  | .change change =>
      if phase = .locked then ⟨true, phase, [], []⟩
      else ⟨false, phase.changing, [change], [change]⟩
  | .raise => ⟨true, phase, [], []⟩
  | .unit body =>
      let inner := forecastAll (backend.opening phase) body
      ⟨inner.raised, phase.closing,
        if inner.raised && backend.takesBack inner.phase then [] else inner.staying,
        if inner.raised then [] else inner.visible⟩
  | .attempt body => { forecastAll phase body with raised := false }

def forecastAll (phase : Phase) : List Statement → Forecast
  | [] => ⟨false, phase, [], []⟩
  | statement :: rest =>
      let first := forecast phase statement
      if first.raised then first
      else
        let later := forecastAll first.phase rest
        ⟨later.raised, later.phase, first.staying ++ later.staying, first.visible ++ later.visible⟩

end

/-- The last changes that stay and the last visible changes of a unit leave the same documents. -/
def LeavesVisible (body : List Statement) (prior : String → String → Option Json) : Prop :=
  let forecast := backend.forecast .direct (.unit body)
  ∀ collection key, leaves (prior collection key) (lastChange forecast.staying collection key) =
    leaves (prior collection key) (lastChange forecast.visible collection key)

end Backend

section Forecasts

variable {Contents : Type} (update : Contents → Change → Contents)

/-- No transaction of a list holds the write lock. -/
abbrev Unlocked (transactions : List (Option Contents)) : Prop :=
  transactions.any Option.isSome = false

/-- The state in a phase, after some changes in the innermost unit, which was opened over some
contents. Only the database leaves the direct phase. -/
inductive Follows (backend : Backend) (base : Contents) (snapshots : List Contents) :
    List (Option Contents) → List Change → Phase → UnitState Contents → Prop where
  | fresh {outer} : backend = .sqlite → Unlocked outer →
      Follows backend base snapshots (none :: outer) [] .fresh ⟨base, snapshots, none :: outer, true⟩
  | holding {outer made} : backend = .sqlite → Unlocked outer →
      Follows backend base snapshots (none :: outer) made .holding
        ⟨base, snapshots, some (made.foldl update base) :: outer, true⟩
  | cut {outer made} : backend = .sqlite → Unlocked outer →
      Follows backend base snapshots (none :: outer) made .locked
        ⟨base, snapshots, some (made.foldl update base) :: outer, false⟩
  | locked {outer active} : backend = .sqlite → outer.any Option.isSome = true →
      Follows backend base snapshots (none :: outer) [] .locked
        ⟨base, snapshots, none :: outer, active⟩
  | direct {opened made} : Unlocked opened →
      Follows backend base snapshots opened made .direct
        ⟨made.foldl update base, snapshots, opened, false⟩

/-- A run goes as its forecast says. -/
structure Foretold (backend : Backend) (base : Contents) (snapshots : List Contents)
    (opened : List (Option Contents)) (made : List Change) (forecast : Forecast)
    (outcome : Outcome Contents) : Prop where
  raised : outcome.raised = forecast.raised
  follows : Follows update backend base snapshots opened (made ++ forecast.staying) forecast.phase
    outcome.state
  seen : ∀ seen, outcome.events.foldl observe seen = (seen.1 ++ forecast.visible, seen.2)

variable {update} {backend : Backend} {base : Contents} {snapshots : List Contents}
  {opened : List (Option Contents)} {made : List Change} {phase : Phase} {state : UnitState Contents}

/-- A refused change leaves everything as it was. -/
theorem Foretold.refused {change : Change}
    (follows : Follows update backend base snapshots opened made .locked state)
    (refused : write backend update change state = (true, state)) :
    Foretold update backend base snapshots opened made (backend.forecast .locked (.change change))
      (run backend update (.change change) state) := by
  simp only [run, refused, Backend.forecast, if_true]
  refine ⟨rfl, ?_, fun seen => ?_⟩
  · rwa [List.append_nil]
  · rw [List.append_nil]
    rfl

section

variable (follows : Follows update backend base snapshots opened made phase state)
include follows

/-- A change is refused exactly in the locked phase. -/
theorem Follows.change (change : Change) :
    Foretold update backend base snapshots opened made (backend.forecast phase (.change change))
      (run backend update (.change change) state) := by
  cases follows with
  | @fresh outer sqlite free =>
      subst sqlite
      have grown : Follows update .sqlite base snapshots (none :: outer) [change] .holding
          ⟨base, snapshots, some (update base change) :: outer, true⟩ := .holding rfl free
      simp only [run, write, free, Bool.false_eq_true, if_false]
      exact ⟨rfl, grown, fun _ => rfl⟩
  | holding sqlite free =>
      subst sqlite
      refine ⟨rfl, ?_, fun _ => rfl⟩
      simp only [run, write, ← List.foldl_concat]
      exact .holding rfl free
  | cut sqlite free =>
      subst sqlite
      exact .refused (.cut rfl free) rfl
  | @locked outer active sqlite lock =>
      subst sqlite
      refine .refused (.locked rfl lock) ?_
      cases active with
      | false => simp only [write, List.any_cons, lock, Bool.or_true, if_true]
      | true => simp only [write, lock, if_true]
  | direct free =>
      have written : write backend update change ⟨made.foldl update base, snapshots, opened, false⟩ =
          (false, ⟨(made ++ [change]).foldl update base, snapshots, opened, false⟩) := by
        rw [List.foldl_concat]
        cases backend with
        | memory => rfl
        | json => rfl
        | sqlite => simp only [write, free, Bool.false_eq_true, if_false]
      simp only [run, written]
      exact ⟨rfl, .direct free, fun _ => rfl⟩

/-- A unit is entered with nothing made. -/
theorem Follows.enter :
    Follows update backend state.stored (enter backend state).snapshots
      (enter backend state).transactions [] (backend.opening phase) (enter backend state) := by
  cases follows with
  | fresh sqlite free =>
      subst sqlite
      exact .fresh rfl free
  | holding sqlite _ =>
      subst sqlite
      exact .locked rfl rfl
  | cut sqlite _ =>
      subst sqlite
      exact .locked rfl rfl
  | locked sqlite lock =>
      subst sqlite
      exact .locked rfl lock
  | direct free =>
      cases backend with
      | memory => exact .direct free
      | json => exact .direct free
      | sqlite => exact .fresh rfl free

end

theorem Follows.stored (follows : Follows update backend base snapshots opened made .direct state) :
    state.stored = made.foldl update base := by
  cases follows
  rfl

theorem Follows.directly (follows : Follows update backend base snapshots opened made phase state)
    (other : backend ≠ .sqlite) : phase = .direct ∧ Unlocked opened ∧
      state = ⟨made.foldl update base, snapshots, opened, false⟩ := by
  cases follows with
  | direct free => exact ⟨rfl, free, rfl⟩
  | _ sqlite => exact absurd sqlite other

variable {inside : UnitState Contents} {inner : List Change}

/-- A unit that ends leaves the changes that stay, and none while another unit holds the lock. -/
theorem Follows.exit {last : Phase}
    (follows : Follows update backend state.stored (UnitOfWork.enter backend state).snapshots
      (UnitOfWork.enter backend state).transactions inner last inside) (raised : Bool) :
    let staying := if raised && backend.takesBack last then [] else inner
    UnitOfWork.exit backend raised inside =
      ⟨staying.foldl update state.stored, state.snapshots, state.transactions, false⟩ ∧
    (state.transactions.any Option.isSome = true → staying = []) := by
  have unheld (free : Unlocked state.transactions) {staying : List Change}
      (lock : state.transactions.any Option.isSome = true) : staying = [] :=
    (Bool.false_ne_true (free.symm.trans lock)).elim
  cases backend with
  | memory =>
      obtain ⟨rfl, free, rfl⟩ := follows.directly (by decide)
      cases raised <;> exact ⟨rfl, unheld free⟩
  | json =>
      obtain ⟨rfl, free, rfl⟩ := follows.directly (by decide)
      cases raised <;> exact ⟨rfl, unheld free⟩
  | sqlite =>
      obtain ⟨stored, held, transactions, active⟩ := state
      cases follows with
      | fresh _ _ => cases raised <;> exact ⟨rfl, fun _ => rfl⟩
      | holding _ free => cases raised <;> exact ⟨rfl, unheld free⟩
      | cut _ free => cases raised <;> exact ⟨rfl, unheld free⟩
      | locked _ _ => cases raised <;> exact ⟨rfl, fun _ => rfl⟩
      | direct free => cases raised <;> exact ⟨rfl, unheld free⟩

/-- After a nested unit the unit around it has lost its connection. -/
theorem Follows.unit {last : Phase}
    (before : Follows update backend base snapshots opened made phase state)
    (follows : Follows update backend state.stored (UnitOfWork.enter backend state).snapshots
      (UnitOfWork.enter backend state).transactions inner last inside) (raised : Bool) :
    Follows update backend base snapshots opened
      (made ++ if raised && backend.takesBack last then [] else inner) phase.closing
      (UnitOfWork.exit backend raised inside) := by
  obtain ⟨left, none⟩ := follows.exit raised
  generalize (if raised && backend.takesBack last then [] else inner) = staying at left none ⊢
  rw [left]
  cases before with
  | fresh _ free => exact .direct free
  | holding sqlite free =>
      obtain rfl := none rfl
      rw [List.append_nil]
      exact .cut sqlite free
  | cut sqlite free =>
      obtain rfl := none rfl
      rw [List.append_nil]
      exact .cut sqlite free
  | locked sqlite lock =>
      obtain rfl := none lock
      exact .locked sqlite lock
  | direct free =>
      rw [← List.foldl_append]
      exact .direct free

mutual

/-- Every statement runs as its forecast says. -/
theorem Follows.run : ∀ (statement : Statement) {base : Contents} {opened : List (Option Contents)}
    {snapshots : List Contents} {made : List Change} {phase : Phase} {state : UnitState Contents},
    Follows update backend base snapshots opened made phase state →
      Foretold update backend base snapshots opened made (backend.forecast phase statement)
        (UnitOfWork.run backend update statement state)
  | .change change, _, _, _, _, _, _, follows => follows.change change
  | .raise, _, _, _, made, _, _, follows => by
      refine ⟨rfl, ?_, fun seen => ?_⟩
      · simpa [Backend.forecast, UnitOfWork.run] using follows
      · simp [Backend.forecast, UnitOfWork.run]
  | .unit body, _, _, _, _, phase, state, follows => by
      have inner := Follows.runAll body follows.enter
      simp only [UnitOfWork.run, Backend.forecast, inner.raised]
      refine ⟨rfl, follows.unit inner.follows _, fun seen => ?_⟩
      simp only [List.foldl_cons, List.cons_append, List.foldl_append, List.foldl_nil, observe,
        inner.seen]
      cases (backend.forecastAll (backend.opening phase) body).raised <;> simp
  | .attempt body, _, _, _, _, _, _, follows => by
      have inner := Follows.runAll body follows
      exact ⟨rfl, inner.follows, inner.seen⟩

theorem Follows.runAll : ∀ (body : List Statement) {base : Contents}
    {opened : List (Option Contents)} {snapshots : List Contents} {made : List Change}
    {phase : Phase} {state : UnitState Contents},
    Follows update backend base snapshots opened made phase state →
      Foretold update backend base snapshots opened made (backend.forecastAll phase body)
        (UnitOfWork.runAll backend update body state)
  | [], _, _, _, made, _, _, follows => by
      refine ⟨rfl, ?_, fun seen => ?_⟩
      · simpa [Backend.forecastAll, UnitOfWork.runAll] using follows
      · simp [Backend.forecastAll, UnitOfWork.runAll]
  | statement :: rest, _, _, _, _, _, _, follows => by
      have head := Follows.run statement follows
      have later := Follows.runAll rest head.follows
      simp only [UnitOfWork.runAll, Backend.forecastAll, head.raised]
      split
      · exact head
      · refine ⟨later.raised, ?_, fun seen => ?_⟩
        · rw [← List.append_assoc]
          exact later.follows
        · rw [List.foldl_append, head.seen, later.seen, List.append_assoc]

end

end Forecasts

section Contents

variable {State : Type} {store : DocumentStore State}

theorem documents_changed (lawful : store.Lawful) (state : State) (change : Change)
    (collection key : String) :
    store.documents (store.changed state change) collection key =
      if change.target = (collection, key) then leaves none (some change)
      else store.documents state collection key := by
  by_cases same : change.target = (collection, key)
  · rw [if_pos same]
    cases change with
    | put written name document =>
        obtain ⟨rfl, rfl⟩ := Prod.mk.inj same
        obtain ⟨next, stored⟩ :=
          lawful.toPersistenceStore.put_succeeds state written name (.obj document)
        obtain ⟨read, present, equal⟩ := lawful.toPersistenceStore.get_put_self _ _ _ _ _ stored
        simp only [DocumentStore.changed, stored, DocumentStore.documents, present]
        exact congrArg some equal
    | delete written name =>
        obtain ⟨rfl, rfl⟩ := Prod.mk.inj same
        simp [DocumentStore.changed, DocumentStore.documents, lawful.get_delete, leaves]
  · rw [if_neg same]
    cases change with
    | put written name document =>
        obtain ⟨next, stored⟩ :=
          lawful.toPersistenceStore.put_succeeds state written name (.obj document)
        simp only [DocumentStore.changed, stored, DocumentStore.documents]
        rw [lawful.toPersistenceStore.get_put_of_ne _ _ _ _ _ _ _ stored (Ne.symm same)]
    | delete written name =>
        have apart : ¬ (collection = written ∧ key = name) :=
          fun both => same (Prod.ext both.1.symm both.2.symm)
        simp only [DocumentStore.changed, DocumentStore.documents, lawful.get_delete, if_neg apart]

/-- The documents of a store after some changes. -/
theorem documents_foldl (lawful : store.Lawful) (changes : List Change) (state : State) :
    store.documents (changes.foldl store.changed state) =
      settled changes (store.documents state) := by
  induction changes using List.reverseRecOn with
  | nil => rfl
  | append_singleton earlier change ih =>
      funext collection key
      rw [List.foldl_append, List.foldl_cons, List.foldl_nil, documents_changed lawful, ih]
      simp only [settled, lastChange, lastWhere_append]
      by_cases same : change.target = (collection, key)
      · rw [if_pos same, if_pos (decide_eq_true same)]
        cases change <;> rfl
      · rw [if_neg same, if_neg (by simp [same])]

end Contents

theorem Backend.store_lawful : backend.store.Lawful := by
  cases backend with
  | memory => exact MemoryPersistenceStore.documentStore_lawful
  | json => exact JsonPersistenceStore.documentStore_lawful
  | sqlite => exact SQLitePersistenceStore.documentStore_lawful

/-- An outermost unit of work runs as its forecast says. -/
theorem Backend.unitOfWork_foretold :
    Foretold backend.store.changed backend prior [] [] [] (backend.forecast .direct (.unit body))
      (backend.unitOfWork body prior) :=
  Follows.run (.unit body) (.direct rfl)

/-- A unit of work is atomic exactly when the changes that stay leave the documents of the visible
ones. -/
theorem Backend.atomic_iff :
    backend.Atomic body prior ↔ backend.LeavesVisible body (backend.store.documents prior) := by
  have foretold := backend.unitOfWork_foretold body prior
  have stored : (backend.unitOfWork body prior).state.stored =
      (backend.forecast .direct (.unit body)).staying.foldl backend.store.changed prior :=
    foretold.follows.stored
  have seen : visibleChanges (backend.unitOfWork body prior).events =
      (backend.forecast .direct (.unit body)).visible := by
    rw [visibleChanges, foretold.seen]
    rfl
  have same : backend.LeavesVisible body (backend.store.documents prior) ↔
      settled (backend.forecast .direct (.unit body)).staying (backend.store.documents prior) =
        settled (backend.forecast .direct (.unit body)).visible (backend.store.documents prior) := by
    rw [funext_iff]
    exact forall_congr' fun collection => funext_iff.symm
  unfold Backend.Atomic
  dsimp only
  rw [stored, documents_foldl backend.store_lawful, seen, foretold.raised, same]
  cases raised : (backend.forecast .direct (.unit body)).raised with
  | true =>
      have none : (backend.forecast .direct (.unit body)).visible = [] := by
        simp only [Backend.forecast] at raised ⊢
        rw [if_pos raised]
      rw [none]
      simp [settled, lastChange, lastWhere, leaves, funext_iff]
  | false => simp

section Always

mutual

/-- Without transactions every change that stays in memory is visible. -/
theorem forecast_memory : ∀ (statement : Statement),
    (Backend.memory.forecast .direct statement).phase = .direct ∧
      (Backend.memory.forecast .direct statement).staying =
        (Backend.memory.forecast .direct statement).visible
  | .change _ | .raise => ⟨rfl, rfl⟩
  | .unit body => by
      have inner := forecastAll_memory body
      refine ⟨rfl, ?_⟩
      simp only [Backend.forecast, Backend.opening, Backend.takesBack, Bool.and_true, inner.2]
      rfl
  | .attempt body => forecastAll_memory body

theorem forecastAll_memory : ∀ (body : List Statement),
    (Backend.memory.forecastAll .direct body).phase = .direct ∧
      (Backend.memory.forecastAll .direct body).staying =
        (Backend.memory.forecastAll .direct body).visible
  | [] => ⟨rfl, rfl⟩
  | statement :: rest => by
      have head := forecast_memory statement
      have later := forecastAll_memory rest
      simp only [Backend.forecastAll]
      split
      · exact head
      · rw [head.1, head.2, later.2]
        exact ⟨later.1, rfl⟩

end

mutual

/-- A statement without a unit in it. -/
def Plain : Statement → Prop
  | .change _ | .raise => True
  | .unit _ => False
  | .attempt body => PlainAll body

def PlainAll : List Statement → Prop
  | [] => True
  | statement :: rest => Plain statement ∧ PlainAll rest

end

mutual

/-- Changes without a nested unit stay in the transaction. -/
theorem forecast_plain (backend : Backend) : ∀ (statement : Statement) (phase : Phase),
    Plain statement → phase ≠ .direct →
    (backend.forecast phase statement).phase ≠ .direct ∧
      (backend.forecast phase statement).staying = (backend.forecast phase statement).visible
  | .change _, phase, _, transactional => by
      cases phase with
      | direct => exact absurd rfl transactional
      | _ => exact ⟨nofun, rfl⟩
  | .raise, _, _, transactional => ⟨transactional, rfl⟩
  | .unit _, _, plain, _ => plain.elim
  | .attempt body, phase, plain, transactional =>
      forecastAll_plain backend body phase plain transactional

theorem forecastAll_plain (backend : Backend) : ∀ (body : List Statement) (phase : Phase),
    PlainAll body → phase ≠ .direct →
    (backend.forecastAll phase body).phase ≠ .direct ∧
      (backend.forecastAll phase body).staying = (backend.forecastAll phase body).visible
  | [], _, _, transactional => ⟨transactional, rfl⟩
  | statement :: rest, phase, plain, transactional => by
      have head := forecast_plain backend statement phase plain.1 transactional
      have later := forecastAll_plain backend rest _ plain.2 head.1
      simp only [Backend.forecastAll]
      split
      · exact head
      · rw [head.2, later.2]
        exact ⟨later.1, rfl⟩

end

end Always

/-- A unit of work over the memory store is always atomic, and over the database when no unit is
nested in it. Over the JSON file and the database it is atomic exactly when, for every key, the last
change that stays leaves the same document as the last visible change. -/
theorem unitOfWork_atomic_iff (body : List Statement) :
    (∀ prior, Backend.memory.Atomic body prior) ∧
    (PlainAll body → ∀ prior, Backend.sqlite.Atomic body prior) ∧
    ∀ (backend : Backend) (prior : backend.State),
      backend.Atomic body prior ↔ backend.LeavesVisible body (backend.store.documents prior) := by
  refine ⟨fun prior => ?_, fun plain prior => ?_, fun backend => backend.atomic_iff body⟩
  · rw [Backend.atomic_iff]
    intro collection key
    rw [(forecast_memory (.unit body)).2]
  · rw [Backend.atomic_iff]
    intro collection key
    have inner := forecastAll_plain .sqlite body .fresh plain (by decide)
    have same : (Backend.sqlite.forecast .direct (.unit body)).staying =
        (Backend.sqlite.forecast .direct (.unit body)).visible := by
      have taken : Backend.sqlite.takesBack (Backend.sqlite.forecastAll .fresh body).phase = true :=
        decide_eq_true inner.1
      simp only [Backend.forecast, Backend.opening, taken, Bool.and_true, inner.2]
      rfl
    rw [same]

/-- An exception after a deletion in a transaction of the database takes it back. -/
theorem unitOfWork_atomic_plain :
    Backend.sqlite.Atomic [.change (.put "accounts" "a" []),
      .attempt [.change (.delete "accounts" "a"), .raise], .raise]
      SQLitePersistenceStore.initial := by
  apply (unitOfWork_atomic_iff _).2.1
  simp [PlainAll, Plain]

/-- An exception after a change of the JSON file leaves the change, and so does an exception after a
nested unit of the database. -/
theorem unitOfWork_not_atomic :
    ¬ Backend.json.Atomic [.change (.put "accounts" "a" []), .raise] JsonPersistenceStore.initial ∧
    ¬ Backend.sqlite.Atomic [.unit [.change (.put "accounts" "a" [])], .raise]
      SQLitePersistenceStore.initial := by
  constructor
  · intro atomic
    have restored := congrFun (congrFun (atomic.1 rfl) "accounts") "a"
    cases restored
  · intro atomic
    have restored := congrFun (congrFun (atomic.1 rfl) "accounts") "a"
    cases restored

end AgentFabric.Persistence
