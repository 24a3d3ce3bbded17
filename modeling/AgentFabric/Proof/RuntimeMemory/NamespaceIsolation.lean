import AgentFabric.Construction.RuntimeMemory.MemoryStore
import AgentFabric.Foundation.JsonText

namespace AgentFabric.RuntimeMemory
open LastEntry Transition

section Suffix

/-- A name that ends with the suffix of a value has it, unless nothing precedes it. -/
theorem suffix_json (name : String) : suffix (name ++ ".json") = ".json" ↔ name ≠ "" := by
  have extension : ((name ++ ".json").toList.reverse.takeWhile (· ≠ '.')).reverse =
      ['j', 's', 'o', 'n'] := by
    rw [String.toList_append, List.reverse_append]
    rfl
  have length : (name ++ ".json").length = name.length + 5 := String.length_append ..
  unfold suffix
  rw [extension, length]
  by_cases empty : name = ""
  · subst empty
    decide
  · have positive : name.length ≠ 0 := by
      intro zero
      exact empty (String.length_eq_zero_iff.mp zero)
    rw [if_pos ⟨by simp; omega, List.cons_ne_nil _ _⟩]
    exact iff_of_true rfl empty

theorem safe_eq_empty_iff (isalnum : Char → Bool) (text : String) :
    safe isalnum text = "" ↔ text = "" := by
  rw [← String.toList_inj, ← String.toList_inj]
  simp [safe]

end Suffix

section Slots

variable (isalnum : Char → Bool)

/-- The value that the file of an address holds. -/
def MemoryStore.content (store : MemoryStore) (address : MemoryAddress) : Option Json :=
  (store.files (address.scope.directory isalnum)).get? (address.file isalnum)

variable (address : MemoryAddress)

/-- A call is about an address when it names it or its scope. -/
def names : MemoryCall → Bool
  | .get _ => false
  | .set other _ => decide (other = address)
  | .delete other => decide (other = address)
  | .clearSession scope => decide (scope = address.scope)

/-- Two addresses share the file that holds their value. -/
def SameFile (first second : MemoryAddress) : Prop :=
  first.scope.directory isalnum = second.scope.directory isalnum ∧
    first.file isalnum = second.file isalnum

instance (first second : MemoryAddress) : Decidable (SameFile isalnum first second) :=
  inferInstanceAs (Decidable (_ ∧ _))

/-- A call touches an address when it changes its file. -/
def touches : MemoryCall → Bool
  | .get _ => false
  | .set other _ => decide (SameFile isalnum other address)
  | .delete other => decide (SameFile isalnum other address)
  | .clearSession scope =>
      decide (scope.directory isalnum = address.scope.directory isalnum ∧ address.key ≠ "")

/-- The value that a call leaves behind. -/
def left : MemoryCall → Option Json
  | .set _ value => some value
  | _ => none

variable {isalnum} {store : MemoryStore}

theorem files_putFiles (store : MemoryStore) (directory other : String) (files : Dict String Json) :
    (store.putFiles directory files).files other =
      if other = directory then files else store.files other :=
  Dict.getD_set _ _ _ _ _

/-- The creation of a directory leaves every file as it is. -/
theorem files_makeDirectory (store : MemoryStore) (directory other : String) :
    (store.makeDirectory directory).files other = store.files other := by
  rw [MemoryStore.makeDirectory, files_putFiles]
  by_cases same : other = directory
  · rw [if_pos same, same]
  · rw [if_neg same]

theorem content_putFiles (store : MemoryStore) (directory : String) (files : Dict String Json)
    (address : MemoryAddress) :
    (store.putFiles directory files).content isalnum address =
      if address.scope.directory isalnum = directory then files.get? (address.file isalnum)
      else store.content isalnum address := by
  rw [MemoryStore.content, files_putFiles]
  by_cases same : address.scope.directory isalnum = directory
  · rw [if_pos same, if_pos same]
  · rw [if_neg same, if_neg same]
    rfl

theorem content_makeDirectory (store : MemoryStore) (directory : String) (address : MemoryAddress) :
    (store.makeDirectory directory).content isalnum address = store.content isalnum address := by
  rw [MemoryStore.content, files_makeDirectory]
  rfl

theorem content_set (store : MemoryStore) (written address : MemoryAddress) (value : Json) :
    (store.set isalnum written value).content isalnum address =
      if SameFile isalnum written address then some value else store.content isalnum address := by
  unfold MemoryStore.set
  rw [content_putFiles]
  by_cases directory : address.scope.directory isalnum = written.scope.directory isalnum
  · rw [if_pos directory, Dict.get?_set]
    by_cases file : address.file isalnum = written.file isalnum
    · rw [if_pos file, if_pos ⟨directory.symm, file.symm⟩]
    · rw [if_neg file, if_neg fun same => file same.2.symm, MemoryStore.content, directory]
  · rw [if_neg directory, if_neg fun same => directory same.1.symm]

theorem content_delete (store : MemoryStore) (deleted address : MemoryAddress) :
    (store.delete isalnum deleted).2.content isalnum address =
      if SameFile isalnum deleted address then none else store.content isalnum address := by
  unfold MemoryStore.delete
  simp only [files_makeDirectory]
  by_cases present : ((store.files (deleted.scope.directory isalnum)).get?
      (deleted.file isalnum)).isSome = true
  · rw [if_pos present, content_putFiles, content_makeDirectory]
    by_cases directory : address.scope.directory isalnum = deleted.scope.directory isalnum
    · rw [if_pos directory, Dict.get?_erase]
      by_cases file : address.file isalnum = deleted.file isalnum
      · rw [if_pos file, if_pos ⟨directory.symm, file.symm⟩]
      · rw [if_neg file, if_neg fun same => file same.2.symm, MemoryStore.content, directory]
    · rw [if_neg directory, if_neg fun same => directory same.1.symm]
  · rw [if_neg present, content_makeDirectory]
    by_cases same : SameFile isalnum deleted address
    · rw [if_pos same, MemoryStore.content, ← same.1, ← same.2]
      simpa using present
    · rw [if_neg same]

/-- The files of a cleared directory are removed, except for the one of the empty key. -/
theorem content_clearSession (store : MemoryStore) (scope : MemoryScope) (address : MemoryAddress) :
    (store.clearSession isalnum scope).content isalnum address =
      if scope.directory isalnum = address.scope.directory isalnum ∧ address.key ≠ "" then none
      else store.content isalnum address := by
  have removed : suffix (address.file isalnum) = ".json" ↔ address.key ≠ "" := by
    rw [MemoryAddress.file, suffix_json, ne_eq, safe_eq_empty_iff]
  cases found : store.directories.get? (scope.directory isalnum) with
  | none =>
      have kept : store.clearSession isalnum scope = store := by
        simp only [MemoryStore.clearSession, found]
      rw [kept]
      by_cases cleared : scope.directory isalnum = address.scope.directory isalnum ∧
          address.key ≠ ""
      · rw [if_pos cleared, MemoryStore.content, MemoryStore.files, Dict.getD, ← cleared.1, found]
        rfl
      · rw [if_neg cleared]
  | some files =>
      simp only [MemoryStore.clearSession, found]
      rw [content_putFiles, Dict.get?_filterKeys]
      by_cases directory : scope.directory isalnum = address.scope.directory isalnum
      · have own : store.content isalnum address = files.get? (address.file isalnum) := by
          rw [MemoryStore.content, MemoryStore.files, Dict.getD, ← directory, found]
          rfl
        rw [if_pos directory.symm, own]
        by_cases empty : address.key = ""
        · rw [if_pos (by simp [removed, empty]), if_neg fun cleared => cleared.2 empty]
        · rw [if_neg (by simp [removed, empty]), if_pos ⟨directory, empty⟩]
      · rw [if_neg fun same => directory same.symm, if_neg fun cleared => directory cleared.1]

/-- One call leaves its value in the files that it touches and nothing else changes. -/
theorem content_step (store : MemoryStore) (call : MemoryCall) (address : MemoryAddress) :
    (store.step isalnum call).2.content isalnum address =
      if touches isalnum address call then left call else store.content isalnum address := by
  cases call with
  | get other =>
      exact content_makeDirectory store (other.scope.directory isalnum) address
  | set other value =>
      simp only [MemoryStore.step, content_set, touches, left, decide_eq_true_eq]
  | delete other =>
      simp only [MemoryStore.step, content_delete, touches, left, decide_eq_true_eq]
  | clearSession scope =>
      simp only [MemoryStore.step, content_clearSession, touches, left, decide_eq_true_eq]

variable (calls : List MemoryCall)

/-- After every run a file holds what the last call that touches it left behind. -/
theorem content_run (address : MemoryAddress) :
    (run (MemoryStore.step isalnum) MemoryStore.initial calls).content isalnum address =
      (lastWhere (touches isalnum address) calls).bind left := by
  induction calls using List.reverseRecOn with
  | nil => rfl
  | append_singleton calls call ih =>
      rw [run_append, run_cons, run_nil, content_step, lastWhere_append, ih]
      cases touches isalnum address call <;> rfl

variable (isalnum)

/-- The value of the last call about an address, where a deletion leaves none. -/
def latestValue : Json :=
  ((lastWhere (names address) calls).bind left).getD .null

/-- The last call that touches an address or is about it does both. -/
def Undisturbed : Prop :=
  ∀ call, lastWhere (fun call => touches isalnum address call || names address call) calls =
    some call → touches isalnum address call = true ∧ names address call = true

variable {isalnum}

/-- An undisturbed address was last touched by the last call about it. -/
theorem Undisturbed.lastWhere_eq {address : MemoryAddress} {calls : List MemoryCall}
    (undisturbed : Undisturbed isalnum address calls) :
    lastWhere (touches isalnum address) calls = lastWhere (names address) calls := by
  cases latest : lastWhere (fun call => touches isalnum address call || names address call)
      calls with
  | some call =>
      obtain ⟨touching, about⟩ := undisturbed call latest
      rw [lastWhere_narrow (by simp +contextual) latest touching,
        lastWhere_narrow (by simp +contextual) latest about]
  | none =>
      simp only [lastWhere_eq_none_iff, Bool.or_eq_false_iff] at latest
      rw [lastWhere_eq_none_iff.mpr fun call member => (latest call member).1,
        lastWhere_eq_none_iff.mpr fun call member => (latest call member).2]

theorem step_get (store : MemoryStore) (address : MemoryAddress) :
    (store.step isalnum (.get address)).1 =
      .value ((store.content isalnum address).getD .null) := by
  simp only [MemoryStore.step, MemoryStore.get, files_makeDirectory]
  rfl

variable (isalnum)

/-- Every undisturbed read of a run answers the value of the latest write of exactly its address. -/
theorem get_latestValue (calls : List MemoryCall)
    (undisturbed : ∀ before address after, calls = before ++ .get address :: after →
      Undisturbed isalnum address before)
    (before : List MemoryCall) (address : MemoryAddress) (after : List MemoryCall)
    (read : calls = before ++ .get address :: after) :
    (responses (MemoryStore.step isalnum) MemoryStore.initial calls)[before.length]? =
      some (.value (latestValue address before)) := by
  have length : (responses (MemoryStore.step isalnum) MemoryStore.initial before).length =
      before.length := responses_length _ _ _
  rw [read, responses_append, List.getElem?_append_right (by rw [length]), length, Nat.sub_self]
  show some ((run (MemoryStore.step isalnum) MemoryStore.initial before).step isalnum _).1 = _
  rw [step_get, content_run, (undisturbed before address after read).lastWhere_eq]
  rfl

end Slots

section PlainNames

variable {isalnum : Char → Bool}

/-- A plain text consists of letters, digits and dashes. -/
def Plain (isalnum : Char → Bool) (text : String) : Prop :=
  ∀ character ∈ text.toList, character ≠ '_' ∧ (isalnum character = true ∨ character = '-')

variable {text : String}

theorem plain_of_all (all : (text.toList.all fun character =>
    character ≠ '_' && (isalnum character || character = '-')) = true) : Plain isalnum text := by
  intro character member
  have kept := List.all_eq_true.mp all character member
  simpa using kept

theorem safeCharacter_of_ne {character : Char} (kept : safeCharacter isalnum character ≠ '_') :
    safeCharacter isalnum character = character := by
  unfold safeCharacter at kept ⊢
  by_cases allowed : (isalnum character || character == '-' || character == '_') = true
  · rw [if_pos allowed]
  · rw [if_neg allowed] at kept
    exact absurd rfl kept

/-- A text whose safe form has no underscore is its own safe form. -/
theorem map_safeCharacter {text : List Char} (without : '_' ∉ text.map (safeCharacter isalnum)) :
    text.map (safeCharacter isalnum) = text := by
  induction text with
  | nil => rfl
  | cons head rest ih =>
      rw [List.map_cons, List.mem_cons, not_or] at without
      rw [List.map_cons, safeCharacter_of_ne (Ne.symm without.1), ih without.2]

theorem Plain.map_eq (plain : Plain isalnum text) :
    text.toList.map (safeCharacter isalnum) = text.toList := by
  rw [List.map_congr_left (g := id), List.map_id]
  intro character member
  obtain ⟨_, letter | dash⟩ := plain character member
  · simp [safeCharacter, letter]
  · simp [safeCharacter, dash]

theorem Plain.not_mem (plain : Plain isalnum text) : '_' ∉ text.toList :=
  fun member => (plain '_' member).1 rfl

/-- A plain text is the safe form of itself alone. -/
theorem Plain.safe_inj {text other : String} (plain : Plain isalnum text)
    (same : safe isalnum other = safe isalnum text) : other = text := by
  have lists : other.toList.map (safeCharacter isalnum) = text.toList := by
    have equal := congrArg String.toList same
    simpa only [safe, String.toList_ofList, plain.map_eq] using equal
  rw [← String.toList_inj, ← lists]
  refine (map_safeCharacter ?_).symm
  rw [lists]
  exact plain.not_mem

/-- The three parts of a scope are plain. -/
structure PlainScope (isalnum : Char → Bool) (scope : MemoryScope) : Prop where
  user : Plain isalnum scope.userId
  session : Plain isalnum scope.sessionId
  agent : Plain isalnum scope.agentId

theorem directory_toList (scope : MemoryScope) :
    (scope.directory isalnum).toList = scope.userId.toList.map (safeCharacter isalnum) ++
      '_' :: (scope.sessionId.toList.map (safeCharacter isalnum) ++
        '_' :: scope.agentId.toList.map (safeCharacter isalnum)) := by
  have underscore : safeCharacter isalnum '_' = '_' := by simp [safeCharacter]
  simp [MemoryScope.directory, safe, underscore]

/-- Two texts without a symbol split at the same places around it. -/
theorem split_unique {first second third user session agent : List Char}
    (plainUser : '_' ∉ user) (plainSession : '_' ∉ session) (plainAgent : '_' ∉ agent)
    (same : first ++ '_' :: (second ++ '_' :: third) = user ++ '_' :: (session ++ '_' :: agent)) :
    first = user ∧ second = session ∧ third = agent := by
  have counts := congrArg (List.count '_') same
  simp only [List.count_append, List.count_cons_self, List.count_eq_zero.mpr plainUser,
    List.count_eq_zero.mpr plainSession, List.count_eq_zero.mpr plainAgent] at counts
  have noFirst : first.count '_' = user.count '_' := by
    rw [List.count_eq_zero.mpr plainUser]
    omega
  have noSecond : second.count '_' = session.count '_' := by
    rw [List.count_eq_zero.mpr plainSession]
    omega
  obtain ⟨users, rest⟩ := Delimited.split_cancel '_' _ _ _ _ noFirst same
  obtain ⟨sessions, agents⟩ := Delimited.split_cancel '_' _ _ _ _ noSecond rest
  exact ⟨users, sessions, agents⟩

/-- A plain scope has its directory for itself. -/
theorem PlainScope.directory_inj {scope other : MemoryScope} (plain : PlainScope isalnum scope)
    (same : other.directory isalnum = scope.directory isalnum) : other = scope := by
  have lists := congrArg String.toList same
  rw [directory_toList, directory_toList, plain.user.map_eq, plain.session.map_eq,
    plain.agent.map_eq] at lists
  obtain ⟨users, sessions, agents⟩ := split_unique plain.user.not_mem plain.session.not_mem
    plain.agent.not_mem lists
  cases scope
  cases other
  rw [MemoryScope.mk.injEq]
  refine ⟨plain.user.safe_inj ?_, plain.session.safe_inj ?_, plain.agent.safe_inj ?_⟩
  · rw [safe, users, safe, plain.user.map_eq]
  · rw [safe, sessions, safe, plain.session.map_eq]
  · rw [safe, agents, safe, plain.agent.map_eq]

/-- No call disturbs a plain address with a key. -/
theorem plain_undisturbed {address : MemoryAddress} (plain : PlainScope isalnum address.scope)
    (plainKey : Plain isalnum address.key) (keyed : address.key ≠ "") (calls : List MemoryCall) :
    Undisturbed isalnum address calls := by
  have unshared (other : MemoryAddress) : SameFile isalnum other address ↔ other = address := by
    constructor
    · rintro ⟨directory, file⟩
      have keys : safe isalnum other.key = safe isalnum address.key :=
        String.append_left_inj _ |>.mp file
      exact MemoryAddress.ext (plain.directory_inj directory) (plainKey.safe_inj keys)
    · rintro rfl
      exact ⟨rfl, rfl⟩
  have agrees (call : MemoryCall) : touches isalnum address call = names address call := by
    cases call with
    | get other => rfl
    | set other value => simp only [touches, names, unshared]
    | delete other => simp only [touches, names, unshared]
    | clearSession scope =>
        have scopes : scope.directory isalnum = address.scope.directory isalnum ↔
            scope = address.scope := by
          constructor
          · exact plain.directory_inj
          · rintro rfl
            rfl
        simp [touches, names, scopes, keyed]
  intro call latest
  have selected := selects_of_lastWhere latest
  rw [agrees, Bool.or_self] at selected
  exact ⟨(agrees call).trans selected, selected⟩

end PlainNames

section Example

/-- Two scopes that the separator of their names confuses. -/
def confused : List MemoryCall := [
  .set ⟨⟨"a_b", "c", "d"⟩, "note"⟩ (.int 1),
  .get ⟨⟨"a", "b_c", "d"⟩, "note"⟩]

/-- A value of one scope is read in another one. -/
theorem confused_read :
    latestValue ⟨⟨"a", "b_c", "d"⟩, "note"⟩ (confused.take 1) = .null ∧
      (responses (MemoryStore.step Char.isAlphanum) MemoryStore.initial confused)[1]? =
        some (.value (.int 1)) := by
  refine ⟨rfl, ?_⟩
  rfl

/-- The note of one scope. -/
def plainAddress : MemoryAddress := ⟨⟨"alice", "session-1", "agent"⟩, "note"⟩

theorem plainAddress_undisturbed (calls : List MemoryCall) :
    Undisturbed Char.isAlphanum plainAddress calls := by
  apply plain_undisturbed
  · constructor
    · exact plain_of_all (by decide)
    · exact plain_of_all (by decide)
    · exact plain_of_all (by decide)
  · exact plain_of_all (by decide)
  · decide

/-- The note is read back after the calls of other scopes. -/
theorem get_latestValue_note :
    (responses (MemoryStore.step Char.isAlphanum) MemoryStore.initial
      [.set plainAddress (.int 1), .set ⟨⟨"bob", "session-1", "agent"⟩, "note"⟩ (.int 2),
        .clearSession ⟨"bob", "session-1", "agent"⟩, .get plainAddress])[3]? =
      some (.value (.int 1)) := by
  apply get_latestValue Char.isAlphanum _ ?_ [.set plainAddress (.int 1),
    .set ⟨⟨"bob", "session-1", "agent"⟩, "note"⟩ (.int 2),
    .clearSession ⟨"bob", "session-1", "agent"⟩] plainAddress [] rfl
  intro before address after split
  have member : MemoryCall.get address ∈ before ++ .get address :: after := by simp
  rw [← split] at member
  have own : address = plainAddress := by simpa using member
  rw [own]
  exact plainAddress_undisturbed before

end Example

end AgentFabric.RuntimeMemory
