import AgentFabric.Foundation.Dict
import AgentFabric.Foundation.Json
import AgentFabric.Foundation.Transition

namespace AgentFabric.RuntimeMemory

structure MemoryScope where
  userId : String
  sessionId : String
  agentId : String
  deriving DecidableEq

/-- A key in the namespace of a scope. -/
@[ext] structure MemoryAddress where
  scope : MemoryScope
  key : String
  deriving DecidableEq

/-- The last dot of a file name starts its suffix, unless it is the first or the last character. -/
def suffix (name : String) : String :=
  let extension := (name.toList.reverse.takeWhile (· ≠ '.')).reverse
  if extension.length + 1 < name.length ∧ extension ≠ [] then String.ofList ('.' :: extension)
  else ""

section Names

variable (isalnum : Char → Bool)

def safeCharacter (character : Char) : Char :=
  if isalnum character || character == '-' || character == '_' then character else '_'

def safe (text : String) : String := String.ofList (text.toList.map (safeCharacter isalnum))

def MemoryScope.directory (scope : MemoryScope) : String :=
  safe isalnum (scope.userId ++ "_" ++ scope.sessionId ++ "_" ++ scope.agentId)

def MemoryAddress.file (address : MemoryAddress) : String :=
  safe isalnum address.key ++ ".json"

end Names

/-- The directories below the root, each with the values that its files hold. -/
structure MemoryStore where
  directories : Dict String (Dict String Json)

namespace MemoryStore

def initial : MemoryStore := ⟨Dict.empty⟩

variable (store : MemoryStore) (directory : String)

/-- A directory that does not exist has no files. -/
def files : Dict String Json :=
  store.directories.getD directory Dict.empty

def putFiles (files : Dict String Json) : MemoryStore :=
  ⟨store.directories.set directory files⟩

/-- The directory of a path is created before its file is touched. -/
def makeDirectory : MemoryStore :=
  store.putFiles directory (store.files directory)

variable (isalnum : Char → Bool) (address : MemoryAddress)

/-- The value of an address, where `None` is read as JSON's null. -/
def get : Json × MemoryStore :=
  let made := store.makeDirectory (address.scope.directory isalnum)
  (((made.files (address.scope.directory isalnum)).get? (address.file isalnum)).getD .null, made)

def set (value : Json) : MemoryStore :=
  let directory := address.scope.directory isalnum
  store.putFiles directory ((store.files directory).set (address.file isalnum) value)

def delete : Bool × MemoryStore :=
  let directory := address.scope.directory isalnum
  let made := store.makeDirectory directory
  if ((made.files directory).get? (address.file isalnum)).isSome then
    (true, made.putFiles directory ((made.files directory).erase (address.file isalnum)))
  else (false, made)

/-- Every file of the directory with the suffix of a value is removed. -/
def clearSession (scope : MemoryScope) : MemoryStore :=
  let directory := scope.directory isalnum
  match store.directories.get? directory with
  | none => store
  | some files => store.putFiles directory (files.filterKeys fun name => suffix name ≠ ".json")

end MemoryStore

inductive MemoryCall where
  | get (address : MemoryAddress)
  | set (address : MemoryAddress) (value : Json)
  | delete (address : MemoryAddress)
  | clearSession (scope : MemoryScope)

inductive MemoryAnswer where
  | value (value : Json)
  | existed (existed : Bool)
  | done

def MemoryStore.step (isalnum : Char → Bool) :
    Transition.Machine MemoryStore MemoryCall MemoryAnswer
  | store, .get address =>
      let (value, after) := store.get isalnum address
      (.value value, after)
  | store, .set address value => (.done, store.set isalnum address value)
  | store, .delete address =>
      let (existed, after) := store.delete isalnum address
      (.existed existed, after)
  | store, .clearSession scope => (.done, store.clearSession isalnum scope)

end AgentFabric.RuntimeMemory
