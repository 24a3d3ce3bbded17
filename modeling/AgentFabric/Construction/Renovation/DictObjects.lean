import AgentFabric.Construction.Renovation.MvpWorkflow

namespace AgentFabric.Renovation

/-- A dict is an object with an address, and every other value is a leaf. -/
inductive PyObject where
  | leaf (value : Json) (kind : ∀ fields, value ≠ .obj fields)
  | dict (address : Nat) (items : List (String × PyObject))

/-- The next free address and the addresses of the dicts that were written. -/
structure HeapLog where
  next : Nat
  writes : List Nat

namespace HeapLog

def allocated (log : HeapLog) : HeapLog := { log with next := log.next + 1 }

def written (log : HeapLog) (address : Nat) : HeapLog :=
  { log with writes := log.writes ++ [address] }

end HeapLog

namespace PyObject

mutual

/-- The value of an object. -/
def value : PyObject → Json
  | .leaf value _ => value
  | .dict _ items => .obj (itemValues items)

def itemValues : List (String × PyObject) → Fields
  | [] => []
  | (key, object) :: rest => (key, object.value) :: itemValues rest

end

mutual

/-- The addresses of the dicts of an object. -/
def addresses : PyObject → List Nat
  | .leaf _ _ => []
  | .dict address items => address :: itemAddresses items

def itemAddresses : List (String × PyObject) → List Nat
  | [] => []
  | (_, object) :: rest => object.addresses ++ itemAddresses rest

end

mutual

/-- `deepcopy` gives every dict a new address. -/
def deepcopy : PyObject → HeapLog → PyObject × HeapLog
  | .leaf value kind, log => (.leaf value kind, log)
  | .dict _ items, log =>
      let copied := deepcopyItems items log.allocated
      (.dict log.next copied.1, copied.2)

def deepcopyItems : List (String × PyObject) → HeapLog → List (String × PyObject) × HeapLog
  | [], log => ([], log)
  | (key, object) :: rest, log =>
      let first := deepcopy object log
      let others := deepcopyItems rest first.2
      ((key, first.1) :: others.1, others.2)

end

mutual

/-- The value that is assigned to a key: `dict` makes a shallow copy of the merged dict, and the call
of `_deep_merge` starts with a copy of it. -/
def assigned : Option PyObject → PyObject → HeapLog → PyObject × HeapLog
  | some (.dict _ base), .dict _ override, log =>
      let shallow := log.allocated
      let merged := deepcopyItems base shallow.allocated
      mergeItems shallow.next merged.1 override merged.2
  | _, value, log => deepcopy value log

/-- The loop of `_deep_merge` writes into the dict with the address. -/
def mergeItems (address : Nat) (merged : List (String × PyObject)) :
    List (String × PyObject) → HeapLog → PyObject × HeapLog
  | [], log => (.dict address merged, log)
  | (key, value) :: rest, log =>
      let found := assigned (merged.lookup key) value log
      mergeItems address (Dict.setItems key found.1 merged) rest (found.2.written address)

end

/-- The call of `_deep_merge` on the items of two dicts. -/
def deepMerge (base override : List (String × PyObject)) (log : HeapLog) : PyObject × HeapLog :=
  let merged := deepcopyItems base log.allocated
  mergeItems log.next merged.1 override merged.2

end PyObject

end AgentFabric.Renovation
