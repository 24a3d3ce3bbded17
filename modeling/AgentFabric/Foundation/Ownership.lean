import AgentFabric.Foundation.Dict

namespace AgentFabric.Ownership

variable {Key Record Owner : Type*} [DecidableEq Key] (ownerOf : Record → Owner) (owner : Owner)
  (dict : Dict Key Record)

/-- A key is not in use, or it is in use by its owner. -/
def FreeOrOwn (key : Key) : Prop :=
  ∀ record, dict.get? key = some record → ownerOf record = owner

/-- The records of other owners stay as they are. -/
def KeepsForeign (before after : Dict Key Record) : Prop :=
  ∀ key record, before.get? key = some record → ownerOf record ≠ owner →
    after.get? key = some record

/-- The writes of an operation in their order. -/
def write (writes : List (Key × Record)) : Dict Key Record :=
  writes.foldl (fun written entry => written.set entry.1 entry.2) dict

variable {ownerOf owner}

theorem write_append (first second : List (Key × Record)) :
    write dict (first ++ second) = write (write dict first) second := List.foldl_append

variable {writes : List (Key × Record)}

theorem get?_write_of_not_mem {dict : Dict Key Record} {key : Key}
    (absent : ∀ entry ∈ writes, entry.1 ≠ key) : (write dict writes).get? key = dict.get? key := by
  induction writes generalizing dict with
  | nil => rfl
  | cons entry rest ih =>
      have later : (write (dict.set entry.1 entry.2) rest).get? key =
          (dict.set entry.1 entry.2).get? key :=
        ih fun other member => absent other (.tail _ member)
      refine later.trans (Dict.get?_set_of_ne _ _ ?_)
      exact (absent entry (.head _)).symm

/-- A written key holds the last record that was written there. -/
theorem get?_write_of_mem {key : Key} (present : ∃ entry ∈ writes, entry.1 = key) :
    ∃ entry ∈ writes, entry.1 = key ∧ (write dict writes).get? key = some entry.2 := by
  induction writes using List.reverseRecOn with
  | nil => exact absurd present (by simp)
  | append_singleton earlier last ih =>
      rw [write_append]
      change ∃ entry ∈ earlier ++ [last], entry.1 = key ∧
        ((write dict earlier).set last.1 last.2).get? key = some entry.2
      by_cases same : last.1 = key
      · refine ⟨last, List.mem_append_right _ (.head _), same, ?_⟩
        rw [← same, Dict.get?_set_self]
      · obtain ⟨entry, member, own⟩ := present
        have inEarlier : entry ∈ earlier := by
          refine (List.mem_append.mp member).resolve_right fun isLast => same ?_
          rw [← List.mem_singleton.mp isLast, own]
        obtain ⟨found, listed, name, stored⟩ := ih ⟨entry, inEarlier, own⟩
        refine ⟨found, List.mem_append_left _ listed, name, ?_⟩
        rw [Dict.get?_set_of_ne _ _ (Ne.symm same), stored]

/-- An owner's writes keep the records of the other owners exactly when they use its own keys. -/
theorem keepsForeign_write_iff {dict : Dict Key Record}
    (own : ∀ entry ∈ writes, ownerOf entry.2 = owner) :
    KeepsForeign ownerOf owner dict (write dict writes) ↔
      ∀ entry ∈ writes, FreeOrOwn ownerOf owner dict entry.1 := by
  constructor
  · intro keeps entry member record stored
    by_contra foreign
    obtain ⟨last, listed, name, written⟩ := get?_write_of_mem dict ⟨entry, member, rfl⟩
    have kept := keeps entry.1 record stored foreign
    obtain rfl := Option.some.inj (written.symm.trans kept)
    exact foreign (own last listed)
  · intro free key record stored foreign
    refine (get?_write_of_not_mem ?_).trans stored
    intro entry member same
    exact foreign (free entry member record (same ▸ stored))

end AgentFabric.Ownership
