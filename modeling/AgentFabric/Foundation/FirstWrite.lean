import AgentFabric.Foundation.Dict
import AgentFabric.Foundation.Transition

namespace AgentFabric.FirstWrite
open Collection Transition

variable {Row : Type*} (keyOf : Row → String)

/-- A row is stored under its key unless the key is taken. -/
def insert (table : Dict String Row) (row : Row) : Bool × Dict String Row :=
  match table.get? (keyOf row) with
  | some _ => (false, table)
  | none => (true, table.set (keyOf row) row)

/-- Every row stands under its own key. -/
def Keyed (table : Dict String Row) : Prop := All table fun key row => keyOf row = key

variable (own : Row → Prop)

/-- The key of a row is free or taken by a row of the same owner. -/
def Unclaimed (table : Dict String Row) (row : Row) : Prop :=
  own row → ∀ stored, table.get? (keyOf row) = some stored → own stored

section Insert

variable {keyOf} {table : Dict String Row} {row : Row}

theorem insert_taken {stored : Row} (taken : table.get? (keyOf row) = some stored) :
    insert keyOf table row = (false, table) := by
  rw [insert, taken]

theorem insert_free (free : table.get? (keyOf row) = none) :
    insert keyOf table row = (true, table.set (keyOf row) row) := by
  rw [insert, free]

theorem Keyed.insert (keyed : Keyed keyOf table) : Keyed keyOf (insert keyOf table row).2 := by
  unfold FirstWrite.insert
  split
  · exact keyed
  · exact All.set keyed rfl

theorem get?_eq_none_iff (key : String) :
    table.get? key = none ↔ key ∉ table.items.map Prod.fst := by
  rw [Option.eq_none_iff_forall_ne_some, List.mem_map, not_exists]
  constructor
  · rintro absent ⟨stored, value⟩ ⟨member, rfl⟩
    exact absent value ((table.get?_eq_some_iff stored value).mpr member)
  · intro absent value present
    exact absent (key, value) ⟨(table.get?_eq_some_iff key value).mp present, rfl⟩

/-- A row under a free key is the last value. -/
theorem values_set_of_free {key : String} (free : table.get? key = none) :
    (table.set key row).values = table.values ++ [row] := by
  rw [Dict.values, Dict.set_items_of_absent _ _ _ ((get?_eq_none_iff _).mp free), List.map_append]
  rfl

theorem Keyed.get?_of_mem (keyed : Keyed keyOf table) (member : row ∈ table.values) :
    table.get? (keyOf row) = some row := by
  obtain ⟨key, present⟩ := (table.mem_values_iff row).mp member
  obtain rfl := keyed key row present
  exact present

end Insert

variable [DecidablePred own]

/-- The second table has the owner's rows of the first one and the rows that the first one lost. -/
structure Misses (full part : Dict String Row) (lost : List Row) : Prop where
  keyed : Keyed keyOf full
  partKeyed : Keyed keyOf part
  known : ∀ key row, part.get? key = some row → ∃ stored, full.get? key = some stored
  rows : part.values.Perm (full.values.filter (fun row => own row) ++ lost)
  owned : ∀ row ∈ lost, own row

section Misses

variable {keyOf own} {full part : Dict String Row} {lost : List Row} {row : Row}

theorem misses_empty : Misses keyOf own Dict.empty Dict.empty [] where
  keyed := all_empty _
  partKeyed := all_empty _
  known := by intro key row present; cases present
  rows := .nil
  owned := by intro row member; cases member

section

variable (misses : Misses keyOf own full part lost)
include misses

theorem Misses.free {key : String} (free : full.get? key = none) : part.get? key = none := by
  rw [Option.eq_none_iff_forall_ne_some]
  intro stored present
  obtain ⟨other, taken⟩ := misses.known key stored present
  rw [free] at taken
  cases taken

/-- A row of another owner changes only the first table. -/
theorem Misses.skip (other : ¬ own row) : Misses keyOf own (insert keyOf full row).2 part lost where
  keyed := misses.keyed.insert
  partKeyed := misses.partKeyed
  known := by
    intro key stored present
    obtain ⟨first, taken⟩ := misses.known key stored present
    unfold insert
    split
    · exact ⟨first, taken⟩
    · rw [Dict.get?_set]
      split
      · exact ⟨row, rfl⟩
      · exact ⟨first, taken⟩
  rows := by
    unfold insert
    split
    · exact misses.rows
    · rename_i free
      rw [values_set_of_free free, List.filter_append, List.filter_cons_of_neg (by simpa using other),
        List.filter_nil, List.append_nil]
      exact misses.rows
  owned := misses.owned

/-- A row under a free key goes to both tables. -/
theorem Misses.store (owned : own row) (free : full.get? (keyOf row) = none) :
    Misses keyOf own (insert keyOf full row).2 (insert keyOf part row).2 lost := by
  have partFree := misses.free free
  refine ⟨misses.keyed.insert, misses.partKeyed.insert, ?_, ?_, misses.owned⟩
  · rw [insert_free free, insert_free partFree]
    intro key stored present
    rw [Dict.get?_set] at present ⊢
    split at present
    · exact ⟨row, if_pos ‹_›⟩
    · rw [if_neg ‹_›]
      exact misses.known key stored present
  · rw [insert_free free, insert_free partFree, values_set_of_free free,
      values_set_of_free partFree, List.filter_append, List.filter_cons_of_pos (by simpa using owned),
      List.filter_nil, List.append_assoc]
    exact (misses.rows.append_right [row]).trans
      (by rw [List.append_assoc]; exact List.perm_append_comm.append_left _)

/-- A row whose key another table takes only is lost. -/
theorem Misses.lose (owned : own row)
    {stored : Row} (taken : full.get? (keyOf row) = some stored)
    (partFree : part.get? (keyOf row) = none) :
    Misses keyOf own (insert keyOf full row).2 (insert keyOf part row).2 (lost ++ [row]) := by
  rw [insert_taken taken, insert_free partFree]
  refine ⟨misses.keyed, All.set misses.partKeyed rfl, ?_, ?_, ?_⟩
  · intro key found present
    rw [Dict.get?_set] at present
    split at present
    · rename_i same
      exact ⟨stored, same ▸ taken⟩
    · exact misses.known key found present
  · rw [values_set_of_free partFree, ← List.append_assoc]
    exact misses.rows.append_right [row]
  · intro other member
    rcases List.mem_append.mp member with earlier | last
    · exact misses.owned other earlier
    · obtain rfl := List.mem_singleton.mp last
      exact owned

end

/-- While nothing is lost, a key is free in the second table exactly when another owner takes it. -/
theorem Misses.free_iff (misses : Misses keyOf own full part [])
    {stored : Row} (taken : full.get? (keyOf row) = some stored) :
    part.get? (keyOf row) = none ↔ ¬ own stored := by
  have rows := misses.rows
  rw [List.append_nil] at rows
  constructor
  · intro partFree owned
    have listed : stored ∈ full.values := (full.mem_values_iff stored).mpr ⟨_, taken⟩
    have member := rows.mem_iff.mpr (List.mem_filter.mpr ⟨listed, decide_eq_true owned⟩)
    have present := misses.partKeyed.get?_of_mem member
    rw [misses.keyed _ _ taken, partFree] at present
    cases present
  · intro other
    rw [Option.eq_none_iff_forall_ne_some]
    intro found present
    have member := rows.mem_iff.mp ((part.mem_values_iff found).mpr ⟨_, present⟩)
    obtain ⟨listed, owned⟩ := List.mem_filter.mp member
    have again := misses.keyed.get?_of_mem listed
    rw [misses.partKeyed _ _ present, taken] at again
    obtain rfl := Option.some.inj again
    exact other (of_decide_eq_true owned)

/-- A row whose key both tables take changes nothing. -/
theorem Misses.refuse (misses : Misses keyOf own full part lost) {stored other : Row}
    (taken : full.get? (keyOf row) = some stored) (partTaken : part.get? (keyOf row) = some other) :
    Misses keyOf own (insert keyOf full row).2 (insert keyOf part row).2 lost := by
  rw [insert_taken taken, insert_taken partTaken]
  exact misses

/-- A row of the owner under an unclaimed key gets one answer, and nothing is lost. -/
theorem Misses.unclaimed (misses : Misses keyOf own full part []) (owned : own row)
    (unclaimed : Unclaimed keyOf own full row) :
    (insert keyOf full row).1 = (insert keyOf part row).1 ∧
      Misses keyOf own (insert keyOf full row).2 (insert keyOf part row).2 [] := by
  cases found : full.get? (keyOf row) with
  | none =>
      refine ⟨?_, misses.store owned found⟩
      rw [insert_free found, insert_free (misses.free found)]
  | some stored =>
      cases partFound : part.get? (keyOf row) with
      | none => exact absurd (unclaimed owned stored found) ((misses.free_iff found).mp partFound)
      | some other =>
          refine ⟨?_, misses.refuse found partFound⟩
          rw [insert_taken found, insert_taken partFound]

end Misses

variable (full part : Dict String Row)

/-- The run of the owner's rows alone has the owner's rows of the whole run and the lost ones, and
nothing is lost exactly when every key of the owner is unclaimed. -/
theorem run_misses (lost : List Row) (calls : List Row) (misses : Misses keyOf own full part lost) :
    ∃ more, Misses keyOf own (run (insert keyOf) full calls)
        (run (insert keyOf) part (calls.filter fun row => own row)) (lost ++ more) ∧
      (lost = [] → (Guarded (insert keyOf) (Unclaimed keyOf own) full calls ↔ more = [])) := by
  induction calls generalizing full part lost with
  | nil =>
      refine ⟨[], ?_, fun _ => iff_of_true trivial rfl⟩
      rw [List.append_nil]
      exact misses
  | cons row rest ih =>
      by_cases owned : own row
      · rw [List.filter_cons_of_pos (by simpa using owned)]
        cases found : full.get? (keyOf row) with
        | none =>
            obtain ⟨more, next, guarded_iff⟩ := ih _ _ _ (misses.store owned found)
            refine ⟨more, next, fun kept => ?_⟩
            rw [Guarded, guarded_iff kept, and_iff_right]
            intro _ stored taken
            rw [found] at taken
            cases taken
        | some stored =>
            cases partFound : part.get? (keyOf row) with
            | none =>
                obtain ⟨more, next, _⟩ := ih _ _ _ (misses.lose owned found partFound)
                refine ⟨row :: more, by simpa using next, ?_⟩
                rintro rfl
                refine iff_of_false (fun guarded => ?_) (List.cons_ne_nil row more)
                exact (misses.free_iff found).mp partFound (guarded.1 owned stored found)
            | some other =>
                obtain ⟨more, next, guarded_iff⟩ := ih _ _ _ (misses.refuse found partFound)
                refine ⟨more, next, ?_⟩
                rintro rfl
                rw [Guarded, guarded_iff rfl, and_iff_right]
                intro _ again taken
                rw [found] at taken
                obtain rfl := Option.some.inj taken
                by_contra foreign
                rw [(misses.free_iff found).mpr foreign] at partFound
                cases partFound
      · rw [List.filter_cons_of_neg (by simpa using owned)]
        obtain ⟨more, next, guarded_iff⟩ := ih _ _ _ (misses.skip owned)
        refine ⟨more, next, fun kept => ?_⟩
        rw [Guarded, guarded_iff kept, and_iff_right]
        exact fun claims => absurd claims owned

/-- The answers of a run to the calls of the owner. -/
def answersTo {State Answer : Type*} (machine : Machine State Row Answer) (state : State) :
    List Row → List Answer
  | [] => []
  | row :: rest =>
      if own row then (machine state row).1 :: answersTo machine (machine state row).2 rest
      else answersTo machine (machine state row).2 rest

/-- The owner of a guarded run gets the answers of the run of its own rows. -/
theorem answersTo_eq_responses (calls : List Row) (misses : Misses keyOf own full part [])
    (guarded : Guarded (insert keyOf) (Unclaimed keyOf own) full calls) :
    answersTo own (insert keyOf) full calls =
      responses (insert keyOf) part (calls.filter fun row => own row) := by
  induction calls generalizing full part with
  | nil => rfl
  | cons row rest ih =>
      by_cases owned : own row
      · obtain ⟨answer, next⟩ := misses.unclaimed owned guarded.1
        rw [answersTo, if_pos owned, List.filter_cons_of_pos (by simpa using owned), responses,
          ih _ _ next guarded.2, answer]
      · rw [answersTo, if_neg owned, List.filter_cons_of_neg (by simpa using owned)]
        exact ih _ _ (misses.skip owned) guarded.2

end AgentFabric.FirstWrite
