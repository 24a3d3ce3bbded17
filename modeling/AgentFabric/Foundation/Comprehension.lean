import AgentFabric.Foundation.PyError
import Mathlib.Data.List.Basic

namespace AgentFabric

/-- A check of every item passes exactly when each item passes. -/
theorem forM_eq_ok_iff {Item : Type} (check : Item → Except PyError Unit) (items : List Item) :
    items.forM check = .ok () ↔ ∀ item ∈ items, check item = .ok () := by
  induction items with
  | nil => exact iff_of_true rfl (by simp)
  | cons item rest ih =>
      show (check item >>= fun _ => rest.forM check) = .ok () ↔ _
      simp only [List.mem_cons, forall_eq_or_imp]
      rw [← ih]
      constructor
      · intro passed
        obtain ⟨_, first, later⟩ := bind_eq_ok_iff.mp passed
        exact ⟨first, later⟩
      · rintro ⟨first, later⟩
        exact bind_eq_ok_iff.mpr ⟨(), first, later⟩

theorem toOption_eq_some_iff {Value : Type} (call : Except PyError Value) (result : Value) :
    call.toOption = some result ↔ call = .ok result := by
  cases call <;> simp [Except.toOption]

namespace Comprehension

variable {Row Value Exception : Type}

/-- The values of the rows that pass a filter, where the filter and the conversion may raise. -/
def comprehension (keeps : Row → Except Exception Bool) (convert : Row → Except Exception Value) :
    List Row → Except Exception (List Value)
  | [] => .ok []
  | row :: rest => do
      if ← keeps row then do
        let value ← convert row
        let values ← comprehension keeps convert rest
        .ok (value :: values)
      else comprehension keeps convert rest

/-- A filter answers that it keeps a row. -/
def passes (keeps : Row → Except Exception Bool) (row : Row) : Bool :=
  match keeps row with
  | .ok kept => kept
  | .error _ => false

variable {convert : Row → Except Exception Value} {rows : List Row} {values : List Value}

/-- A comprehension that returns has converted exactly the rows that pass its filter. -/
theorem comprehension_eq_ok {keeps : Row → Except Exception Bool}
    (returned : comprehension keeps convert rows = .ok values) :
    (rows.filter (passes keeps)).mapM convert = .ok values := by
  induction rows generalizing values with
  | nil => exact returned
  | cons row rest ih =>
      rw [comprehension] at returned
      cases kept : keeps row with
      | error error =>
          rw [kept] at returned
          cases returned
      | ok keep =>
          simp only [kept, bind, Except.bind] at returned
          cases keep with
          | false =>
              have dropped : passes keeps row = false := by rw [passes, kept]
              rw [List.filter_cons_of_neg (by rw [dropped]; exact Bool.false_ne_true)]
              exact ih returned
          | true =>
              have shown : passes keeps row = true := by rw [passes, kept]
              rw [List.filter_cons_of_pos shown, List.mapM_cons]
              cases converted : convert row with
              | error error =>
                  rw [converted] at returned
                  cases returned
              | ok value =>
                  simp only [converted, if_true] at returned
                  cases later : comprehension keeps convert rest with
                  | error error =>
                      rw [later] at returned
                      cases returned
                  | ok tail =>
                      rw [later] at returned
                      rw [ih later]
                      exact returned

/-- The answers of a filter count the rows that pass it. -/
theorem countP_mapM {keeps : Row → Except Exception Bool} {kept : List Bool}
    (returned : rows.mapM keeps = .ok kept) : kept.countP id = rows.countP (passes keeps) := by
  induction rows generalizing kept with
  | nil =>
      obtain rfl := Except.ok.inj returned
      rfl
  | cons row rest ih =>
      rw [List.mapM_cons] at returned
      cases answered : keeps row with
      | error error =>
          rw [answered] at returned
          cases returned
      | ok keep =>
          rw [answered] at returned
          cases later : rest.mapM keeps with
          | error error =>
              rw [later] at returned
              cases returned
          | ok others =>
              rw [later] at returned
              obtain rfl := Except.ok.inj returned
              rw [List.countP_cons, List.countP_cons, ih later, passes, answered]
              rfl

/-- Every value of a conversion comes from a row. -/
theorem exists_of_mem_mapM (returned : rows.mapM convert = .ok values) {value : Value}
    (member : value ∈ values) : ∃ row ∈ rows, convert row = .ok value := by
  induction rows generalizing values with
  | nil =>
      obtain rfl := Except.ok.inj returned
      cases member
  | cons row rest ih =>
      rw [List.mapM_cons] at returned
      cases converted : convert row with
      | error error =>
          rw [converted] at returned
          cases returned
      | ok head =>
          rw [converted] at returned
          cases later : rest.mapM convert with
          | error error =>
              rw [later] at returned
              cases returned
          | ok tail =>
              rw [later] at returned
              obtain rfl := Except.ok.inj returned
              obtain rfl | inside := List.mem_cons.mp member
              · exact ⟨row, .head _, converted⟩
              · obtain ⟨source, found, same⟩ := ih later inside
                exact ⟨source, List.mem_cons_of_mem _ found, same⟩

/-- Every row of a conversion gives a value. -/
theorem exists_of_mem_rows (returned : rows.mapM convert = .ok values) {row : Row}
    (member : row ∈ rows) : ∃ value ∈ values, convert row = .ok value := by
  induction rows generalizing values with
  | nil => cases member
  | cons head rest ih =>
      rw [List.mapM_cons] at returned
      cases converted : convert head with
      | error error =>
          rw [converted] at returned
          cases returned
      | ok value =>
          rw [converted] at returned
          cases later : rest.mapM convert with
          | error error =>
              rw [later] at returned
              cases returned
          | ok tail =>
              rw [later] at returned
              obtain rfl := Except.ok.inj returned
              obtain rfl | inside := List.mem_cons.mp member
              · exact ⟨value, .head _, converted⟩
              · obtain ⟨result, found, same⟩ := ih later inside
                exact ⟨result, List.mem_cons_of_mem _ found, same⟩

variable {one two : List Value}

/-- Two comprehensions over lists that agree on the rows that pass return the same values. -/
theorem comprehension_unique {keeps other : Row → Except Exception Bool} {first second : List Row}
    (agree : first.filter (passes keeps) = second.filter (passes other))
    (shown : comprehension keeps convert first = .ok one)
    (again : comprehension other convert second = .ok two) : one = two := by
  have firstRows := comprehension_eq_ok shown
  rw [agree, comprehension_eq_ok again] at firstRows
  exact (Except.ok.inj firstRows).symm

/-- Conversions that agree whenever both return give one list. -/
theorem mapM_unique {convert other : Row → Except Exception Value}
    (agree : ∀ row ∈ rows, ∀ first second, convert row = .ok first → other row = .ok second →
      first = second)
    (shown : rows.mapM convert = .ok one) (again : rows.mapM other = .ok two) : one = two := by
  induction rows generalizing one two with
  | nil => exact Except.ok.inj (shown.symm.trans again)
  | cons row rest ih =>
      rw [List.mapM_cons] at shown again
      cases converted : convert row with
      | error error =>
          rw [converted] at shown
          cases shown
      | ok first =>
          cases otherwise : other row with
          | error error =>
              rw [otherwise] at again
              cases again
          | ok second =>
              rw [converted] at shown
              rw [otherwise] at again
              cases firstRest : rest.mapM convert with
              | error error =>
                  rw [firstRest] at shown
                  cases shown
              | ok firstTail =>
                  cases secondRest : rest.mapM other with
                  | error error =>
                      rw [secondRest] at again
                      cases again
                  | ok secondTail =>
                      rw [firstRest] at shown
                      rw [secondRest] at again
                      have head := agree row (.head _) first second converted otherwise
                      have tail := ih (fun later member => agree later (.tail _ member))
                        firstRest secondRest
                      calc one = first :: firstTail := (Except.ok.inj shown).symm
                        _ = second :: secondTail := by rw [head, tail]
                        _ = two := Except.ok.inj again

/-- A conversion that returns on every row returns on the list. -/
theorem mapM_returns (each : ∀ row ∈ rows, ∃ value, convert row = .ok value) :
    ∃ values, rows.mapM convert = .ok values := by
  induction rows with
  | nil => exact ⟨[], rfl⟩
  | cons row rest ih =>
      obtain ⟨value, converted⟩ := each row (.head _)
      obtain ⟨values, later⟩ := ih fun next member => each next (.tail _ member)
      refine ⟨value :: values, ?_⟩
      rw [List.mapM_cons, converted, later]
      rfl

variable {Shown Seen : Type}

/-- Conversions of rows that look alike return values that look alike. -/
theorem mapM_congr_of_map (look : Row → Seen) {view : Value → Shown}
    {convert other : Row → Except PyError Value}
    (alike : ∀ row later, look row = look later → view <$> convert row = view <$> other later)
    {rows others : List Row} (same : rows.map look = others.map look) :
    List.map view <$> rows.mapM convert = List.map view <$> others.mapM other := by
  induction rows generalizing others with
  | nil =>
      rw [List.map_eq_nil_iff.mp same.symm]
      rfl
  | cons row rest ih =>
      cases others with
      | nil => cases same
      | cons next later =>
          obtain ⟨head, tail⟩ := List.cons.inj same
          rw [List.mapM_cons, List.mapM_cons]
          apply map_bind_congr view (List.map view) (alike row next head)
          intro value otherValue sameValue
          apply map_bind_congr (List.map view) (List.map view) (ih tail)
          intro values otherValues sameValues
          change Except.ok _ = Except.ok _
          rw [List.map_cons, List.map_cons, sameValue, sameValues]

/-- A conversion that returns in another order returns the values in that order. -/
theorem mapM_perm {convert : Row → Except PyError Value} {rows others : List Row}
    (perm : rows.Perm others) (returned : rows.mapM convert = .ok values) :
    ∃ moved, others.mapM convert = .ok moved ∧ values.Perm moved := by
  induction perm generalizing values with
  | nil => exact ⟨values, returned, .refl values⟩
  | cons row perm ih =>
      rw [List.mapM_cons] at returned
      obtain ⟨value, converted, returned⟩ := bind_eq_ok_iff.mp returned
      obtain ⟨rest, later, returned⟩ := bind_eq_ok_iff.mp returned
      cases returned
      obtain ⟨moved, found, same⟩ := ih later
      refine ⟨value :: moved, ?_, same.cons value⟩
      rw [List.mapM_cons, converted, found]
      rfl
  | swap first second rest =>
      rw [List.mapM_cons, List.mapM_cons] at returned
      obtain ⟨one, firstConverted, returned⟩ := bind_eq_ok_iff.mp returned
      obtain ⟨tail, returned, done⟩ := bind_eq_ok_iff.mp returned
      obtain ⟨two, secondConverted, returned⟩ := bind_eq_ok_iff.mp returned
      obtain ⟨later, found, returned⟩ := bind_eq_ok_iff.mp returned
      cases returned
      cases done
      refine ⟨two :: one :: later, ?_, .swap two one later⟩
      rw [List.mapM_cons, List.mapM_cons, firstConverted, secondConverted, found]
      rfl
  | trans _ _ firstIh secondIh =>
      obtain ⟨middle, found, first⟩ := firstIh returned
      obtain ⟨moved, last, second⟩ := secondIh found
      exact ⟨moved, last, first.trans second⟩

/-- A conversion that returns whatever another one returns goes through every list. -/
theorem mapM_of_returns {convert other : Row → Except PyError Value}
    (agree : ∀ row ∈ rows, ∀ value, convert row = .ok value → other row = .ok value)
    (returned : rows.mapM convert = .ok values) :
    rows.mapM other = .ok values := by
  induction rows generalizing values with
  | nil => exact returned
  | cons row rest ih =>
      rw [List.mapM_cons] at returned ⊢
      obtain ⟨value, converted, returned⟩ := bind_eq_ok_iff.mp returned
      obtain ⟨later, found, returned⟩ := bind_eq_ok_iff.mp returned
      rw [agree row List.mem_cons_self value converted,
        ih (fun next member => agree next (.tail _ member)) found]
      exact returned

end Comprehension

end AgentFabric
