import AgentFabric.Construction.Renovation.Operator

namespace AgentFabric.Renovation.RecordPages
open Pagination

variable {interpreter : Interpreter} {lower : String → String} {items : List Fields}
  {filters : Fields}

/-- The filters of the page at an offset. -/
def atOffset (filters : Fields) (offset : Nat) : Fields :=
  Dict.setItems "offset" (.int offset) filters

theorem given_atOffset {key : String} (other : key ≠ "offset") (offset : Nat) (default : Json) :
    given (atOffset filters offset) key default = given filters key default := by
  rw [given, given, atOffset, Dict.lookup_setItems, if_neg other]

variable (offset : Nat)

theorem offsetOf_atOffset : offsetOf interpreter (atOffset filters offset) = .ok offset := by
  have read : given (atOffset filters offset) "offset" (.int 0) = .int offset := by
    rw [given, atOffset, Dict.lookup_setItems, if_pos rfl]
    cases offset with
    | zero => rfl
    | succ previous => rfl
  rw [offsetOf, read]
  simp [Interpreter.int, bind, Except.bind]

theorem limitOf_atOffset :
    limitOf interpreter (atOffset filters offset) = limitOf interpreter filters := by
  rw [limitOf, limitOf, given_atOffset (by decide)]

theorem appliedFilters_atOffset :
    appliedFilters interpreter lower (atOffset filters offset) =
      appliedFilters interpreter lower filters := by
  unfold appliedFilters filterText
  rw [given_atOffset (by decide), given_atOffset (by decide), given_atOffset (by decide),
    given_atOffset (by decide), given_atOffset (by decide)]

/-- The records that the filters keep. -/
def filtered (interpreter : Interpreter) (lower : String → String) (items : List Fields)
    (filters : Fields) : Except PyError (List Fields) :=
  filterItems interpreter lower (appliedFilters interpreter lower filters) items

/-- A limit that is read is positive. -/
theorem limitOf_pos {limit : Nat} (read : limitOf interpreter filters = .ok limit) : 0 < limit := by
  obtain ⟨value, _, clamped⟩ := bind_eq_ok_iff.mp read
  have clamped := Except.ok.inj clamped
  omega

/-- The page at an offset is cut from the filtered records with the limit of the filters. -/
theorem filterPage_atOffset :
    filterPage interpreter lower items (atOffset filters offset) =
      (filtered interpreter lower items filters).bind fun kept =>
        (limitOf interpreter filters).map fun limit =>
          { page kept limit offset with
            applied := appliedFilters interpreter lower filters } := by
  unfold filterPage filtered
  rw [appliedFilters_atOffset, limitOf_atOffset, offsetOf_atOffset]
  cases filterItems interpreter lower (appliedFilters interpreter lower filters) items with
  | error error => rfl
  | ok kept =>
      cases limitOf interpreter filters with
      | error error => rfl
      | ok limit => rfl

/-- A client that starts at the first page and goes on to the next offset of each page takes the
filtered records in their order, and every page shows their number. A first page is refused only
where the filters or the limit are. -/
theorem filterPage_walk (interpreter : Interpreter) (lower : String → String) (items : List Fields)
    (filters : Fields) :
    let request := fun offset => filterPage interpreter lower items (atOffset filters offset)
    match request 0 with
    | .error error =>
        filtered interpreter lower items filters = .error error ∨
          limitOf interpreter filters = .error error
    | .ok _ => ∃ kept, filtered interpreter lower items filters = .ok kept ∧
        (∃ pages, Pagination.Follows request RecordPage.toPage 0 pages) ∧
          ∀ pages, Pagination.Follows request RecordPage.toPage 0 pages →
            pages.flatMap (fun answer => answer.items) = kept ∧
              ∀ answer ∈ pages, answer.total = kept.length := by
  intro request
  have first := @filterPage_atOffset interpreter lower items filters 0
  cases found : filtered interpreter lower items filters with
  | error error =>
      have refused : request 0 = .error error := by
        simp only [request, first, found]
        rfl
      rw [refused]
      exact .inl rfl
  | ok kept =>
      cases read : limitOf interpreter filters with
      | error error =>
          have refused : request 0 = .error error := by
            simp only [request, first, found, read]
            rfl
          rw [refused]
          exact .inr rfl
      | ok limit =>
          have pages : Pages request RecordPage.toPage kept limit := by
            intro offset
            refine ⟨{ page kept limit offset with
              applied := appliedFilters interpreter lower filters }, ?_, rfl⟩
            simp only [request, filterPage_atOffset, found, read]
            rfl
          obtain ⟨answer, answered, _⟩ := pages 0
          rw [answered]
          exact ⟨kept, rfl, pages.terminates (limitOf_pos read) 0,
            fun answers walk => pages.concatenation walk⟩

end AgentFabric.Renovation.RecordPages
