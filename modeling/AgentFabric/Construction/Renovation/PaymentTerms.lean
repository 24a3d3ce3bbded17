import AgentFabric.Foundation.Binary64
import AgentFabric.Foundation.PyCoercion

namespace AgentFabric.Renovation
open Binary64

/-- A payment that is due under a label. -/
structure PaymentSchedule where
  label : String
  percentage : Binary64
  amount : Binary64

/-- A term that is read from a document. -/
structure PaymentTerm where
  label : String
  percentage : Binary64

namespace PaymentTerms

variable (library : Library Binary64)

/-- The percentage of a term is read before its label. -/
def readTerm (term : Json) : Except PyError PaymentTerm := do
  match term.field? "percentage" with
  | none => .error (.keyError "percentage")
  | some document =>
      let percentage ← library.float document
      let label ← library.textItem term "label"
      .ok { label, percentage }

/-- The float `total * percentage / 100`. -/
def share (total percentage : Binary64) : Binary64 := div (mul total percentage) 100

/-- The loop gives the last term what is not allocated to the terms before it. -/
def allocate (total : Binary64) : Binary64 → List PaymentTerm → List PaymentSchedule
  | _, [] => []
  | allocated, term :: rest =>
      let amount :=
        if rest.isEmpty then roundCents (sub total allocated)
        else roundCents (share total term.percentage)
      ⟨term.label, term.percentage, amount⟩ ::
        allocate total (roundCents (add allocated amount)) rest

def build (total : Binary64) (terms : List Json) : Except PyError (List PaymentSchedule) := do
  let read ← terms.mapM (readTerm library)
  .ok (allocate total (some 0) read)

end PaymentTerms

end AgentFabric.Renovation
