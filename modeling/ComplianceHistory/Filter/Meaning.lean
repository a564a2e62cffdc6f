import ComplianceHistory.Entries
import ComplianceHistory.Filter.Basic
import ComplianceHistory.Text.Case

/-!
# Which labels a filter matches

A condition compares one label with a text: a label that is missing equals no text and differs from
every text.  A query holds if all or any of its scopes hold.  What has no meaning matches every record:
unknown operators, queries without scopes, and scopes that hold nothing.  The meaning is told from the
texts of the operators alone; no store and no form of queries has a part in it.
-/

namespace ComplianceHistory

/-- Whether labels meet a condition. -/
def Condition.holds (c : Condition) (labels : Entries String) : Bool :=
  if c.operator = "=" then labels.get? c.label = some c.value
  else if c.operator = "!=" then labels.get? c.label ≠ some c.value
  else true

namespace Scope

variable (labels : Entries String)

mutual

/-- Whether labels match a scope. -/
def holds : Scope → Bool
  | condition c => c.holds labels
  | query operator scopes =>
    if scopes.isEmpty then true
    else if Text.lower operator = "and" then allHold scopes
    else if Text.lower operator = "or" then anyHolds scopes
    else true
  | empty => true

/-- Whether labels match all scopes. -/
def allHold : List Scope → Bool
  | [] => true
  | s :: ss => holds s && allHold ss

/-- Whether labels match one of the scopes. -/
def anyHolds : List Scope → Bool
  | [] => false
  | s :: ss => holds s || anyHolds ss

end

end Scope

/-- Whether labels match a filter. -/
def Filter.holds (f : Filter) (labels : Entries String) : Bool := f.scope.all (Scope.holds labels)

end ComplianceHistory
