/-!
# Label filters

A filter chooses records by their labels.  It is a tree: conditions on one label each, joined by
queries.  Operators are kept as they were given, so that a filter can be written back unchanged; which
of them have a meaning is told by `Comparison.ofOperator?` and `Connective.ofOperator?`.
-/

namespace ComplianceHistory

/-- A condition on the value of one label. -/
structure Condition where
  label : String
  operator : String
  value : String
deriving DecidableEq, Repr, Hashable, Inhabited

/-- A node of a filter. -/
inductive Scope where
  | condition (c : Condition)
  | query (operator : String) (scopes : List Scope)
  /-- A node that holds nothing; it matches every record. -/
  | empty
deriving Repr, Inhabited

/-- A filter; without a scope it matches every record. -/
structure Filter where
  scope : Option Scope
deriving Repr, Inhabited

/-- How a condition compares. -/
inductive Comparison where
  | equal
  | different
deriving DecidableEq, Repr

/-- The comparison that an operator stands for. -/
def Comparison.ofOperator? (operator : String) : Option Comparison :=
  if operator = "=" then some .equal
  else if operator = "!=" then some .different
  else none

/-- How a query joins its scopes. -/
inductive Connective where
  | and
  | or
deriving DecidableEq, Repr

/-- A text with its ASCII letters in lower case; no other letter has `a`, `n`, `d`, `o` or `r` as its lower case. -/
def lowerAscii (s : String) : List Char := s.toList.map Char.toLower

/-- The connective that an operator stands for, in any case. -/
def Connective.ofOperator? (operator : String) : Option Connective :=
  if lowerAscii operator = ['a', 'n', 'd'] then some .and
  else if lowerAscii operator = ['o', 'r'] then some .or
  else none

namespace Scope

/-- Induction over a filter: what holds of a query may be derived from all its scopes. -/
@[elab_as_elim]
theorem induct {P : Scope → Prop} (condition : ∀ c, P (.condition c))
    (query : ∀ operator scopes, (∀ s ∈ scopes, P s) → P (.query operator scopes))
    (empty : P .empty) (s : Scope) : P s :=
  Scope.rec (motive_1 := P) (motive_2 := fun ss => ∀ s ∈ ss, P s) condition query empty
    (fun _ h => nomatch h)
    (fun _ _ hs hss _ h => (List.mem_cons.mp h).elim (fun e => e ▸ hs) (hss _)) s

mutual

/-- Equality of scopes is decidable. -/
def decEq : (a b : Scope) → Decidable (a = b)
  | condition c, condition d =>
    if h : c = d then isTrue (h ▸ rfl) else isFalse fun e => h (by cases e; rfl)
  | query o ss, query p ts =>
    if h : o = p then
      match decEqAll ss ts with
      | isTrue h' => isTrue (h ▸ h' ▸ rfl)
      | isFalse h' => isFalse fun e => h' (by cases e; rfl)
    else isFalse fun e => h (by cases e; rfl)
  | empty, empty => isTrue rfl
  | condition _, query _ _ => isFalse nofun
  | condition _, empty => isFalse nofun
  | query _ _, condition _ => isFalse nofun
  | query _ _, empty => isFalse nofun
  | empty, condition _ => isFalse nofun
  | empty, query _ _ => isFalse nofun

/-- Equality of lists of scopes is decidable. -/
def decEqAll : (as bs : List Scope) → Decidable (as = bs)
  | [], [] => isTrue rfl
  | [], _ :: _ => isFalse nofun
  | _ :: _, [] => isFalse nofun
  | a :: as, b :: bs =>
    match decEq a b, decEqAll as bs with
    | isTrue h, isTrue h' => isTrue (h ▸ h' ▸ rfl)
    | isFalse h, _ => isFalse fun e => h (by cases e; rfl)
    | _, isFalse h => isFalse fun e => h (by cases e; rfl)

end

instance : DecidableEq Scope := decEq

mutual

/-- A hash of a scope. -/
def hashOf : Scope → UInt64
  | condition c => mixHash 1 (hash c)
  | query o ss => mixHash 2 (mixHash (hash o) (hashAll ss))
  | empty => 3

/-- A hash of a list of scopes. -/
def hashAll : List Scope → UInt64
  | [] => 7
  | s :: ss => mixHash (hashOf s) (hashAll ss)

end

instance : Hashable Scope := ⟨hashOf⟩

end Scope

deriving instance DecidableEq, Hashable for Filter

end ComplianceHistory
