import ComplianceHistory.Filter.Basic
import ComplianceHistory.Text.Quoted

/-!
# Compiled filters

A store has its own form of queries.  A filter is compiled into it node by node, given how the form
says "every record", how it compares a label, and how it joins queries.  A node with an unknown operator
matches every record and leaves a warning; under the strict policy the first such node, counted from the
root with every node in front of its scopes, makes the compilation fail.
-/

namespace ComplianceHistory

/-- What an unknown operator was found in. -/
inductive OperatorKind where
  | condition
  | query
deriving DecidableEq, Repr

/-- The name of the place of an operator in messages. -/
def OperatorKind.name : OperatorKind → String
  | condition => "condition"
  | query => "query"

/-- An unknown operator. -/
structure Unsupported where
  operator : String
  kind : OperatorKind
deriving DecidableEq, Repr

/-- The wording of a failure under the strict policy. -/
def Unsupported.message (u : Unsupported) : String :=
  "Unsupported " ++ u.kind.name ++ " operator: " ++ Text.quoted u.operator

/-- The wording of a warning. -/
def Unsupported.warning (u : Unsupported) : String :=
  "Unsupported " ++ u.kind.name ++ " operator " ++ Text.quoted u.operator ++
    " in label filter, matching everything"

/-- A form of queries. -/
structure QueryForm (β : Type) where
  everything : β
  compare : Comparison → (label value : String) → β
  join : Connective → List β → β

/-- What is done about unknown operators. -/
inductive Policy where
  | permissive
  | strict
deriving DecidableEq, Repr

/-- The policy that a switch stands for. -/
def Policy.ofBool (strict : Bool) : Policy := if strict then .strict else .permissive

/-- A compiled filter with the warnings about it, in the order of the nodes. -/
structure Compiled (β : Type) where
  query : β
  warnings : List Unsupported

namespace Compiled

variable {β : Type}

/-- A compiled filter without warnings. -/
def silent (q : β) : Compiled β := ⟨q, []⟩

end Compiled

namespace Scope

variable {β : Type} (form : QueryForm β) (policy : Policy)

/-- The compiled form of a node with an unknown operator. -/
def compileUnsupported (u : Unsupported) : Except Unsupported (Compiled β) :=
  match policy with
  | .strict => .error u
  | .permissive => .ok ⟨form.everything, [u]⟩

mutual

/-- Compiles a scope. -/
def compile : Scope → Except Unsupported (Compiled β)
  | condition c => match Comparison.ofOperator? c.operator with
    | some comparison => .ok (.silent (form.compare comparison c.label c.value))
    | none => compileUnsupported form policy ⟨c.operator, .condition⟩
  | query operator scopes => match Connective.ofOperator? operator with
    | none => compileUnsupported form policy ⟨operator, .query⟩
    | some connective =>
      if scopes.isEmpty then .ok (.silent form.everything)
      else match compileAll scopes with
        | .error u => .error u
        | .ok ⟨qs, warnings⟩ => .ok ⟨form.join connective qs, warnings⟩
  | empty => .ok (.silent form.everything)

/-- Compiles scopes one after the other. -/
def compileAll : List Scope → Except Unsupported (Compiled (List β))
  | [] => .ok (.silent [])
  | s :: ss => match compile s with
    | .error u => .error u
    | .ok ⟨q, warnings⟩ => match compileAll ss with
      | .error u => .error u
      | .ok ⟨qs, more⟩ => .ok ⟨q :: qs, warnings ++ more⟩

end

end Scope

/-- Compiles a filter. -/
def Filter.compile {β : Type} (form : QueryForm β) (policy : Policy) (f : Filter) :
    Except Unsupported (Compiled β) :=
  match f.scope with
  | none => .ok (.silent form.everything)
  | some s => s.compile form policy

end ComplianceHistory
