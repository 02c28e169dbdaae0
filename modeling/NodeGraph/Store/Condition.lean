import NodeGraph.Argument.Operator
import NodeGraph.Store.Term

/-!
# Conditions

A condition of a statement compares terms with literals and combines comparisons with
negation, conjunction and disjunction.  A comparison with a null value is undecided, and
the connectives follow the three-valued logic in which an undecided part decides nothing.
-/

namespace NodeGraph

/-- A truth value of a condition; none is undecided. -/
abbrev Truth := Option Bool

namespace Truth

def negate (value : Truth) : Truth := value.map not

/-- The conjunction: false if one side is, whatever the other. -/
def both : Truth → Truth → Truth
  | some false, _ => some false
  | _, some false => some false
  | some true, some true => some true
  | _, _ => none

/-- The disjunction: true if one side is, whatever the other. -/
def either : Truth → Truth → Truth
  | some true, _ => some true
  | _, some true => some true
  | some false, some false => some false
  | _, _ => none

/-- Only a true condition keeps a row. -/
def holds (value : Truth) : Bool := value == some true

@[simp]
theorem holds_both (left right : Truth) :
    (both left right).holds = (left.holds && right.holds) := by
  rcases left with _ | (_ | _) <;> rcases right with _ | (_ | _) <;> rfl

end Truth

/-- A condition over terms of some kind. -/
inductive Condition (T : Type) where
  | compare (term : T) (operator : Operator) (literal : SqlLiteral)
  | contains (term : T) (negated : Bool) (literals : List SqlLiteral)
  | negation (operand : Condition T)
  | conjunction (left right : Condition T)
  | disjunction (left right : Condition T)
  deriving Repr, Inhabited

namespace Condition

/-- The condition over other terms, if every term has one. -/
def resolve {T S : Type} (lookup : T → Option S) : Condition T → Option (Condition S)
  | .compare term operator literal =>
      (lookup term).map fun found => .compare found operator literal
  | .contains term negated literals =>
      (lookup term).map fun found => .contains found negated literals
  | .negation operand => (operand.resolve lookup).map .negation
  | .conjunction left right => do
      return .conjunction (← left.resolve lookup) (← right.resolve lookup)
  | .disjunction left right => do
      return .disjunction (← left.resolve lookup) (← right.resolve lookup)

/-- The height of the condition as a tree.  A list of one literal counts as a comparison
with a signed literal, and a negated list as the negation of the list. -/
def height {T : Type} (termHeight : T → Nat) : Condition T → Nat
  | .compare term _ _ => termHeight term + 1
  | .contains term negated literals =>
      (if literals.length = 1 then max (termHeight term) 2 else termHeight term) + 1 +
        negated.toNat
  | .negation operand => operand.height termHeight + 1
  | .conjunction left right => max (left.height termHeight) (right.height termHeight) + 1
  | .disjunction left right => max (left.height termHeight) (right.height termHeight) + 1

/-- Whether an operator holds of an order. -/
def operatorHolds : Operator → Ordering → Bool
  | .equal, order => order == .eq
  | .notEqual, order => order != .eq
  | .greaterThan, order => order == .gt
  | .greaterOrEqual, order => order != .lt
  | .lessThan, order => order == .lt
  | .lessOrEqual, order => order != .gt
  | .oneOf, order => order == .eq
  | .noneOf, order => order != .eq

/-- The truth of a condition over bound terms for a row. -/
def evaluate (row : NumberedRow) : Condition ValueSource → Truth
  | .compare term operator literal =>
      if (term.value row).isNull then none
      else some (operatorHolds operator
        (StoredValue.order (term.value row) (term.literal literal)))
  | .contains term negated literals =>
      if (term.value row).isNull then none
      else
        let found := literals.any fun literal =>
          StoredValue.order (term.value row) (term.literal literal) == .eq
        some (found != negated)
  | .negation operand => (operand.evaluate row).negate
  | .conjunction left right => Truth.both (left.evaluate row) (right.evaluate row)
  | .disjunction left right => Truth.either (left.evaluate row) (right.evaluate row)

end Condition

end NodeGraph
