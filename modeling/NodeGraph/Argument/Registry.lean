import NodeGraph.Argument.Kind

/-!
# Registries of argument kinds

A registry maps names to argument kinds.  A name may differ from the name of its kind,
and a later registration under a name replaces the earlier one.  One registry is shared by all
catalogs that are given none; it can be replaced only before its first use.
-/

namespace NodeGraph

/-- An argument that a field accepts: its name and the scalar it is typed with. -/
structure ArgumentDefinition where
  name : String
  typeName : String
  deriving DecidableEq, Repr, Inhabited

/-- Names with their argument kinds; every name stands once. -/
structure ArgumentRegistry where
  kinds : List (String × ArgumentKind) := []

namespace ArgumentRegistry

def register (registry : ArgumentRegistry) (name : String) (kind : ArgumentKind) :
    ArgumentRegistry :=
  ⟨registry.kinds.filter (fun entry => entry.1 != name) ++ [(name, kind)]⟩

def builtIn : ArgumentRegistry :=
  ((ArgumentRegistry.mk []).register filterName .filter
    |>.register limitName .limit).register orderByName .orderBy

def kind? (registry : ArgumentRegistry) (name : String) : Option ArgumentKind :=
  registry.kinds.lookup name

def fresh? (registry : ArgumentRegistry) (name : String) : Option Argument :=
  (registry.kind? name).map ArgumentKind.fresh

def contains (registry : ArgumentRegistry) (name : String) : Bool :=
  (registry.kind? name).isSome

/-- The registered names in ascending order. -/
def names (registry : ArgumentRegistry) : List String :=
  (registry.kinds.map Prod.fst).mergeSort fun left right => decide (left ≤ right)

def size (registry : ArgumentRegistry) : Nat := registry.kinds.length

end ArgumentRegistry

/-- The registry that catalogs share unless they are given one of their own: it is settled by
the first use or by an installation before that, and stays. -/
structure SharedRegistry where
  settled? : Option ArgumentRegistry := none

namespace SharedRegistry

/-- The shared registry, which the first use settles to the built-in kinds. -/
def use (shared : SharedRegistry) : ArgumentRegistry × SharedRegistry :=
  let registry := shared.settled?.getD .builtIn
  (registry, ⟨some registry⟩)

def install (shared : SharedRegistry) (registry : ArgumentRegistry) :
    Except GraphError SharedRegistry :=
  if shared.settled?.isSome then .error (.schema .argumentsInUse) else .ok ⟨some registry⟩

/-- What a use has given once, every later use gives. -/
theorem use_of_settled {shared : SharedRegistry} {registry : ArgumentRegistry}
    (settled : shared.settled? = some registry) : shared.use = (registry, shared) := by
  cases shared
  subst settled
  rfl

/-- A registry can be installed only before any other was used or installed. -/
theorem install_eq_ok_iff {shared later : SharedRegistry} {registry : ArgumentRegistry} :
    shared.install registry = .ok later ↔
      shared.settled? = none ∧ later.settled? = some registry := by
  cases later
  cases settled : shared.settled? <;> simp [install, settled, eq_comm]

end SharedRegistry

end NodeGraph
