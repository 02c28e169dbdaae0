import NodeGraph.Proofs.Store.Reading
import NodeGraph.Store.MemoryStore

/-!
# Rows behind the records of an adapter

An adapter over a stored table selects rows of the table by its statement.  The rows are those
that every predicate keeps, in the order of the sorts, and each becomes a record of the
selected columns.  There are rows unless a name has no source or a limit of the store is
exceeded.
-/

namespace NodeGraph

open Statement StoredTable

theorem mapM_eq_some_filterMap {α β : Type} (compute : α → Option β) (items : List α)
    (each : ∀ item ∈ items, (compute item).isSome) :
    items.mapM compute = some (items.filterMap compute) := by
  induction items with
  | nil => rfl
  | cons item items ih =>
      obtain ⟨value, computed⟩ := Option.isSome_iff_exists.mp (each item List.mem_cons_self)
      rw [List.mapM_cons, computed, ih fun other member =>
        each other (List.mem_cons_of_mem _ member), List.filterMap_cons_some computed]
      rfl

theorem map_some_of_mapM {α β : Type} {compute : α → Option β} {items : List α}
    {values : List β} (computed : items.mapM compute = some values) :
    items.map compute = values.map some := by
  induction items generalizing values with
  | nil =>
      obtain rfl : [] = values := Option.some.inj computed
      rfl
  | cons item items ih =>
      simp only [List.mapM_cons, Option.bind_eq_bind, Option.bind_eq_some_iff] at computed
      obtain ⟨value, first, others, rest, joined⟩ := computed
      obtain rfl : value :: others = values := Option.some.inj joined
      rw [List.map_cons, List.map_cons, first, ih rest]

namespace Predicate

/-- Whether a row satisfies a predicate whose field is looked up. -/
def keeps (lookup : Term → Option ValueSource) (row : NumberedRow) (predicate : Predicate) :
    Bool :=
  ((predicate.condition.resolve lookup).map fun bound => (bound.evaluate row).holds).getD false

theorem isSome_resolve_condition (lookup : Term → Option ValueSource) (predicate : Predicate) :
    (predicate.condition.resolve lookup).isSome =
      (lookup (columnTerm predicate.field)).isSome := by
  cases predicate <;> simp only [condition, Condition.resolve, field, Option.isSome_map]

end Predicate

namespace Filter

variable {lookup : Term → Option ValueSource}

/-- A conjunction is bound if all its parts are. -/
theorem isSome_resolve_conjoinAll (first : Condition Term) (rest : List Predicate) :
    ((conjoinAll first rest).resolve lookup).isSome ↔
      (first.resolve lookup).isSome ∧
        ∀ predicate ∈ rest, (lookup (columnTerm predicate.field)).isSome := by
  induction rest generalizing first with
  | nil => simp [conjoinAll]
  | cons predicate rest ih =>
      have bound := predicate.isSome_resolve_condition lookup
      rw [show conjoinAll first (predicate :: rest) =
        conjoinAll (.conjunction first predicate.condition) rest from rfl, ih,
        List.forall_mem_cons, ← bound]
      cases left : first.resolve lookup <;>
        cases right : predicate.condition.resolve lookup <;>
          simp [Condition.resolve, left, right]

/-- A bound conjunction keeps the rows that all its parts keep. -/
theorem holds_conjoinAll {first : Condition Term} {rest : List Predicate}
    {bound whole : Condition ValueSource} (resolved : first.resolve lookup = some bound)
    (joined : (conjoinAll first rest).resolve lookup = some whole) (row : NumberedRow) :
    (whole.evaluate row).holds =
      ((bound.evaluate row).holds && rest.all (Predicate.keeps lookup row)) := by
  induction rest generalizing first bound with
  | nil =>
      obtain rfl : bound = whole := Option.some.inj (resolved.symm.trans joined)
      simp
  | cons predicate rest ih =>
      change (conjoinAll (.conjunction first predicate.condition) rest).resolve lookup = _
        at joined
      have present := ((isSome_resolve_conjoinAll _ _).mp
        (Option.isSome_iff_exists.mpr ⟨whole, joined⟩)).1
      cases right : predicate.condition.resolve lookup with
      | none => simp [Condition.resolve, resolved, right] at present
      | some other =>
          have both : (Condition.conjunction first predicate.condition).resolve lookup =
              some (.conjunction bound other) := by
            simp [Condition.resolve, resolved, right]
          rw [ih both joined, List.all_cons, Condition.evaluate, Truth.holds_both,
            Predicate.keeps, right, Bool.and_assoc]
          rfl

end Filter

namespace Filter

variable {lookup : Term → Option ValueSource}

/-- The condition of the predicates over bound terms, if they make any and all are bound. -/
def resolve? (lookup : Term → Option ValueSource) (predicates : List Predicate) :
    Option (Option (Condition ValueSource)) :=
  match condition? predicates with
  | none => some none
  | some condition => (condition.resolve lookup).map some

theorem isSome_resolve? (predicates : List Predicate) :
    (resolve? lookup predicates).isSome ↔ ∀ predicate ∈ restricting predicates,
      (lookup (columnTerm predicate.field)).isSome := by
  unfold resolve? condition?
  cases restricting predicates with
  | nil => simp
  | cons first rest =>
      rw [List.forall_mem_cons, ← first.isSome_resolve_condition,
        ← isSome_resolve_conjoinAll, Option.isSome_map]

/-- The rows that satisfy the condition are those that all predicates keep. -/
theorem keeps_of_resolve? {predicates : List Predicate}
    {bound : Option (Condition ValueSource)} (resolved : resolve? lookup predicates = some bound)
    {plan : SelectPlan} (same : plan.condition = bound) (row : NumberedRow) :
    plan.keeps row = (restricting predicates).all (Predicate.keeps lookup row) := by
  unfold resolve? condition? at resolved
  cases present : restricting predicates with
  | nil =>
      rw [present] at resolved
      obtain rfl := Option.some.inj resolved
      rw [SelectPlan.keeps, same]
      rfl
  | cons first rest =>
      rw [present] at resolved
      obtain ⟨whole, joined, rfl⟩ := Option.map_eq_some_iff.mp resolved
      have head := ((isSome_resolve_conjoinAll _ _).mp
        (Option.isSome_iff_exists.mpr ⟨whole, joined⟩)).1
      obtain ⟨bound, resolved⟩ := Option.isSome_iff_exists.mp head
      rw [SelectPlan.keeps, same, List.all_cons, Predicate.keeps, resolved]
      exact holds_conjoinAll resolved joined row

end Filter

namespace StoredTable

/-- The label and the source of a column that is selected from a table. -/
def entry (table : StoredTable) (column : Column) : String × ValueSource :=
  let index := (table.column? column.name).getD 0
  (if column.name = column.label then table.columns.getD index column.name else column.label,
    .stored index)

theorem source?_stored {table : StoredTable} {name : String} {index : Nat}
    (placed : table.column? name = some index) (labels : Labels) :
    table.source? table.name labels (columnTerm name) = some (.stored index) := by
  simp only [source?, columnTerm, leadsTo, Bool.not_true, Bool.false_eq_true, if_false, placed]

/-- A plain name is sorted by the item under that label before anything else. -/
theorem sortSource?_columnTerm (table : StoredTable) (known : String) (labels : Labels)
    (items : List ValueSource) (name : String) :
    table.sortSource? known labels items (columnTerm name) =
      (labelled? labels name).or (table.source? known labels (columnTerm name)) :=
  rfl

theorem resolveItem_item {table : StoredTable} {column : Column}
    (stored : (table.column? column.name).isSome) :
    table.resolveItem table.name column.item = some [table.entry column] := by
  obtain ⟨index, placed⟩ := Option.isSome_iff_exists.mp stored
  simp only [resolveItem, Column.item, source?_stored placed, Option.map_some, entry, placed,
    Option.getD_some, unlabelledName]
  split
  · simp [columnTerm, Term.written]
  · rfl

/-- The labels that selected columns bring into a statement. -/
def labels (table : StoredTable) (columns : List Column) : Labels :=
  table.labelsOf table.name (columns.map Column.item)

end StoredTable

namespace TableAdapter

variable {World : Type}

/-- The columns of the rows that an adapter selects from a table. -/
def entries (adapter : TableAdapter World) (table : StoredTable) (selection : List String) :
    Labels :=
  (selectedColumns adapter.columns selection).map table.entry

/-- The record that a row of a table becomes. -/
def recordOf (adapter : TableAdapter World) (table : StoredTable) (selection : List String)
    (row : NumberedRow) : Record :=
  RowSet.rowRecord ((adapter.entries table selection).map Prod.fst)
    ((adapter.entries table selection).map fun column => (column.2.value row).toCell)

/-- Where the values of a filtered field come from. -/
def filterSource? (adapter : TableAdapter World) (table : StoredTable)
    (selection : List String) : Term → Option ValueSource :=
  table.source? table.name (table.labels (selectedColumns adapter.columns selection))

/-- Where the values of a sorted field come from. -/
def sortSource? (adapter : TableAdapter World) (table : StoredTable)
    (selection : List String) (field : String) : Option ValueSource :=
  table.sortSource? table.name (table.labels (selectedColumns adapter.columns selection)) []
    (columnTerm field)

def boundSort? (adapter : TableAdapter World) (table : StoredTable) (selection : List String)
    (sort : SortKey) : Option (ValueSource × Bool) :=
  (adapter.sortSource? table selection sort.field).map fun source =>
    (source, sort.direction == .descending)

/-- Every name in the statement of an adapter has a source, and the statement keeps the limits
of the store. -/
structure Prepared (adapter : TableAdapter World) (table : StoredTable)
    (params : ResolveParams) : Prop where
  columns : adapter.columns ≠ []
  width : (selectedColumns adapter.columns params.selection).length ≤ widthLimit
  height : Filter.FitsHeight (adapter.predicates params)
  predicates : ∀ predicate ∈ Filter.restricting (adapter.predicates params),
    (adapter.filterSource? table params.selection (columnTerm predicate.field)).isSome
  sorts : ∀ sort ∈ params.arguments.lastSorts,
    (adapter.sortSource? table params.selection sort.field).isSome
  sortWidth : params.arguments.lastSorts.length ≤ widthLimit

/-- The plan of a prepared statement: the selected columns, the predicates as a condition, and
the sources of the sorts. -/
structure PlannedAs (adapter : TableAdapter World) (table : StoredTable)
    (params : ResolveParams) (plan : SelectPlan) : Prop where
  columns : plan.columns = adapter.entries table params.selection
  keeps : ∀ row, plan.keeps row = (Filter.restricting (adapter.predicates params)).all
    (Predicate.keeps (adapter.filterSource? table params.selection) row)
  sorts : plan.sorts =
    params.arguments.lastSorts.filterMap (adapter.boundSort? table params.selection)
  window : plan.window = (adapter.selectStatement params).window

variable {adapter : TableAdapter World} {table : StoredTable} {params : ResolveParams}

theorem mapM_resolveItem
    (stored : ∀ column ∈ adapter.columns, (table.column? column.name).isSome) :
    ((selectedColumns adapter.columns params.selection).map Column.item).mapM
        (table.resolveItem table.name) =
      some ((adapter.entries table params.selection).map fun entry => [entry]) := by
  have resolved : ∀ column ∈ selectedColumns adapter.columns params.selection,
      table.resolveItem table.name column.item = some [table.entry column] := by
    intro column member
    exact resolveItem_item (stored column (mem_of_mem_selectedColumns member))
  rw [entries, List.map_map]
  generalize selectedColumns adapter.columns params.selection = columns at resolved ⊢
  induction columns with
  | nil => rfl
  | cons column columns ih =>
      rw [List.map_cons, List.mapM_cons, resolved column List.mem_cons_self,
        ih fun other member => resolved other (List.mem_cons_of_mem _ member)]
      rfl

theorem prepare?_selectStatement
    (stored : ∀ column ∈ adapter.columns, (table.column? column.name).isSome) :
    SelectPlan.prepare? table (adapter.selectStatement params) =
      (Filter.resolve? (adapter.filterSource? table params.selection)
        (adapter.predicates params)).bind fun condition =>
          (params.arguments.lastSorts.mapM (adapter.boundSort? table params.selection)).bind
            fun sorts =>
              if widthLimit < (selectedColumns adapter.columns params.selection).length ∨
                  widthLimit < sorts.length then none
              else some
                { columns := adapter.entries table params.selection
                  condition, sorts
                  window := (adapter.selectStatement params).window } := by
  have known : (adapter.selectStatement params).table.label.getD table.name = table.name := rfl
  have items : (adapter.selectStatement params).items.mapM (table.resolveItem table.name) =
      some ((adapter.entries table params.selection).map fun entry => [entry]) :=
    mapM_resolveItem stored
  have columns : ((adapter.entries table params.selection).map fun entry => [entry]).flatten =
      adapter.entries table params.selection := by
    rw [← List.flatMap_def, List.flatMap_singleton']
  have width : (adapter.entries table params.selection).length =
      (selectedColumns adapter.columns params.selection).length := List.length_map _
  have condition : (adapter.selectStatement params).condition =
      Filter.condition? (adapter.predicates params) := rfl
  have lookup : table.source? table.name
      (table.labelsOf table.name (adapter.selectStatement params).items) =
        adapter.filterSource? table params.selection := rfl
  have sorts : ((fun sort : Term × Bool => (table.sortSource? table.name
      (table.labelsOf table.name (adapter.selectStatement params).items)
      ((adapter.entries table params.selection).map Prod.snd) sort.1).bind fun source =>
        pure (source, sort.2)) ∘ SortKey.item) = adapter.boundSort? table params.selection := by
    funext sort
    rw [boundSort?, Option.map_eq_bind]
    rfl
  have ordering : (adapter.selectStatement params).ordering =
      params.arguments.lastSorts.map SortKey.item := rfl
  unfold SelectPlan.prepare?
  simp only [known, items, columns, width, condition, lookup, ordering, List.mapM_map, sorts,
    Option.bind_eq_bind, Option.bind_some]
  unfold Filter.resolve?
  cases Filter.condition? (adapter.predicates params) <;> rfl

/-- A prepared statement has a plan. -/
theorem Prepared.exists_plan (prepared : adapter.Prepared table params)
    (stored : ∀ column ∈ adapter.columns, (table.column? column.name).isSome) :
    ∃ plan, SelectPlan.prepare? table (adapter.selectStatement params) = some plan ∧
      adapter.PlannedAs table params plan := by
  obtain ⟨bound, resolved⟩ := Option.isSome_iff_exists.mp
    ((Filter.isSome_resolve? _).mpr prepared.predicates)
  have sorts := mapM_eq_some_filterMap (adapter.boundSort? table params.selection)
    params.arguments.lastSorts fun sort member => by
      rw [boundSort?, Option.isSome_map]
      exact prepared.sorts sort member
  have narrow : (params.arguments.lastSorts.filterMap
      (adapter.boundSort? table params.selection)).length ≤ widthLimit :=
    le_trans (List.length_filterMap_le _ _) prepared.sortWidth
  rw [prepare?_selectStatement stored, resolved, sorts, Option.bind_some, Option.bind_some,
    if_neg (not_or.mpr ⟨Nat.not_lt.mpr prepared.width, Nat.not_lt.mpr narrow⟩)]
  exact ⟨_, rfl, rfl, Filter.keeps_of_resolve? resolved rfl, rfl, rfl⟩

/-- Only prepared statements have a plan. -/
theorem prepared_of_plan
    (stored : ∀ column ∈ adapter.columns, (table.column? column.name).isSome)
    (columns : adapter.columns ≠ []) (height : Filter.FitsHeight (adapter.predicates params))
    {plan : SelectPlan}
    (planned : SelectPlan.prepare? table (adapter.selectStatement params) = some plan) :
    adapter.Prepared table params := by
  rw [prepare?_selectStatement stored] at planned
  simp only [Option.bind_eq_some_iff] at planned
  obtain ⟨bound, resolved, sorts, ordered, planned⟩ := planned
  have present := map_some_of_mapM ordered
  have bounded : ¬ (widthLimit < (selectedColumns adapter.columns params.selection).length ∨
      widthLimit < sorts.length) := by
    intro wide
    rw [if_pos wide] at planned
    cases planned
  obtain ⟨width, sortWidth⟩ := not_or.mp bounded
  have length : sorts.length = params.arguments.lastSorts.length := by
    simpa using (congrArg List.length present).symm
  refine ⟨columns, Nat.not_lt.mp width, height, ?_, ?_, length ▸ Nat.not_lt.mp sortWidth⟩
  · exact (Filter.isSome_resolve? _).mp (Option.isSome_iff_exists.mpr ⟨bound, resolved⟩)
  · intro sort member
    have bound := List.mem_map_of_mem (f := adapter.boundSort? table params.selection) member
    rw [present] at bound
    obtain ⟨source, _, same⟩ := List.mem_map.mp bound
    rw [← Option.isSome_map, ← boundSort?, ← same]
    rfl

end TableAdapter

end NodeGraph
