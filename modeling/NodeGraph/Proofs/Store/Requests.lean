import Mathlib.Algebra.Group.Nat.Defs
import NodeGraph.Proofs.Argument.FilterLanguage
import NodeGraph.Proofs.Sql.Linking
import NodeGraph.Proofs.Store.Returning

/-!
# Requests over a stored table

A request of the built-in arguments over the columns of a stored table is answered as long as
its statement keeps the limits of the store.  Its rows are those that all predicates keep, in
an order that does not depend on the window that is cut out of them.
-/

namespace NodeGraph

open Statement StoredTable

namespace Predicate

/-- A predicate that a filter can hold: an operation of a tag on an operand. -/
def Accepted (predicate : Predicate) : Prop :=
  ∃ tag operand, ofOperand tag predicate.field operand = .ok predicate

theorem of_ofOperand {tag name : String} {operand : Json} {predicate : Predicate}
    (read : ofOperand tag name operand = .ok predicate) :
    predicate.IsTyped ∧ predicate.field = name := by
  cases Filter.means_of_ofOperand read with
  | comparison _ compares _ => exact ⟨compares, rfl⟩
  | containment _ contains _ => exact ⟨contains, rfl⟩

theorem Accepted.isTyped {predicate : Predicate} (accepted : predicate.Accepted) :
    predicate.IsTyped := by
  obtain ⟨tag, operand, read⟩ := accepted
  exact (of_ofOperand read).1

/-- What a predicate keeps depends on the source of its field only. -/
theorem keeps_congr {lookup other : Term → Option ValueSource} {predicate : Predicate}
    (same : lookup (columnTerm predicate.field) = other (columnTerm predicate.field))
    (row : NumberedRow) : predicate.keeps lookup row = predicate.keeps other row := by
  cases predicate <;> simp only [keeps, condition, Condition.resolve, field] at same ⊢ <;>
    rw [same]

end Predicate

namespace Filter

theorem accepted_of_readEntry {field : String} {raw : Json} {predicate : Predicate}
    (read : readEntry field raw = .ok predicate) : predicate.Accepted := by
  unfold readEntry at read
  split at read
  · cases read
  · rename_i tag operand
    refine ⟨tag, operand, ?_⟩
    rw [(Predicate.of_ofOperand read).2]
    exact read
  · cases read
  · cases read

theorem accepted_of_recordEntries {entries : List (String × Json)}
    {before predicates : List Predicate} (each : ∀ predicate ∈ before, predicate.Accepted)
    (recorded : recordEntries before entries = (.ok (), predicates)) :
    ∀ predicate ∈ predicates, predicate.Accepted := by
  induction entries generalizing before with
  | nil =>
      obtain rfl : before = predicates := congrArg Prod.snd recorded
      exact each
  | cons entry entries ih =>
      rw [recordEntries] at recorded
      split at recorded
      · cases recorded
      · rename_i predicate read
        refine ih (fun other member => ?_) recorded
        rcases List.mem_append.mp member with kept | added
        · exact each other (List.mem_of_mem_filter kept)
        · obtain rfl := List.mem_singleton.mp added
          exact accepted_of_readEntry read

/-- The predicates of every filter that was recorded are accepted. -/
theorem accepted_of_record {value : Json} {predicates : List Predicate}
    (recorded : record [] value = (.ok (), predicates)) :
    ∀ predicate ∈ predicates, predicate.Accepted := by
  unfold record at recorded
  split at recorded
  · exact accepted_of_recordEntries (by simp) recorded
  · cases recorded

end Filter

/-- The arguments of a request with a filter, a sort order and a limit, each of which may be
absent. -/
def ResolveParams.given (params : ResolveParams) (filter : Option (List Predicate))
    (sorts : Option (List SortKey)) (window : Option Limit) : ResolveParams :=
  { params with
    arguments := (filter.map Argument.filter).toList ++
      ((sorts.map Argument.orderBy).toList ++ (window.map Argument.limit).toList) }

namespace ResolveParams

variable {params : ResolveParams} {filter : Option (List Predicate)}
  {sorts : Option (List SortKey)} {window : Option Limit}

theorem isBuiltIn_given :
    ∀ argument ∈ (params.given filter sorts window).arguments, argument.IsBuiltIn := by
  intro argument member
  simp only [given, List.mem_append, Option.mem_toList, Option.map_eq_some_iff] at member
  rcases member with ⟨_, _, rfl⟩ | ⟨_, _, rfl⟩ | ⟨_, _, rfl⟩ <;> trivial

@[simp]
theorem lastPredicates_given :
    (params.given filter sorts window).arguments.lastPredicates = filter.getD [] := by
  cases filter <;> cases sorts <;> cases window <;> rfl

@[simp]
theorem lastSorts_given :
    (params.given filter sorts window).arguments.lastSorts = sorts.getD [] := by
  cases filter <;> cases sorts <;> cases window <;> rfl

@[simp]
theorem window_given :
    (params.given filter sorts window).arguments.lastOf? Argument.window? = window := by
  cases filter <;> cases sorts <;> cases window <;> rfl

end ResolveParams

/-- A name without quotes that a column of the table has. -/
def StoredTable.HasColumn (table : StoredTable) (name : String) : Prop :=
  isPlainColumn name = true ∧ (table.column? name).isSome

theorem StoredTable.isSome_column?_of_mem {table : StoredTable} {name : String}
    (member : name ∈ table.columns) : (table.column? name).isSome := by
  rw [column?, List.findIdx?_isSome, List.any_eq_true]
  exact ⟨name, member, beq_self_eq_true _⟩

/-- A predicate that a client can send over a column of the table. -/
structure Predicate.SuitsTable (predicate : Predicate) (table : StoredTable) : Prop where
  accepted : predicate.Accepted
  column : table.HasColumn predicate.field
  noNull : ∀ operand ∈ predicate.operands, '\x00' ∉ operand.toList

/-- Whether a row of a table satisfies a predicate over its columns. -/
def StoredTable.keeps (table : StoredTable) (row : NumberedRow) (predicate : Predicate) : Bool :=
  predicate.keeps (table.source? table.name []) row

namespace TableAdapter

/-- The adapter without its link. -/
def unlinked {World : Type} (adapter : TableAdapter World) : TableAdapter World :=
  { adapter with link := none }

/-- The predicate of the link of an adapter for a parent. -/
def linkPredicate {World : Type} (adapter : TableAdapter World) (parent : Option Record) :
    Option Predicate :=
  adapter.link.bind fun link => linkPredicate? link parent

/-- An adapter whose names are plain over a table that has all of its columns, the linked one
as well.  The key of the parent has no null character. -/
structure Over (adapter : TableAdapter MemoryStore) (store : MemoryStore) (table : StoredTable)
    (parent : Option Record) : Prop where
  source : adapter.source = MemoryStore.source
  found : store.table? adapter.table = some table
  name : isPlainName adapter.table = true
  columns : ∀ column ∈ adapter.columns,
    table.HasColumn column.name ∧ isPlainName column.label = true
  link : ∀ link ∈ adapter.link, table.HasColumn link.column
  key : ∀ predicate ∈ adapter.linkPredicate parent,
    ∀ operand ∈ predicate.operands, '\x00' ∉ operand.toList

/-- The statement of an adapter selects a column and keeps the limits of the store. -/
structure WithinLimits {World : Type} (adapter : TableAdapter World) (params : ResolveParams) :
    Prop where
  columns : adapter.columns ≠ []
  width : (selectedColumns adapter.columns params.selection).length ≤ widthLimit
  height : Filter.FitsHeight (adapter.predicates params)
  sortWidth : params.arguments.lastSorts.length ≤ widthLimit

/-- The rows that are returned for a request are those, and each gives a record. -/
structure Returns (adapter : TableAdapter MemoryStore) (table : StoredTable)
    (params : ResolveParams) (state : RequestState MemoryStore) (rows : List NumberedRow) :
    Prop where
  returned : adapter.returnedRows params state.world = some rows
  records : (adapter.resolve params state).1 =
    .ok (rows.map (adapter.recordOf table params.selection))

theorem Returns.unique {adapter : TableAdapter MemoryStore} {table : StoredTable}
    {params : ResolveParams} {state : RequestState MemoryStore} {rows others : List NumberedRow}
    (returns : adapter.Returns table params state rows)
    (again : adapter.Returns table params state others) : rows = others :=
  Option.some.inj (returns.returned.symm.trans again.returned)

namespace Over

variable {adapter : TableAdapter MemoryStore} {store : MemoryStore} {table : StoredTable}
  {parent : Option Record}

theorem storedIn (onTable : adapter.Over store table parent) : adapter.StoredIn store table where
  source := onTable.source
  found := onTable.found
  columns := fun column member => (onTable.columns column member).1.2

theorem unlinked (onTable : adapter.Over store table parent) :
    adapter.unlinked.Over store table parent where
  source := onTable.source
  found := onTable.found
  name := onTable.name
  columns := onTable.columns
  link := by simp [TableAdapter.unlinked]
  key := by simp [TableAdapter.unlinked, linkPredicate]

theorem suits_link (onTable : adapter.Over store table parent) :
    ∀ predicate ∈ adapter.linkPredicate parent, predicate.SuitsTable table := by
  intro predicate stated
  obtain ⟨link, linked, stated'⟩ := Option.bind_eq_some_iff.mp stated
  obtain ⟨record, value, text, -, -, key, rfl⟩ := key_of_linkPredicate? stated'
  obtain ⟨operand, -, compared⟩ := ParentLink.exists_operand link.column key
  exact ⟨⟨_, _, compared⟩, onTable.link link linked,
    onTable.key _ stated⟩

variable {params : ResolveParams}

/-- Every predicate of the statement suits the table if those of the filter do. -/
theorem suits_predicates (onTable : adapter.Over store table params.parent)
    (suits : ∀ predicate ∈ params.arguments.lastPredicates, predicate.SuitsTable table) :
    ∀ predicate ∈ adapter.predicates params, predicate.SuitsTable table := by
  intro predicate member
  rcases List.mem_append.mp member with filtered | linked
  · exact suits predicate filtered
  · exact onTable.suits_link predicate (Option.mem_toList.mp linked)

theorem plain (onTable : adapter.Over store table params.parent)
    (suits : ∀ predicate ∈ params.arguments.lastPredicates, predicate.SuitsTable table)
    (sorted : ∀ sort ∈ params.arguments.lastSorts, table.HasColumn sort.field) :
    adapter.Plain params where
  table := onTable.name
  columns := fun column member =>
    have ⟨name, label⟩ := onTable.columns column member
    ⟨name.1, label⟩
  predicates := fun predicate member =>
    have suits := onTable.suits_predicates suits predicate member
    ⟨suits.accepted.isTyped, suits.column.1, suits.noNull⟩
  sorts := fun sort member => (sorted sort member).1

end Over

variable {adapter : TableAdapter MemoryStore} {table : StoredTable} {params : ResolveParams}

theorem source?_of_hasColumn {name : String} (column : table.HasColumn name) (labels : Labels) :
    table.source? table.name labels (columnTerm name) =
      table.source? table.name [] (columnTerm name) := by
  obtain ⟨index, placed⟩ := Option.isSome_iff_exists.mp column.2
  rw [source?_stored placed, source?_stored placed]

theorem isSome_source? {name : String} (column : table.HasColumn name) (labels : Labels) :
    (table.source? table.name labels (columnTerm name)).isSome := by
  obtain ⟨index, placed⟩ := Option.isSome_iff_exists.mp column.2
  rw [source?_stored placed]
  rfl

/-- Names of columns have a source, so a statement is prepared within the limits. -/
theorem prepared_iff
    (suits : ∀ predicate ∈ adapter.predicates params, predicate.SuitsTable table)
    (sorted : ∀ sort ∈ params.arguments.lastSorts, table.HasColumn sort.field) :
    adapter.Prepared table params ↔ adapter.WithinLimits params := by
  constructor
  · intro prepared
    exact ⟨prepared.columns, prepared.width, prepared.height, prepared.sortWidth⟩
  · intro within
    refine ⟨within.columns, within.width, within.height, fun predicate member => ?_,
      fun sort member => ?_, within.sortWidth⟩
    · exact isSome_source? (suits predicate (List.mem_of_mem_filter member)).column _
    · have bound := isSome_source? (sorted sort member)
        (table.labels (selectedColumns adapter.columns params.selection))
      rw [sortSource?, sortSource?_columnTerm, Option.isSome_or, bound, Bool.or_true]

end TableAdapter

namespace SelectPlan

theorem orderedRows_congr {plan other : SelectPlan}
    (keeps : ∀ row, plan.keeps row = other.keeps row) (sorts : plan.sorts = other.sorts)
    (rows : List (List StoredValue)) :
    plan.orderedRows rows = other.orderedRows rows := by
  rw [orderedRows, orderedRows, sorts, funext keeps]

theorem orderedRows_perm (plan : SelectPlan) (rows : List (List StoredValue)) :
    (plan.orderedRows rows).Perm ((numberedRows rows).filter plan.keeps) := by
  unfold orderedRows
  split
  · exact .refl _
  · exact List.mergeSort_perm _ _

/-- A window of numbers of 63 bits drops the rows before it and keeps the count. -/
theorem windowRows_of_lt {offset count : Nat} (offsetFits : offset < 2 ^ 63)
    (countFits : count < 2 ^ 63) (rows : List NumberedRow) :
    windowRows (some (offset, count)) rows = .ok ((rows.drop offset).take count) := by
  have greatest : greatestInt64 = 2 ^ 63 - 1 := by decide
  by_cases none : count = 0
  · simp [windowRows, none]
  · have fits : ¬ (greatestInt64 < offset ∨ greatestInt64 < count) := by omega
    simp only [windowRows, if_neg none, if_neg fits]

end SelectPlan

/-- Whether a row satisfies all predicates that are not empty. -/
def StoredTable.keepsAll (table : StoredTable) (predicates : List Predicate)
    (row : NumberedRow) : Bool :=
  predicates.all fun predicate => predicate.operands.isEmpty || table.keeps row predicate

/-- The rows of a table that satisfy all predicates, in the order of the table. -/
def StoredTable.keptRows (table : StoredTable) (predicates : List Predicate) :
    List NumberedRow :=
  (SelectPlan.numberedRows table.rows).filter (table.keepsAll predicates)

theorem StoredTable.keptRows_nil (table : StoredTable) :
    table.keptRows [] = SelectPlan.numberedRows table.rows :=
  List.filter_true _

/-- The rows of several predicates are those of each of them that is not empty. -/
theorem StoredTable.keptRows_append (table : StoredTable) (predicates others : List Predicate) :
    table.keptRows (predicates ++ others) =
      (SelectPlan.numberedRows table.rows).filter fun row =>
        decide (row ∈ table.keptRows others ∧
          ∀ predicate ∈ predicates, predicate.operands ≠ [] →
            row ∈ table.keptRows [predicate]) := by
  refine List.filter_congr fun row member => ?_
  have single : ∀ predicate : Predicate, predicate.operands ≠ [] →
      (row ∈ table.keptRows [predicate] ↔ table.keeps row predicate = true) := by
    intro predicate restricts
    simp [keptRows, keepsAll, member, restricts]
  have kept : row ∈ table.keptRows others ↔ table.keepsAll others row = true := by
    simp [keptRows, member]
  have joined : table.keepsAll (predicates ++ others) row =
      (table.keepsAll predicates row && table.keepsAll others row) := List.all_append
  rw [Bool.eq_iff_iff, decide_eq_true_iff, kept, joined, Bool.and_eq_true, and_comm]
  refine and_congr_right fun _ => ?_
  rw [keepsAll, List.all_eq_true]
  refine forall₂_congr fun predicate _ => ?_
  rw [Bool.or_eq_true, List.isEmpty_iff]
  constructor
  · rintro (empty | keeps) restricts
    · exact absurd empty restricts
    · exact (single predicate restricts).mpr keeps
  · intro alone
    by_cases empty : predicate.operands = []
    · exact .inl empty
    · exact .inr ((single predicate empty).mp (alone empty))

namespace TableAdapter

variable {adapter : TableAdapter MemoryStore} {table : StoredTable} {params : ResolveParams}
  {state : RequestState MemoryStore}

theorem PlannedAs.keepsAll
    (suits : ∀ predicate ∈ adapter.predicates params, predicate.SuitsTable table)
    {plan : SelectPlan} (planned : adapter.PlannedAs table params plan) (row : NumberedRow) :
    plan.keeps row = table.keepsAll (adapter.predicates params) row := by
  rw [planned.keeps, Filter.restricting, List.all_filter, StoredTable.keepsAll, Bool.eq_iff_iff,
    List.all_eq_true, List.all_eq_true]
  refine forall₂_congr fun predicate member => ?_
  have same := Predicate.keeps_congr
    (source?_of_hasColumn (suits predicate member).column
      (table.labels (selectedColumns adapter.columns params.selection))) row
  rw [StoredTable.keeps, ← same, Bool.not_not]
  rfl

/-- A request of the built-in arguments over a table, to a store that answers. -/
structure Answering (adapter : TableAdapter MemoryStore) (state : RequestState MemoryStore)
    (table : StoredTable) (params : ResolveParams) : Prop where
  onTable : adapter.Over state.world table params.parent
  builtIn : ∀ argument ∈ params.arguments, argument.IsBuiltIn
  suits : ∀ predicate ∈ params.arguments.lastPredicates, predicate.SuitsTable table
  sorted : ∀ sort ∈ params.arguments.lastSorts, table.HasColumn sort.field
  noFailure : state.world.failure = none
  running : state.cancelled = false

namespace Answering

theorem returns (answering : adapter.Answering state table params) {rows : List NumberedRow}
    (returned : adapter.returnedRows params state.world = some rows) :
    adapter.Returns table params state rows := by
  have resolved := toOption_resolve answering.onTable.storedIn
    (answering.onTable.plain answering.suits answering.sorted) answering.builtIn
    answering.noFailure answering.running
  rw [returned, Option.map_some] at resolved
  refine ⟨returned, ?_⟩
  cases outcome : (adapter.resolve params state).1 with
  | error fault =>
      rw [outcome] at resolved
      cases resolved
  | ok records =>
      rw [outcome] at resolved
      exact congrArg Except.ok (Option.some.inj resolved)

theorem returns_of_within (answering : adapter.Answering state table params)
    {clauses : SelectClauses} (built : adapter.buildClauses params = .ok (some clauses))
    (within : adapter.WithinLimits params) :
    ∃ plan, adapter.PlannedAs table params plan ∧
      ∀ rows, SelectPlan.windowRows plan.window (plan.orderedRows table.rows) = .ok rows →
        adapter.Returns table params state rows := by
  have suits := answering.onTable.suits_predicates answering.suits
  obtain ⟨plan, planned, returned⟩ := returnedRows_of_prepared answering.onTable.storedIn
    (answering.onTable.plain answering.suits answering.sorted) answering.builtIn built
    ((prepared_iff suits answering.sorted).mpr within)
  refine ⟨plan, planned, fun rows windowed => answering.returns ?_⟩
  rw [returned, windowed]
  rfl

/-- A request that has clauses is refused beyond the limits. -/
theorem toOption_resolve_eq_none (answering : adapter.Answering state table params)
    {clauses : SelectClauses} (built : adapter.buildClauses params = .ok (some clauses))
    (beyond : ¬ adapter.WithinLimits params) :
    (adapter.resolve params state).1.toOption = none := by
  have plain := answering.onTable.plain answering.suits answering.sorted
  have suits := answering.onTable.suits_predicates answering.suits
  have nothing := returnedRows_eq_none answering.onTable.storedIn plain answering.builtIn built
    (mt (prepared_iff suits answering.sorted).mp beyond)
  rw [toOption_resolve answering.onTable.storedIn plain answering.builtIn answering.noFailure
    answering.running, nothing, Option.map_none]

/-- Nothing is sent for a parent without a key, and there are no rows. -/
theorem returns_nothing (answering : adapter.Answering state table params)
    (unbuilt : adapter.buildClauses params = .ok none) :
    adapter.Returns table params state [] :=
  answering.returns (by rw [returnedRows, unbuilt])

end Answering

/-- A request that is answered: nothing is sent for it since the parent has no key, or its
statement keeps the limits of the store. -/
def IsAnswered {World : Type} (adapter : TableAdapter World) (params : ResolveParams) : Prop :=
  (∃ link ∈ adapter.link, link.Unlinkable params.parent) ∨ adapter.WithinLimits params

section Given

variable {filter : Option (List Predicate)} {sorts : Option (List SortKey)}
  {window : Option Limit}

theorem Over.answering (onTable : adapter.Over state.world table params.parent)
    (suits : ∀ predicate ∈ filter.getD [], predicate.SuitsTable table)
    (sorted : ∀ sort ∈ sorts.getD [], table.HasColumn sort.field)
    (noFailure : state.world.failure = none) (running : state.cancelled = false) :
    adapter.Answering state table (params.given filter sorts window) where
  onTable := onTable
  builtIn := ResolveParams.isBuiltIn_given
  suits := by rwa [ResolveParams.lastPredicates_given]
  sorted := by rwa [ResolveParams.lastSorts_given]
  noFailure := noFailure
  running := running

theorem predicates_given : adapter.predicates (params.given filter sorts window) =
    filter.getD [] ++ (adapter.linkPredicate params.parent).toList := by
  rw [predicates, ResolveParams.lastPredicates_given]
  rfl

/-- A window changes nothing about the limits. -/
theorem WithinLimits.windowed (within : adapter.WithinLimits (params.given filter sorts none)) :
    adapter.WithinLimits (params.given filter sorts window) where
  columns := within.columns
  width := within.width
  height := by
    have height := within.height
    rwa [predicates_given] at height ⊢
  sortWidth := by
    have sortWidth := within.sortWidth
    rwa [ResolveParams.lastSorts_given] at sortWidth ⊢

theorem WithinLimits.unsorted (within : adapter.WithinLimits (params.given filter sorts none)) :
    adapter.WithinLimits (params.given filter none none) where
  columns := within.columns
  width := within.width
  height := by
    have height := within.height
    rwa [predicates_given] at height ⊢
  sortWidth := by
    rw [ResolveParams.lastSorts_given]
    exact Nat.zero_le _

theorem length_restricting_le (predicates : List Predicate) :
    (Filter.restricting predicates).length ≤ predicates.length :=
  List.length_filter_le _ _

/-- A filter of at most one predicate is within the limits if the columns are. -/
theorem WithinLimits.few {other : Option (List Predicate)}
    (within : adapter.WithinLimits (params.given other sorts none))
    (few : (filter.getD []).length ≤ 1) :
    adapter.WithinLimits (params.given filter none none) where
  columns := within.columns
  width := within.width
  height := by
    refine Filter.fitsHeight_of_length (le_trans (Nat.add_le_add_right
      (length_restricting_le _) 3) ?_)
    rw [predicates_given, List.length_append]
    have link := Option.length_toList_le (o := adapter.linkPredicate params.parent)
    have limit : heightLimit = 1000 := rfl
    omega
  sortWidth := by
    rw [ResolveParams.lastSorts_given]
    exact Nat.zero_le _

/-- The rows of a filter are those of the table that all its predicates keep, in order; a sort
order rearranges them, and a limit cuts a window out of what the sort order makes of them. -/
theorem Answering.exists_ordered
    (answering : ∀ window, adapter.Answering state table (params.given filter sorts window))
    (built : adapter.buildClauses params ≠ .ok none)
    (within : adapter.WithinLimits (params.given filter sorts none)) :
    ∃ ordered : List NumberedRow,
      ordered.Perm
        (table.keptRows (filter.getD [] ++ (adapter.linkPredicate params.parent).toList)) ∧
      (sorts.getD [] = [] → ordered =
        table.keptRows (filter.getD [] ++ (adapter.linkPredicate params.parent).toList)) ∧
      adapter.Returns table (params.given filter sorts none) state ordered ∧
      ∀ count < 2 ^ 63, ∀ offset < 2 ^ 63,
        adapter.Returns table (params.given filter sorts (some ⟨count, offset⟩)) state
          ((ordered.drop offset).take count) := by
  have built : ∀ window, ∃ clauses,
      adapter.buildClauses (params.given filter sorts window) = .ok (some clauses) := by
    intro window
    refine (adapter.buildClauses_cases _).resolve_left fun unbuilt => built ?_
    rwa [buildClauses_eq_none_iff] at unbuilt ⊢
  obtain ⟨clauses, whole⟩ := built none
  obtain ⟨plan, planned, returns⟩ := (answering none).returns_of_within whole within
  have kept : ∀ window {plan : SelectPlan},
      adapter.PlannedAs table (params.given filter sorts window) plan → plan.keeps =
        table.keepsAll (filter.getD [] ++ (adapter.linkPredicate params.parent).toList) := by
    intro window plan planned
    funext row
    rw [planned.keepsAll ((answering window).onTable.suits_predicates (answering window).suits),
      predicates_given]
  refine ⟨plan.orderedRows table.rows, ?_, ?_, returns _ ?_, ?_⟩
  · rw [keptRows, ← kept none planned]
    exact plan.orderedRows_perm table.rows
  · intro unsorted
    have sorts : plan.sorts = [] := by
      rw [planned.sorts, ResolveParams.lastSorts_given, unsorted, List.filterMap_nil]
    rw [SelectPlan.orderedRows, sorts, kept none planned]
    rfl
  · rw [planned.window, selectStatement, ResolveParams.window_given]
    rfl
  · intro count countFits offset offsetFits
    obtain ⟨clauses, cut⟩ := built (some ⟨count, offset⟩)
    obtain ⟨other, alike, returns⟩ :=
      (answering (some ⟨count, offset⟩)).returns_of_within cut within.windowed
    have same : other.orderedRows table.rows = plan.orderedRows table.rows := by
      refine SelectPlan.orderedRows_congr (fun row => ?_) ?_ table.rows
      · rw [kept _ alike, kept _ planned]
      · rw [alike.sorts, planned.sorts, ResolveParams.lastSorts_given,
          ResolveParams.lastSorts_given]
        rfl
    refine returns _ ?_
    rw [alike.window, selectStatement, ResolveParams.window_given, same]
    exact SelectPlan.windowRows_of_lt offsetFits countFits _

/-- Requests without a window succeed exactly if they are of that kind. -/
theorem exists_records_iff
    (answering : ∀ window, adapter.Answering state table (params.given filter sorts window)) :
    (∃ records, (adapter.resolve (params.given filter sorts none) state).1 = .ok records) ↔
      adapter.IsAnswered (params.given filter sorts none) := by
  rcases adapter.buildClauses_cases (params.given filter sorts none) with built | ⟨clauses, built⟩
  · have nothing := (answering none).returns_nothing built
    exact ⟨fun _ => .inl (buildClauses_eq_none_iff.mp built), fun _ => ⟨_, nothing.records⟩⟩
  · have present : adapter.buildClauses (params.given filter sorts none) ≠ .ok none := by
      simp [built]
    constructor
    · rintro ⟨records, resolved⟩
      by_contra unanswered
      have refused := (answering none).toOption_resolve_eq_none built
        fun within => unanswered (.inr within)
      rw [resolved] at refused
      cases refused
    · rintro (unlinkable | within)
      · exact absurd (buildClauses_eq_none_iff.mpr unlinkable) present
      · have linkable : adapter.buildClauses params ≠ .ok none := by
          rwa [ne_eq, buildClauses_eq_none_iff] at present ⊢
        obtain ⟨ordered, -, -, returns, -⟩ :=
          Answering.exists_ordered answering linkable within
        exact ⟨_, returns.records⟩

/-- The rows of a filter of at most one predicate, within the limits. -/
theorem returns_few
    (answering : ∀ window, adapter.Answering state table (params.given filter none window))
    (built : adapter.buildClauses params ≠ .ok none)
    (within : adapter.WithinLimits (params.given filter none none)) :
    adapter.Returns table (params.given filter none none) state
      (table.keptRows (filter.getD [] ++ (adapter.linkPredicate params.parent).toList)) := by
  obtain ⟨ordered, -, unsorted, returns, -⟩ := Answering.exists_ordered answering built within
  rwa [unsorted rfl] at returns

end Given

end TableAdapter

end NodeGraph
