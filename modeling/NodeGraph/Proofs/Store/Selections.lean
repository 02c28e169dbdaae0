import Mathlib.Data.List.Pairwise
import NodeGraph.Demo
import NodeGraph.Proofs.Json.Entries
import NodeGraph.Proofs.Store.Requests

/-!
# What a selection changes

The selection of a request decides which attributes its records have.  The rows depend on it
only through the names in the arguments: a renamed column is known by its label while it is
selected, and by its own name always.
-/

namespace NodeGraph

open Statement StoredTable

namespace TableAdapter

section Columns

theorem filter_addColumn (test : Column → Bool) (selected : List Column) (column : Column) :
    (addColumn selected column).filter test =
      if test column then addColumn (selected.filter test) column else selected.filter test := by
  unfold addColumn
  by_cases tested : test column = true
  · by_cases known : column ∈ selected <;>
      simp [known, tested, List.mem_filter, List.filter_append]
  · by_cases known : column ∈ selected <;> simp [known, tested, List.filter_append]

/-- Columns are added to those that pass a test as they are added to all. -/
theorem filter_foldl_addColumn (test : Column → Bool) (added selected : List Column) :
    (added.foldl addColumn selected).filter test =
      (added.filter test).foldl addColumn (selected.filter test) := by
  induction added generalizing selected with
  | nil => rfl
  | cons column rest ih =>
      rw [List.foldl_cons, ih, filter_addColumn, List.filter_cons]
      split <;> rfl

/-- A column that is there is not added again. -/
theorem foldl_addColumn_of_forall_eq {column : Column} {added selected : List Column}
    (known : column ∈ selected) (same : ∀ other ∈ added, other = column) :
    added.foldl addColumn selected = selected := by
  induction added with
  | nil => rfl
  | cons other rest ih =>
      obtain rfl := same other List.mem_cons_self
      rw [List.foldl_cons, addColumn, if_pos known]
      exact ih fun next member => same next (List.mem_cons_of_mem _ member)

variable {columns : List Column} {selection : List String}

/-- A selection has no more columns than the adapter. -/
theorem length_selectedColumns_le :
    (selectedColumns columns selection).length ≤ columns.length := by
  have subset : selectedColumns columns selection ⊆ columns :=
    fun _ member => mem_of_mem_selectedColumns member
  have requested := @nodup_requestedColumns columns selection
  unfold selectedColumns at subset ⊢
  split at subset
  · exact le_refl _
  · exact ((nodup_foldl_addColumn _ requested).subperm subset).length_le

/-- What a selection asks for under a label: the first column with the label. -/
theorem filter_requestedColumns {label : String} (asked : label ∈ selection) :
    (requestedColumns columns selection).filter (fun column => column.label == label) =
      (columns.find? fun column => column.label == label).toList := by
  rw [requestedColumns, filter_foldl_addColumn, List.filter_nil]
  cases found : columns.find? fun column => column.label == label with
  | none =>
      have nothing : (selection.filterMap fun name =>
          columns.find? fun column => column.label == name).filter
            (fun column => column.label == label) = [] := by
        refine List.filter_eq_nil_iff.mpr fun column member labelled => ?_
        obtain ⟨name, -, placed⟩ := List.mem_filterMap.mp member
        exact List.find?_eq_none.mp found column (List.mem_of_find?_eq_some placed) labelled
      rw [nothing]
      rfl
  | some column =>
      have same : ∀ other ∈ (selection.filterMap fun name =>
          columns.find? fun column => column.label == name).filter
            (fun column => column.label == label), other = column := by
        intro other member
        obtain ⟨member, labelled⟩ := List.mem_filter.mp member
        obtain ⟨name, -, placed⟩ := List.mem_filterMap.mp member
        have named := List.find?_some placed
        obtain rfl : name = label := by
          rw [← beq_iff_eq.mp named, beq_iff_eq.mp labelled]
        exact Option.some.inj (placed.symm.trans found)
      have labelled := List.find?_some found
      have present : column ∈ (selection.filterMap fun name =>
          columns.find? fun column => column.label == name).filter
            (fun column => column.label == label) :=
        List.mem_filter.mpr ⟨List.mem_filterMap.mpr ⟨label, asked, found⟩, labelled⟩
      cases shape : (selection.filterMap fun name =>
          columns.find? fun column => column.label == name).filter
            (fun column => column.label == label) with
      | nil =>
          rw [shape] at present
          cases present
      | cons first rest =>
          rw [shape] at same
          obtain rfl := same first List.mem_cons_self
          exact foldl_addColumn_of_forall_eq (List.mem_singleton.mpr rfl)
            fun other member => same other (List.mem_cons_of_mem _ member)

/-- The columns under a label that a selection asks for do not depend on what else it asks
for. -/
theorem filter_selectedColumns {label : String} (asked : label ∈ selection) :
    (selectedColumns columns selection).filter (fun column => column.label == label) =
      ((columns.filter fun column => column.required).filter
        (fun column => column.label == label)).foldl addColumn
          (columns.find? fun column => column.label == label).toList := by
  have requested := @filter_requestedColumns columns _ _ asked
  unfold selectedColumns
  split
  · rename_i nothing
    rw [nothing, List.filter_nil] at requested
    have none : columns.find? (fun column => column.label == label) = none :=
      Option.toList_eq_nil_iff.mp requested.symm
    have nowhere : columns.filter (fun column => column.label == label) = [] :=
      List.filter_eq_nil_iff.mpr fun column member => List.find?_eq_none.mp none column member
    rw [none, nowhere, List.filter_comm, nowhere]
    rfl
  · rw [filter_foldl_addColumn, requested]

end Columns

end TableAdapter

namespace RowSet

theorem rowEntries_map {α : Type} (items : List α) (label : α → String) (cell : α → Cell) :
    rowEntries (items.map label) (items.map cell) =
      items.map fun item => (label item, (cell item).toJson) := by
  induction items with
  | nil => rfl
  | cons item items ih => rw [List.map_cons, List.map_cons, rowEntries, ih, List.map_cons]

/-- Of the items under a label the last one decides. -/
theorem find?_rowRecord {α : Type} (items : List α) (label : α → String) (cell : α → Cell)
    (name : String) :
    JsonObject.find? (rowRecord (items.map label) (items.map cell)) name =
      ((items.filter fun item => label item == name).getLast?).map fun item =>
        (cell item).toJson := by
  rw [rowRecord, JsonObject.find?_ofEntries, rowEntries_map]
  induction items using List.reverseRecOn with
  | nil => rfl
  | append_singleton items item ih =>
      rw [List.map_append, List.reverse_append, List.map_singleton, List.reverse_singleton,
        List.singleton_append, List.lookup_cons, List.filter_append]
      by_cases same : label item = name
      · simp [same]
      · rw [beq_false_of_ne (Ne.symm same), ih, List.filter_singleton, beq_false_of_ne same,
          Bool.cond_false, List.append_nil]

end RowSet

namespace MemoryStore

/-- Among names that differ in any case the first one like a name is that name. -/
theorem getD_findIdx?_sameName {columns : List String} (distinct : repeatsColumn columns = false)
    {name : String} (member : name ∈ columns) (default : String) :
    columns.getD ((columns.findIdx? (sameName name)).getD 0) default = name := by
  induction columns with
  | nil => cases member
  | cons column rest ih =>
      rw [repeatsColumn, Bool.or_eq_false_iff, List.any_eq_false] at distinct
      rw [List.findIdx?_cons]
      by_cases alike : sameName name column = true
      · rw [if_pos alike]
        rcases List.mem_cons.mp member with rfl | later
        · rfl
        · have alike : sameName column name = true := by
            rw [sameName, beq_iff_eq] at alike ⊢
            exact alike.symm
          exact absurd alike (distinct.1 name later)
      · rcases List.mem_cons.mp member with rfl | later
        · exact absurd (beq_self_eq_true (upper name)) alike
        · have placed : (rest.findIdx? (sameName name)).isSome := by
            rw [List.findIdx?_isSome, List.any_eq_true]
            exact ⟨name, later, beq_self_eq_true _⟩
          obtain ⟨index, placed⟩ := Option.isSome_iff_exists.mp placed
          have found := ih distinct.2 later
          rw [placed, Option.getD_some] at found
          rw [if_neg alike, placed, Option.map_some, Option.getD_some, List.getD_cons_succ, found]

end MemoryStore

namespace TableAdapter

variable {adapter : TableAdapter MemoryStore} {table : StoredTable}

/-- A selected column stands under its label. -/
theorem entry_label (distinct : MemoryStore.repeatsColumn table.columns = false)
    {column : Column} (member : column.name ∈ table.columns) :
    (table.entry column).1 = column.label := by
  have named : (table.entry column).1 = if column.name = column.label then
      table.columns.getD ((table.column? column.name).getD 0) column.name else column.label := rfl
  have found : table.columns.getD ((table.column? column.name).getD 0) column.name =
      column.name := MemoryStore.getD_findIdx?_sameName distinct member column.name
  rw [named, found]
  split
  · assumption
  · rfl

/-- The value of a record under a label is that of the last column with the label. -/
theorem find?_recordOf (distinct : MemoryStore.repeatsColumn table.columns = false)
    (exact : ∀ column ∈ adapter.columns, column.name ∈ table.columns)
    (selection : List String) (row : NumberedRow) (label : String) :
    JsonObject.find? (adapter.recordOf table selection row) label =
      (((selectedColumns adapter.columns selection).filter
        fun column => column.label == label).getLast?).map fun column =>
          ((table.entry column).2.value row).toCell.toJson := by
  have labels : ∀ column ∈ selectedColumns adapter.columns selection,
      ((table.entry column).1 == label) = (column.label == label) := fun column member => by
    rw [entry_label distinct (exact column (mem_of_mem_selectedColumns member))]
  rw [recordOf, entries, List.map_map, List.map_map, RowSet.find?_rowRecord]
  simp only [Function.comp_apply]
  rw [List.filter_congr labels]

/-- Two selections that ask for a label give the same value under it. -/
theorem find?_recordOf_congr (distinct : MemoryStore.repeatsColumn table.columns = false)
    (exact : ∀ column ∈ adapter.columns, column.name ∈ table.columns)
    {first second : List String} {label : String} (asked : label ∈ first)
    (askedToo : label ∈ second) (row : NumberedRow) :
    JsonObject.find? (adapter.recordOf table first row) label =
      JsonObject.find? (adapter.recordOf table second row) label := by
  rw [find?_recordOf distinct exact, find?_recordOf distinct exact,
    filter_selectedColumns asked, filter_selectedColumns askedToo]

end TableAdapter

/-- A window that the store can cut out: an empty one, or one with numbers of 63 bits. -/
def Limit.IsBounded (window : Limit) : Prop :=
  window.count = 0 ∨ window.offset < 2 ^ 63 ∧ window.count < 2 ^ 63

instance (window : Limit) : Decidable window.IsBounded :=
  inferInstanceAs (Decidable (_ ∨ _ ∧ _))

theorem SelectPlan.isSome_windowRows_iff (window : Option Limit) (rows : List NumberedRow) :
    ((windowRows (window.map fun window => (window.offset, window.count))
      rows).toOption).isSome ↔ ∀ stated ∈ window, stated.IsBounded := by
  have greatest : greatestInt64 = 2 ^ 63 - 1 := by decide
  cases window with
  | none => simp [windowRows, Except.toOption]
  | some window =>
      simp only [Option.map_some, Option.mem_some_iff, forall_eq', Limit.IsBounded, windowRows]
      by_cases empty : window.count = 0
      · simp [empty, Except.toOption]
      · rw [if_neg empty]
        by_cases beyond : greatestInt64 < window.offset ∨ greatestInt64 < window.count
        · rw [if_pos beyond]
          simp only [Except.toOption, Option.isSome_none, Bool.false_eq_true, false_iff]
          omega
        · rw [if_neg beyond]
          simp only [Except.toOption, Option.isSome_some, true_iff]
          omega

/-- A request with another selection. -/
def ResolveParams.selecting (params : ResolveParams) (selection : List String) :
    ResolveParams :=
  { params with selection }

namespace TableAdapter

/-- Every name in a filter that restricts or in a sort order has a meaning in the statement. -/
def Understands {World : Type} (adapter : TableAdapter World) (table : StoredTable)
    (params : ResolveParams) : Prop :=
  (∀ predicate ∈ Filter.restricting params.arguments.lastPredicates,
    (adapter.filterSource? table params.selection (columnTerm predicate.field)).isSome) ∧
  ∀ sort ∈ params.arguments.lastSorts,
    (adapter.sortSource? table params.selection sort.field).isSome

/-- Every name in a filter that restricts or in a sort order means the same under two
selections. -/
structure SameMeaning {World : Type} (adapter : TableAdapter World) (table : StoredTable)
    (arguments : ValidatedArguments) (first second : List String) : Prop where
  filtered : ∀ predicate ∈ Filter.restricting arguments.lastPredicates,
    adapter.filterSource? table first (columnTerm predicate.field) =
      adapter.filterSource? table second (columnTerm predicate.field)
  sorted : ∀ sort ∈ arguments.lastSorts,
    adapter.sortSource? table first sort.field = adapter.sortSource? table second sort.field

/-- A request with plain names over a table with exactly the columns that the adapter names. -/
structure Named (adapter : TableAdapter MemoryStore) (store : MemoryStore)
    (table : StoredTable) (params : ResolveParams) : Prop where
  onTable : adapter.Over store table params.parent
  exact : ∀ column ∈ adapter.columns, column.name ∈ table.columns
  distinct : MemoryStore.repeatsColumn table.columns = false
  builtIn : ∀ argument ∈ params.arguments, argument.IsBuiltIn
  predicates : ∀ predicate ∈ params.arguments.lastPredicates,
    predicate.Accepted ∧ isPlainColumn predicate.field = true ∧
      ∀ operand ∈ predicate.operands, '\x00' ∉ operand.toList
  sorts : ∀ sort ∈ params.arguments.lastSorts, isPlainColumn sort.field = true

variable {adapter : TableAdapter MemoryStore} {table : StoredTable} {params : ResolveParams}

theorem exists_ok_iff_isSome {α : Type} (outcome : Except GraphError α) :
    (∃ value, outcome = .ok value) ↔ outcome.toOption.isSome := by
  cases outcome <;> simp [Except.toOption]

namespace Named

variable {store : MemoryStore} {state : RequestState MemoryStore}

theorem plain (named : adapter.Named store table params) (selection : List String) :
    adapter.Plain (params.selecting selection) where
  table := named.onTable.name
  columns := fun column member =>
    have ⟨name, label⟩ := named.onTable.columns column member
    ⟨name.1, label⟩
  predicates := fun predicate member => by
    rcases List.mem_append.mp member with filtered | linked
    · have ⟨accepted, field, noNull⟩ := named.predicates predicate filtered
      exact ⟨accepted.isTyped, field, noNull⟩
    · have suits := named.onTable.suits_link predicate (Option.mem_toList.mp linked)
      exact ⟨suits.accepted.isTyped, suits.column.1, suits.noNull⟩
  sorts := named.sorts

/-- A name of the link is a column, which no selection can hide. -/
theorem filterSource?_link (named : adapter.Named store table params) {predicate : Predicate}
    (linked : predicate ∈ adapter.linkPredicate params.parent) (selection : List String) :
    adapter.filterSource? table selection (columnTerm predicate.field) =
      table.source? table.name [] (columnTerm predicate.field) :=
  source?_of_hasColumn (named.onTable.suits_link predicate linked).column _

theorem prepared_iff (named : adapter.Named store table params) (selection : List String) :
    adapter.Prepared table (params.selecting selection) ↔
      adapter.WithinLimits (params.selecting selection) ∧
        adapter.Understands table (params.selecting selection) := by
  have restricting : Filter.restricting (adapter.predicates (params.selecting selection)) =
      Filter.restricting params.arguments.lastPredicates ++
        Filter.restricting (adapter.linkPredicate params.parent).toList :=
    List.filter_append ..
  constructor
  · intro prepared
    refine ⟨⟨prepared.columns, prepared.width, prepared.height, prepared.sortWidth⟩,
      fun predicate member => prepared.predicates predicate ?_, prepared.sorts⟩
    rw [restricting]
    exact List.mem_append_left _ member
  · rintro ⟨within, filtered, sorted⟩
    refine ⟨within.columns, within.width, within.height, fun predicate member => ?_, sorted,
      within.sortWidth⟩
    rw [restricting] at member
    rcases List.mem_append.mp member with member | member
    · exact filtered predicate member
    · have linked := Option.mem_toList.mp (List.mem_of_mem_filter member)
      exact isSome_source? (named.onTable.suits_link predicate linked).column _

/-- A request succeeds exactly if there are rows. -/
theorem exists_records_iff (named : adapter.Named state.world table params)
    (noFailure : state.world.failure = none) (running : state.cancelled = false)
    (selection : List String) :
    (∃ records, (adapter.resolve (params.selecting selection) state).1 = .ok records) ↔
      (adapter.returnedRows (params.selecting selection) state.world).isSome := by
  rw [exists_ok_iff_isSome, toOption_resolve named.onTable.storedIn (named.plain selection)
    named.builtIn noFailure running, Option.isSome_map]

theorem window_selecting (selection : List String) :
    (adapter.selectStatement (params.selecting selection)).window =
      (params.arguments.lastOf? Argument.window?).map fun window =>
        (window.offset, window.count) :=
  rfl

theorem isSome_returnedRows_iff (named : adapter.Named store table params)
    (selection : List String) :
    (adapter.returnedRows (params.selecting selection) store).isSome ↔
      (∃ link ∈ adapter.link, link.Unlinkable params.parent) ∨
        (adapter.WithinLimits (params.selecting selection) ∧
          adapter.Understands table (params.selecting selection) ∧
          ∀ window ∈ params.arguments.lastOf? Argument.window?, window.IsBounded) := by
  have unlinkable : adapter.buildClauses (params.selecting selection) = .ok none ↔
      ∃ link ∈ adapter.link, link.Unlinkable params.parent := buildClauses_eq_none_iff
  rw [← unlinkable, ← and_assoc, ← named.prepared_iff]
  rcases adapter.buildClauses_cases (params.selecting selection) with built | ⟨clauses, built⟩
  · simp [returnedRows, built]
  · simp only [built, Except.ok.injEq, reduceCtorEq, false_or]
    by_cases prepared : adapter.Prepared table (params.selecting selection)
    · obtain ⟨plan, planned, returned⟩ := returnedRows_of_prepared named.onTable.storedIn
        (named.plain selection) named.builtIn built prepared
      rw [returned, planned.window, window_selecting, SelectPlan.isSome_windowRows_iff]
      exact (and_iff_right prepared).symm
    · rw [returnedRows_eq_none named.onTable.storedIn (named.plain selection) named.builtIn built
        prepared]
      simp [prepared]

/-- Plans in which the names mean the same return the same rows. -/
theorem orderedRows_eq (named : adapter.Named store table params) {first second : List String}
    (same : adapter.SameMeaning table params.arguments first second) {plan other : SelectPlan}
    (planned : adapter.PlannedAs table (params.selecting first) plan)
    (alike : adapter.PlannedAs table (params.selecting second) other) :
    plan.orderedRows table.rows = other.orderedRows table.rows := by
  refine SelectPlan.orderedRows_congr (fun row => ?_) ?_ table.rows
  · rw [planned.keeps, alike.keeps, Bool.eq_iff_iff, List.all_eq_true, List.all_eq_true]
    refine forall₂_congr fun predicate member => ?_
    have meaning : adapter.filterSource? table first (columnTerm predicate.field) =
        adapter.filterSource? table second (columnTerm predicate.field) := by
      have ⟨stated, restricts⟩ := List.mem_filter.mp member
      rcases List.mem_append.mp stated with filtered | linked
      · exact same.filtered predicate (List.mem_filter.mpr ⟨filtered, restricts⟩)
      · have linked := Option.mem_toList.mp linked
        rw [named.filterSource?_link linked, named.filterSource?_link linked]
    have keeps := Predicate.keeps_congr meaning row
    exact iff_of_eq (congrArg (· = true) keeps)
  · rw [planned.sorts, alike.sorts]
    refine List.filterMap_congr fun sort member => ?_
    exact congrArg (Option.map fun source => (source, sort.direction == .descending))
      (same.sorted sort member)

theorem understands_iff {first second : List String}
    (same : adapter.SameMeaning table params.arguments first second) :
    adapter.Understands table (params.selecting first) ↔
      adapter.Understands table (params.selecting second) := by
  refine and_congr (forall₂_congr fun predicate member => ?_)
    (forall₂_congr fun sort member => ?_)
  · exact iff_of_eq (congrArg (fun source => source.isSome = true) (same.filtered predicate member))
  · exact iff_of_eq (congrArg (fun source => source.isSome = true) (same.sorted sort member))

/-- Two selections under which the names mean the same return the same rows. -/
theorem returnedRows_congr (named : adapter.Named store table params)
    (narrow : adapter.columns.length ≤ widthLimit) {first second : List String}
    (same : adapter.SameMeaning table params.arguments first second) :
    adapter.returnedRows (params.selecting first) store =
      adapter.returnedRows (params.selecting second) store := by
  have width : ∀ selection,
      (selectedColumns adapter.columns selection).length ≤ widthLimit :=
    fun _ => le_trans length_selectedColumns_le narrow
  have within : adapter.WithinLimits (params.selecting first) ↔
      adapter.WithinLimits (params.selecting second) :=
    ⟨fun within => ⟨within.columns, width second, within.height, within.sortWidth⟩,
      fun within => ⟨within.columns, width first, within.height, within.sortWidth⟩⟩
  have prepared : adapter.Prepared table (params.selecting first) ↔
      adapter.Prepared table (params.selecting second) := by
    rw [named.prepared_iff, named.prepared_iff, within, understands_iff same]
  have built : adapter.buildClauses (params.selecting first) = .ok none ↔
      adapter.buildClauses (params.selecting second) = .ok none := by
    rw [buildClauses_eq_none_iff, buildClauses_eq_none_iff]
    rfl
  rcases adapter.buildClauses_cases (params.selecting first) with left | ⟨clauses, left⟩
  · rw [returnedRows, returnedRows, left, built.mp left]
  · rcases adapter.buildClauses_cases (params.selecting second) with right | ⟨others, right⟩
    · rw [built.mpr right] at left
      cases left
    · by_cases ready : adapter.Prepared table (params.selecting first)
      · obtain ⟨plan, planned, returned⟩ := returnedRows_of_prepared named.onTable.storedIn
          (named.plain first) named.builtIn left ready
        obtain ⟨other, alike, returnedToo⟩ := returnedRows_of_prepared named.onTable.storedIn
          (named.plain second) named.builtIn right (prepared.mp ready)
        rw [returned, returnedToo, planned.window, alike.window, window_selecting,
          window_selecting, named.orderedRows_eq same planned alike]
      · rw [returnedRows_eq_none named.onTable.storedIn (named.plain first) named.builtIn left
          ready, returnedRows_eq_none named.onTable.storedIn (named.plain second) named.builtIn
            right (mt prepared.mpr ready)]

end Named

end TableAdapter

namespace StoredTable

variable {table : StoredTable}

/-- Only a column under another name brings a label. -/
theorem mem_labelsOfItem_item {column : Column} {entry : String × ValueSource} :
    entry ∈ table.labelsOfItem table.name column.item ↔ column.name ≠ column.label ∧
      column.label = entry.1 ∧
        table.source? table.name [] (columnTerm column.name) = some entry.2 := by
  obtain ⟨label, source⟩ := entry
  unfold Column.item
  by_cases unaliased : column.name = column.label
  · simp [unaliased, labelsOfItem]
  · rw [if_neg unaliased, labelsOfItem, resolveItem]
    · cases table.source? table.name [] (columnTerm column.name) <;>
        simp [unaliased, eq_comm]
    · rintro term ⟨⟩

theorem mem_labels_iff {columns : List Column} {entry : String × ValueSource} :
    entry ∈ table.labels columns ↔ ∃ column ∈ columns, column.name ≠ column.label ∧
      column.label = entry.1 ∧
        table.source? table.name [] (columnTerm column.name) = some entry.2 := by
  simp only [labels, labelsOf, List.mem_flatMap, List.mem_map, exists_exists_and_eq_and,
    mem_labelsOfItem_item]

/-- What a name means depends on the label that it matches only. -/
theorem source?_congr {labels others : Labels} {name : String}
    (same : labelled? labels name = labelled? others name) (known : String) :
    table.source? known labels (columnTerm name) =
      table.source? known others (columnTerm name) := by
  simp only [source?, columnTerm, unstored?, same]

end StoredTable

namespace TableAdapter

/-- Attributes whose labels differ in any case. -/
def DistinctLabels (columns : List Column) : Prop :=
  columns.Pairwise fun column other => sameName column.label other.label = false

section Labels

variable {columns selected : List Column} {column : Column} {table : StoredTable}

theorem DistinctLabels.eq_of_sameName (distinct : DistinctLabels columns) {other : Column}
    (member : column ∈ columns) (otherMember : other ∈ columns)
    (alike : sameName other.label column.label = true) : other = column := by
  have symmetric : Std.Symm fun column other : Column =>
      sameName column.label other.label = false := by
    refine ⟨fun first second differs => ?_⟩
    rw [sameName, beq_eq_false_iff_ne] at differs ⊢
    exact differs.symm
  by_contra differs
  have apart := List.Pairwise.forall distinct otherMember member differs
  rw [alike] at apart
  cases apart

/-- The label of a column under its own name stands for no selected column. -/
theorem labelled?_of_unaliased (distinct : DistinctLabels columns) (member : column ∈ columns)
    (subset : selected ⊆ columns) (unaliased : column.name = column.label) :
    labelled? (table.labels selected) column.label = none := by
  rw [labelled?, Option.map_eq_none_iff, List.find?_eq_none]
  intro entry listed alike
  obtain ⟨other, chosen, aliased, labelled, -⟩ := mem_labels_iff.mp listed
  rw [← labelled] at alike
  obtain rfl := distinct.eq_of_sameName member (subset chosen) alike
  exact aliased unaliased

/-- The label of a selected column stands for the column. -/
theorem labelled?_of_selected (distinct : DistinctLabels columns) (subset : selected ⊆ columns)
    (chosen : column ∈ selected) (aliased : column.name ≠ column.label) {source : ValueSource}
    (found : table.source? table.name [] (columnTerm column.name) = some source) :
    labelled? (table.labels selected) column.label = some source := by
  have listed : (column.label, source) ∈ table.labels selected :=
    mem_labels_iff.mpr ⟨column, chosen, aliased, rfl, found⟩
  have present : ((table.labels selected).find? fun entry =>
      sameName entry.1 column.label).isSome := by
    rw [List.find?_isSome]
    exact ⟨_, listed, beq_self_eq_true _⟩
  obtain ⟨entry, first⟩ := Option.isSome_iff_exists.mp present
  obtain ⟨other, otherChosen, -, labelled, otherFound⟩ :=
    mem_labels_iff.mp (List.mem_of_find?_eq_some first)
  have alike := List.find?_some first
  rw [← labelled] at alike
  obtain rfl := distinct.eq_of_sameName (subset chosen) (subset otherChosen) alike
  rw [labelled?, first, Option.map_some, ← otherFound, found]

theorem mem_selectedColumns (distinct : DistinctLabels columns) (member : column ∈ columns)
    {selection : List String} (asked : column.label ∈ selection) :
    column ∈ selectedColumns columns selection := by
  have present : (columns.find? fun other => other.label == column.label).isSome := by
    rw [List.find?_isSome]
    exact ⟨column, member, beq_self_eq_true _⟩
  obtain ⟨other, found⟩ := Option.isSome_iff_exists.mp present
  have labelled := List.find?_some found
  rw [beq_iff_eq] at labelled
  obtain rfl := distinct.eq_of_sameName member (List.mem_of_find?_eq_some found)
    (by rw [labelled]; exact beq_self_eq_true _)
  have kept : other ∈ (selectedColumns columns selection).filter
      fun column => column.label == other.label := by
    rw [filter_selectedColumns asked, mem_foldl_addColumn, found]
    exact .inl (List.mem_singleton.mpr rfl)
  exact List.mem_of_mem_filter kept

variable {adapter : TableAdapter MemoryStore} {first second : List String}

/-- The label of an attribute that keeps the name of its column, or that two selections both
ask for, stands for the same under both. -/
theorem labelled?_congr (distinct : DistinctLabels adapter.columns)
    (member : column ∈ adapter.columns) (stored : (table.column? column.name).isSome)
    (known : column.name = column.label ∨ column.label ∈ first ∧ column.label ∈ second) :
    labelled? (table.labels (selectedColumns adapter.columns first)) column.label =
      labelled? (table.labels (selectedColumns adapter.columns second)) column.label := by
  have subset : ∀ selection, selectedColumns adapter.columns selection ⊆ adapter.columns :=
    fun _ _ => mem_of_mem_selectedColumns
  by_cases unaliased : column.name = column.label
  · rw [labelled?_of_unaliased distinct member (subset first) unaliased,
      labelled?_of_unaliased distinct member (subset second) unaliased]
  · obtain ⟨asked, askedToo⟩ := known.resolve_left unaliased
    obtain ⟨index, placed⟩ := Option.isSome_iff_exists.mp stored
    have found := source?_stored placed []
    rw [labelled?_of_selected distinct (subset first)
        (mem_selectedColumns distinct member asked) unaliased found,
      labelled?_of_selected distinct (subset second)
        (mem_selectedColumns distinct member askedToo) unaliased found]

/-- Attributes with distinct labels mean the same in arguments if each keeps the name of its
column or is asked for by both selections. -/
theorem sameMeaning_of_attributes {arguments : ValidatedArguments}
    (distinct : DistinctLabels adapter.columns)
    (stored : ∀ column ∈ adapter.columns, (table.column? column.name).isSome)
    (filtered : ∀ predicate ∈ arguments.lastPredicates, ∃ column ∈ adapter.columns,
      column.label = predicate.field ∧
        (column.name = column.label ∨ column.label ∈ first ∧ column.label ∈ second))
    (sorted : ∀ sort ∈ arguments.lastSorts, ∃ column ∈ adapter.columns,
      column.label = sort.field ∧
        (column.name = column.label ∨ column.label ∈ first ∧ column.label ∈ second)) :
    adapter.SameMeaning table arguments first second where
  filtered := fun predicate member => by
    obtain ⟨column, columnMember, labelled, known⟩ :=
      filtered predicate (List.mem_of_mem_filter member)
    rw [← labelled]
    exact source?_congr
      (labelled?_congr distinct columnMember (stored column columnMember) known) _
  sorted := fun sort member => by
    obtain ⟨column, columnMember, labelled, known⟩ := sorted sort member
    have same := labelled?_congr distinct columnMember (stored column columnMember) known
    rw [← labelled, sortSource?, sortSource?, sortSource?_columnTerm, sortSource?_columnTerm,
      same, source?_congr same]

end Labels

/-- What a selection changes.  A request succeeds under a selection exactly if nothing is sent
for it, or its statement keeps the limits of the store, every name in its arguments has a
meaning there and its window is bounded.  Two selections under which the names mean the same
succeed together, with equally many records, and these agree on every attribute that both
selections ask for.  And names mean the same if they belong to attributes with distinct labels
of which each keeps the name of its column or is asked for by both selections. -/
theorem selection_acts_through_names (adapter : TableAdapter MemoryStore) (table : StoredTable)
    (params : ResolveParams) (state : RequestState MemoryStore)
    (named : adapter.Named state.world table params)
    (noFailure : state.world.failure = none) (running : state.cancelled = false) :
    (∀ selection,
      (∃ records, (adapter.resolve (params.selecting selection) state).1 = .ok records) ↔
        (∃ link ∈ adapter.link, link.Unlinkable params.parent) ∨
          (adapter.WithinLimits (params.selecting selection) ∧
            adapter.Understands table (params.selecting selection) ∧
            ∀ window ∈ params.arguments.lastOf? Argument.window?, window.IsBounded)) ∧
    (adapter.columns.length ≤ widthLimit → ∀ first second,
      adapter.SameMeaning table params.arguments first second →
      ((∃ records, (adapter.resolve (params.selecting first) state).1 = .ok records) ↔
        ∃ records, (adapter.resolve (params.selecting second) state).1 = .ok records) ∧
      ∀ records others,
        (adapter.resolve (params.selecting first) state).1 = .ok records →
        (adapter.resolve (params.selecting second) state).1 = .ok others →
          records.length = others.length ∧
          ∀ label, label ∈ first → label ∈ second →
            records.map (fun record => JsonObject.find? record label) =
              others.map fun record => JsonObject.find? record label) ∧
    (DistinctLabels adapter.columns → ∀ first second,
      (∀ predicate ∈ params.arguments.lastPredicates, ∃ column ∈ adapter.columns,
        column.label = predicate.field ∧
          (column.name = column.label ∨ column.label ∈ first ∧ column.label ∈ second)) →
      (∀ sort ∈ params.arguments.lastSorts, ∃ column ∈ adapter.columns,
        column.label = sort.field ∧
          (column.name = column.label ∨ column.label ∈ first ∧ column.label ∈ second)) →
      adapter.SameMeaning table params.arguments first second) := by
  refine ⟨fun selection => ?_, fun narrow first second same => ⟨?_, ?_⟩,
    fun distinct first second filtered sorted => ?_⟩
  · rw [named.exists_records_iff noFailure running, named.isSome_returnedRows_iff]
  · rw [named.exists_records_iff noFailure running, named.exists_records_iff noFailure running,
      named.returnedRows_congr narrow same]
  · intro records others resolved resolvedToo
    have answer := fun selection => toOption_resolve named.onTable.storedIn (named.plain selection)
      named.builtIn noFailure running
    obtain ⟨rows, returned, rfl⟩ := Option.map_eq_some_iff.mp
      ((answer first).symm.trans (congrArg Except.toOption resolved))
    obtain ⟨otherRows, returnedToo, rfl⟩ := Option.map_eq_some_iff.mp
      ((answer second).symm.trans (congrArg Except.toOption resolvedToo))
    rw [named.returnedRows_congr narrow same, returnedToo] at returned
    obtain rfl := Option.some.inj returned
    refine ⟨by rw [List.length_map, List.length_map], fun label asked askedToo => ?_⟩
    rw [List.map_map, List.map_map]
    exact List.map_congr_left fun row _ =>
      find?_recordOf_congr named.distinct named.exact asked askedToo row
  · exact sameMeaning_of_attributes distinct named.onTable.storedIn.columns filtered sorted

end TableAdapter

namespace Departments

/-- The departments of the demonstration as they are stored. -/
def table : StoredTable where
  name := "department"
  columns := ["id", "dept_name"]
  rows := [[.integer 1, .text "engineering"], [.integer 2, .text "marketing"]]

def state : RequestState MemoryStore := { world := Demo.seed {} }

def adapter : TableAdapter MemoryStore := Demo.departmentAdapter MemoryStore.source none

/-- The departments with a name, the latest first. -/
def asked : ResolveParams where
  field := "departments"
  arguments :=
    [.filter [.compare "name" .equal "engineering"], .orderBy [⟨"id", .descending⟩]]

theorem named : adapter.Named state.world table asked where
  onTable :=
    { source := rfl
      found := by decide
      name := by decide
      columns := by
        simp only [adapter, Demo.departmentAdapter, Demo.departmentColumns,
          List.forall_mem_cons, HasColumn]
        decide
      link := by simp [adapter, Demo.departmentAdapter]
      key := by simp [adapter, Demo.departmentAdapter, TableAdapter.linkPredicate] }
  exact := by decide
  distinct := by decide
  builtIn := by decide
  predicates := by
    have recorded : Filter.record [] (.object
        [("name", .object [("equal", .string "engineering")])]) =
          (.ok (), asked.arguments.lastPredicates) := rfl
    have fields : ∀ predicate ∈ asked.arguments.lastPredicates,
        isPlainColumn predicate.field = true ∧
          ∀ operand ∈ predicate.operands, '\x00' ∉ operand.toList := by decide
    exact fun predicate member =>
      ⟨Filter.accepted_of_record recorded predicate member, fields predicate member⟩
  sorts := by decide

/-- A name that both selections ask for filters alike. -/
theorem engineering_with_and_without_id :
    adapter.Named state.world table asked ∧ state.world.failure = none ∧
      state.cancelled = false ∧
      ∃ records others,
        (adapter.resolve (asked.selecting ["id", "name"]) state).1 = .ok records ∧
        (adapter.resolve (asked.selecting ["name"]) state).1 = .ok others ∧
        records.length = others.length ∧
        records.map (fun record => JsonObject.find? record "name") =
          others.map fun record => JsonObject.find? record "name" := by
  obtain ⟨succeeds, alike, meaning⟩ :=
    TableAdapter.selection_acts_through_names adapter table asked state named rfl rfl
  have distinct : TableAdapter.DistinctLabels adapter.columns := by
    unfold TableAdapter.DistinctLabels
    decide
  have same := meaning distinct ["id", "name"] ["name"] (by decide) (by decide)
  obtain ⟨together, agree⟩ := alike (by decide) _ _ same
  obtain ⟨records, resolved⟩ := (succeeds ["id", "name"]).mpr (.inr
    ⟨⟨by decide, by decide, by decide, by decide⟩, ⟨by decide, by decide⟩, by decide⟩)
  obtain ⟨others, resolvedToo⟩ := together.mp ⟨records, resolved⟩
  obtain ⟨length, labels⟩ := agree records others resolved resolvedToo
  exact ⟨named, rfl, rfl, records, others, resolved, resolvedToo, length,
    labels "name" (by decide) (by decide)⟩

/-- A renamed column is unknown to the filter of a request that does not select it. -/
theorem filter_needs_selected_name :
    adapter.Named state.world table asked ∧
      (∀ predicate ∈ asked.arguments.lastPredicates,
        ∃ column ∈ adapter.columns, column.label = predicate.field) ∧
      (∀ sort ∈ asked.arguments.lastSorts,
        ∃ column ∈ adapter.columns, column.label = sort.field) ∧
      (∀ label ∈ ["id", "name"], ∃ column ∈ adapter.columns, column.label = label) ∧
      (∃ records, (adapter.resolve (asked.selecting ["id", "name"]) state).1 = .ok records) ∧
      ¬ ∃ records, (adapter.resolve (asked.selecting ["id"]) state).1 = .ok records := by
  refine ⟨named, by decide, by decide, by decide, ?_, ?_⟩
  · rw [named.exists_records_iff rfl rfl, named.isSome_returnedRows_iff]
    exact .inr ⟨⟨by decide, by decide, by decide, by decide⟩, ⟨by decide, by decide⟩, by decide⟩
  · rw [named.exists_records_iff rfl rfl, named.isSome_returnedRows_iff]
    rintro (⟨link, linked, -⟩ | ⟨-, understands, -⟩)
    · cases linked
    · have known := understands.1 (.compare "name" .equal "engineering") (by decide)
      exact absurd known (by decide)

end Departments

end NodeGraph
