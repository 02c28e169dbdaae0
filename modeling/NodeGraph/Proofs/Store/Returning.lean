import NodeGraph.Proofs.Sql.Sending
import NodeGraph.Proofs.Store.Planning

/-!
# Rows that a resolution returns

What a resolution of an adapter over the in-memory store returns, row by row: the rows of the
plan of its statement, each of which becomes one record.  It fails exactly if the statement is
not prepared or its window is too large.
-/

namespace NodeGraph

open Statement StoredTable

namespace MemoryStore

/-- The plan of a selection and the rows that it answers with, which their numbers tell
apart. -/
def selectedRows? (store : MemoryStore) (text : String) :
    Option (SelectPlan × List NumberedRow) :=
  match Statement.parse? text with
  | some (some (.select statement)) =>
      (store.tableOf? statement.table).bind fun table =>
        (SelectPlan.prepare? table statement).bind fun plan =>
          (SelectPlan.windowRows plan.window (plan.orderedRows table.rows)).toOption.map
            fun rows => (plan, rows)
  | _ => none

/-- The rows of an answer are those that are selected, read column by column. -/
theorem toOption_select (store : MemoryStore) (text : String) :
    (store.select text).toOption = (store.selectedRows? text).map fun found =>
      { columns := found.1.columns.map Prod.fst
        rows := found.2.map fun row =>
          found.1.columns.map fun column => (column.2.value row).toCell } := by
  unfold select selectedRows?
  cases Statement.parse? text with
  | none => rfl
  | some parsed =>
      cases parsed with
      | none => rfl
      | some statement =>
          cases statement with
          | select statement =>
              simp only
              cases store.tableOf? statement.table with
              | none => rfl
              | some table =>
                  simp only [Option.bind_some]
                  cases SelectPlan.prepare? table statement with
                  | none => rfl
                  | some plan =>
                      simp only [Option.map_some, Option.bind_some, SelectPlan.run]
                      cases SelectPlan.windowRows plan.window (plan.orderedRows table.rows) <;> rfl
          | _ =>
              simp only
              split <;> rfl

/-- A store that answers is read while the query waits. -/
theorem settles_source {state : RequestState MemoryStore} (answering : state.world.failure = none)
    (running : state.cancelled = false) (statement : String) :
    (source statement state).Settles (some (state.world.select statement))
      { state with world := (state.world.answer state.cancelled statement).2 } := by
  have answer : (state.world.answer state.cancelled statement).1 =
      state.world.select statement := by
    simp only [MemoryStore.answer, answering, running]
    rfl
  simp only [source, answering, running, Option.isSome_none, Bool.or_self, Bool.false_eq_true,
    if_false] at answer ⊢
  rw [answer]
  exact .resumed rfl (.answered _ _)

end MemoryStore

namespace TableAdapter

/-- The rows behind the records that a resolution returns; there are none if it fails. -/
def returnedRows {World : Type} (adapter : TableAdapter World) (params : ResolveParams)
    (store : MemoryStore) : Option (List NumberedRow) :=
  match adapter.buildClauses params with
  | .error _ => none
  | .ok none => some []
  | .ok (some clauses) =>
      clauses.toSql.toOption.bind fun statement =>
        (store.selectedRows? statement).map Prod.snd

/-- An adapter over a table of the in-memory store that has all columns of the adapter. -/
structure StoredIn (adapter : TableAdapter MemoryStore) (store : MemoryStore)
    (table : StoredTable) : Prop where
  source : adapter.source = MemoryStore.source
  found : store.table? adapter.table = some table
  columns : ∀ column ∈ adapter.columns, (table.column? column.name).isSome

variable {adapter : TableAdapter MemoryStore} {table : StoredTable} {params : ResolveParams}
  {store : MemoryStore}

theorem toSql_eq_error_of_columns_nil (params : ResolveParams) (none : adapter.columns = []) :
    (adapter.statementClauses params).toSql.toOption = Option.none := by
  cases rendered : (adapter.statementClauses params).toSql with
  | error fault => rfl
  | ok statement =>
      have present := selectedColumns_ne_nil_of_toSql rendered
      exact absurd (selectedColumns_eq_nil_iff.mpr none) present

/-- The selection of a plain statement that is not too high is answered from its plan. -/
theorem selectedRows?_statement (stored : adapter.StoredIn store table)
    (plain : adapter.Plain params) {statement : String}
    (rendered : (adapter.statementClauses params).toSql = .ok statement) :
    store.selectedRows? statement =
      if Filter.FitsHeight (adapter.predicates params) then
        (SelectPlan.prepare? table (adapter.selectStatement params)).bind fun plan =>
          (SelectPlan.windowRows plan.window (plan.orderedRows table.rows)).toOption.map
            fun rows => (plan, rows)
      else none := by
  have found : store.tableOf? (adapter.selectStatement params).table = some table :=
    stored.found
  rw [MemoryStore.selectedRows?, parse?_statement plain rendered]
  by_cases fits : Filter.FitsHeight (adapter.predicates params)
  · simp only [if_pos fits, found, Option.bind_some]
  · simp only [if_neg fits]

theorem ne_empty_of_isWord {text : String} (word : SqlToken.isWord text = true) : text ≠ "" := by
  rintro rfl
  cases word

/-- Plain names are rendered as soon as there is a column. -/
theorem exists_statement (plain : adapter.Plain params) (present : adapter.columns ≠ []) :
    ∃ statement, (adapter.statementClauses params).toSql = .ok statement := by
  rw [SelectClauses.exists_toSql_iff]
  refine ⟨?_, ne_empty_of_isWord (isWord_of_isPlainName plain.table)⟩
  rw [statementClauses, Ne, selectTexts_eq_empty_iff, selectedColumns_eq_nil_iff]
  rintro (none | ⟨column, selected, unnamed, _⟩)
  · exact present none
  · have leads : column ∈ selectedColumns adapter.columns params.selection := by
      rw [selected]
      exact List.mem_singleton_self column
    have member : column ∈ adapter.columns := mem_of_mem_selectedColumns leads
    exact ne_empty_of_isWord (isWord_of_isPlainColumn (plain.columns column member).1) unnamed

theorem returnedRows_of_built (builtIn : ∀ argument ∈ params.arguments, argument.IsBuiltIn)
    {clauses : SelectClauses} (built : adapter.buildClauses params = .ok (some clauses)) :
    adapter.returnedRows params store =
      (adapter.statementClauses params).toSql.toOption.bind fun statement =>
        (store.selectedRows? statement).map Prod.snd := by
  rw [returnedRows, built, buildClauses_eq builtIn built]

/-- A prepared statement returns the rows of its plan. -/
theorem returnedRows_of_prepared (stored : adapter.StoredIn store table)
    (plain : adapter.Plain params) (builtIn : ∀ argument ∈ params.arguments, argument.IsBuiltIn)
    {clauses : SelectClauses} (built : adapter.buildClauses params = .ok (some clauses))
    (prepared : adapter.Prepared table params) :
    ∃ plan, adapter.PlannedAs table params plan ∧
      adapter.returnedRows params store =
        (SelectPlan.windowRows plan.window (plan.orderedRows table.rows)).toOption := by
  obtain ⟨plan, planned, described⟩ := prepared.exists_plan stored.columns
  obtain ⟨statement, rendered⟩ := exists_statement plain prepared.columns
  refine ⟨plan, described, ?_⟩
  rw [returnedRows_of_built builtIn built, rendered]
  simp only [Except.toOption, Option.bind_some]
  rw [selectedRows?_statement stored plain rendered, if_pos prepared.height, planned,
    Option.bind_some, Option.map_map]
  cases SelectPlan.windowRows plan.window (plan.orderedRows table.rows) <;> rfl

/-- A statement that is not prepared returns no rows. -/
theorem returnedRows_eq_none (stored : adapter.StoredIn store table)
    (plain : adapter.Plain params) (builtIn : ∀ argument ∈ params.arguments, argument.IsBuiltIn)
    {clauses : SelectClauses} (built : adapter.buildClauses params = .ok (some clauses))
    (unprepared : ¬ adapter.Prepared table params) :
    adapter.returnedRows params store = none := by
  rw [returnedRows_of_built builtIn built]
  cases rendered : (adapter.statementClauses params).toSql with
  | error fault => rfl
  | ok statement =>
      have columns : adapter.columns ≠ [] := by
        intro none
        have failed := toSql_eq_error_of_columns_nil params none
        rw [rendered] at failed
        cases failed
      simp only [Except.toOption, Option.bind_some]
      rw [selectedRows?_statement stored plain rendered]
      split
      · rename_i fits
        cases planned : SelectPlan.prepare? table (adapter.selectStatement params) with
        | none => rfl
        | some plan =>
            exact absurd (prepared_of_plan stored.columns columns fits planned) unprepared
      · rfl

theorem columns_of_prepare? (stored : adapter.StoredIn store table) {plan : SelectPlan}
    (planned : SelectPlan.prepare? table (adapter.selectStatement params) = some plan) :
    plan.columns = adapter.entries table params.selection := by
  rw [prepare?_selectStatement stored.columns] at planned
  simp only [Option.bind_eq_some_iff] at planned
  obtain ⟨_, -, _, -, planned⟩ := planned
  split at planned
  · cases planned
  · cases planned
    rfl

theorem columns_of_selectedRows? (stored : adapter.StoredIn store table)
    (plain : adapter.Plain params) {statement : String}
    (rendered : (adapter.statementClauses params).toSql = .ok statement)
    {selected : SelectPlan × List NumberedRow}
    (found : store.selectedRows? statement = some selected) :
    selected.1.columns = adapter.entries table params.selection := by
  rw [selectedRows?_statement stored plain rendered] at found
  split at found
  · simp only [Option.bind_eq_some_iff, Option.map_eq_some_iff] at found
    obtain ⟨plan, planned, rows, -, rfl⟩ := found
    exact columns_of_prepare? stored planned
  · cases found

/-- The answer to a plain statement has one record for each selected row. -/
theorem toRecords_select (stored : adapter.StoredIn store table) (plain : adapter.Plain params)
    {statement : String} (rendered : (adapter.statementClauses params).toSql = .ok statement) :
    (store.select statement).toOption.map RowSet.toRecords =
      (store.selectedRows? statement).map fun selected =>
        selected.2.map (adapter.recordOf table params.selection) := by
  rw [store.toOption_select, Option.map_map]
  refine Option.map_congr fun selected found => ?_
  have columns := columns_of_selectedRows? stored plain rendered found
  simp only [Function.comp_apply, RowSet.toRecords, List.map_map, columns]
  rfl

/-- With an answering store a resolution that has clauses returns the records of the answer to
its statement. -/
theorem toOption_resolve_of_built (source : adapter.source = MemoryStore.source)
    (builtIn : ∀ argument ∈ params.arguments, argument.IsBuiltIn)
    {clauses : SelectClauses} (built : adapter.buildClauses params = .ok (some clauses))
    {state : RequestState MemoryStore} (answering : state.world.failure = none)
    (running : state.cancelled = false) :
    (adapter.resolve params state).1.toOption =
      (adapter.statementClauses params).toSql.toOption.bind fun statement =>
        (state.world.select statement).toOption.map RowSet.toRecords := by
  have clausesEq := buildClauses_eq builtIn built
  subst clausesEq
  cases rendered : (adapter.statementClauses params).toSql with
  | error fault =>
      rw [resolve_of_unrendered built rendered]
      rfl
  | ok statement =>
      rw [resolve_of_sent built rendered running
        (source ▸ MemoryStore.settles_source answering running statement)]
      change (received params.field (some (state.world.select statement))).toOption =
        (state.world.select statement).toOption.map RowSet.toRecords
      cases state.world.select statement <;> rfl

/-- The records of a resolution are its returned rows, one record for each. -/
theorem toOption_resolve {state : RequestState MemoryStore}
    (stored : adapter.StoredIn state.world table) (plain : adapter.Plain params)
    (builtIn : ∀ argument ∈ params.arguments, argument.IsBuiltIn)
    (answering : state.world.failure = none) (running : state.cancelled = false) :
    (adapter.resolve params state).1.toOption =
      (adapter.returnedRows params state.world).map
        (List.map (adapter.recordOf table params.selection)) := by
  rcases adapter.buildClauses_cases params with built | ⟨clauses, built⟩
  · rw [resolve_of_unbuilt built, returnedRows, built]
    rfl
  · rw [toOption_resolve_of_built stored.source builtIn built answering running,
      returnedRows_of_built builtIn built]
    cases rendered : (adapter.statementClauses params).toSql with
    | error fault => rfl
    | ok statement =>
        have present : (Except.ok statement : Except GraphError String).toOption =
            some statement := rfl
        rw [present, Option.bind_some, Option.bind_some, toRecords_select stored plain rendered,
          Option.map_map]
        rfl

end TableAdapter

end NodeGraph
