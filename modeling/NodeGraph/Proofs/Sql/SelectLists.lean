import Mathlib.Data.List.Nodup
import NodeGraph.Proofs.Sql.Binding

/-!
# Select lists

The columns that an adapter selects are the ones a request asks for, each once and in the order in
which the request first asks for them, and then the required ones that are still missing.  A
request that asks for no column of the adapter gets all of them.
-/

namespace NodeGraph

variable {World : Type}

/-- An argument that leaves alone what is selected and from which table. -/
def Argument.KeepsTarget (argument : Argument) : Prop :=
  ∀ clauses, (argument.combine clauses).columns = clauses.columns ∧
    (argument.combine clauses).table = clauses.table

theorem Argument.IsBuiltIn.keepsTarget {argument : Argument} (builtIn : argument.IsBuiltIn) :
    argument.KeepsTarget := by
  intro clauses
  cases argument with
  | custom kind notes => exact absurd builtIn id
  | _ => exact ⟨rfl, rfl⟩

theorem ValidatedArguments.combineInto_target {arguments : ValidatedArguments}
    (kept : ∀ argument ∈ arguments, argument.KeepsTarget) (clauses : SelectClauses) :
    (arguments.combineInto clauses).columns = clauses.columns ∧
      (arguments.combineInto clauses).table = clauses.table := by
  induction arguments generalizing clauses with
  | nil => exact ⟨rfl, rfl⟩
  | cons argument rest ih =>
      rw [List.forall_mem_cons] at kept
      have ⟨columns, table⟩ := kept.1 clauses
      have ⟨laterColumns, laterTable⟩ := ih kept.2 (argument.combine clauses)
      exact ⟨laterColumns.trans columns, laterTable.trans table⟩

namespace TableAdapter

/-- A column that carries a label, with no other column before it that does. -/
inductive FirstLabelled : List Column → String → Column → Prop
  | mk {front back : List Column} {column : Column}
      (earlier : ∀ other ∈ front, other.label ≠ column.label) :
      FirstLabelled (front ++ column :: back) column.label column

/-- The columns under the names of a selection, one for each name that is a label. -/
def foundColumns (columns : List Column) (selection : List String) : List Column :=
  selection.filterMap fun name => columns.find? fun column => column.label == name

variable {columns : List Column} {selection : List String}

section Found

theorem find?_label_eq_some_iff {name : String} {column : Column} :
    (columns.find? fun column => column.label == name) = some column ↔
      FirstLabelled columns name column := by
  rw [List.find?_eq_some_iff_append]
  constructor
  · rintro ⟨labelled, front, back, rfl, earlier⟩
    obtain rfl := beq_iff_eq.mp labelled
    exact .mk fun other member => by simpa using earlier other member
  · rintro ⟨earlier⟩
    exact ⟨beq_self_eq_true _, _, _, rfl, fun other member => by simpa using earlier other member⟩

theorem exists_firstLabelled_iff {name : String} :
    (∃ column, FirstLabelled columns name column) ↔ name ∈ columns.map Column.label := by
  simp only [← find?_label_eq_some_iff, ← Option.isSome_iff_exists, List.find?_isSome,
    beq_iff_eq, List.mem_map]

theorem mem_foundColumns {column : Column} :
    column ∈ foundColumns columns selection ↔
      ∃ name ∈ selection, FirstLabelled columns name column := by
  simp only [foundColumns, List.mem_filterMap, find?_label_eq_some_iff]

/-- What is found stands in the order of the names that are labels. -/
theorem forall₂_foundColumns :
    List.Forall₂ (FirstLabelled columns)
      (selection.filter fun name => name ∈ columns.map Column.label)
      (foundColumns columns selection) := by
  induction selection with
  | nil => exact .nil
  | cons name rest ih =>
      rw [foundColumns, List.filterMap_cons]
      cases found : columns.find? fun column => column.label == name with
      | none =>
          have unknown : name ∉ columns.map Column.label := by
            rw [← exists_firstLabelled_iff]
            rintro ⟨column, labelled⟩
            rw [find?_label_eq_some_iff.mpr labelled] at found
            cases found
          rwa [List.filter_cons_of_neg (by simpa using unknown)]
      | some column =>
          have labelled := find?_label_eq_some_iff.mp found
          have known := exists_firstLabelled_iff.mp ⟨column, labelled⟩
          rw [List.filter_cons_of_pos (by simpa using known)]
          exact .cons labelled ih

theorem foundColumns_eq_nil_iff :
    foundColumns columns selection = [] ↔
      ∀ name ∈ selection, name ∉ columns.map Column.label := by
  simp only [List.eq_nil_iff_forall_not_mem, mem_foundColumns, ← exists_firstLabelled_iff]
  constructor
  · rintro none name asked ⟨column, labelled⟩
    exact none column ⟨name, asked, labelled⟩
  · rintro none column ⟨name, asked, labelled⟩
    exact none name asked ⟨column, labelled⟩

end Found

section Added

/-- Columns that are added one after another stand behind those that were there, each once, where
it is first added. -/
theorem foldl_addColumn (added selected : List Column) :
    added.foldl addColumn selected = selected ++ (added.removeAll selected).eraseDups := by
  induction added generalizing selected with
  | nil => simp [List.removeAll]
  | cons column rest ih =>
      rw [List.foldl_cons, ih, addColumn]
      by_cases known : column ∈ selected
      · rw [if_pos known]
        simp [List.removeAll, known]
      · have once : rest.removeAll (selected ++ [column]) =
            (rest.removeAll selected).filter fun other => !other == column := by
          rw [List.removeAll, List.removeAll, List.filter_filter]
          apply List.filter_congr
          intro other _
          by_cases same : other = column <;> simp [same]
        have leads : (column :: rest).removeAll selected = column :: rest.removeAll selected := by
          simp [List.removeAll, known]
        rw [if_neg known, once, leads, List.eraseDups_cons, List.append_assoc,
          List.singleton_append]

theorem nodup_foldl_addColumn (added : List Column) {selected : List Column}
    (nodup : selected.Nodup) : (added.foldl addColumn selected).Nodup := by
  induction added generalizing selected with
  | nil => exact nodup
  | cons column rest ih =>
      refine ih ?_
      unfold addColumn
      split
      · exact nodup
      · rename_i unknown
        exact nodup.append (List.nodup_singleton column) (by simpa using unknown)

theorem nodup_requestedColumns : (requestedColumns columns selection).Nodup :=
  nodup_foldl_addColumn _ List.nodup_nil

theorem requestedColumns_eq :
    requestedColumns columns selection = (foundColumns columns selection).eraseDups := by
  have nothing :
      (foundColumns columns selection).removeAll [] = foundColumns columns selection := by
    simp [List.removeAll]
  rw [requestedColumns, foldl_addColumn, List.nil_append]
  exact congrArg List.eraseDups nothing

theorem requestedColumns_eq_nil_iff :
    requestedColumns columns selection = [] ↔ foundColumns columns selection = [] := by
  simp only [requestedColumns_eq, List.eq_nil_iff_forall_not_mem, List.mem_eraseDups]

end Added

section Selected

theorem selectedColumns_of_unknown
    (unknown : ∀ name ∈ selection, name ∉ columns.map Column.label) :
    selectedColumns columns selection = columns := by
  rw [selectedColumns, requestedColumns_eq_nil_iff.mpr (foundColumns_eq_nil_iff.mpr unknown)]

theorem selectedColumns_of_known (known : ∃ name ∈ selection, name ∈ columns.map Column.label) :
    selectedColumns columns selection =
      (columns.filter fun column => column.required).foldl addColumn
        (requestedColumns columns selection) := by
  have some : requestedColumns columns selection ≠ [] := by
    rw [Ne, requestedColumns_eq_nil_iff, foundColumns_eq_nil_iff]
    push Not
    exact known
  rw [selectedColumns]
  split
  · contradiction
  · rfl

/-- The required columns that a request does not ask for stand behind those that it asks for. -/
theorem selectedColumns_eq (known : ∃ name ∈ selection, name ∈ columns.map Column.label) :
    selectedColumns columns selection =
      (foundColumns columns selection).eraseDups ++
        (columns.filter fun column =>
          column.required ∧ column ∉ foundColumns columns selection).eraseDups := by
  have missing : (columns.filter fun column => column.required).removeAll
      (foundColumns columns selection).eraseDups =
        columns.filter fun column =>
          column.required ∧ column ∉ foundColumns columns selection := by
    rw [List.removeAll, List.filter_filter]
    apply List.filter_congr
    intro column _
    simp [Bool.and_comm]
  rw [selectedColumns_of_known known, foldl_addColumn, requestedColumns_eq, missing]

theorem mem_selectedColumns_iff (known : ∃ name ∈ selection, name ∈ columns.map Column.label)
    {column : Column} :
    column ∈ selectedColumns columns selection ↔
      (∃ name ∈ selection, FirstLabelled columns name column) ∨
        column ∈ columns ∧ column.required = true := by
  rw [selectedColumns_of_known known, mem_foldl_addColumn, requestedColumns_eq,
    List.mem_eraseDups, mem_foundColumns, List.mem_filter]

theorem selectedColumns_eq_nil_iff : selectedColumns columns selection = [] ↔ columns = [] := by
  constructor
  · intro none
    by_contra present
    obtain ⟨column, member⟩ := List.exists_mem_of_ne_nil _ present
    by_cases known : ∃ name ∈ selection, name ∈ columns.map Column.label
    · obtain ⟨name, asked, label⟩ := known
      obtain ⟨first, labelled⟩ := exists_firstLabelled_iff.mpr label
      have selected := (mem_selectedColumns_iff ⟨name, asked, label⟩).mpr
        (.inl ⟨name, asked, labelled⟩)
      rw [none] at selected
      exact List.not_mem_nil selected
    · push Not at known
      rw [selectedColumns_of_unknown known] at none
      exact present none
  · rintro rfl
    exact selectedColumns_of_unknown fun _ _ => List.not_mem_nil

end Selected

section Fragments

theorem selectText_eq_empty_iff {column : Column} :
    column.selectText = "" ↔ column.name = "" ∧ column.label = "" := by
  unfold Column.selectText
  split
  · rename_i same
    rw [← same, and_self]
  · rename_i different
    simp only [String.append_eq_empty_iff]
    constructor
    · rintro ⟨⟨unnamed, space⟩, unlabelled⟩
      exact ⟨unnamed, unlabelled⟩
    · rintro ⟨unnamed, unlabelled⟩
      exact absurd (unnamed.trans unlabelled.symm) different

/-- A select list is empty without columns and for a single column without name and label. -/
theorem selectTexts_eq_empty_iff {selected : List Column} :
    ",".intercalate (selected.map Column.selectText) = "" ↔
      selected = [] ∨ ∃ column, selected = [column] ∧ column.name = "" ∧ column.label = "" := by
  match selected with
  | [] => simp
  | [column] => simp [selectText_eq_empty_iff]
  | first :: second :: rest =>
      rw [List.map_cons, List.map_cons, String.intercalate_cons_cons]
      simp [String.append_eq_empty_iff]

variable {adapter : TableAdapter World} {params : ResolveParams} {clauses : SelectClauses}

/-- Clauses are built for the selected columns and the table of the adapter. -/
theorem buildClauses_target (kept : ∀ argument ∈ params.arguments, argument.KeepsTarget)
    (built : adapter.buildClauses params = .ok (some clauses)) :
    clauses.columns = ",".intercalate
        ((selectedColumns adapter.columns params.selection).map Column.selectText) ∧
      clauses.table = adapter.table := by
  have unlinked := ValidatedArguments.combineInto_target kept (SelectClauses.ofTable
    (",".intercalate ((selectedColumns adapter.columns params.selection).map Column.selectText))
    adapter.table)
  rcases buildClauses_eq_some_iff.mp built with ⟨_, rfl⟩ | ⟨_, _, _, _, rfl⟩
  · exact unlinked
  · exact unlinked

/-- The selected columns of an adapter are the columns that are found under the requested names,
in the order in which these are first requested, with the missing required columns behind them, or
all columns if none is found.  No required column and no requested one is lost, nothing else is
selected, and unless all columns are, none is selected twice.  There are none only if the adapter
has none.  The statement has them in this order. -/
theorem selects_requested_and_required (adapter : TableAdapter World) (params : ResolveParams) :
    ((∀ name ∈ params.selection, name ∉ adapter.columns.map Column.label) →
      selectedColumns adapter.columns params.selection = adapter.columns) ∧
    ((∃ name ∈ params.selection, name ∈ adapter.columns.map Column.label) → ∃ found,
      List.Forall₂ (FirstLabelled adapter.columns)
        (params.selection.filter fun name => name ∈ adapter.columns.map Column.label) found ∧
      selectedColumns adapter.columns params.selection = found.eraseDups ++
        (adapter.columns.filter fun column => column.required ∧ column ∉ found).eraseDups ∧
      (selectedColumns adapter.columns params.selection).Nodup ∧
      ∀ column, column ∈ selectedColumns adapter.columns params.selection ↔
        (∃ name ∈ params.selection, FirstLabelled adapter.columns name column) ∨
          column ∈ adapter.columns ∧ column.required = true) ∧
    (∀ column ∈ adapter.columns, column.required = true →
      column ∈ selectedColumns adapter.columns params.selection) ∧
    (∀ name ∈ params.selection, name ∈ adapter.columns.map Column.label →
      ∃ column ∈ selectedColumns adapter.columns params.selection,
        FirstLabelled adapter.columns name column) ∧
    (∀ column ∈ selectedColumns adapter.columns params.selection, column ∈ adapter.columns) ∧
    (selectedColumns adapter.columns params.selection = [] ↔ adapter.columns = []) ∧
    ∀ clauses, (∀ argument ∈ params.arguments, argument.KeepsTarget) →
      adapter.buildClauses params = .ok (some clauses) →
        clauses.columns = ",".intercalate
          ((selectedColumns adapter.columns params.selection).map Column.selectText) := by
  refine ⟨selectedColumns_of_unknown, ?_, ?_, ?_, ?_, selectedColumns_eq_nil_iff, ?_⟩
  · intro known
    refine ⟨_, forall₂_foundColumns, selectedColumns_eq known, ?_,
      fun column => mem_selectedColumns_iff known⟩
    rw [selectedColumns_of_known known]
    exact nodup_foldl_addColumn _ nodup_requestedColumns
  · intro column member required
    by_cases known : ∃ name ∈ params.selection, name ∈ adapter.columns.map Column.label
    · exact (mem_selectedColumns_iff known).mpr (.inr ⟨member, required⟩)
    · push Not at known
      rwa [selectedColumns_of_unknown known]
  · intro name asked label
    obtain ⟨column, labelled⟩ := exists_firstLabelled_iff.mpr label
    exact ⟨column, (mem_selectedColumns_iff ⟨name, asked, label⟩).mpr
      (.inl ⟨name, asked, labelled⟩), labelled⟩
  · exact fun column => mem_of_mem_selectedColumns
  · exact fun clauses kept built => (buildClauses_target kept built).1

end Fragments

end TableAdapter

namespace Staff

/-- Two columns have one label, and one column is there twice. -/
def adapter : TableAdapter Unit where
  table := "user"
  columns :=
    [{ name := "id", required := true }, { name := "user_name", label := "name" },
      { name := "nick", label := "name" }, { name := "age", required := true },
      { name := "age", required := true }, { name := "dept_id" }]
  source := fun _ state => .answered (.ok {}) state

/-- A request that names one label twice and another that no column has. -/
def asked : ResolveParams where
  field := "users"
  arguments := [.limit { count := 5 }]
  selection := ["name", "salary", "age", "name"]

theorem asked_selects :
    ∃ clauses, adapter.buildClauses asked = .ok (some clauses) ∧
      clauses.columns = "user_name AS name,age,id" ∧
      (TableAdapter.selectedColumns adapter.columns asked.selection).Nodup ∧
      TableAdapter.selectedColumns adapter.columns ["salary"] = adapter.columns := by
  obtain ⟨_, known, _, _, _, _, fragments⟩ := adapter.selects_requested_and_required asked
  obtain ⟨all, _⟩ :=
    adapter.selects_requested_and_required { asked with selection := ["salary"] }
  obtain ⟨_, _, _, distinct, _⟩ := known ⟨"name", by decide, by decide⟩
  have builtIn : ∀ argument ∈ asked.arguments, argument.IsBuiltIn := by decide
  refine ⟨_, rfl, ?_, distinct, all (by decide)⟩
  rw [fragments _ (fun argument member => (builtIn argument member).keepsTarget) rfl]
  decide

end Staff

end NodeGraph
