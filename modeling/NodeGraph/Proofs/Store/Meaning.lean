import NodeGraph.Proofs.Store.Requests

/-!
# What filters, sort orders and limits mean

An adapter over the in-memory store returns the rows that every operation of the filter and the
link keep, sorting only rearranges them, and a limit cuts a window out of the sorted rows, as
long as the statement keeps the limits of the store.
-/

namespace NodeGraph

open Statement StoredTable

namespace TableAdapter

/-- What the built-in arguments mean.  A request succeeds exactly if nothing is sent for it or
its statement keeps the limits of the store.  Then a filter returns, in the order of the
table, the rows that each of its operations that is not empty returns when it is the whole
filter, and that the link returns by itself; a sort order rearranges these rows; and a limit
drops the rows before its offset and keeps at most its count of the others. -/
theorem arguments_restrict_order_and_cut (adapter : TableAdapter MemoryStore)
    (table : StoredTable) (params : ResolveParams) (state : RequestState MemoryStore)
    (filter : Option (List Predicate)) (sorts : Option (List SortKey))
    (onTable : adapter.Over state.world table params.parent)
    (suits : ∀ predicate ∈ filter.getD [], predicate.SuitsTable table)
    (sorted : ∀ sort ∈ sorts.getD [], table.HasColumn sort.field)
    (noFailure : state.world.failure = none) (running : state.cancelled = false) :
    ((∃ records, (adapter.resolve (params.given filter sorts none) state).1 = .ok records) ↔
      adapter.IsAnswered (params.given filter sorts none)) ∧
    (adapter.unlinked.WithinLimits (params.given none none none) →
      adapter.IsAnswered (params.given filter sorts none) →
      ∃ (linked : List NumberedRow) (alone : Predicate → List NumberedRow)
        (rows ordered : List NumberedRow),
        adapter.unlinked.Returns table (params.given none none none) state
          (SelectPlan.numberedRows table.rows) ∧
        adapter.Returns table (params.given none none none) state linked ∧
        (∀ predicate ∈ filter.getD [], predicate.operands ≠ [] →
          adapter.unlinked.Returns table (params.given (some [predicate]) none none) state
            (alone predicate)) ∧
        adapter.Returns table (params.given filter none none) state rows ∧
        rows = (SelectPlan.numberedRows table.rows).filter (fun row =>
          decide (row ∈ linked ∧ ∀ predicate ∈ filter.getD [], predicate.operands ≠ [] →
            row ∈ alone predicate)) ∧
        adapter.Returns table (params.given filter sorts none) state ordered ∧
        ordered.Perm rows ∧
        ∀ count < 2 ^ 63, ∀ offset < 2 ^ 63,
          adapter.Returns table (params.given filter sorts (some ⟨count, offset⟩)) state
            ((ordered.drop offset).take count)) := by
  have answering : ∀ window,
      adapter.Answering state table (params.given filter sorts window) :=
    fun _ => onTable.answering suits sorted noFailure running
  refine ⟨exists_records_iff answering, fun columns answered => ?_⟩
  have plain : adapter.unlinked.buildClauses params ≠ .ok none := by
    rw [buildClauses_of_unlinked params rfl]
    simp
  have whole : adapter.unlinked.Returns table (params.given none none none) state
      (SelectPlan.numberedRows table.rows) := by
    rw [← table.keptRows_nil]
    exact returns_few
      (fun _ => onTable.unlinked.answering (by simp) (by simp) noFailure running) plain columns
  let alone (predicate : Predicate) : List NumberedRow := table.keptRows [predicate]
  have each : ∀ predicate ∈ filter.getD [], predicate.operands ≠ [] →
      adapter.unlinked.Returns table (params.given (some [predicate]) none none) state
        (alone predicate) := by
    intro predicate member _
    have suits : ∀ other ∈ (some [predicate]).getD [], other.SuitsTable table := by
      simpa using suits predicate member
    exact returns_few (fun _ => onTable.unlinked.answering suits (by simp) noFailure running) plain
      (columns.few (le_refl 1))
  rcases adapter.buildClauses_cases params with built | ⟨clauses, built⟩
  · have nothing : ∀ (given : Option (List Predicate)) (sorts : Option (List SortKey)) window,
        (∀ predicate ∈ given.getD [], predicate.SuitsTable table) →
        (∀ sort ∈ sorts.getD [], table.HasColumn sort.field) →
        adapter.Returns table (params.given given sorts window) state [] := by
      intro given sorts window suits sorted
      refine (onTable.answering suits sorted noFailure running).returns_nothing ?_
      rwa [buildClauses_eq_none_iff] at built ⊢
    refine ⟨[], alone, [], [], whole, nothing _ _ _ (by simp) (by simp), each,
      nothing _ _ _ suits (by simp), ?_, nothing _ _ _ suits sorted, .refl _, ?_⟩
    · simp
    · intro count _ offset _
      rw [List.drop_nil, List.take_nil]
      exact nothing _ _ _ suits sorted
  · have present : adapter.buildClauses params ≠ .ok none := by simp [built]
    have within : adapter.WithinLimits (params.given filter sorts none) := by
      rcases answered with unlinkable | within
      · have unbuilt : adapter.buildClauses params = .ok none :=
          buildClauses_eq_none_iff.mpr unlinkable
        exact absurd unbuilt present
      · exact within
    have linked := returns_few
      (fun _ => onTable.answering (by simp) (by simp) noFailure running) present
      (within.few (Nat.zero_le 1) : adapter.WithinLimits (params.given none none none))
    have filtered := returns_few
      (fun _ => onTable.answering suits (by simp) noFailure running) present within.unsorted
    obtain ⟨ordered, permuted, -, returns, cut⟩ :=
      Answering.exists_ordered answering present within
    exact ⟨_, alone, _, ordered, whole, linked, each, filtered, table.keptRows_append _ _,
      returns, permuted, cut⟩

end TableAdapter

namespace Guild

/-- Members of teams, one of them without a name. -/
def table : StoredTable where
  name := "member"
  columns := ["id", "full_name", "team"]
  rows :=
    [[.integer 1, .text "o'hara", .text "oak"], [.integer 2, .text "lin", .text "oak"],
      [.integer 3, .null, .text "oak"], [.integer 4, .text "ada", .text "oak"],
      [.integer 5, .text "lin", .text "elm"]]

def state : RequestState MemoryStore := { world := { tables := [table] } }

/-- The members of the team of the parent. -/
def members : TableAdapter MemoryStore where
  table := "member"
  columns := [{ name := "id" }, { name := "full_name", label := "name" }]
  source := MemoryStore.source
  link := some ⟨"team", "key"⟩

def asked : ResolveParams where
  field := "members"
  selection := ["id", "name"]
  parent := some [("key", .string "oak")]

def renamed : List Predicate :=
  [.compare "full_name" .notEqual "o'hara", .contains "id" .noneOf []]

def latest : List SortKey := [⟨"id", .descending⟩]

theorem members_over : members.Over state.world table asked.parent where
  source := rfl
  found := by decide
  name := by decide
  columns := by
    simp only [members, List.forall_mem_cons, HasColumn]
    decide
  link := by
    simp only [members, Option.mem_some_iff, forall_eq', HasColumn]
    decide
  key := by decide

theorem suits_renamed : ∀ predicate ∈ renamed, predicate.SuitsTable table := by
  have recorded : Filter.record [] (.object
      [("full_name", .object [("not_equal", .string "o'hara")]),
        ("id", .object [("not_in", .array [])])]) = (.ok (), renamed) := rfl
  have fields : ∀ predicate ∈ renamed, isPlainColumn predicate.field = true ∧
      (table.column? predicate.field).isSome := by decide
  have noNull : ∀ predicate ∈ renamed, ∀ operand ∈ predicate.operands,
      '\x00' ∉ operand.toList := by decide
  exact fun predicate member => ⟨Filter.accepted_of_record recorded predicate member,
    fields predicate member, noNull predicate member⟩

/-- A member without a name is not renamed, and an empty list of numbers excludes nobody. -/
theorem renamed_members :
    members.Over state.world table asked.parent ∧
      (∀ predicate ∈ renamed, predicate.SuitsTable table) ∧
      (∀ sort ∈ latest, table.HasColumn sort.field) ∧
      state.world.failure = none ∧ state.cancelled = false ∧
      ∃ rows ordered,
        members.Returns table (asked.given (some renamed) none none) state rows ∧
        rows.map NumberedRow.number = [2, 4] ∧
        members.Returns table (asked.given (some renamed) (some latest) none) state ordered ∧
        ordered.Perm rows ∧
        members.Returns table (asked.given (some renamed) (some latest) (some ⟨1, 1⟩)) state
          ((ordered.drop 1).take 1) := by
  have sorted : ∀ sort ∈ latest, table.HasColumn sort.field := by
    simp only [latest, List.forall_mem_cons, HasColumn]
    decide
  obtain ⟨-, meaning⟩ := TableAdapter.arguments_restrict_order_and_cut members table asked state
    (some renamed) (some latest) members_over suits_renamed sorted rfl rfl
  obtain ⟨linked, alone, rows, ordered, -, links, each, filtered, kept, returned, permuted,
    cut⟩ := meaning ⟨by decide, by decide, by decide, by decide⟩
      (.inr ⟨by decide, by decide, by decide, by decide⟩)
  refine ⟨members_over, suits_renamed, sorted, rfl, rfl, rows, ordered, filtered, ?_, returned,
    permuted, cut 1 (by decide) 1 (by decide)⟩
  have same := filtered.unique (TableAdapter.returns_few
    (fun _ => members_over.answering suits_renamed (by simp) rfl rfl) (by decide)
    ⟨by decide, by decide, by decide, by decide⟩)
  rw [same]
  decide

end Guild

namespace Statement

/-- No word with a meaning of its own begins with this letter. -/
theorem isPlain_of_x {rest : List Char} (parts : rest.all SqlToken.isNamePart = true) :
    isPlainColumn (String.ofList ('x' :: rest)) = true ∧
      isPlainName (String.ofList ('x' :: rest)) = true := by
  have word : SqlToken.isWord (String.ofList ('x' :: rest)) = true := by
    rw [SqlToken.isWord, String.toList_ofList]
    exact parts
  have raised : (upper (String.ofList ('x' :: rest))).toList =
      'X' :: rest.map Char.toUpper := by
    rw [upper, String.toList_ofList, String.toList_ofList]
    rfl
  have differs : ∀ other : String, other.toList.head? ≠ some 'X' →
      upper (String.ofList ('x' :: rest)) ≠ other := by
    rintro other differs rfl
    rw [raised] at differs
    exact differs rfl
  have named : isName (String.ofList ('x' :: rest)) = true := by
    rw [isName, Bool.not_eq_true', List.contains_eq_mem, decide_eq_false_iff_not]
    exact fun member => differs _ ((by decide : ∀ word ∈ reservedWords,
      word.toList.head? ≠ some 'X') _ member) rfl
  have notOpening : openingWords.contains (upper (String.ofList ('x' :: rest))) = false := by
    rw [List.contains_eq_mem, decide_eq_false_iff_not]
    exact fun member => differs _ ((by decide : ∀ word ∈ openingWords,
      word.toList.head? ≠ some 'X') _ member) rfl
  have noValue : wordValue? (String.ofList ('x' :: rest)) = none := by
    unfold wordValue?
    split
    all_goals first | rfl | exact absurd ‹_› (differs _ (by decide))
  rw [isPlainColumn, isPlainName, isColumnName, word, named, notOpening, noValue]
  exact ⟨rfl, rfl⟩

end Statement

namespace WideTable

/-- Names of as many columns as wanted. -/
def columnNames (width : Nat) : List String :=
  (List.range width).map fun index => "x" ++ toString index

/-- A table with one row that holds the same number everywhere. -/
def table (width : Nat) : StoredTable where
  name := "wide"
  columns := columnNames width
  rows := [(columnNames width).map fun _ => .integer 1]

def state (width : Nat) : RequestState MemoryStore := { world := { tables := [table width] } }

def adapter : TableAdapter MemoryStore where
  table := "wide"
  columns := [{ name := "x0" }]
  source := MemoryStore.source

def asked : ResolveParams where
  field := "rows"
  selection := ["x0"]

/-- A comparison for each column, which the row satisfies. -/
def comparisons (width : Nat) : List Predicate :=
  (columnNames width).map fun name => .compare name .equal "1"

variable {width : Nat}

theorem isPlain_of_mem {name : String} (member : name ∈ columnNames width) :
    isPlainColumn name = true ∧ isPlainName name = true := by
  obtain ⟨index, -, rfl⟩ := List.mem_map.mp member
  have letter : "x".toList = ['x'] := rfl
  have spelled : "x" ++ toString index = String.ofList ('x' :: (toString index).toList) := by
    rw [← String.toList_inj, String.toList_append, letter, String.toList_ofList,
      List.singleton_append]
  have parts : (toString index).toList.all SqlToken.isNamePart = true := by
    rw [List.all_eq_true]
    intro c digit
    rw [Nat.toString_eq_ofList_toDigits, String.toList_ofList] at digit
    have digit := Nat.isDigit_of_mem_toDigits (by decide) (by decide) digit
    simp [SqlToken.isNamePart, digit]
  rw [spelled]
  exact isPlain_of_x parts

theorem hasColumn {name : String} (member : name ∈ columnNames width) :
    (table width).HasColumn name :=
  ⟨(isPlain_of_mem member).1, isSome_column?_of_mem member⟩

theorem adapter_over (positive : 0 < width) :
    adapter.Over (state width).world (table width) asked.parent where
  source := rfl
  found := by simp [MemoryStore.table?, state, table, adapter, sameName]
  name := by decide
  columns := by
    have first : "x0" ∈ columnNames width :=
      List.mem_map_of_mem (List.mem_range.mpr positive)
    simp only [adapter, List.forall_mem_singleton]
    exact ⟨hasColumn first, (isPlain_of_mem first).2⟩
  link := by simp [adapter]
  key := by simp [adapter, TableAdapter.linkPredicate]

theorem suits_comparisons :
    ∀ predicate ∈ comparisons width, predicate.SuitsTable (table width) := by
  intro predicate member
  obtain ⟨name, named, rfl⟩ := List.mem_map.mp member
  refine ⟨⟨Operator.equal.tag, .string "1", rfl⟩, hasColumn named, ?_⟩
  simp [Predicate.operands]

/-- Every comparison keeps the row. -/
theorem keptRows_comparison {predicate : Predicate} (member : predicate ∈ comparisons width) :
    (table width).keptRows [predicate] = SelectPlan.numberedRows (table width).rows := by
  obtain ⟨name, named, rfl⟩ := List.mem_map.mp member
  obtain ⟨index, placed⟩ := Option.isSome_iff_exists.mp (hasColumn named).2
  have inside : index < (columnNames width).length :=
    (List.findIdx?_eq_some_iff_findIdx_eq.mp placed).1
  have held : ((columnNames width).map fun _ => StoredValue.integer 1).getD index .null =
      .integer 1 := by
    rw [List.getD_eq_getElem?_getD, List.getElem?_map, List.getElem?_eq_getElem inside]
    rfl
  have equal : StoredValue.order (.integer 1) (StoredValue.ofText "1") = .eq := by decide
  have bound : (Predicate.compare name .equal "1").condition.resolve
      ((table width).source? (table width).name []) =
        some (.compare (.stored index) .equal (.text "1")) := by
    rw [Predicate.condition, Condition.resolve, source?_stored placed, Option.map_some]
  have one : SelectPlan.numberedRows (table width).rows =
      [⟨(columnNames width).map fun _ => .integer 1, 1⟩] := rfl
  refine List.filter_eq_self.mpr fun row member => ?_
  rw [one, List.mem_singleton] at member
  have kept : (table width).keeps row (.compare name .equal "1") = true := by
    rw [StoredTable.keeps, Predicate.keeps, bound, Option.map_some, member]
    simp only [Condition.evaluate, ValueSource.value, ValueSource.literal, held, equal]
    rfl
  rw [keepsAll, List.all_cons, kept]
  rfl

theorem not_withinLimits (wide : heightLimit ≤ width) :
    ¬ adapter.WithinLimits (asked.given (some (comparisons width)) none none) := by
  intro within
  have height := within.height
  have predicates : adapter.predicates (asked.given (some (comparisons width)) none none) =
      comparisons width := by
    rw [TableAdapter.predicates_given]
    exact List.append_nil _
  have all : Filter.restricting (comparisons width) = comparisons width := by
    refine List.filter_eq_self.mpr fun predicate member => ?_
    obtain ⟨name, -, rfl⟩ := List.mem_map.mp member
    rfl
  have length : (comparisons width).length = width := by
    rw [comparisons, List.length_map, columnNames, List.length_map, List.length_range]
  rw [predicates] at height
  exact Filter.not_fitsHeight_of_length (by rwa [all, length]) height

/-- Each of 1200 comparisons returns the row, but a statement with all of them is refused. -/
theorem comparisons_refused_together :
    adapter.Over (state 1200).world (table 1200) asked.parent ∧
      (∀ predicate ∈ comparisons 1200, predicate.SuitsTable (table 1200)) ∧
      (state 1200).world.failure = none ∧ (state 1200).cancelled = false ∧
      adapter.unlinked.Returns (table 1200) (asked.given none none none) (state 1200)
        (SelectPlan.numberedRows (table 1200).rows) ∧
      (∀ predicate ∈ comparisons 1200,
        adapter.unlinked.Returns (table 1200) (asked.given (some [predicate]) none none)
          (state 1200) (SelectPlan.numberedRows (table 1200).rows)) ∧
      (adapter.resolve (asked.given (some (comparisons 1200)) none none)
        (state 1200)).1.toOption = none := by
  -- nothing depends on the number of columns but that it is large
  have wide : heightLimit ≤ 1200 := by simp [heightLimit]
  generalize 1200 = width at wide ⊢
  have onTable := adapter_over (lt_of_lt_of_le (by decide : 0 < heightLimit) wide)
  have built : adapter.buildClauses asked ≠ .ok none := by
    rw [ne_eq, TableAdapter.buildClauses_eq_none_iff]
    simp [adapter]
  have within : adapter.WithinLimits (asked.given none none none) :=
    ⟨by decide, by decide, by decide, by decide⟩
  have suits : ∀ predicate ∈ (some (comparisons width)).getD [],
      predicate.SuitsTable (table width) := suits_comparisons
  refine ⟨onTable, suits, rfl, rfl, ?_, ?_, ?_⟩
  · rw [← StoredTable.keptRows_nil]
    exact TableAdapter.returns_few
      (fun _ => onTable.answering (by simp) (by simp) rfl rfl) built within
  · intro predicate member
    have alone : ∀ other ∈ (some [predicate]).getD [], other.SuitsTable (table width) := by
      simpa using suits predicate member
    rw [← keptRows_comparison member]
    exact TableAdapter.returns_few
      (fun _ => onTable.answering alone (by simp) rfl rfl) built (within.few (le_refl 1))
  · exact (onTable.answering suits (by simp) rfl rfl).toOption_resolve_eq_none rfl
      (not_withinLimits wide)

end WideTable

end NodeGraph
