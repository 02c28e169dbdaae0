import NodeGraph.Proofs.Argument.Combination
import NodeGraph.Proofs.Sql.Rendering
import NodeGraph.TableAdapter

/-!
# Operands are bound

Writing operands into a statement has the effect of binding them as parameters: read back,
the statement has the operands as its literals, and two resolutions that differ in operand
texts and parent records only send statements that agree outside the literals.
-/

namespace NodeGraph

open Sql

variable {World : Type}

/-- The argument with every operand text of a filter replaced by the empty one. -/
def Argument.blank : Argument → Argument
  | .filter predicates => .filter (predicates.map Predicate.blank)
  | other => other

namespace ValidatedArguments

theorem quoteFree_lastOf? {α : Type} {pick : Argument → Option (List α)} {field : α → String}
    (named : ∀ argument items, pick argument = some items →
      argument.fieldNames = items.map field)
    {arguments : ValidatedArguments}
    (fields : ∀ argument ∈ arguments, ∀ name ∈ argument.fieldNames, QuoteFree name) :
    ∀ item ∈ (arguments.lastOf? pick).getD [], QuoteFree (field item) := by
  intro item member
  cases last : arguments.lastOf? pick with
  | none => simp [last] at member
  | some items =>
      obtain ⟨argument, argumentMem, holds⟩ := exists_of_lastOf?_eq_some last
      refine fields argument argumentMem _ ?_
      rw [named argument items holds]
      exact List.mem_map_of_mem (by simpa [last] using member)

theorem quoteFree_lastPredicates {arguments : ValidatedArguments}
    (fields : ∀ argument ∈ arguments, ∀ name ∈ argument.fieldNames, QuoteFree name) :
    ∀ predicate ∈ arguments.lastPredicates, QuoteFree predicate.field := by
  refine quoteFree_lastOf? (fun argument predicates holds => ?_) fields
  cases argument <;> cases holds
  rfl

theorem quoteFree_lastSorts {arguments : ValidatedArguments}
    (fields : ∀ argument ∈ arguments, ∀ name ∈ argument.fieldNames, QuoteFree name) :
    ∀ sort ∈ arguments.lastSorts, QuoteFree sort.field := by
  refine quoteFree_lastOf? (fun argument sorts holds => ?_) fields
  cases argument <;> cases holds
  rfl

/-- The last filters of arguments that differ in operand texts only do so, too. -/
theorem lastPredicates_blank {arguments others : ValidatedArguments}
    (same : arguments.map Argument.blank = others.map Argument.blank) :
    arguments.lastPredicates.map Predicate.blank =
      others.lastPredicates.map Predicate.blank := by
  have follows : ∀ argument : Argument,
      argument.blank.predicates? = argument.predicates?.map (List.map Predicate.blank) := by
    intro argument
    cases argument <;> rfl
  have pull : ∀ found : Option (List Predicate),
      (found.getD []).map Predicate.blank =
        (found.map (List.map Predicate.blank)).getD [] := by
    intro found
    cases found <;> rfl
  have last := congrArg (lastOf? Argument.predicates?) same
  rw [lastOf?_map follows, lastOf?_map follows] at last
  rw [lastPredicates, lastPredicates, pull, pull, last]

theorem lastOf?_blank {α : Type} {pick : Argument → Option α}
    (kept : ∀ argument : Argument, pick argument.blank = pick argument)
    {arguments others : ValidatedArguments}
    (same : arguments.map Argument.blank = others.map Argument.blank) :
    arguments.lastOf? pick = others.lastOf? pick := by
  have follows : ∀ argument : Argument, pick argument.blank = (pick argument).map id := by
    intro argument
    rw [kept, Option.map_id_fun, id_eq]
  have last := congrArg (lastOf? pick) same
  rw [lastOf?_map follows, lastOf?_map follows] at last
  simpa using last

theorem isBuiltIn_of_blank {arguments others : ValidatedArguments}
    (same : arguments.map Argument.blank = others.map Argument.blank)
    (builtIn : ∀ argument ∈ arguments, argument.IsBuiltIn) :
    ∀ argument ∈ others, argument.IsBuiltIn := by
  have kept : ∀ argument : Argument, argument.blank.IsBuiltIn ↔ argument.IsBuiltIn := by
    intro argument
    cases argument <;> exact Iff.rfl
  intro other member
  have blanked : other.blank ∈ arguments.map Argument.blank := by
    rw [same]
    exact List.mem_map_of_mem member
  obtain ⟨argument, argumentMem, blankEq⟩ := List.mem_map.mp blanked
  rw [← kept, ← blankEq, kept]
  exact builtIn argument argumentMem

end ValidatedArguments

namespace TableAdapter

/-- The names by which an adapter enters a statement have no quotes. -/
structure QuoteFree (adapter : TableAdapter World) : Prop where
  table : Sql.QuoteFree adapter.table
  columns : ∀ column ∈ adapter.columns,
    Sql.QuoteFree column.name ∧ Sql.QuoteFree column.label
  link : ∀ link ∈ adapter.link, Sql.QuoteFree link.column

/-- The text by which a link compares a value of the parent record. -/
def linkText? : Json → Option String
  | .string text => some text
  | .bool value => some (Predicate.boolText value)
  | .number value => some value.text
  | _ => none

/-- The predicate that a link states for a parent record, if the record has a key. -/
def linkPredicate? (link : ParentLink) (parent : Option Record) : Option Predicate :=
  (linkKey? link parent).bind fun key =>
    (Predicate.ofOperand Operator.equal.tag link.column key).toOption

/-- Comparing with a key is an operation that is never refused. -/
theorem ofOperand_linkOperand (column : String) {value operand : Json}
    (linked : linkOperand? value = some operand) :
    ∃ text, linkText? value = some text ∧
      Predicate.ofOperand Operator.equal.tag column operand =
        .ok (.compare column .equal text) := by
  cases value with
  | string text | bool value | number value =>
      cases linked
      exact ⟨_, rfl, rfl⟩
  | _ => cases linked

theorem linkOperand?_eq_none_iff {value : Json} :
    linkOperand? value = none ↔ linkText? value = none := by
  cases value <;> simp [linkOperand?, linkText?]

theorem ofOperand_linkKey {link : ParentLink} {parent : Option Record} {key : Json}
    (keyed : linkKey? link parent = some key) :
    ∃ predicate, Predicate.ofOperand Operator.equal.tag link.column key = .ok predicate ∧
      linkPredicate? link parent = some predicate := by
  have fromValue := keyed
  simp only [linkKey?, Option.bind_eq_bind, Option.bind_eq_some_iff] at fromValue
  obtain ⟨_, _, _, _, linked⟩ := fromValue
  obtain ⟨text, _, compared⟩ := ofOperand_linkOperand link.column linked
  exact ⟨_, compared, by rw [linkPredicate?, keyed, Option.bind_some, compared]; rfl⟩

theorem buildClauses_of_unlinked {adapter : TableAdapter World} (params : ResolveParams)
    (unlinked : adapter.link = none) :
    adapter.buildClauses params = .ok (some (adapter.unlinkedClauses params)) := by
  simp only [buildClauses, unlinked]

/-- The predicate of a link is conjoined last. -/
theorem buildClauses_of_linked {adapter : TableAdapter World} (params : ResolveParams)
    {link : ParentLink} (linked : adapter.link = some link) :
    adapter.buildClauses params =
      .ok ((linkPredicate? link params.parent).map fun predicate =>
        (adapter.unlinkedClauses params).apply (.conjoin predicate.toSql)) := by
  simp only [buildClauses, linked]
  cases keyed : linkKey? link params.parent with
  | none => simp [linkPredicate?, keyed]
  | some key =>
      obtain ⟨predicate, compared, stated⟩ := ofOperand_linkKey keyed
      simp only [compared, stated]
      rfl

/-- Building clauses never fails. -/
theorem buildClauses_cases (adapter : TableAdapter World) (params : ResolveParams) :
    adapter.buildClauses params = .ok none ∨
      ∃ clauses, adapter.buildClauses params = .ok (some clauses) := by
  cases linked : adapter.link with
  | none => exact .inr ⟨_, buildClauses_of_unlinked params linked⟩
  | some link =>
      rw [buildClauses_of_linked params linked]
      cases linkPredicate? link params.parent with
      | none => exact .inl rfl
      | some predicate => exact .inr ⟨_, rfl⟩

/-- Clauses are those without the link, or the link is conjoined to these. -/
theorem buildClauses_eq_some_iff {adapter : TableAdapter World} {params : ResolveParams}
    {clauses : SelectClauses} :
    adapter.buildClauses params = .ok (some clauses) ↔
      (adapter.link = none ∧ clauses = adapter.unlinkedClauses params) ∨
        ∃ link predicate, adapter.link = some link ∧
          linkPredicate? link params.parent = some predicate ∧
          clauses = (adapter.unlinkedClauses params).apply (.conjoin predicate.toSql) := by
  cases linked : adapter.link with
  | none =>
      rw [buildClauses_of_unlinked params linked]
      simp [eq_comm]
  | some link =>
      rw [buildClauses_of_linked params linked]
      cases stated : linkPredicate? link params.parent <;> simp [stated, eq_comm]

/-- The text of the parent's key for the link of an adapter. -/
def parentText? (adapter : TableAdapter World) (params : ResolveParams) : Option String := do
  let link ← adapter.link
  let record ← params.parent
  let value ← JsonObject.find? record link.parentKey
  linkText? value

/-- The predicates of a statement: those of the filter and the link to the parent. -/
def predicates (adapter : TableAdapter World) (params : ResolveParams) : List Predicate :=
  params.arguments.lastPredicates ++
    (adapter.link.bind fun link => linkPredicate? link params.parent).toList

/-- The fragments of a statement whose condition is the conjunction of the predicates. -/
def statementClauses (adapter : TableAdapter World) (params : ResolveParams) :
    SelectClauses where
  columns := ",".intercalate
    ((selectedColumns adapter.columns params.selection).map Column.selectText)
  table := adapter.table
  condition := Filter.toSql (adapter.predicates params)
  ordering := OrderBy.toSql params.arguments.lastSorts
  limit := ((params.arguments.lastOf? Argument.window?).map Limit.toSql).getD ""

theorem linkPredicate?_eq (link : ParentLink) (parent : Option Record) :
    linkPredicate? link parent =
      (parent.bind fun record => (JsonObject.find? record link.parentKey).bind linkText?).map
        (.compare link.column .equal) := by
  unfold linkPredicate? linkKey?
  cases parent with
  | none => rfl
  | some record =>
      cases found : JsonObject.find? record link.parentKey with
      | none => simp [found]
      | some value =>
          simp only [found, Option.bind_eq_bind, Option.bind_some]
          cases linked : linkOperand? value with
          | none => simp [linkOperand?_eq_none_iff.mp linked]
          | some operand =>
              obtain ⟨text, texted, compared⟩ := ofOperand_linkOperand link.column linked
              simp [texted, compared, Except.toOption]

theorem operands_linkPredicate (adapter : TableAdapter World) (params : ResolveParams) :
    (adapter.link.bind fun link => linkPredicate? link params.parent).toList.flatMap
        Predicate.operands =
      (adapter.parentText? params).toList := by
  cases present : adapter.link with
  | none => simp [parentText?, present]
  | some link =>
      have text : adapter.parentText? params = params.parent.bind fun record =>
          (JsonObject.find? record link.parentKey).bind linkText? := by
        rw [parentText?, present]
        rfl
      rw [Option.bind_some, linkPredicate?_eq, text]
      cases params.parent.bind fun record =>
          (JsonObject.find? record link.parentKey).bind linkText? <;> rfl

theorem unlinkedClauses_eq (adapter : TableAdapter World) {params : ResolveParams}
    (builtIn : ∀ argument ∈ params.arguments, argument.IsBuiltIn) :
    adapter.unlinkedClauses params =
      { adapter.statementClauses params with
        condition := Filter.toSql params.arguments.lastPredicates } := by
  have empty : Filter.toSql [] = "" := rfl
  have emptyOrder : OrderBy.toSql [] = "" := rfl
  rw [unlinkedClauses, ValidatedArguments.combineInto_eq builtIn]
  simp only [SelectClauses.ofTable, statementClauses, ValidatedArguments.lastPredicates,
    ValidatedArguments.lastSorts]
  cases params.arguments.lastOf? Argument.predicates? <;>
    cases params.arguments.lastOf? Argument.sorts? <;> simp [empty, emptyOrder]

/-- The clauses of an adapter carry the conjunction of the filter and the link. -/
theorem buildClauses_eq {adapter : TableAdapter World} {params : ResolveParams}
    {clauses : SelectClauses}
    (builtIn : ∀ argument ∈ params.arguments, argument.IsBuiltIn)
    (built : adapter.buildClauses params = .ok (some clauses)) :
    clauses = adapter.statementClauses params := by
  have unlinked := adapter.unlinkedClauses_eq builtIn
  rcases buildClauses_eq_some_iff.mp built with
    ⟨linked, rfl⟩ | ⟨link, predicate, linked, stated, rfl⟩
  · rw [unlinked]
    simp [statementClauses, predicates, linked]
  · have linkStated := stated
    rw [linkPredicate?_eq, Option.map_eq_some_iff] at linkStated
    obtain ⟨text, -, rfl⟩ := linkStated
    rw [unlinked]
    simp [SelectClauses.apply, Filter.conjoin_toSql, statementClauses, predicates, linked,
      stated]

theorem mem_foldl_addColumn {column : Column} (added selected : List Column) :
    column ∈ added.foldl addColumn selected ↔ column ∈ selected ∨ column ∈ added := by
  induction added generalizing selected with
  | nil => simp
  | cons first rest ih =>
      rw [List.foldl_cons, ih, addColumn]
      split
      · rename_i known
        constructor
        · rintro (here | later)
          · exact .inl here
          · exact .inr (List.mem_cons_of_mem _ later)
        · rintro (here | later)
          · exact .inl here
          · rcases List.mem_cons.mp later with rfl | later
            · exact .inl known
            · exact .inr later
      · rw [List.mem_append, List.mem_singleton, List.mem_cons, or_assoc]

theorem mem_of_mem_selectedColumns {columns : List Column} {selection : List String}
    {column : Column} (selected : column ∈ selectedColumns columns selection) :
    column ∈ columns := by
  have requested : ∀ other ∈ requestedColumns columns selection, other ∈ columns := by
    intro other member
    rw [requestedColumns, mem_foldl_addColumn] at member
    obtain ⟨name, -, found⟩ := List.mem_filterMap.mp (member.resolve_left List.not_mem_nil)
    exact List.mem_of_find?_eq_some found
  unfold selectedColumns at selected
  split at selected
  · exact selected
  · rcases (mem_foldl_addColumn _ _).mp selected with asked | required
    · exact requested column asked
    · exact (List.mem_filter.mp required).1

/-- The statement of an adapter whose names have no quotes can be read back. -/
theorem spaced_statement {adapter : TableAdapter World} {params : ResolveParams}
    (quoteFree : adapter.QuoteFree)
    (fields : ∀ argument ∈ params.arguments, ∀ name ∈ argument.fieldNames,
      Sql.QuoteFree name) :
    Spaced ((adapter.statementClauses params).lexemes (adapter.predicates params)) := by
  refine SelectClauses.spaced_lexemes ?_ quoteFree.table ?_ ?_ ?_
  · refine quoteFree_intercalate (by decide) fun part member => ?_
    obtain ⟨column, columnMem, rfl⟩ := List.mem_map.mp member
    have ⟨name, label⟩ := quoteFree.columns column (mem_of_mem_selectedColumns columnMem)
    rw [Column.selectText]
    split
    · exact name
    · simp only [quoteFree_append]
      exact ⟨⟨name, by decide⟩, label⟩
  · exact OrderBy.quoteFree_toSql (ValidatedArguments.quoteFree_lastSorts fields)
  · simp only [statementClauses]
    cases params.arguments.lastOf? Argument.window? with
    | none => exact (by decide : Sql.QuoteFree "")
    | some window => exact window.quoteFree_toSql
  · intro predicate member
    rcases List.mem_append.mp member with filtered | linked
    · exact ValidatedArguments.quoteFree_lastPredicates fields predicate filtered
    · cases present : adapter.link with
      | none => simp [present] at linked
      | some link =>
          simp only [present, Option.bind_some, Option.mem_toList, linkPredicate?_eq,
            Option.map_eq_some_iff] at linked
          obtain ⟨text, -, rfl⟩ := linked
          exact quoteFree.link link present

/-- What a resolution has in common with every other that sends the same statement up to
its literals: table, columns, linked column, and arguments without their operand texts. -/
structure SameSkeleton (adapter : TableAdapter World) (params : ResolveParams)
    (other : TableAdapter World) (others : ResolveParams) : Prop where
  table : adapter.table = other.table
  columns : selectedColumns adapter.columns params.selection =
    selectedColumns other.columns others.selection
  link : adapter.link.map ParentLink.column = other.link.map ParentLink.column
  arguments : params.arguments.map Argument.blank = others.arguments.map Argument.blank

/-- Resolutions with the same skeleton have predicates that differ in operands only, once
both have clauses. -/
theorem SameSkeleton.predicates {adapter other : TableAdapter World}
    {params others : ResolveParams} (same : SameSkeleton adapter params other others)
    {clauses otherClauses : SelectClauses}
    (built : adapter.buildClauses params = .ok (some clauses))
    (otherBuilt : other.buildClauses others = .ok (some otherClauses)) :
    (adapter.predicates params).map Predicate.blank =
      (other.predicates others).map Predicate.blank := by
  have filters := ValidatedArguments.lastPredicates_blank same.arguments
  have links := same.link
  rw [TableAdapter.predicates, TableAdapter.predicates, List.map_append, List.map_append,
    filters]
  congr 1
  rcases buildClauses_eq_some_iff.mp built with
    ⟨present, _⟩ | ⟨link, predicate, present, stated, _⟩ <;>
  rcases buildClauses_eq_some_iff.mp otherBuilt with
    ⟨otherPresent, _⟩ | ⟨otherLink, otherPredicate, otherPresent, otherStated, _⟩ <;>
  simp only [present, otherPresent, Option.map_none, Option.map_some, reduceCtorEq,
    Option.some.injEq] at links
  · rw [present, otherPresent]
    rfl
  · simp only [present, otherPresent, Option.bind_some, stated, otherStated,
      Option.toList_some, List.map_cons, List.map_nil]
    rw [linkPredicate?_eq, Option.map_eq_some_iff] at stated otherStated
    obtain ⟨_, _, rfl⟩ := stated
    obtain ⟨_, _, rfl⟩ := otherStated
    rw [Predicate.blank, Predicate.blank, links]

/-- Statements of resolutions with the same skeleton agree outside their literals. -/
theorem SameSkeleton.template {adapter other : TableAdapter World}
    {params others : ResolveParams} (same : SameSkeleton adapter params other others)
    {clauses otherClauses : SelectClauses}
    (built : adapter.buildClauses params = .ok (some clauses))
    (otherBuilt : other.buildClauses others = .ok (some otherClauses)) :
    template ((other.statementClauses others).lexemes (other.predicates others)) =
      template ((adapter.statementClauses params).lexemes (adapter.predicates params)) := by
  have conditions :=
    SelectClauses.template_conditionLexemes_congr (same.predicates built otherBuilt)
  have sorts : params.arguments.lastSorts = others.arguments.lastSorts := by
    rw [ValidatedArguments.lastSorts, ValidatedArguments.lastSorts,
      ValidatedArguments.lastOf?_blank (fun argument => by cases argument <;> rfl)
        same.arguments]
  have windows : params.arguments.lastOf? Argument.window? =
      others.arguments.lastOf? Argument.window? :=
    ValidatedArguments.lastOf?_blank (fun argument => by cases argument <;> rfl)
      same.arguments
  simp only [SelectClauses.lexemes, template_append, conditions, statementClauses, sorts,
    windows, same.table, same.columns]

/-- Interpolated operands behave like bound parameters.  For an adapter and arguments of
the built-in kinds whose names have no quotes, the statement reads back with exactly the
operands of the filter, in order, and the parent's key as its literals, whatever characters
those hold; and every resolution with the same skeleton that has clauses sends a statement
that agrees with it outside the literals. -/
theorem statement_binds_operands (adapter : TableAdapter World) (params : ResolveParams)
    {clauses : SelectClauses} {statement : String} (quoteFree : adapter.QuoteFree)
    (builtIn : ∀ argument ∈ params.arguments, argument.IsBuiltIn)
    (fields : ∀ argument ∈ params.arguments, ∀ name ∈ argument.fieldNames,
      Sql.QuoteFree name)
    (built : adapter.buildClauses params = .ok (some clauses))
    (rendered : clauses.toSql = .ok statement) :
    ∃ lexemes, lexemes? statement.toList = some lexemes ∧
      literals lexemes =
        params.arguments.lastPredicates.flatMap Predicate.operands ++
          (adapter.parentText? params).toList ∧
      ∀ (other : TableAdapter World) (others : ResolveParams) (otherClauses : SelectClauses),
        SameSkeleton adapter params other others →
        other.buildClauses others = .ok (some otherClauses) →
        ∃ otherStatement otherLexemes, otherClauses.toSql = .ok otherStatement ∧
          lexemes? otherStatement.toList = some otherLexemes ∧
          template otherLexemes = template lexemes := by
  have clausesEq := buildClauses_eq builtIn built
  subst clausesEq
  have printed := SelectClauses.toList_of_toSql rfl rfl rendered
  have spaced := adapter.spaced_statement quoteFree fields
  refine ⟨_, by rw [printed, lexemes?_print spaced], ?_, ?_⟩
  · rw [SelectClauses.literals_lexemes, predicates, List.flatMap_append,
      operands_linkPredicate]
  · intro other others otherClauses same otherBuilt
    have otherBuiltIn := ValidatedArguments.isBuiltIn_of_blank same.arguments builtIn
    have otherEq := buildClauses_eq otherBuiltIn otherBuilt
    have template := same.template built otherBuilt
    subst otherEq
    have fragments := (SelectClauses.exists_toSql_iff _).mp ⟨_, rendered⟩
    obtain ⟨otherStatement, otherRendered⟩ :
        ∃ text, (other.statementClauses others).toSql = .ok text := by
      rw [SelectClauses.exists_toSql_iff]
      simpa only [statementClauses, same.columns, same.table] using fragments
    have otherPrinted := SelectClauses.toList_of_toSql rfl rfl otherRendered
    -- Nothing is known about the names of the other adapter, but its template is this one.
    refine ⟨otherStatement, _, otherRendered, ?_, template⟩
    rw [otherPrinted, lexemes?_print (spaced.of_template template)]

def notes : TableAdapter Unit where
  table := "notes"
  columns := [⟨"id", "id", true⟩, ⟨"note_text", "text", false⟩]
  source := fun _ state => .answered (.ok {}) state
  link := some ⟨"owner_id", "key"⟩

/-- Arguments whose operands try to leave their literals. -/
def hostileArguments : List (String × Json) :=
  [("order_by", .object [("id", .string "desc")]),
    ("filter", .object
      [("author", .object [("equal", .string "O''Brien'; DROP TABLE notes; --")]),
        ("tag", .object [("not_in", .array [])]),
        ("kind", .object
          [("in", .array [.string "a','b", .string "') OR ('1'='1", .bool true])])]),
    ("limit", .object [("count", Json.ofInt 10)])]

/-- A resolution with such operands and a parent key that ends in a quote. -/
def hostile : ResolveParams where
  field := "notes"
  arguments :=
    [.orderBy [⟨"id", .descending⟩],
      .filter [.compare "author" .equal "O''Brien'; DROP TABLE notes; --",
        .contains "tag" .noneOf [],
        .contains "kind" .oneOf ["a','b", "') OR ('1'='1", "1"]],
      .limit ⟨10, 0⟩]
  selection := ["text"]
  parent := some [("key", .string "x'")]

theorem statement_binds_hostile_operands :
    ValidatedArguments.validate .builtIn "notes"
        [⟨"filter", "Filter"⟩, ⟨"limit", "Limit"⟩, ⟨"order_by", "OrderBy"⟩]
        hostileArguments = .ok hostile.arguments ∧
      ∃ clauses statement lexemes, notes.buildClauses hostile = .ok (some clauses) ∧
        clauses.toSql = .ok statement ∧ lexemes? statement.toList = some lexemes ∧
        literals lexemes =
          ["O''Brien'; DROP TABLE notes; --", "a','b", "') OR ('1'='1", "1", "x'"] := by
  have valid : ValidatedArguments.validate .builtIn "notes"
      [⟨"filter", "Filter"⟩, ⟨"limit", "Limit"⟩, ⟨"order_by", "OrderBy"⟩]
      hostileArguments = .ok hostile.arguments := rfl
  have quoteFree : notes.QuoteFree := ⟨by decide, by decide, by decide⟩
  have built :
      notes.buildClauses hostile = .ok (some (notes.statementClauses hostile)) := rfl
  obtain ⟨statement, rendered⟩ :
      ∃ text, (notes.statementClauses hostile).toSql = .ok text := ⟨_, rfl⟩
  obtain ⟨lexemes, read, texts, -⟩ := notes.statement_binds_operands hostile quoteFree
    (ValidatedArguments.isBuiltIn_of_validate valid) (by decide) built rendered
  exact ⟨valid, _, statement, lexemes, built, rendered, read, texts⟩

end TableAdapter

end NodeGraph
