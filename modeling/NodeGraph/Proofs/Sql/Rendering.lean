import NodeGraph.Argument.Kind
import NodeGraph.Proofs.Sql.Histories
import NodeGraph.Proofs.Sql.Reading

/-!
# Rendered statements as pieces

What predicates, filters and whole statements render is written by pieces whose literals
are the operands, in order, and whose text outside the literals is the same for all
operands.  Limits and sort orders have no literals.
-/

namespace NodeGraph

open Sql

theorem Operator.quoteFree_symbol (operator : Operator) : QuoteFree operator.symbol := by
  cases operator <;> decide

theorem SortDirection.quoteFree_keyword (direction : SortDirection) :
    QuoteFree direction.keyword := by
  cases direction <;> decide

theorem quoteFree_toString (number : Nat) : QuoteFree (toString number) := by
  intro member
  rw [Nat.toString_eq_ofList_toDigits, String.toList_ofList] at member
  have digit := Nat.isDigit_of_mem_toDigits (by decide) (by decide) member
  exact absurd digit (by decide)

namespace Predicate

/-- The predicate with every operand text replaced by the empty one. -/
def blank : Predicate → Predicate
  | .compare field operator _ => .compare field operator ""
  | .contains field operator values => .contains field operator (values.map fun _ => "")

def literalList (values : List String) : List Lexeme :=
  [Lexeme.char ','].intercalate (values.map fun value => [.literal value])

/-- The pieces of the predicate in a statement. -/
def lexemes : Predicate → List Lexeme
  | .compare field operator value =>
      plain (" " ++ field ++ " " ++ operator.symbol ++ " ") ++ [.literal value, .char ' ']
  | .contains _ _ [] => []
  | .contains field operator (value :: rest) =>
      plain (" " ++ field ++ " " ++ operator.symbol ++ " (") ++
        (literalList (value :: rest) ++ plain ") ")

theorem toList_literal (value : String) :
    (literal value).toList = (Lexeme.literal value).text := by
  simp [literal, Lexeme.text]

theorem print_literalList (values : List String) :
    print (literalList values) = (",".intercalate (values.map literal)).toList := by
  rw [literalList, print_intercalate, String.toList_intercalate, List.map_map, List.map_map]
  congr 2
  funext value
  simp [toList_literal]

theorem literals_literalList (values : List String) :
    literals (literalList values) = values := by
  rw [literalList, literals_intercalate rfl]
  simp [List.flatMap_map, Lexeme.literalText]

theorem template_literalList (values : List String) :
    template (literalList (values.map fun _ => "")) = template (literalList values) := by
  rw [literalList, literalList, template_intercalate, template_intercalate]
  simp [Function.comp_def, Lexeme.placeholder]

/-- A list of literals is spaced once something without quotes follows. -/
theorem spaced_literalList (values : List String) {c : Char} {rest : List Lexeme}
    (notQuote : c ≠ '\'') (spaced : Spaced rest) :
    Spaced (literalList values ++ .char c :: rest) := by
  unfold literalList
  induction values with
  | nil => exact .char notQuote spaced
  | cons value values ih =>
      cases values with
      | nil => exact .literal value notQuote spaced
      | cons next values =>
          simp only [List.map_cons, List.intercalate_cons_cons, List.append_assoc] at ih ⊢
          exact .literal value (by decide) ih

theorem print_lexemes (predicate : Predicate) :
    print predicate.lexemes = predicate.toSql.toList := by
  cases predicate with
  | compare field operator value =>
      simp [lexemes, toSql, toList_literal, Lexeme.text]
  | contains field operator values =>
      cases values with
      | nil => rfl
      | cons value rest =>
          simp only [lexemes, toSql, print_append, print_plain, print_literalList,
            String.toList_append, List.append_assoc]

@[simp]
theorem literals_lexemes (predicate : Predicate) :
    literals predicate.lexemes = predicate.operands := by
  cases predicate with
  | compare field operator value => simp [lexemes, operands, Lexeme.literalText]
  | contains field operator values =>
      cases values with
      | nil => rfl
      | cons value rest =>
          simp [lexemes, operands, literals_literalList]

/-- The operands do not show outside the literals. -/
theorem template_lexemes_blank (predicate : Predicate) :
    template predicate.blank.lexemes = template predicate.lexemes := by
  cases predicate with
  | compare field operator value => simp [lexemes, blank, Lexeme.placeholder]
  | contains field operator values =>
      cases values with
      | nil => rfl
      | cons value rest =>
          have commas := template_literalList (value :: rest)
          rw [List.map_cons] at commas
          simp only [lexemes, blank, List.map_cons, template_append, commas]

theorem spaced_lexemes {predicate : Predicate} (quoteFree : QuoteFree predicate.field) :
    Spaced predicate.lexemes := by
  have start : ∀ ending, QuoteFree ending →
      QuoteFree (" " ++ predicate.field ++ " " ++ predicate.operator.symbol ++ ending) := by
    intro ending endingFree
    simp only [quoteFree_append]
    exact ⟨⟨⟨⟨by decide, quoteFree⟩, by decide⟩, predicate.operator.quoteFree_symbol⟩,
      endingFree⟩
  cases predicate with
  | compare field operator value =>
      exact (Spaced.plain (start " " (by decide))).append
        (.literal value (by decide) .nil)
  | contains field operator values =>
      cases values with
      | nil => exact .nil
      | cons value rest =>
          exact (Spaced.plain (start " (" (by decide))).append
            (spaced_literalList _ (by decide) (.char (by decide) .nil))

theorem lexemes_eq_nil_iff (predicate : Predicate) :
    predicate.lexemes = [] ↔ predicate.operands = [] := by
  cases predicate with
  | compare field operator value => simp [lexemes, operands]
  | contains field operator values =>
      cases values with
      | nil => simp [lexemes, operands]
      | cons value rest => simp [lexemes, operands, plain]

theorem toSql_eq_empty_iff (predicate : Predicate) :
    predicate.toSql = "" ↔ predicate.operands = [] := by
  rw [← String.toList_eq_nil_iff, ← predicate.print_lexemes, print_eq_nil_iff,
    lexemes_eq_nil_iff]

theorem isEmpty_toSql (predicate : Predicate) :
    predicate.toSql.isEmpty = predicate.lexemes.isEmpty := by
  rw [Bool.eq_iff_iff, String.isEmpty_iff, List.isEmpty_iff, toSql_eq_empty_iff,
    lexemes_eq_nil_iff]

end Predicate

namespace Filter

def lexemes (predicates : List Predicate) : List Lexeme :=
  (plain " AND ").intercalate
    ((predicates.map Predicate.lexemes).filter fun part => !part.isEmpty)

theorem print_lexemes (predicates : List Predicate) :
    print (lexemes predicates) = (toSql predicates).toList := by
  rw [lexemes, toSql, print_intercalate, String.toList_intercalate, print_plain]
  congr 1
  induction predicates with
  | nil => rfl
  | cons predicate rest ih =>
      simp only [List.map_cons, List.filter_cons, predicate.isEmpty_toSql]
      split
      · simp only [List.map_cons, predicate.print_lexemes, ih]
      · exact ih

theorem isEmpty_toSql (predicates : List Predicate) :
    (toSql predicates).isEmpty = (lexemes predicates).isEmpty := by
  rw [Bool.eq_iff_iff, String.isEmpty_iff, List.isEmpty_iff, ← String.toList_eq_nil_iff,
    ← print_lexemes, print_eq_nil_iff]

theorem literals_lexemes (predicates : List Predicate) :
    literals (lexemes predicates) = predicates.flatMap Predicate.operands := by
  rw [lexemes, literals_intercalate (literals_plain _)]
  induction predicates with
  | nil => rfl
  | cons predicate rest ih =>
      simp only [List.map_cons, List.filter_cons, List.flatMap_cons]
      split
      · rw [List.flatMap_cons, ih, predicate.literals_lexemes]
      · rename_i empty
        have nothing : predicate.lexemes = [] := by simpa using empty
        rw [ih, predicate.lexemes_eq_nil_iff.mp nothing, List.nil_append]

theorem template_lexemes (predicates : List Predicate) :
    template (lexemes predicates) =
      (template (plain " AND ")).intercalate
        ((predicates.map fun predicate => template predicate.lexemes).filter
          fun part => !part.isEmpty) := by
  rw [lexemes, template_intercalate]
  congr 1
  induction predicates with
  | nil => rfl
  | cons predicate rest ih =>
      simp only [List.map_cons, List.filter_cons, template, List.isEmpty_map]
      split
      · rw [List.map_cons, ih]
        rfl
      · exact ih

/-- Conjunctions whose predicates differ in operand texts only have one template. -/
theorem template_lexemes_congr {predicates others : List Predicate}
    (same : predicates.map Predicate.blank = others.map Predicate.blank) :
    template (lexemes predicates) = template (lexemes others) := by
  have blanked : ∀ list : List Predicate,
      (list.map fun predicate => template predicate.lexemes) =
        (list.map Predicate.blank).map fun predicate => template predicate.lexemes := by
    intro list
    simp [Predicate.template_lexemes_blank]
  rw [template_lexemes, template_lexemes, blanked predicates, blanked others, same]

theorem spaced_lexemes {predicates : List Predicate}
    (quoteFree : ∀ predicate ∈ predicates, QuoteFree predicate.field) :
    Spaced (lexemes predicates) := by
  refine Spaced.intercalate (.plain (by decide)) ?_
  intro part member
  obtain ⟨predicate, predicateMem, rfl⟩ := List.mem_map.mp (List.mem_filter.mp member).1
  exact Predicate.spaced_lexemes (quoteFree predicate predicateMem)

def written (predicates : List Predicate) : List String :=
  (predicates.map Predicate.toSql).filter fun text => !text.isEmpty

theorem toSql_eq_intercalate (predicates : List Predicate) :
    toSql predicates = " AND ".intercalate (written predicates) :=
  rfl

theorem written_append (left right : List Predicate) :
    written (left ++ right) = written left ++ written right := by
  simp [written]

theorem written_compare (field : String) (operator : Operator) (value : String) :
    written [.compare field operator value] =
      [(Predicate.compare field operator value).toSql] := by
  simp [written, Predicate.toSql_eq_empty_iff, Predicate.operands]

theorem written_eq_nil_iff (predicates : List Predicate) :
    written predicates = [] ↔ predicates.flatMap Predicate.operands = [] := by
  simp [written, List.filter_eq_nil_iff, Predicate.toSql_eq_empty_iff]

/-- A conjunction is blank exactly when none of its predicates renders anything. -/
theorem isBlankText_toSql_iff (predicates : List Predicate) :
    Text.isBlankText (toSql predicates) = true ↔ written predicates = [] := by
  constructor
  · intro blank
    rw [written_eq_nil_iff, ← literals_lexemes]
    refine literals_eq_nil fun quote => ?_
    rw [print_lexemes] at quote
    exact absurd (List.all_eq_true.mp blank _ quote) (by decide)
  · intro none
    have empty : toSql predicates = "" := by
      rw [toSql_eq_intercalate, none, String.intercalate_nil]
    rw [empty]
    rfl

theorem isBlankText_toSql_iff_empty (predicates : List Predicate) :
    Text.isBlankText (toSql predicates) = true ↔ toSql predicates = "" := by
  constructor
  · intro blank
    rw [toSql_eq_intercalate, (isBlankText_toSql_iff predicates).mp blank,
      String.intercalate_nil]
  · intro empty
    rw [empty]
    rfl

theorem toSql_compare (field : String) (operator : Operator) (value : String) :
    toSql [.compare field operator value] =
      (Predicate.compare field operator value).toSql := by
  rw [toSql_eq_intercalate, written_compare, String.intercalate_singleton]

theorem not_isBlankText_compare (field : String) (operator : Operator) (value : String) :
    ¬ Text.isBlankText (Predicate.compare field operator value).toSql = true := by
  rw [← toSql_compare, isBlankText_toSql_iff, written_compare]
  exact List.cons_ne_nil _ _

/-- Conjoining a comparison with a rendered conjunction renders the longer conjunction. -/
theorem conjoin_toSql (predicates : List Predicate) (field : String) (operator : Operator)
    (value : String) :
    SelectClauses.conjoin (toSql predicates) (Predicate.compare field operator value).toSql =
      toSql (predicates ++ [.compare field operator value]) := by
  have shown := not_isBlankText_compare field operator value
  rw [toSql_eq_intercalate (predicates ++ [_]), written_append,
    written_compare field operator value]
  by_cases blank : written predicates = []
  · rw [SelectClauses.conjoin_blank ((isBlankText_toSql_iff predicates).mpr blank) shown, blank,
      List.nil_append, String.intercalate_singleton]
  · rw [SelectClauses.conjoin_shown (mt (isBlankText_toSql_iff predicates).mp blank) shown,
      String.intercalate_append_of_ne_nil blank (List.cons_ne_nil _ _),
      String.intercalate_singleton, toSql_eq_intercalate]

end Filter

theorem Limit.quoteFree_toSql (window : Limit) : QuoteFree window.toSql := by
  rw [toSql, quoteFree_append, quoteFree_append]
  exact ⟨⟨quoteFree_toString _, by decide⟩, quoteFree_toString _⟩

theorem OrderBy.quoteFree_toSql {sorts : List SortKey}
    (fields : ∀ sort ∈ sorts, QuoteFree sort.field) : QuoteFree (toSql sorts) := by
  refine quoteFree_intercalate (by decide) fun part member => ?_
  obtain ⟨sort, sortMem, rfl⟩ := List.mem_map.mp member
  simp only [quoteFree_append]
  exact ⟨⟨fields sort sortMem, by decide⟩, sort.direction.quoteFree_keyword⟩

namespace SelectClauses

/-- The pieces of a condition after its keyword, or none for an empty condition. -/
def conditionLexemes (predicates : List Predicate) : List Lexeme :=
  if (Filter.lexemes predicates).isEmpty then []
  else plain " WHERE " ++ Filter.lexemes predicates

/-- The pieces of a statement whose condition is a conjunction. -/
def lexemes (clauses : SelectClauses) (predicates : List Predicate) : List Lexeme :=
  plain ("SELECT " ++ clauses.columns ++ " FROM " ++ clauses.table) ++
    conditionLexemes predicates ++
      plain (fragment "ORDER BY" clauses.ordering ++ fragment "LIMIT" clauses.limit)

theorem print_conditionLexemes (predicates : List Predicate) :
    print (conditionLexemes predicates) =
      (fragment "WHERE" (Filter.toSql predicates)).toList := by
  rw [conditionLexemes, fragment, Filter.isEmpty_toSql]
  split
  · simp
  · simp [Filter.print_lexemes]

theorem toList_of_toSql {clauses : SelectClauses} {predicates : List Predicate}
    {statement : String} (condition : clauses.condition = Filter.toSql predicates)
    (grouping : clauses.grouping = "") (rendered : clauses.toSql = .ok statement) :
    statement.toList = print (clauses.lexemes predicates) := by
  rw [toSql] at rendered
  split at rendered
  · cases rendered
  · obtain rfl := Except.ok.inj rendered
    simp [lexemes, print_conditionLexemes, condition, grouping, fragment]

theorem exists_toSql_iff (clauses : SelectClauses) :
    (∃ statement, clauses.toSql = .ok statement) ↔
      clauses.columns ≠ "" ∧ clauses.table ≠ "" := by
  constructor
  · rintro ⟨statement, rendered⟩
    refine not_or.mp fun missing => ?_
    rw [toSql_eq_error_iff.mpr ⟨rfl, missing⟩] at rendered
    cases rendered
  · rintro ⟨columns, table⟩
    exact ⟨_, toSql_eq_ok columns table⟩

theorem literals_conditionLexemes (predicates : List Predicate) :
    literals (conditionLexemes predicates) = predicates.flatMap Predicate.operands := by
  rw [conditionLexemes, ← Filter.literals_lexemes]
  split
  · rename_i empty
    rw [List.isEmpty_iff.mp empty]
  · simp

theorem literals_lexemes (clauses : SelectClauses) (predicates : List Predicate) :
    literals (clauses.lexemes predicates) = predicates.flatMap Predicate.operands := by
  simp [lexemes, literals_conditionLexemes]

/-- The condition outside the literals does not depend on the operand texts. -/
theorem template_conditionLexemes_congr {predicates others : List Predicate}
    (same : predicates.map Predicate.blank = others.map Predicate.blank) :
    template (conditionLexemes predicates) = template (conditionLexemes others) := by
  have conditions := Filter.template_lexemes_congr same
  have empty : (Filter.lexemes predicates).isEmpty = (Filter.lexemes others).isEmpty := by
    have lengths := congrArg List.isEmpty conditions
    simpa only [template, List.isEmpty_map] using lengths
  rw [conditionLexemes, conditionLexemes, empty]
  split
  · rfl
  · rw [template_append, template_append, conditions]

theorem spaced_conditionLexemes {predicates : List Predicate}
    (quoteFree : ∀ predicate ∈ predicates, QuoteFree predicate.field) :
    Spaced (conditionLexemes predicates) := by
  rw [conditionLexemes]
  split
  · exact .nil
  · exact (Spaced.plain (by decide)).append (Filter.spaced_lexemes quoteFree)

theorem quoteFree_fragment {keyword text : String} (keywordFree : QuoteFree keyword)
    (textFree : QuoteFree text) : QuoteFree (fragment keyword text) := by
  rw [fragment]
  split
  · decide
  · simp only [quoteFree_append]
    exact ⟨⟨⟨by decide, keywordFree⟩, by decide⟩, textFree⟩

/-- Fragments without quotes around a conjunction of predicates over fields without quotes
make a statement that can be read back. -/
theorem spaced_lexemes {clauses : SelectClauses} {predicates : List Predicate}
    (columns : QuoteFree clauses.columns) (table : QuoteFree clauses.table)
    (ordering : QuoteFree clauses.ordering) (limit : QuoteFree clauses.limit)
    (fields : ∀ predicate ∈ predicates, QuoteFree predicate.field) :
    Spaced (clauses.lexemes predicates) := by
  refine ((Spaced.plain ?_).append (spaced_conditionLexemes fields)).append (.plain ?_)
  · simp only [quoteFree_append]
    exact ⟨⟨⟨by decide, columns⟩, by decide⟩, table⟩
  · exact quoteFree_append.mpr
      ⟨quoteFree_fragment (by decide) ordering, quoteFree_fragment (by decide) limit⟩

end SelectClauses

end NodeGraph
