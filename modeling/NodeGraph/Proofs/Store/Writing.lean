import NodeGraph.Proofs.Sql.Binding
import NodeGraph.Proofs.Store.Tokens
import NodeGraph.Store.Statement
import NodeGraph.Store.Vocabulary

/-!
# Tokens of statements

The statement of an adapter over plain names is read into the tokens that its parts mean:
the selected columns with their labels, the table, the predicates, the sorts and the window.
-/

namespace NodeGraph

open SqlToken

namespace Statement

/-- A word that is a name without quotes. -/
def isPlainName (name : String) : Bool := isWord name && isName name

/-- A word that is the name of a column without quotes, wherever a term is read. -/
def isPlainColumn (name : String) : Bool :=
  isWord name && isColumnName name && (wordValue? name).isNone

end Statement

open Statement

/-- The tokens of items with commas between them. -/
def listed (items : List (List SqlToken)) : List SqlToken := [.symbol ","].intercalate items

theorem listed_singleton (item : List SqlToken) : listed [item] = item := by
  rw [listed, List.intercalate_singleton]

theorem listed_cons_cons (item next : List SqlToken) (rest : List (List SqlToken)) :
    listed (item :: next :: rest) = item ++ .symbol "," :: listed (next :: rest) := by
  rw [listed, List.intercalate_cons_cons, List.append_assoc, List.singleton_append, listed]

/-- Items that have tokens are at most as many as the tokens of their list. -/
theorem length_le_listed {α : Type} (items : List α) (tokens : α → List SqlToken)
    (some : ∀ item ∈ items, tokens item ≠ []) :
    items.length ≤ (listed (items.map tokens)).length := by
  induction items with
  | nil => exact Nat.zero_le _
  | cons item items ih =>
      have present := List.length_pos_iff.mpr (some item List.mem_cons_self)
      have later := ih fun other member => some other (List.mem_cons_of_mem _ member)
      cases items with
      | nil =>
          rw [List.map_cons, List.map_nil, listed_singleton]
          exact present
      | cons next items =>
          simp only [List.map_cons, listed_cons_cons, List.length_append, List.length_cons]
            at later ⊢
          omega

namespace Column

/-- The tokens that select a column. -/
def tokens (column : Column) : List SqlToken :=
  if column.name = column.label then [.word column.name]
  else [.word column.name, .word "AS", .word column.label]

end Column

namespace Predicate

/-- Whether the operator suits the operand: a text for a comparison, a list of texts for a
containment. -/
def IsTyped : Predicate → Prop
  | .compare _ operator _ => operator.isContainment = false
  | .contains _ operator _ => operator.isContainment = true

def negation (operator : Operator) : List SqlToken :=
  if operator = .noneOf then [.word "NOT"] else []

/-- The tokens of a predicate; a containment in no values has none. -/
def tokens : Predicate → List SqlToken
  | .compare field operator value => [.word field, .symbol operator.symbol, .literal value]
  | .contains _ _ [] => []
  | .contains field operator (value :: rest) =>
      .word field :: (negation operator ++ .word "IN" :: .symbol "(" ::
        (listed ((value :: rest).map fun text => [.literal text]) ++ [.symbol ")"]))

end Predicate

namespace SortKey

def tokens (sort : SortKey) : List SqlToken :=
  [.word sort.field, .word sort.direction.keyword]

end SortKey

namespace Filter

/-- The predicates that are not empty. -/
def restricting (predicates : List Predicate) : List Predicate :=
  predicates.filter fun predicate => !predicate.operands.isEmpty

/-- The tokens of a condition after its keyword, if any predicate is not empty. -/
def tokens (predicates : List Predicate) : List SqlToken :=
  match restricting predicates with
  | [] => []
  | first :: rest =>
      .word "WHERE" :: [.word "AND"].intercalate ((first :: rest).map Predicate.tokens)

end Filter

namespace OrderBy

def tokens : List SortKey → List SqlToken
  | [] => []
  | first :: rest => .word "ORDER" :: .word "BY" :: listed ((first :: rest).map SortKey.tokens)

end OrderBy

namespace Limit

def tokens (window : Limit) : List SqlToken :=
  [.word "LIMIT", .number (toString window.offset), .symbol ",",
    .number (toString window.count)]

end Limit

namespace TableAdapter

variable {World : Type}

/-- The tokens of the statement of an adapter. -/
def statementTokens (adapter : TableAdapter World) (params : ResolveParams) : List SqlToken :=
  .word "SELECT" ::
    (listed ((selectedColumns adapter.columns params.selection).map Column.tokens) ++
      .word "FROM" :: .word adapter.table ::
        (Filter.tokens (adapter.predicates params) ++
          (OrderBy.tokens params.arguments.lastSorts ++
            ((params.arguments.lastOf? Argument.window?).map Limit.tokens).getD [])))

/-- All names that enter the statement of an adapter are plain, its operands are of the types
that their operators take, and no operand holds the null character. -/
structure Plain (adapter : TableAdapter World) (params : ResolveParams) : Prop where
  table : isPlainName adapter.table = true
  columns : ∀ column ∈ adapter.columns,
    isPlainColumn column.name = true ∧ isPlainName column.label = true
  predicates : ∀ predicate ∈ adapter.predicates params, predicate.IsTyped ∧
    isPlainColumn predicate.field = true ∧
      ∀ operand ∈ predicate.operands, '\x00' ∉ operand.toList
  sorts : ∀ sort ∈ params.arguments.lastSorts, isPlainColumn sort.field = true

end TableAdapter

namespace Statement

theorem isWord_of_isPlainName {name : String} (plain : isPlainName name = true) :
    isWord name = true := by
  rw [isPlainName, Bool.and_eq_true] at plain
  exact plain.1

theorem isWord_of_isPlainColumn {name : String} (plain : isPlainColumn name = true) :
    isWord name = true := by
  rw [isPlainColumn, Bool.and_eq_true, Bool.and_eq_true] at plain
  exact plain.1.1

end Statement

namespace SqlToken

theorem breaks_space (text : String) : Breaks (" " ++ text).toList := by
  simp [Breaks]

theorem breaks_append {text rest : String} (first : Breaks text.toList)
    (second : Breaks rest.toList) : Breaks (text ++ rest).toList := by
  rw [String.toList_append]
  exact first.append second

namespace Writes

/-- A word is divided from what follows it after a blank. -/
theorem wordSpace (word : String) {text : String} {tokens : List SqlToken}
    (known : isWord word = true) (writes : Writes text tokens) :
    Writes (word ++ (" " ++ text)) (.word word :: tokens) :=
  (Writes.word known).append writes.space (breaks_space text)

/-- Texts with commas between them. -/
theorem listed {α : Type} {items : List α} {text : α → String} {tokens : α → List SqlToken}
    (each : ∀ item ∈ items, Writes (text item) (tokens item)) :
    Writes (",".intercalate (items.map text)) (NodeGraph.listed (items.map tokens)) := by
  induction items with
  | nil => exact .empty
  | cons item items ih =>
      have first := each item List.mem_cons_self
      have rest := ih fun other member => each other (List.mem_cons_of_mem _ member)
      cases items with
      | nil => simpa only [List.map_cons, List.map_nil, String.intercalate_singleton,
          listed_singleton] using first
      | cons next items =>
          simp only [List.map_cons, String.intercalate_cons_cons, listed_cons_cons,
            String.append_assoc] at rest ⊢
          exact first.append (.symbol _ (by decide) rest) (by simp [Breaks])

end Writes

end SqlToken

namespace Column

theorem writes_selectText {column : Column} (name : isWord column.name = true)
    (label : isWord column.label = true) : Writes column.selectText column.tokens := by
  unfold selectText tokens
  split
  · exact .word name
  · rw [String.append_assoc]
    exact .wordSpace _ name (.wordSpace "AS" (by decide) (.word label))

end Column

namespace Predicate

theorem writes_toSql {predicate : Predicate} (typed : predicate.IsTyped)
    (field : isWord predicate.field = true)
    (noNull : ∀ operand ∈ predicate.operands, '\x00' ∉ operand.toList) :
    Writes predicate.toSql predicate.tokens := by
  cases predicate with
  | compare field operator value =>
      have literal := Writes.literal (noNull value List.mem_cons_self)
      have ended : Writes (Sql.literal value ++ " ") [.literal value] :=
        literal.append (Writes.empty.space) (by simp [Breaks])
      simp only [toSql, String.append_assoc]
      exact (Writes.wordSpace _ field (.comparison typed ended)).space
  | contains field operator values =>
      cases values with
      | nil => exact .empty
      | cons value rest =>
          have literals : Writes (",".intercalate ((value :: rest).map Sql.literal))
              (listed ((value :: rest).map fun text => [.literal text])) :=
            .listed fun text member => .literal (noNull text member)
          have closed : Writes (",".intercalate ((value :: rest).map Sql.literal) ++ ") ")
              (listed ((value :: rest).map fun text => [.literal text]) ++ [.symbol ")"]) :=
            literals.append (.symbol ")" (by decide) Writes.empty.space) (by simp [Breaks])
          have opened := Writes.wordSpace "IN" (by decide) (.symbol "(" (by decide) closed)
          simp only [toSql, tokens, String.append_assoc]
          refine Writes.space (Writes.wordSpace _ field ?_)
          cases operator with
          | oneOf => exact opened
          | noneOf => exact Writes.wordSpace "NOT" (by decide) opened
          | _ => cases typed

end Predicate

namespace SortKey

theorem writes_toSql {sort : SortKey} (field : isWord sort.field = true) :
    Writes (sort.field ++ " " ++ sort.direction.keyword) sort.tokens := by
  have keyword : isWord sort.direction.keyword = true := by
    cases sort.direction <;> decide
  rw [String.append_assoc]
  exact .wordSpace _ field (.word keyword)

end SortKey

namespace SelectClauses

theorem breaks_fragment (keyword text : String) : Breaks (fragment keyword text).toList := by
  unfold fragment
  split
  · simp [Breaks]
  · rw [String.append_assoc, String.append_assoc]
    exact breaks_space _

/-- A fragment that is not empty is divided like its text, after its keyword. -/
theorem writes_fragment {keyword text : String} (words : List SqlToken) {tokens : List SqlToken}
    (opens : ∀ {rest later}, Writes rest later → Writes (keyword ++ (" " ++ rest))
      (words ++ later))
    (written : text ≠ "") (writes : Writes text tokens) :
    Writes (fragment keyword text) (words ++ tokens) := by
  rw [fragment, if_neg (by simpa using written), String.append_assoc, String.append_assoc]
  exact (opens writes).space

end SelectClauses

namespace Filter

theorem written_eq_map (predicates : List Predicate) :
    written predicates = (restricting predicates).map Predicate.toSql := by
  rw [written, restricting, List.filter_map]
  congr 2
  funext predicate
  rw [Function.comp_apply, Bool.eq_iff_iff]
  simp [Predicate.toSql_eq_empty_iff]

theorem writes_conjunction (predicates : List Predicate)
    (each : ∀ predicate ∈ predicates, Writes predicate.toSql predicate.tokens) :
    Writes (" AND ".intercalate (predicates.map Predicate.toSql))
      ([.word "AND"].intercalate (predicates.map Predicate.tokens)) := by
  induction predicates with
  | nil => exact .empty
  | cons predicate rest ih =>
      have first := each predicate List.mem_cons_self
      have later := ih fun other member => each other (List.mem_cons_of_mem _ member)
      cases rest with
      | nil => simpa using first
      | cons next rest =>
          have keyword : " AND " = " " ++ ("AND" ++ " ") := rfl
          simp only [List.map_cons, String.intercalate_cons_cons, List.intercalate_cons_cons,
            List.append_assoc, List.singleton_append] at later ⊢
          rw [keyword, String.append_assoc, String.append_assoc, String.append_assoc]
          exact first.append (Writes.wordSpace _ (by decide) later).space (breaks_space _)

theorem writes_fragment {predicates : List Predicate}
    (each : ∀ predicate ∈ predicates, Writes predicate.toSql predicate.tokens) :
    Writes (SelectClauses.fragment "WHERE" (toSql predicates)) (tokens predicates) := by
  have writes := writes_conjunction (restricting predicates)
    fun predicate member => each predicate (List.mem_of_mem_filter member)
  have present : restricting predicates ≠ [] → toSql predicates ≠ "" := by
    intro some
    rw [Ne, ← isBlankText_toSql_iff_empty, isBlankText_toSql_iff, written_eq_map]
    simpa using some
  rw [toSql_eq_intercalate, written_eq_map] at present ⊢
  unfold tokens
  cases some : restricting predicates with
  | nil => exact .empty
  | cons first rest =>
      rw [some] at writes present
      exact SelectClauses.writes_fragment [.word "WHERE"]
        (fun writes => .wordSpace _ (by decide) writes) (present (List.cons_ne_nil _ _)) writes

end Filter

namespace OrderBy

theorem writes_fragment {sorts : List SortKey}
    (fields : ∀ sort ∈ sorts, isWord sort.field = true) :
    Writes (SelectClauses.fragment "ORDER BY" (toSql sorts)) (tokens sorts) := by
  have writes : Writes (toSql sorts) (listed (sorts.map SortKey.tokens)) :=
    .listed fun sort member => sort.writes_toSql (fields sort member)
  cases sorts with
  | nil => exact .empty
  | cons first rest =>
      refine SelectClauses.writes_fragment [.word "ORDER", .word "BY"]
        (fun writes => ?_) ?_ writes
      · exact Writes.wordSpace "ORDER" (by decide)
          (.wordSpace "BY" (by decide) writes)
      · cases rest <;> simp [toSql]

end OrderBy

namespace Limit

theorem writes_fragment (window : Limit) :
    Writes (SelectClauses.fragment "LIMIT" window.toSql) window.tokens := by
  have writes : Writes window.toSql
      [.number (toString window.offset), .symbol ",", .number (toString window.count)] := by
    rw [toSql, String.append_assoc]
    exact (Writes.number _).append (.symbol _ (by decide) (.number _)) (by simp [Breaks])
  refine SelectClauses.writes_fragment [.word "LIMIT"]
    (fun writes => .wordSpace _ (by decide) writes) ?_ writes
  simp [toSql]

end Limit

namespace TableAdapter

variable {World : Type}

/-- The statement of an adapter over plain names is divided into the tokens of its parts. -/
theorem writes_statement {adapter : TableAdapter World} {params : ResolveParams}
    (plain : adapter.Plain params) {statement : String}
    (rendered : (adapter.statementClauses params).toSql = .ok statement) :
    Writes statement (adapter.statementTokens params) := by
  have columns : Writes (",".intercalate
      ((selectedColumns adapter.columns params.selection).map Column.selectText))
      (listed ((selectedColumns adapter.columns params.selection).map Column.tokens)) := by
    refine .listed fun column member => ?_
    have ⟨name, label⟩ := plain.columns column (mem_of_mem_selectedColumns member)
    exact column.writes_selectText (isWord_of_isPlainColumn name) (isWord_of_isPlainName label)
  have condition := Filter.writes_fragment fun predicate member =>
    have ⟨typed, field, noNull⟩ := plain.predicates predicate member
    predicate.writes_toSql typed (isWord_of_isPlainColumn field) noNull
  have ordering := OrderBy.writes_fragment fun sort member =>
    isWord_of_isPlainColumn (plain.sorts sort member)
  have limit : Writes
      (SelectClauses.fragment "LIMIT"
        (((params.arguments.lastOf? Argument.window?).map Limit.toSql).getD ""))
      (((params.arguments.lastOf? Argument.window?).map Limit.tokens).getD []) := by
    cases params.arguments.lastOf? Argument.window? with
    | none => exact .empty
    | some window => exact window.writes_fragment
  have breaks := SelectClauses.breaks_fragment
  have clauses := condition.append (ordering.append limit (breaks _ _))
    (breaks_append (breaks _ _) (breaks _ _))
  have table := (Writes.word (isWord_of_isPlainName plain.table)).append clauses
    (breaks_append (breaks _ _) (breaks_append (breaks _ _) (breaks _ _)))
  have select : "SELECT " = "SELECT" ++ " " := rfl
  have source : " FROM " = " " ++ ("FROM" ++ " ") := rfl
  have grouping : SelectClauses.fragment "GROUP BY" "" = "" := rfl
  rw [SelectClauses.toSql] at rendered
  split at rendered
  · cases rendered
  · obtain rfl := Except.ok.inj rendered
    simp only [statementClauses, grouping, String.append_empty, select, source,
      String.append_assoc]
    exact .wordSpace _ (by decide)
      (columns.append (.space (.wordSpace _ (by decide) table)) (breaks_space _))

end TableAdapter

end NodeGraph
