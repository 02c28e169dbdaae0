import Mathlib.Data.List.DropRight
import Mathlib.Data.List.Induction
import NodeGraph.Sql.Clauses

/-!
# Histories of clauses

Every write to the clauses of a statement belongs to one category, and a category sees only the
writes that belong to it.  Two runs of writes that agree on each category therefore leave the same
clauses, however the writes of different categories stand between each other.  What a category
holds is the last text that was put there; a condition has the later predicates conjoined to it.
-/

namespace NodeGraph

/-- The categories of fragments, which a statement has in this order. -/
inductive ClauseCategory where
  | columns
  | table
  | condition
  | grouping
  | ordering
  | limit
  deriving DecidableEq, Repr

namespace ClauseCategory

def all : List ClauseCategory := [.columns, .table, .condition, .grouping, .ordering, .limit]

/-- The keyword before a fragment of the category. -/
def keyword : ClauseCategory → String
  | .columns => "SELECT"
  | .table => "FROM"
  | .condition => "WHERE"
  | .grouping => "GROUP BY"
  | .ordering => "ORDER BY"
  | .limit => "LIMIT"

end ClauseCategory

namespace ClauseWrite

/-- The category that a write belongs to.  Both ways of writing a condition are one. -/
def category : ClauseWrite → ClauseCategory
  | .columns _ => .columns
  | .table _ => .table
  | .condition _ => .condition
  | .conjoin _ => .condition
  | .grouping _ => .grouping
  | .ordering _ => .ordering
  | .limit _ => .limit

/-- The text that takes the place of what was there. -/
def replacement? : ClauseWrite → Option String
  | .columns text => some text
  | .table text => some text
  | .condition text => some text
  | .conjoin _ => none
  | .grouping text => some text
  | .ordering text => some text
  | .limit text => some text

/-- The predicate that is added to what was there. -/
def predicate? : ClauseWrite → Option String
  | .conjoin predicate => some predicate
  | _ => none

/-- What a category holds after a write to it. -/
def overwrite (before : String) (write : ClauseWrite) : String :=
  match write.predicate? with
  | some predicate => SelectClauses.conjoin before predicate
  | none => write.replacement?.getD before

theorem replacement?_eq_none_iff {write : ClauseWrite} :
    write.replacement? = none ↔ ∃ predicate, write = .conjoin predicate := by
  cases write <;> simp [replacement?]

/-- Only conditions are conjoined. -/
theorem isSome_replacement? {write : ClauseWrite} (other : write.category ≠ .condition) :
    write.replacement?.isSome = true := by
  cases write with
  | conjoin predicate => exact absurd rfl other
  | _ => rfl

end ClauseWrite

namespace SelectClauses

open ClauseWrite (replacement? predicate? overwrite)

/-- The fragment of a category. -/
def held (clauses : SelectClauses) : ClauseCategory → String
  | .columns => clauses.columns
  | .table => clauses.table
  | .condition => clauses.condition
  | .grouping => clauses.grouping
  | .ordering => clauses.ordering
  | .limit => clauses.limit

/-- The writes that belong to a category, in order. -/
def history (category : ClauseCategory) (writes : List ClauseWrite) : List ClauseWrite :=
  writes.filter fun write => write.category == category

/-- The last text that writes put in the place of what was there. -/
def lastText (start : String) (writes : List ClauseWrite) : String :=
  (writes.filterMap replacement?).getLastD start

/-- The predicates that were conjoined since. -/
def laterPredicates (writes : List ClauseWrite) : List String :=
  (writes.rtakeWhile fun write => write.replacement?.isNone).filterMap predicate?

/-- The texts that are not blank, joined; a base stays as it is if there is nothing to join. -/
def conjunction (base : String) (predicates : List String) : String :=
  if predicates.all Text.isBlankText then base
  else " AND ".intercalate ((base :: predicates).filter fun text => !Text.isBlankText text)

theorem eq_of_held {first second : SelectClauses}
    (same : ∀ category, first.held category = second.held category) : first = second := by
  have columns := same .columns
  have table := same .table
  have condition := same .condition
  have grouping := same .grouping
  have ordering := same .ordering
  have limit := same .limit
  cases first
  cases second
  simp only [held] at columns table condition grouping ordering limit
  simp only [columns, table, condition, grouping, ordering, limit]

section Writes

/-- A write changes its own category and no other. -/
theorem held_apply (clauses : SelectClauses) (write : ClauseWrite) (category : ClauseCategory) :
    (clauses.apply write).held category =
      if write.category = category then overwrite (clauses.held category) write
      else clauses.held category := by
  cases write <;> cases category <;> rfl

/-- What a category holds is decided by what it held and by its history. -/
theorem held_applyAll (start : SelectClauses) (writes : List ClauseWrite)
    (category : ClauseCategory) :
    (start.applyAll writes).held category =
      (history category writes).foldl overwrite (start.held category) := by
  induction writes generalizing start with
  | nil => rfl
  | cons write rest ih =>
      have step : start.applyAll (write :: rest) = (start.apply write).applyAll rest := rfl
      rw [step, ih, held_apply]
      by_cases own : write.category = category
      · rw [if_pos own, history, history, List.filter_cons_of_pos (by simpa using own),
          List.foldl_cons]
      · rw [if_neg own, history, history, List.filter_cons_of_neg (by simpa using own)]

theorem applyAll_congr {start : SelectClauses} {writes others : List ClauseWrite}
    (same : ∀ category, history category writes = history category others) :
    start.applyAll writes = start.applyAll others := by
  apply eq_of_held
  intro category
  rw [held_applyAll, held_applyAll, same category]

/-- Writes leave the last text that was put down, with the predicates since then conjoined.  The
induction is from the end, where the last text and the predicates after it stand. -/
theorem foldl_overwrite (before : String) (writes : List ClauseWrite) :
    writes.foldl overwrite before =
      (laterPredicates writes).foldl conjoin (lastText before writes) := by
  induction writes using List.reverseRecOn with
  | nil => rfl
  | append_singleton front write ih =>
      rw [List.foldl_append, ih]
      unfold laterPredicates lastText
      rw [List.rtakeWhile_concat, List.filterMap_append]
      cases replaces : write.replacement? with
      | none =>
          obtain ⟨predicate, rfl⟩ := ClauseWrite.replacement?_eq_none_iff.mp replaces
          simp [overwrite, predicate?, replacement?]
      | some text =>
          cases write <;> cases replaces <;> simp [overwrite, predicate?, replacement?]

theorem foldl_overwrite_of_replaced {writes : List ClauseWrite} (before : String)
    (replaced : ∀ write ∈ writes, write.replacement?.isSome = true) :
    writes.foldl overwrite before = lastText before writes := by
  have none : laterPredicates writes = [] := by
    unfold laterPredicates
    rw [List.rtakeWhile_eq_nil_iff.mpr, List.filterMap_nil]
    intro some
    have last := replaced _ (List.getLast_mem some)
    simp [Option.isNone_eq_false_iff.mpr last]
  rw [foldl_overwrite, none, List.foldl_nil]

end Writes

section Conjunctions

theorem isBlankText_append (left right : String) :
    Text.isBlankText (left ++ right) = (Text.isBlankText left && Text.isBlankText right) := by
  simp [Text.isBlankText]

theorem conjoin_of_isBlankText {predicate : String} (blank : Text.isBlankText predicate = true)
    (condition : String) : conjoin condition predicate = condition :=
  if_pos blank

theorem conjoin_blank {condition predicate : String} (blank : Text.isBlankText condition = true)
    (shown : ¬ Text.isBlankText predicate = true) : conjoin condition predicate = predicate := by
  rw [conjoin, if_neg shown, if_pos blank]

theorem conjoin_shown {condition predicate : String}
    (shown : ¬ Text.isBlankText condition = true)
    (alsoShown : ¬ Text.isBlankText predicate = true) :
    conjoin condition predicate = condition ++ " AND " ++ predicate := by
  rw [conjoin, if_neg alsoShown, if_neg shown]

theorem not_isBlankText_joined {left : String} (shown : ¬ Text.isBlankText left = true)
    (right : String) : ¬ Text.isBlankText (left ++ " AND " ++ right) = true := by
  simp [isBlankText_append, shown]

/-- Two predicates are conjoined one after the other as their conjunction is. -/
theorem conjoin_conjoin (condition : String) {first second : String}
    (shown : ¬ Text.isBlankText first = true) (alsoShown : ¬ Text.isBlankText second = true) :
    conjoin (conjoin condition first) second =
      conjoin condition (first ++ " AND " ++ second) := by
  have joined := not_isBlankText_joined shown second
  by_cases blank : Text.isBlankText condition = true
  · rw [conjoin_blank blank shown, conjoin_shown shown alsoShown, conjoin_blank blank joined]
  · rw [conjoin_shown blank shown, conjoin_shown (not_isBlankText_joined blank first) alsoShown,
      conjoin_shown blank joined]
    simp only [String.append_assoc]

theorem conjunction_cons_of_isBlankText {predicate : String}
    (blank : Text.isBlankText predicate = true) (base : String) (rest : List String) :
    conjunction base (predicate :: rest) = conjunction base rest := by
  simp [conjunction, blank, List.filter_cons]

theorem conjunction_of_shown {base : String} (shown : ¬ Text.isBlankText base = true)
    (predicates : List String) :
    conjunction base predicates =
      " AND ".intercalate ((base :: predicates).filter fun text => !Text.isBlankText text) := by
  unfold conjunction
  split
  · rename_i none
    have nothing : predicates.filter (fun text => !Text.isBlankText text) = [] := by
      simpa [List.filter_eq_nil_iff] using none
    rw [List.filter_cons_of_pos (by simpa using shown), nothing, String.intercalate_singleton]
  · rfl

theorem intercalate_joined (between first second : String) (rest : List String) :
    between.intercalate ((first ++ between ++ second) :: rest) =
      between.intercalate (first :: second :: rest) := by
  cases rest with
  | nil => rw [String.intercalate_cons_cons, String.intercalate_singleton,
      String.intercalate_singleton]
  | cons next rest =>
      simp only [String.intercalate_cons_cons, String.append_assoc]

/-- Predicates that are conjoined one after another leave their conjunction with the base. -/
theorem foldl_conjoin (base : String) (predicates : List String) :
    predicates.foldl conjoin base = conjunction base predicates := by
  induction predicates generalizing base with
  | nil => rfl
  | cons predicate rest ih =>
      rw [List.foldl_cons, ih]
      by_cases blank : Text.isBlankText predicate = true
      · rw [conjoin_of_isBlankText blank, conjunction_cons_of_isBlankText blank]
      · have some : ¬ (predicate :: rest).all Text.isBlankText = true := by simp [blank]
        rw [conjunction.eq_def base, if_neg some]
        by_cases blankBase : Text.isBlankText base = true
        · rw [conjoin_blank blankBase blank, conjunction_of_shown blank,
            List.filter_cons_of_neg (a := base) (by simpa using blankBase)]
        · rw [conjoin_shown blankBase blank,
            conjunction_of_shown (not_isBlankText_joined blankBase predicate),
            List.filter_cons_of_pos (by simpa using not_isBlankText_joined blankBase predicate),
            List.filter_cons_of_pos (a := base) (by simpa using blankBase),
            List.filter_cons_of_pos (a := predicate) (by simpa using blank),
            intercalate_joined]

end Conjunctions

section Rendering

/-- A fragment that is not empty, after its keyword. -/
def shown (clauses : SelectClauses) (category : ClauseCategory) : String :=
  category.keyword ++ " " ++ clauses.held category

/-- The categories whose fragments are not empty. -/
def present (clauses : SelectClauses) (categories : List ClauseCategory) : List ClauseCategory :=
  categories.filter fun category => !(clauses.held category).isEmpty

/-- Fragments stand one after another, with a space before each. -/
theorem intercalate_shown (clauses : SelectClauses) (first : String)
    (categories : List ClauseCategory) :
    " ".intercalate (first :: (clauses.present categories).map clauses.shown) =
      first ++ String.join
        (categories.map fun category => fragment category.keyword (clauses.held category)) := by
  induction categories generalizing first with
  | nil => simp [present]
  | cons category rest ih =>
      unfold present at ih ⊢
      by_cases empty : (clauses.held category).isEmpty = true
      · rw [List.filter_cons_of_neg (by simpa using empty), ih, List.map_cons, fragment,
          if_pos empty]
        simp
      · rw [List.filter_cons_of_pos (by simpa using empty), List.map_cons,
          String.intercalate_cons_cons, ih, List.map_cons, fragment, if_neg empty]
        simp [shown, String.append_assoc]

/-- A statement that has columns and a table is its fragments that are not empty. -/
theorem toSql_eq_ok {clauses : SelectClauses} (columns : clauses.columns ≠ "")
    (table : clauses.table ≠ "") :
    clauses.toSql =
      .ok (" ".intercalate ((clauses.present ClauseCategory.all).map clauses.shown)) := by
  have rendered : ¬ (clauses.columns.isEmpty || clauses.table.isEmpty) = true := by
    simp [columns, table]
  have leads : clauses.present ClauseCategory.all = .columns :: clauses.present
      [.table, .condition, .grouping, .ordering, .limit] :=
    List.filter_cons_of_pos (by simpa [held] using columns)
  have named : fragment "FROM" clauses.table = " FROM " ++ clauses.table :=
    if_neg (by simpa using table)
  rw [toSql, if_neg rendered, leads, List.map_cons, intercalate_shown]
  simp only [List.map_cons, List.map_nil, String.join_cons, String.join_nil, shown,
    ClauseCategory.keyword, held, named, String.append_assoc, String.append_empty]
  rfl

/-- A statement lacks a fragment if it has no columns or no table, and for no other reason. -/
theorem toSql_eq_error_iff {clauses : SelectClauses} {fault : GraphError} :
    clauses.toSql = .error fault ↔
      fault = .incompleteQuery .missingFragments ∧
        (clauses.columns = "" ∨ clauses.table = "") := by
  by_cases missing : clauses.columns = "" ∨ clauses.table = ""
  · have failed : clauses.toSql = .error (.incompleteQuery .missingFragments) :=
      if_pos (by simpa using missing)
    rw [failed, Except.error.injEq, eq_comm]
    simp [missing]
  · obtain ⟨columns, table⟩ := not_or.mp missing
    rw [toSql_eq_ok columns table]
    simp [missing]

end Rendering

/-- Clauses depend on the history of each category alone.  A category holds the last text that
was put there; a condition is that text with the later predicates conjoined, and conjoining two
predicates is conjoining their conjunction.  A statement that lacks neither columns nor table
has the fragments that are not empty, each after its keyword. -/
theorem clauses_follow_histories :
    (∀ (start : SelectClauses) (writes others : List ClauseWrite),
      (∀ category, history category writes = history category others) →
        start.applyAll writes = start.applyAll others) ∧
    (∀ (start : SelectClauses) (writes : List ClauseWrite) (category : ClauseCategory),
      category ≠ .condition →
        (start.applyAll writes).held category =
          lastText (start.held category) (history category writes)) ∧
    (∀ (start : SelectClauses) (writes : List ClauseWrite),
      (start.applyAll writes).condition =
        conjunction (lastText start.condition (history .condition writes))
          (laterPredicates (history .condition writes))) ∧
    (∀ (clauses : SelectClauses) (first second : String),
      ¬ Text.isBlankText first = true → ¬ Text.isBlankText second = true →
        (clauses.apply (.conjoin first)).apply (.conjoin second) =
          clauses.apply (.conjoin (first ++ " AND " ++ second))) ∧
    ∀ clauses : SelectClauses,
      (∀ fault, clauses.toSql = .error fault ↔
        fault = .incompleteQuery .missingFragments ∧
          (clauses.columns = "" ∨ clauses.table = "")) ∧
      (clauses.columns ≠ "" → clauses.table ≠ "" → clauses.toSql =
        .ok (" ".intercalate ((clauses.present ClauseCategory.all).map clauses.shown))) := by
  refine ⟨fun _ _ _ => applyAll_congr, ?_, ?_, ?_, ?_⟩
  · intro start writes category other
    rw [held_applyAll]
    apply foldl_overwrite_of_replaced
    intro write member
    have own : write.category = category := by
      simpa using (List.mem_filter.mp member).2
    exact ClauseWrite.isSome_replacement? (own ▸ other)
  · intro start writes
    have condition := held_applyAll start writes .condition
    rw [foldl_overwrite, foldl_conjoin] at condition
    exact condition
  · intro clauses first second shown alsoShown
    simp only [apply, conjoin_conjoin clauses.condition shown alsoShown]
  · exact fun clauses => ⟨fun _ => toSql_eq_error_iff, toSql_eq_ok⟩

/-- Writes of several categories in turn, with a condition that is put anew in between. -/
def scattered : List ClauseWrite :=
  [.conjoin "age > '3'", .limit "0,10", .condition " ", .columns "id", .conjoin "age > '17'",
    .conjoin "\t", .ordering "id ASC", .limit "5,1", .conjoin "dept = '2'"]

/-- The same writes, one category after another. -/
def gathered : List ClauseWrite :=
  [.columns "id", .conjoin "age > '3'", .condition " ", .conjoin "age > '17'", .conjoin "\t",
    .conjoin "dept = '2'", .ordering "id ASC", .limit "0,10", .limit "5,1"]

theorem scattered_as_gathered :
    (∀ category, history category scattered = history category gathered) ∧
      ∃ clauses : SelectClauses, (ofTable "name" "user").applyAll scattered = clauses ∧
        (ofTable "name" "user").applyAll gathered = clauses ∧
        clauses.limit = "5,1" ∧ clauses.condition = "age > '17' AND dept = '2'" ∧
        (clauses.apply (.conjoin "a")).apply (.conjoin "b") =
          clauses.apply (.conjoin "a AND b") ∧
        clauses.toSql = .ok
          "SELECT id FROM user WHERE age > '17' AND dept = '2' ORDER BY id ASC LIMIT 5,1" := by
  have same : ∀ category, history category scattered = history category gathered := by
    intro category
    cases category <;> decide
  obtain ⟨congruent, last, condition, joins, renders⟩ := clauses_follow_histories
  refine ⟨same, _, rfl, (congruent _ _ _ same).symm, ?_, ?_, ?_, ?_⟩
  · exact (last (ofTable "name" "user") scattered .limit (by decide)).trans (by decide)
  · exact (condition (ofTable "name" "user") scattered).trans (by decide)
  · exact joins _ "a" "b" (by decide) (by decide)
  · rw [(renders _).2 (by decide) (by decide)]
    decide

end SelectClauses

end NodeGraph
