import NodeGraph.Proofs.Execution.Steps
import NodeGraph.Proofs.Store.Writing

/-!
# The language of filters

A filter accepts the objects whose entries hold one operation each.  Whatever values it has
accepted, its predicates say, one for each field, what the last entry over the field said, in the
order of these last entries.  An entry of a field therefore moves to the end when a later value
mentions the field again, also if it renders nothing.
-/

namespace NodeGraph

namespace Json

/-- The operands of comparisons. -/
inductive IsComparable : Json → Prop
  | string (text : String) : IsComparable (.string text)
  | bool (value : Bool) : IsComparable (.bool value)

/-- The items of the lists that containments take. -/
inductive IsListable : Json → Prop
  | string (text : String) : IsListable (.string text)
  | number (value : JsonNumber) : IsListable (.number value)
  | bool (value : Bool) : IsListable (.bool value)

/-- An object whose only entry is an operator with an operand. -/
inductive IsOperation : Json → Prop
  | comparison {tag : String} {operand : Json}
      (named : tag ∈ ["equal", "not_equal", "greater_than", "greater_or_equal", "less_than",
        "less_or_equal"])
      (comparable : operand.IsComparable) : IsOperation (.object [(tag, operand)])
  | containment {tag : String} {items : List Json} (named : tag ∈ ["in", "not_in"])
      (listable : ∀ item ∈ items, item.IsListable) :
      IsOperation (.object [(tag, .array items)])

inductive IsFilter : Json → Prop
  | object {entries : List (String × Json)}
      (operations : ∀ entry ∈ entries, entry.2.IsOperation) : IsFilter (.object entries)

/-- The entries of an object. -/
def entries : Json → List (String × Json)
  | .object entries => entries
  | _ => []

/-- The text that a string or a boolean is compared as. -/
inductive ComparedAs : Json → String → Prop
  | string (text : String) : ComparedAs (.string text) text
  | yes : ComparedAs (.bool true) "1"
  | no : ComparedAs (.bool false) "0"

/-- The text that an item of a list stands for. -/
inductive ListedAs : Json → String → Prop
  | compared {item : Json} {text : String} (same : item.ComparedAs text) : ListedAs item text
  | number (value : JsonNumber) : ListedAs (.number value) value.text

theorem ComparedAs.isComparable {operand : Json} {text : String}
    (compared : operand.ComparedAs text) : operand.IsComparable := by
  cases compared with
  | string text => exact .string text
  | yes => exact .bool true
  | no => exact .bool false

theorem comparedAs_boolText (value : Bool) :
    (Json.bool value).ComparedAs (Predicate.boolText value) := by
  cases value with
  | false => exact .no
  | true => exact .yes

theorem IsComparable.exists_comparedAs {operand : Json} (comparable : operand.IsComparable) :
    ∃ text, operand.ComparedAs text := by
  cases comparable with
  | string text => exact ⟨text, .string text⟩
  | bool value => exact ⟨_, comparedAs_boolText value⟩

theorem ListedAs.isListable {item : Json} {text : String} (listed : item.ListedAs text) :
    item.IsListable := by
  cases listed with
  | compared same =>
      cases same with
      | string text => exact .string text
      | yes => exact .bool true
      | no => exact .bool false
  | number value => exact .number value

theorem IsListable.exists_listedAs {item : Json} (listable : item.IsListable) :
    ∃ text, item.ListedAs text := by
  cases listable with
  | string text => exact ⟨text, .compared (.string text)⟩
  | number value => exact ⟨_, .number value⟩
  | bool value => exact ⟨_, .compared (comparedAs_boolText value)⟩

end Json

namespace Operator

theorem comparison_tag_iff {tag : String} :
    tag ∈ ["equal", "not_equal", "greater_than", "greater_or_equal", "less_than",
        "less_or_equal"] ↔
      ∃ operator : Operator, operator.isContainment = false ∧ operator.tag = tag := by
  constructor
  · intro named
    simp only [List.mem_cons, List.not_mem_nil, or_false] at named
    obtain rfl | rfl | rfl | rfl | rfl | rfl := named
    · exact ⟨.equal, rfl, rfl⟩
    · exact ⟨.notEqual, rfl, rfl⟩
    · exact ⟨.greaterThan, rfl, rfl⟩
    · exact ⟨.greaterOrEqual, rfl, rfl⟩
    · exact ⟨.lessThan, rfl, rfl⟩
    · exact ⟨.lessOrEqual, rfl, rfl⟩
  · rintro ⟨operator, compares, rfl⟩
    cases operator <;> first | decide | cases compares

theorem containment_tag_iff {tag : String} :
    tag ∈ ["in", "not_in"] ↔
      ∃ operator : Operator, operator.isContainment = true ∧ operator.tag = tag := by
  constructor
  · intro named
    simp only [List.mem_cons, List.not_mem_nil, or_false] at named
    obtain rfl | rfl := named
    · exact ⟨.oneOf, rfl, rfl⟩
    · exact ⟨.noneOf, rfl, rfl⟩
  · rintro ⟨operator, contains, rfl⟩
    cases operator <;> first | decide | cases contains

end Operator

namespace Predicate

theorem comparedText_eq_ok_iff {operator : Operator} {field text : String} {operand : Json} :
    comparedText operator field operand = .ok text ↔ operand.ComparedAs text := by
  constructor
  · intro compared
    unfold comparedText at compared
    split at compared
    · obtain rfl := Except.ok.inj compared
      exact .string _
    · obtain rfl := Except.ok.inj compared
      exact Json.comparedAs_boolText _
    · cases compared
  · intro compared
    cases compared <;> rfl

theorem itemText_eq_ok_iff {operator : Operator} {field text : String} {item : Json} :
    itemText operator field item = .ok text ↔ item.ListedAs text := by
  constructor
  · intro listed
    unfold itemText at listed
    split at listed
    · obtain rfl := Except.ok.inj listed
      exact .compared (.string _)
    · obtain rfl := Except.ok.inj listed
      exact .number _
    · obtain rfl := Except.ok.inj listed
      exact .compared (Json.comparedAs_boolText _)
    · cases listed
  · intro listed
    cases listed with
    | compared same => cases same <;> rfl
    | number value => rfl

end Predicate

namespace Filter

/-- What the entry of a field means. -/
inductive Means : String × Json → Predicate → Prop
  | comparison (field : String) {operator : Operator} {operand : Json} {text : String}
      (compares : operator.isContainment = false) (compared : operand.ComparedAs text) :
      Means (field, .object [(operator.tag, operand)]) (.compare field operator text)
  | containment (field : String) {operator : Operator} {items : List Json}
      {texts : List String} (contains : operator.isContainment = true)
      (listed : List.Forall₂ Json.ListedAs items texts) :
      Means (field, .object [(operator.tag, .array items)]) (.contains field operator texts)

theorem Means.field_eq {entry : String × Json} {predicate : Predicate}
    (means : Means entry predicate) : entry.1 = predicate.field := by
  cases means <;> rfl

theorem means_of_ofOperand {tag field : String} {operand : Json} {predicate : Predicate}
    (made : Predicate.ofOperand tag field operand = .ok predicate) :
    Means (field, .object [(tag, operand)]) predicate := by
  unfold Predicate.ofOperand at made
  split at made
  · cases made
  · rename_i operator found
    obtain rfl := Operator.tag_of_ofTag? found
    split at made
    · rename_i contains
      split at made
      · obtain ⟨texts, listed, rfl⟩ := exists_of_map_eq_ok made
        exact .containment field contains
          ((mapM_eq_ok_iff.mp listed).imp fun _ _ => Predicate.itemText_eq_ok_iff.mp)
      · cases made
    · rename_i compares
      obtain ⟨text, compared, rfl⟩ := exists_of_map_eq_ok made
      exact .comparison field (Bool.eq_false_iff.mpr compares)
        (Predicate.comparedText_eq_ok_iff.mp compared)

/-- Reading an entry gives what it means. -/
theorem readEntry_eq_ok_iff {field : String} {raw : Json} {predicate : Predicate} :
    readEntry field raw = .ok predicate ↔ Means (field, raw) predicate := by
  constructor
  · intro read
    unfold readEntry at read
    split at read
    · cases read
    · exact means_of_ofOperand read
    · cases read
    · cases read
  · intro means
    cases means with
    | comparison _ compares compared =>
        simp only [readEntry, Predicate.ofOperand, Operator.ofTag?_tag, compares,
          Predicate.comparedText_eq_ok_iff.mpr compared]
        rfl
    | @containment _ operator items texts contains listed =>
        have texts : items.mapM (Predicate.itemText operator field) = .ok texts :=
          mapM_eq_ok_iff.mpr (listed.imp fun _ _ => Predicate.itemText_eq_ok_iff.mpr)
        simp only [readEntry, Predicate.ofOperand, Operator.ofTag?_tag, contains, texts]
        rfl

theorem Means.isOperation {entry : String × Json} {predicate : Predicate}
    (means : Means entry predicate) : entry.2.IsOperation := by
  cases means with
  | comparison _ compares compared =>
      exact .comparison (Operator.comparison_tag_iff.mpr ⟨_, compares, rfl⟩)
        compared.isComparable
  | containment _ contains listed =>
      refine .containment (Operator.containment_tag_iff.mpr ⟨_, contains, rfl⟩) ?_
      intro item member
      obtain ⟨text, _, itemListed⟩ := exists_right_of_forall₂ listed member
      exact itemListed.isListable

theorem exists_means_of_isOperation (field : String) {raw : Json}
    (operation : raw.IsOperation) : ∃ predicate, Means (field, raw) predicate := by
  cases operation with
  | comparison named comparable =>
      obtain ⟨operator, compares, rfl⟩ := Operator.comparison_tag_iff.mp named
      obtain ⟨text, compared⟩ := comparable.exists_comparedAs
      exact ⟨_, .comparison field compares compared⟩
  | containment named listable =>
      obtain ⟨operator, contains, rfl⟩ := Operator.containment_tag_iff.mp named
      obtain ⟨texts, listed⟩ := exists_forall₂_iff.mpr fun item member =>
        (listable item member).exists_listedAs
      exact ⟨_, .containment field contains listed⟩

/-- Recording entries succeeds if and only if every one of them holds an operation. -/
theorem recordEntries_eq_ok_iff (before : List Predicate) (entries : List (String × Json)) :
    (recordEntries before entries).1 = .ok () ↔ ∀ entry ∈ entries, entry.2.IsOperation := by
  induction entries generalizing before with
  | nil => exact ⟨fun _ _ member => absurd member List.not_mem_nil, fun _ => rfl⟩
  | cons entry rest ih =>
      obtain ⟨field, raw⟩ := entry
      rw [List.forall_mem_cons, recordEntries]
      cases read : readEntry field raw with
      | error fault =>
          constructor
          · intro accepted
            cases accepted
          · intro operations
            obtain ⟨predicate, means⟩ := exists_means_of_isOperation field operations.1
            rw [readEntry_eq_ok_iff.mpr means] at read
            cases read
      | ok predicate =>
          have operation := (readEntry_eq_ok_iff.mp read).isOperation
          exact (ih _).trans ⟨fun later => ⟨operation, later⟩, fun all => all.2⟩

theorem record_eq_ok_iff (before : List Predicate) (value : Json) :
    (record before value).1 = .ok () ↔ value.IsFilter := by
  constructor
  · intro accepted
    unfold record at accepted
    split at accepted
    · exact .object ((recordEntries_eq_ok_iff before _).mp accepted)
    · cases accepted
  · intro filter
    cases filter with
    | object operations => exact (recordEntries_eq_ok_iff before _).mpr operations

/-- The entries whose field no later entry mentions, in order. -/
def lastMentions : List (String × Json) → List (String × Json)
  | [] => []
  | entry :: later =>
      if entry.1 ∈ later.map Prod.fst then lastMentions later else entry :: lastMentions later

theorem lastMentions_sublist (entries : List (String × Json)) :
    (lastMentions entries).Sublist entries := by
  induction entries with
  | nil => exact .slnil
  | cons entry later ih =>
      rw [lastMentions]
      split
      · exact ih.cons entry
      · exact ih.cons_cons entry

theorem nodup_lastMentions (entries : List (String × Json)) :
    ((lastMentions entries).map Prod.fst).Nodup := by
  induction entries with
  | nil => exact .nil
  | cons entry later ih =>
      rw [lastMentions]
      split
      · exact ih
      · rename_i unmentioned
        have mentions := (lastMentions_sublist later).map Prod.fst
        exact List.nodup_cons.mpr ⟨fun member => unmentioned (mentions.subset member), ih⟩

theorem lastMentions_of_nodup {entries : List (String × Json)}
    (distinct : (entries.map Prod.fst).Nodup) : lastMentions entries = entries := by
  induction entries with
  | nil => rfl
  | cons entry later ih =>
      obtain ⟨unmentioned, laterDistinct⟩ := List.nodup_cons.mp distinct
      rw [lastMentions, if_neg unmentioned, ih laterDistinct]

/-- One more entry takes the place of those of its field. -/
theorem lastMentions_concat (entries : List (String × Json)) (entry : String × Json) :
    lastMentions (entries ++ [entry]) =
      (lastMentions entries).filter (fun other => other.1 != entry.1) ++ [entry] := by
  induction entries with
  | nil => rfl
  | cons other later ih =>
      simp only [List.cons_append, lastMentions, List.map_append, List.mem_append,
        List.map_cons, List.map_nil, List.mem_singleton, ih]
      by_cases again : other.1 ∈ later.map Prod.fst
      · rw [if_pos (.inl again), if_pos again]
      · rw [if_neg again]
        by_cases same : other.1 = entry.1
        · rw [if_pos (.inr same), List.filter_cons_of_neg (by simp [same])]
        · rw [if_neg (not_or.mpr ⟨again, same⟩), List.filter_cons_of_pos (by simp [same]),
            List.cons_append]

theorem mem_fields_lastMentions {field : String} {entries : List (String × Json)} :
    field ∈ (lastMentions entries).map Prod.fst ↔ field ∈ entries.map Prod.fst := by
  induction entries with
  | nil => rfl
  | cons entry later ih =>
      rw [lastMentions, List.map_cons, List.mem_cons]
      split
      · rename_i again
        constructor
        · intro member
          exact .inr (ih.mp member)
        · rintro (rfl | member)
          · exact ih.mpr again
          · exact ih.mpr member
      · rw [List.map_cons, List.mem_cons, ih]

section Meaning

/- What entries may mean: an item that is kept under the entry's field. -/
variable {α : Type} {meant : String × Json → α → Prop} {key : α → String}
  {entries : List (String × Json)} {items : List α}
  (placed : List.Forall₂ meant (lastMentions entries) items)
  (keyed : ∀ entry item, meant entry item → entry.1 = key item)

include placed keyed

theorem nodup_of_lastMentions : (items.map key).Nodup := by
  rw [← map_eq_of_forall₂ placed keyed]
  exact nodup_lastMentions entries

theorem mem_keys_of_lastMentions {field : String} :
    field ∈ items.map key ↔ field ∈ entries.map Prod.fst := by
  rw [← map_eq_of_forall₂ placed keyed]
  exact mem_fields_lastMentions

/-- One more item takes the place of the one that is kept under its field. -/
theorem forall₂_lastMentions_concat {entry : String × Json} {item : α} (means : meant entry item) :
    List.Forall₂ meant (lastMentions (entries ++ [entry]))
      (items.filter (fun other => key other != key item) ++ [item]) := by
  have sameField : ∀ other otherItem, meant other otherItem →
      ((other.1 != entry.1) = true ↔ (key otherItem != key item) = true) := by
    intro other otherItem otherMeans
    rw [keyed _ _ otherMeans, keyed _ _ means]
  rw [lastMentions_concat]
  exact List.rel_append (List.rel_filter sameField placed) (.cons means .nil)

end Meaning

/-- The predicates are what the last entries of all fields mean, in order. -/
def Tells (entries : List (String × Json)) (predicates : List Predicate) : Prop :=
  List.Forall₂ Means (lastMentions entries) predicates

theorem Tells.nodup {entries : List (String × Json)} {predicates : List Predicate}
    (tells : Tells entries predicates) : (predicates.map Predicate.field).Nodup :=
  nodup_of_lastMentions tells fun _ _ means => means.field_eq

theorem Tells.put {entries : List (String × Json)} {predicates : List Predicate}
    (tells : Tells entries predicates) {entry : String × Json} {predicate : Predicate}
    (means : Means entry predicate) : Tells (entries ++ [entry]) (put predicates predicate) :=
  forall₂_lastMentions_concat tells (fun _ _ means => means.field_eq) means

/-- Recorded entries tell what they and all before them say. -/
theorem Tells.recordEntries {mentioned entries : List (String × Json)}
    {before after : List Predicate} (tells : Tells mentioned before)
    (recorded : recordEntries before entries = (.ok (), after)) :
    Tells (mentioned ++ entries) after := by
  induction entries generalizing mentioned before with
  | nil =>
      obtain rfl : before = after := congrArg Prod.snd recorded
      rwa [List.append_nil]
  | cons entry rest ih =>
      obtain ⟨field, raw⟩ := entry
      rw [Filter.recordEntries] at recorded
      split at recorded
      · cases recorded
      · rename_i predicate read
        have later := ih (tells.put (readEntry_eq_ok_iff.mp read)) recorded
        rwa [List.append_assoc] at later

theorem Tells.record {mentioned : List (String × Json)} {value : Json}
    {before after : List Predicate} (tells : Tells mentioned before)
    (recorded : record before value = (.ok (), after)) :
    Tells (mentioned ++ value.entries) after := by
  unfold Filter.record at recorded
  split at recorded
  · exact tells.recordEntries recorded
  · cases recorded

/-- Values that a filter accepts one after another. -/
inductive Records : List Predicate → List Json → List Predicate → Prop
  | done (predicates : List Predicate) : Records predicates [] predicates
  | next {before between after : List Predicate} {value : Json} {later : List Json}
      (recorded : record before value = (.ok (), between))
      (rest : Records between later after) : Records before (value :: later) after

theorem Tells.records {mentioned : List (String × Json)} {values : List Json}
    {before after : List Predicate} (tells : Tells mentioned before)
    (records : Records before values after) :
    Tells (mentioned ++ values.flatMap Json.entries) after := by
  induction records generalizing mentioned with
  | done predicates => rwa [List.flatMap_nil, List.append_nil]
  | next recorded _ ih =>
      rw [List.flatMap_cons, ← List.append_assoc]
      exact ih (tells.record recorded)

theorem tells_start : Tells [] [] :=
  .nil

/-- A conjunction is empty if and only if it is one of containments in no values. -/
theorem toSql_eq_empty_iff (predicates : List Predicate) :
    toSql predicates = "" ↔ ∀ predicate ∈ predicates, predicate.operands = [] := by
  rw [← isBlankText_toSql_iff_empty, isBlankText_toSql_iff, written_eq_nil_iff,
    List.flatMap_eq_nil_iff]

/-- A filter accepts its language in every state, and one value of distinct fields leaves what
its entries mean, in order.  After any accepted values it has one predicate for each field, of
the last entry that mentions it, in the order of these entries, and renders the conjunction of
all but the containments in no values. -/
theorem record_compiles_language :
    (∀ before value, (record before value).1 = .ok () ↔ value.IsFilter) ∧
    (∀ entries predicates, (entries.map Prod.fst).Nodup →
      record [] (.object entries) = (.ok (), predicates) →
        List.Forall₂ Means entries predicates) ∧
    ∀ values predicates, Records [] values predicates →
      (predicates.map Predicate.field).Nodup ∧
      List.Forall₂ Means (lastMentions (values.flatMap Json.entries)) predicates ∧
      toSql predicates = " AND ".intercalate ((restricting predicates).map Predicate.toSql) ∧
      (toSql predicates = "" ↔ ∀ predicate ∈ predicates, predicate.operands = []) := by
  refine ⟨record_eq_ok_iff, ?_, ?_⟩
  · intro entries predicates distinct recorded
    have tells := tells_start.record recorded
    rw [Tells, List.nil_append, Json.entries, lastMentions_of_nodup distinct] at tells
    exact tells
  · intro values predicates records
    have tells := tells_start.records records
    rw [List.nil_append] at tells
    exact ⟨tells.nodup, tells, congrArg _ (written_eq_map predicates),
      toSql_eq_empty_iff predicates⟩

/-- Entries with operands of all kinds. -/
def someEntries : List (String × Json) :=
  [("age", .object [("in", .array [.ofInt 1, .string "2", .bool true])]),
    ("name", .object [("equal", .string "o'brien")]),
    ("id", .object [("in", .array [])])]

/-- A second value that mentions a field again. -/
def laterEntries : List (String × Json) :=
  [("age", .object [("less_or_equal", .bool false)])]

theorem record_compiles_someEntries :
    List.Forall₂ Means someEntries
      [.contains "age" .oneOf ["1", "2", "1"], .compare "name" .equal "o'brien",
        .contains "id" .oneOf []] ∧
    ∃ predicates, Records [] [.object someEntries, .object laterEntries] predicates ∧
      List.Forall₂ Means (lastMentions (someEntries ++ laterEntries)) predicates ∧
      toSql predicates = " name = 'o''brien'  AND  age <= '0' " := by
  have distinct : (someEntries.map Prod.fst).Nodup := by decide
  obtain ⟨_, first, run⟩ := record_compiles_language
  refine ⟨first _ _ distinct rfl,
    [.compare "name" .equal "o'brien", .contains "id" .oneOf [],
      .compare "age" .lessOrEqual "0"], ?_⟩
  have records : Records [] [.object someEntries, .object laterEntries] _ :=
    .next rfl (.next rfl (.done _))
  obtain ⟨_, last, rendered, _⟩ := run _ _ records
  exact ⟨records, last, rendered.trans (by decide +kernel)⟩

end Filter

end NodeGraph
