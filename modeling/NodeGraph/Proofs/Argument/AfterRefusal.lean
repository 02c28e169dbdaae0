import NodeGraph.Proofs.Argument.Combination
import NodeGraph.Proofs.Argument.SortOrders

/-!
# What a refused value leaves

Limits and sort orders are as they were when they have refused a value.  A filter has recorded the
entries before the first faulty one, each of which has replaced the predicate of its field, so it
is as it was only if its last predicates are those that these entries mean.
-/

namespace NodeGraph

namespace Filter

/-- The predicates over all but some fields. -/
def besides (fields : List String) (predicates : List Predicate) : List Predicate :=
  predicates.filter fun predicate => predicate.field ∉ fields

theorem besides_put (fields : List String) (before : List Predicate) (predicate : Predicate) :
    besides fields (put before predicate) =
      besides (predicate.field :: fields) before ++ besides fields [predicate] := by
  rw [besides, put, List.filter_append, List.filter_filter]
  congr 1
  refine List.filter_congr fun other _ => ?_
  rw [Bool.eq_iff_iff]
  simp [and_comm]

/-- Recorded entries replace the predicates of their fields by what they mean. -/
theorem exists_of_recordEntries {before after : List Predicate}
    {entries : List (String × Json)} (recorded : recordEntries before entries = (.ok (), after)) :
    ∃ accepted, List.Forall₂ Means (lastMentions entries) accepted ∧
      after = besides (entries.map Prod.fst) before ++ accepted := by
  induction entries generalizing before with
  | nil =>
      obtain rfl : before = after := congrArg Prod.snd recorded
      exact ⟨[], .nil, by simp [besides]⟩
  | cons entry rest ih =>
      obtain ⟨field, raw⟩ := entry
      rw [recordEntries] at recorded
      split at recorded
      · cases recorded
      · rename_i predicate read
        have means := readEntry_eq_ok_iff.mp read
        obtain rfl : field = predicate.field := means.field_eq
        obtain ⟨accepted, placed, rfl⟩ := ih recorded
        -- A later entry over the same field drops the predicate, as it drops the mention.
        refine ⟨besides (rest.map Prod.fst) [predicate] ++ accepted, ?_, ?_⟩
        · rw [lastMentions]
          split
          · rename_i again
            rwa [besides, List.filter_cons_of_neg (by simpa using again)]
          · rename_i last
            rw [besides, List.filter_cons_of_pos (by simpa using last)]
            exact .cons means placed
        · rw [besides_put, List.map_cons, List.append_assoc]

/-- What entries mean leaves distinct predicates as they are if these end with it already. -/
theorem besides_append_eq_iff {before accepted : List Predicate} {entries : List (String × Json)}
    (distinct : (before.map Predicate.field).Nodup)
    (placed : List.Forall₂ Means (lastMentions entries) accepted) :
    besides (entries.map Prod.fst) before ++ accepted = before ↔ accepted <:+ before := by
  constructor
  · intro same
    exact ⟨_, same⟩
  · rintro ⟨others, rfl⟩
    have mentioned : ∀ field, field ∈ accepted.map Predicate.field ↔ field ∈ entries.map Prod.fst :=
      fun _ => mem_keys_of_lastMentions placed fun _ _ means => means.field_eq
    rw [List.map_append, List.nodup_append] at distinct
    obtain ⟨_, _, apart⟩ := distinct
    have kept : besides (entries.map Prod.fst) others = others := by
      rw [besides, List.filter_eq_self]
      intro predicate member
      rw [decide_eq_true_iff, ← mentioned]
      intro again
      exact apart _ (List.mem_map_of_mem member) _ again rfl
    have dropped : besides (entries.map Prod.fst) accepted = [] := by
      rw [besides, List.filter_eq_nil_iff]
      intro predicate member
      rw [decide_eq_true_iff, not_not, ← mentioned]
      exact List.mem_map_of_mem member
    rw [besides, List.filter_append, ← besides, ← besides, kept, dropped, List.append_nil]

/-- A refused list of entries is recorded up to the first one that holds no operation. -/
theorem exists_front_of_refused {before : List Predicate} {entries : List (String × Json)}
    {fault : GraphError} (refused : (recordEntries before entries).1 = .error fault) :
    ∃ front entry back, entries = front ++ entry :: back ∧
      (∀ earlier ∈ front, earlier.2.IsOperation) ∧ ¬ entry.2.IsOperation ∧
      recordEntries before front = (.ok (), (recordEntries before entries).2) := by
  induction entries generalizing before with
  | nil => cases refused
  | cons entry rest ih =>
      obtain ⟨field, raw⟩ := entry
      cases read : readEntry field raw with
      | error failed =>
          refine ⟨[], (field, raw), rest, rfl, fun _ member => absurd member List.not_mem_nil, ?_,
            ?_⟩
          · intro operation
            obtain ⟨predicate, means⟩ := exists_means_of_isOperation field operation
            rw [readEntry_eq_ok_iff.mpr means] at read
            cases read
          · simp only [recordEntries, read]
      | ok predicate =>
          simp only [recordEntries, read] at refused ⊢
          obtain ⟨front, faulty, back, rfl, operations, notOperation, recorded⟩ := ih refused
          refine ⟨(field, raw) :: front, faulty, back, rfl, ?_, notOperation, ?_⟩
          · rw [List.forall_mem_cons]
            exact ⟨(readEntry_eq_ok_iff.mp read).isOperation, operations⟩
          · simp only [recordEntries, read, recorded]

theorem record_of_shapeless {value : Json} (shapeless : ∀ entries, value ≠ .object entries)
    (predicates : List Predicate) : (record predicates value).2 = predicates := by
  cases value with
  | object entries => exact absurd rfl (shapeless entries)
  | _ => rfl

theorem nodup_put {predicates : List Predicate} (distinct : (predicates.map Predicate.field).Nodup)
    (predicate : Predicate) : ((put predicates predicate).map Predicate.field).Nodup := by
  rw [put, List.map_append, List.map_singleton, List.nodup_append]
  refine ⟨(List.filter_sublist.map _).nodup distinct, List.nodup_singleton _, ?_⟩
  rintro field member _ same rfl
  rw [List.mem_singleton] at same
  obtain ⟨other, kept, rfl⟩ := List.mem_map.mp member
  exact absurd same (by simpa using (List.mem_filter.mp kept).2)

theorem nodup_recordEntries {predicates : List Predicate}
    (distinct : (predicates.map Predicate.field).Nodup) (entries : List (String × Json)) :
    ((recordEntries predicates entries).2.map Predicate.field).Nodup := by
  induction entries generalizing predicates with
  | nil => exact distinct
  | cons entry rest ih =>
      obtain ⟨field, raw⟩ := entry
      rw [recordEntries]
      split
      · exact distinct
      · exact ih (nodup_put distinct _)

theorem nodup_record {predicates : List Predicate}
    (distinct : (predicates.map Predicate.field).Nodup) (value : Json) :
    ((record predicates value).2.map Predicate.field).Nodup := by
  unfold record
  split
  · exact nodup_recordEntries distinct _
  · exact distinct

end Filter

theorem Limit.record_of_refused {window : Limit} {value : Json} {fault : GraphError}
    (refused : (window.record value).1 = .error fault) : (window.record value).2 = window := by
  unfold Limit.record at refused ⊢
  split at refused
  · cases refused
  · rfl

namespace Argument

/-- An argument after values that it is sent one after another, whatever it answers. -/
def receive (argument : Argument) (values : List Json) : Argument :=
  values.foldl (fun argument value => (argument.record value).2) argument

theorem kind_receive (argument : Argument) (values : List Json) :
    (argument.receive values).kind = argument.kind := by
  induction values generalizing argument with
  | nil => rfl
  | cons value later ih => exact (ih _).trans (kind_record argument value)

/-- A filter has at most one predicate for each field. -/
def HasDistinctFields : Argument → Prop
  | .filter predicates => (predicates.map Predicate.field).Nodup
  | _ => True

theorem hasDistinctFields_fresh (kind : ArgumentKind) : kind.fresh.HasDistinctFields := by
  cases kind with
  | filter => exact .nil
  | limit => trivial
  | orderBy => trivial
  | custom kind => trivial

theorem HasDistinctFields.record {argument : Argument} (distinct : argument.HasDistinctFields)
    (value : Json) : (argument.record value).2.HasDistinctFields := by
  cases argument with
  | filter predicates => exact Filter.nodup_record distinct value
  | limit window => trivial
  | orderBy sorts => trivial
  | custom kind notes => trivial

theorem HasDistinctFields.receive {argument : Argument} (distinct : argument.HasDistinctFields)
    (values : List Json) : (argument.receive values).HasDistinctFields := by
  induction values generalizing argument with
  | nil => exact distinct
  | cons value later ih => exact ih (distinct.record value)

/-- A limit or a sort order that refuses a value is as it was before, after any values.  So is a
filter that refuses something that is no object.  A filter that refuses an object has recorded the
entries before the first one that holds no operation: they have replaced the predicates of their
fields, which leaves the filter as it was only if its last predicates said the same. -/
theorem refused_value_leaves_front {kind : ArgumentKind} {values : List Json}
    {argument : Argument} (reached : kind.fresh.receive values = argument) {value : Json}
    {fault : GraphError} (refused : (argument.record value).1 = .error fault) :
    (kind = .limit ∨ kind = .orderBy → (argument.record value).2 = argument) ∧
    (kind = .filter → ∃ predicates, argument = .filter predicates ∧
      ((∀ entries, value ≠ .object entries) → (argument.record value).2 = argument) ∧
      ∀ entries, value = .object entries →
        ∃ front entry back accepted, entries = front ++ entry :: back ∧
          (∀ earlier ∈ front, earlier.2.IsOperation) ∧ ¬ entry.2.IsOperation ∧
          List.Forall₂ Filter.Means (Filter.lastMentions front) accepted ∧
          (argument.record value).2 =
            .filter (Filter.besides (front.map Prod.fst) predicates ++ accepted) ∧
          ((argument.record value).2 = argument ↔ accepted <:+ predicates)) := by
  have ofKind : argument.kind = kind := by
    rw [← reached, kind_receive, kind_fresh]
  have distinct : argument.HasDistinctFields := by
    rw [← reached]
    exact (hasDistinctFields_fresh kind).receive values
  cases argument with
  | custom custom notes =>
      subst ofKind
      exact ⟨fun either => either.elim nofun nofun, nofun⟩
  | limit window =>
      subst ofKind
      exact ⟨fun _ => congrArg Argument.limit (Limit.record_of_refused refused), nofun⟩
  | orderBy sorts =>
      subst ofKind
      exact ⟨fun _ => congrArg Argument.orderBy (OrderBy.record_of_refused refused), nofun⟩
  | filter predicates =>
      subst ofKind
      refine ⟨fun either => either.elim nofun nofun, fun _ => ⟨predicates, rfl, ?_, ?_⟩⟩
      · intro shapeless
        exact congrArg Argument.filter (Filter.record_of_shapeless shapeless predicates)
      · rintro entries rfl
        obtain ⟨front, entry, back, split, operations, faulty, recorded⟩ :=
          Filter.exists_front_of_refused refused
        obtain ⟨accepted, placed, left⟩ := Filter.exists_of_recordEntries recorded
        have after : ((Argument.filter predicates).record (.object entries)).2 =
            .filter (Filter.besides (front.map Prod.fst) predicates ++ accepted) :=
          congrArg Argument.filter left
        refine ⟨front, entry, back, accepted, split, operations, faulty, placed, after, ?_⟩
        rw [after, Argument.filter.injEq]
        exact Filter.besides_append_eq_iff distinct placed

/-- A filter that lets adults pass. -/
def adults : Json :=
  .object [("age", .object [("greater_than", .string "17")])]

/-- A filter whose second entry holds no operation. -/
def youthsNamed : Json :=
  .object [("age", .object [("less_than", .string "18")]), ("name", .string "bob")]

/-- The filter that has accepted only the adults lets the others pass after it has refused a
value. -/
theorem refused_filter_is_touched :
    (¬ ∀ (kind : ArgumentKind) (values : List Json) (value : Json) (fault : GraphError),
      kind.fresh.IsBuiltIn →
      ((kind.fresh.receive values).record value).1 = .error fault →
      ((kind.fresh.receive values).record value).2 = kind.fresh.receive values) ∧
    (ArgumentKind.filter.fresh.receive [adults]).toSql = " age > '17' " ∧
    (ArgumentKind.filter.fresh.receive [adults, youthsNamed]).toSql = " age < '18' " := by
  refine ⟨fun untouched => ?_, by decide +kernel, by decide +kernel⟩
  have same := untouched .filter [adults] youthsNamed _ trivial rfl
  cases same

theorem adults_replaced_by_refused :
    ((ArgumentKind.filter.fresh.receive [adults]).record youthsNamed).1 =
      .error (.invalidArgument filterName (.entryNotObject "name")) ∧
    ∃ (predicates : List Predicate) (front : List (String × Json)) (accepted : List Predicate),
      ArgumentKind.filter.fresh.receive [adults] = .filter predicates ∧
      ((ArgumentKind.filter.fresh.receive [adults]).record youthsNamed).2 =
        .filter (Filter.besides (front.map Prod.fst) predicates ++ accepted) ∧
      ¬ accepted <:+ predicates := by
  have reached : ArgumentKind.filter.fresh.receive [adults] =
      .filter [.compare "age" .greaterThan "17"] := rfl
  have refused : (Argument.record (.filter [.compare "age" .greaterThan "17"]) youthsNamed).1 =
      .error (.invalidArgument filterName (.entryNotObject "name")) := rfl
  refine ⟨refused, ?_⟩
  obtain ⟨_, filters⟩ := refused_value_leaves_front reached refused
  obtain ⟨predicates, reached, _, fronts⟩ := filters rfl
  obtain ⟨front, _, _, accepted, _, _, _, _, after, same⟩ := fronts _ rfl
  refine ⟨predicates, front, accepted, reached, after, fun ends => ?_⟩
  cases same.mpr ends

end Argument

end NodeGraph
