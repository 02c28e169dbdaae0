import NodeGraph.Proofs.Sql.Binding

/-!
# Links to the parent record

A linked adapter has no clauses exactly if its parent has no key to link to, and then it
sends nothing.  Otherwise its condition ends with the link, conjoined to whatever filter a
client sent, and nothing else differs from the clauses without the link.
-/

namespace NodeGraph

variable {World : Type}

/-- A value of a record that can be linked to, with its text. -/
inductive KeyText : Json → String → Prop
  | string (text : String) : KeyText (.string text) text
  | yes : KeyText (.bool true) "1"
  | no : KeyText (.bool false) "0"
  | number (value : JsonNumber) : KeyText (.number value) value.text

namespace ParentLink

/-- Parents that cannot be linked to. -/
inductive Unlinkable (link : ParentLink) : Option Record → Prop
  | noParent : Unlinkable link none
  | lacksKey {record : Record} (missing : JsonObject.find? record link.parentKey = none) :
      Unlinkable link (some record)
  | null {record : Record} (held : JsonObject.find? record link.parentKey = some .null) :
      Unlinkable link (some record)
  | list {record : Record} {items : List Json}
      (held : JsonObject.find? record link.parentKey = some (.array items)) :
      Unlinkable link (some record)
  | object {record : Record} {fields : List (String × Json)}
      (held : JsonObject.find? record link.parentKey = some (.object fields)) :
      Unlinkable link (some record)

/-- The text of a link in a statement. -/
def predicateText (link : ParentLink) (text : String) : String :=
  " " ++ link.column ++ " = " ++ Sql.literal text ++ " "

/-- Comparing with a key is an operation that a filter accepts, too. -/
theorem exists_operand (column : String) {value : Json} {text : String}
    (key : KeyText value text) :
    ∃ operand, TableAdapter.linkOperand? value = some operand ∧
      Predicate.ofOperand Operator.equal.tag column operand =
        .ok (.compare column .equal text) := by
  cases key <;> exact ⟨_, rfl, rfl⟩

end ParentLink

namespace TableAdapter

theorem linkText?_eq_some_iff {value : Json} {text : String} :
    linkText? value = some text ↔ KeyText value text := by
  constructor
  · intro linked
    cases value with
    | string text =>
        cases linked
        exact .string text
    | bool value =>
        cases linked
        cases value
        · exact .no
        · exact .yes
    | number value =>
        cases linked
        exact .number value
    | _ => cases linked
  · rintro (_ | _ | _ | _) <;> rfl

theorem linkPredicate?_eq_none_iff {link : ParentLink} {parent : Option Record} :
    linkPredicate? link parent = none ↔ link.Unlinkable parent := by
  rw [linkPredicate?_eq, Option.map_eq_none_iff]
  constructor
  · intro unlinked
    cases parent with
    | none => exact .noParent
    | some record =>
        cases held : JsonObject.find? record link.parentKey with
        | none => exact .lacksKey held
        | some value =>
            rw [Option.bind_some, held, Option.bind_some] at unlinked
            cases value with
            | null => exact .null held
            | array items => exact .list held
            | object fields => exact .object held
            | _ => cases unlinked
  · rintro (_ | missing | held | held | held)
    · rfl
    · rw [Option.bind_some, missing, Option.bind_none]
    all_goals
      rw [Option.bind_some, held]
      rfl

/-- There are no clauses exactly if the adapter is linked and its parent has no key. -/
theorem buildClauses_eq_none_iff {adapter : TableAdapter World} {params : ResolveParams} :
    adapter.buildClauses params = .ok none ↔
      ∃ link ∈ adapter.link, link.Unlinkable params.parent := by
  cases linked : adapter.link with
  | none => simp [buildClauses_of_unlinked params linked]
  | some link => simp [buildClauses_of_linked params linked, linkPredicate?_eq_none_iff]

theorem key_of_linkPredicate? {link : ParentLink} {parent : Option Record}
    {predicate : Predicate} (stated : linkPredicate? link parent = some predicate) :
    ∃ record value text, parent = some record ∧
      JsonObject.find? record link.parentKey = some value ∧ KeyText value text ∧
        predicate = .compare link.column .equal text := by
  simp only [linkPredicate?_eq, Option.map_eq_some_iff, Option.bind_eq_some_iff] at stated
  obtain ⟨text, ⟨record, rfl, value, held, linked⟩, rfl⟩ := stated
  exact ⟨record, value, text, rfl, held, linkText?_eq_some_iff.mp linked, rfl⟩

/-- A link stands at the end of the condition, after the filter if that renders anything. -/
theorem conjoin_link (link : ParentLink) (text : String) (predicates : List Predicate) :
    SelectClauses.conjoin (Filter.toSql predicates)
        (Predicate.compare link.column .equal text).toSql =
      if Filter.toSql predicates = "" then link.predicateText text
      else Filter.toSql predicates ++ " AND " ++ link.predicateText text := by
  have rendered : (Predicate.compare link.column .equal text).toSql =
      link.predicateText text := by
    simp only [Predicate.toSql, ParentLink.predicateText, Operator.symbol,
      String.append_assoc]
    rfl
  have written := Filter.not_isBlankText_compare link.column .equal text
  rw [SelectClauses.conjoin, if_neg written, rendered]
  simp only [Filter.isBlankText_toSql_iff_empty]

/-- No argument of a client can loosen a link.  Without a key to link to there are no clauses
and nothing is sent, whatever the source; otherwise the link is conjoined to the filter, its
operand is one that is never refused, and every other fragment is that of the adapter without
the link. -/
theorem link_restricts (adapter : TableAdapter World) (params : ResolveParams)
    {link : ParentLink} (linked : adapter.link = some link)
    (builtIn : ∀ argument ∈ params.arguments, argument.IsBuiltIn) :
    (adapter.buildClauses params = .ok none ↔ link.Unlinkable params.parent) ∧
    (link.Unlinkable params.parent → ∀ (source : DataSource World) (state : RequestState World),
      ({ adapter with source }).resolve params state = (.ok [], state)) ∧
    (¬ link.Unlinkable params.parent → ∃ record value operand text base,
      params.parent = some record ∧
      JsonObject.find? record link.parentKey = some value ∧ KeyText value text ∧
      linkOperand? value = some operand ∧
      Predicate.ofOperand Operator.equal.tag link.column operand =
        .ok (.compare link.column .equal text) ∧
      ({ adapter with link := none }).buildClauses params = .ok (some base) ∧
      base.condition = Filter.toSql params.arguments.lastPredicates ∧
      adapter.buildClauses params = .ok (some
        { base with
          condition := if base.condition = "" then link.predicateText text
            else base.condition ++ " AND " ++ link.predicateText text })) := by
  have built := buildClauses_of_linked params linked
  have noneIff : adapter.buildClauses params = .ok none ↔ link.Unlinkable params.parent := by
    rw [built, Except.ok.injEq, Option.map_eq_none_iff, linkPredicate?_eq_none_iff]
  refine ⟨noneIff, ?_, ?_⟩
  · intro unlinkable source state
    have unbuilt : ({ adapter with source } : TableAdapter World).buildClauses params =
        .ok none := noneIff.mpr unlinkable
    simp only [resolve, unbuilt]
  · intro linkable
    cases stated : linkPredicate? link params.parent with
    | none => exact absurd (linkPredicate?_eq_none_iff.mp stated) linkable
    | some predicate =>
        obtain ⟨record, value, text, parent, held, key, rfl⟩ := key_of_linkPredicate? stated
        have condition : (adapter.unlinkedClauses params).condition =
            Filter.toSql params.arguments.lastPredicates := by
          rw [adapter.unlinkedClauses_eq builtIn]
        obtain ⟨operand, linkedBy, compared⟩ := ParentLink.exists_operand link.column key
        refine ⟨record, value, operand, text, adapter.unlinkedClauses params, parent, held, key,
          linkedBy, compared, rfl, condition, ?_⟩
        rw [built, stated, Option.map_some, SelectClauses.apply, condition, conjoin_link]

/-- The link stays in force beside a filter that tries to end it. -/
theorem hostile_link_restricts :
    notes.link = some ⟨"owner_id", "key"⟩ ∧
      (∀ argument ∈ hostile.arguments, argument.IsBuiltIn) ∧
      ∃ clauses, notes.buildClauses hostile = .ok (some clauses) ∧
        clauses.condition =
          Filter.toSql hostile.arguments.lastPredicates ++ " AND " ++
            " owner_id = 'x''' " ∧
        clauses.ordering = "id DESC" ∧ clauses.limit = "0,10" := by
  have linked : notes.link = some ⟨"owner_id", "key"⟩ := rfl
  have builtIn : ∀ argument ∈ hostile.arguments, argument.IsBuiltIn := by decide
  obtain ⟨-, -, restricts⟩ := notes.link_restricts hostile linked builtIn
  have linkable : ¬ ParentLink.Unlinkable ⟨"owner_id", "key"⟩ hostile.parent := by
    rw [← linkPredicate?_eq_none_iff]
    decide
  obtain ⟨record, value, operand, text, base, parent, held, key, -, -, unlinked, condition,
    built⟩ := restricts linkable
  obtain rfl : [("key", Json.string "x'")] = record := Option.some.inj parent
  obtain rfl : Json.string "x'" = value := Option.some.inj held
  obtain rfl : text = "x'" := by
    cases key
    rfl
  obtain rfl : _ = base := Option.some.inj (Except.ok.inj unlinked)
  exact ⟨linked, builtIn, _, built, by rw [condition]; rfl, rfl, rfl⟩

end TableAdapter

end NodeGraph
