import NodeGraph.Proofs.Sql.Histories
import NodeGraph.Proofs.Sql.Linking
import NodeGraph.Proofs.Sql.SelectLists

/-!
# Sending statements

A resolution sends one statement or none.  To see what is sent, the source of an adapter is made to
keep a record of the statements that it is asked; this changes neither answers nor states.  A
resolution that sends nothing ends at the first of three hurdles: the link, the statement and the
cancellation of the request.  One that has sent its statement ends with the answer of the source,
or once the request is found cancelled while the query waits.
-/

namespace NodeGraph

variable {World : Type}

/-- A request state beside a record of statements. -/
def RequestState.withRecord (state : RequestState World) (sent : List String) :
    RequestState (World × List String) :=
  { world := (state.world, sent), cancelled := state.cancelled }

theorem RequestState.withRecord_inj {first second : RequestState World}
    {sent others : List String} :
    first.withRecord sent = second.withRecord others ↔ first = second ∧ sent = others := by
  cases first
  cases second
  simp only [withRecord, RequestState.mk.injEq, Prod.mk.injEq]
  exact ⟨fun ⟨⟨world, record⟩, flag⟩ => ⟨⟨world, flag⟩, record⟩,
    fun ⟨⟨world, flag⟩, record⟩ => ⟨⟨world, record⟩, flag⟩⟩

namespace SourceQuery

/-- The end of a query: it is answered, or the request is found cancelled before it goes on. -/
inductive Settles :
    SourceQuery World → Option (Except SourceFault RowSet) → RequestState World → Prop
  | answered (answer : Except SourceFault RowSet) (after : RequestState World) :
      Settles (.answered answer after) (some answer) after
  | cancelled {found : RequestState World} (rest : SourceQuery World)
      (cancelled : found.cancelled = true) : Settles (.waiting found rest) none found
  | resumed {found after : RequestState World} {rest : SourceQuery World}
      {result : Option (Except SourceFault RowSet)} (running : found.cancelled = false)
      (later : Settles rest result after) : Settles (.waiting found rest) result after

theorem settles_await (query : SourceQuery World) : query.Settles query.await.1 query.await.2 := by
  induction query with
  | answered answer after => exact .answered answer after
  | waiting found rest ih =>
      rw [await]
      cases token : found.cancelled with
      | true => exact .cancelled rest token
      | false => exact .resumed token ih

theorem exists_settles (query : SourceQuery World) : ∃ result after, query.Settles result after :=
  ⟨_, _, query.settles_await⟩

theorem settles_iff {query : SourceQuery World} {result : Option (Except SourceFault RowSet)}
    {after : RequestState World} : query.Settles result after ↔ query.await = (result, after) := by
  constructor
  · intro settles
    induction settles with
    | answered answer after => rfl
    | cancelled rest cancelled => rw [await, if_pos cancelled]
    | resumed running later ih => rw [await, if_neg (by simp [running]), ih]
  · intro ended
    have settles := query.settles_await
    rwa [ended] at settles

/-- A query that is given up leaves a cancelled request. -/
theorem Settles.cancelled_of_none {query : SourceQuery World} {after : RequestState World}
    (settles : query.Settles none after) : after.cancelled = true := by
  generalize noAnswer : (none : Option (Except SourceFault RowSet)) = result at settles
  induction settles with
  | answered answer after => cases noAnswer
  | cancelled rest cancelled => exact cancelled
  | resumed running later ih => exact ih noAnswer

/-- The query with the states on its way carried over. -/
def map {Other : Type} (carry : RequestState World → RequestState Other) :
    SourceQuery World → SourceQuery Other
  | .answered answer after => .answered answer (carry after)
  | .waiting found rest => .waiting (carry found) (rest.map carry)

theorem await_map {Other : Type} {carry : RequestState World → RequestState Other}
    (sameToken : ∀ state, (carry state).cancelled = state.cancelled)
    (query : SourceQuery World) :
    (query.map carry).await = (query.await.1, carry query.await.2) := by
  induction query with
  | answered answer after => rfl
  | waiting found rest ih =>
      rw [map, await, await, sameToken]
      split
      · rfl
      · exact ih

end SourceQuery

namespace DataSource

variable {source : DataSource World} {statement : String} {state : RequestState World}

/-- A source is not asked for a request that is cancelled. -/
theorem await_query_of_cancelled (cancelled : state.cancelled = true) :
    (source.query statement state).await = (none, state) := by
  rw [query, SourceQuery.await, if_pos cancelled]

theorem await_query_of_running (running : state.cancelled = false) :
    (source.query statement state).await = (source statement state).await := by
  rw [query, SourceQuery.await, if_neg (by simp [running])]

/-- The source, which now records the statements that it is asked. -/
def recording (source : DataSource World) : DataSource (World × List String) :=
  fun statement state =>
    (source statement ⟨state.world.1, state.cancelled⟩).map fun after =>
      after.withRecord (state.world.2 ++ [statement])

end DataSource

namespace TableAdapter

/-- The adapter with its source recorded. -/
def recording (adapter : TableAdapter World) : TableAdapter (World × List String) where
  table := adapter.table
  columns := adapter.columns
  source := adapter.source.recording
  link := adapter.link

/-- The statement that the clauses of a resolution make. -/
def Renders (adapter : TableAdapter World) (params : ResolveParams) (statement : String) : Prop :=
  ∃ clauses, adapter.buildClauses params = .ok (some clauses) ∧ clauses.toSql = .ok statement

/-- The ways in which a resolution ends, with its answer, the statements that it sends and the
state that it leaves. -/
inductive Ends (adapter : TableAdapter World) (params : ResolveParams)
    (state : RequestState World) :
    Except GraphError (List Record) → List String → RequestState World → Prop
  | unlinkable {link : ParentLink} (linked : adapter.link = some link)
      (keyless : link.Unlinkable params.parent) : Ends adapter params state (.ok []) [] state
  | incomplete {clauses : SelectClauses} (built : adapter.buildClauses params = .ok (some clauses))
      (missing : clauses.columns = "" ∨ clauses.table = "") :
      Ends adapter params state (.error (.incompleteQuery .missingFragments)) [] state
  | cancelled {clauses : SelectClauses} {statement : String}
      (built : adapter.buildClauses params = .ok (some clauses))
      (rendered : clauses.toSql = .ok statement) (cancelled : state.cancelled = true) :
      Ends adapter params state (.error .cancelled) [] state
  | interrupted {clauses : SelectClauses} {statement : String} {after : RequestState World}
      (built : adapter.buildClauses params = .ok (some clauses))
      (rendered : clauses.toSql = .ok statement) (running : state.cancelled = false)
      (interrupted : (adapter.source statement state).Settles none after) :
      Ends adapter params state (.error .cancelled) [statement] after
  | failed {clauses : SelectClauses} {statement : String} {fault : SourceFault}
      {after : RequestState World} (built : adapter.buildClauses params = .ok (some clauses))
      (rendered : clauses.toSql = .ok statement) (running : state.cancelled = false)
      (failed : (adapter.source statement state).Settles (some (.error fault)) after) :
      Ends adapter params state (.error (.execution params.field fault)) [statement] after
  | answered {clauses : SelectClauses} {statement : String} {rows : RowSet}
      {records : List Record} {after : RequestState World}
      (built : adapter.buildClauses params = .ok (some clauses))
      (rendered : clauses.toSql = .ok statement) (running : state.cancelled = false)
      (answered : (adapter.source statement state).Settles (some (.ok rows)) after)
      (placed : List.Forall₂ (fun row record => RowSet.rowRecord rows.columns row = record)
        rows.rows records) :
      Ends adapter params state (.ok records) [statement] after

section Steps

variable {adapter : TableAdapter World} {params : ResolveParams} {state : RequestState World}
  {clauses : SelectClauses} {statement : String}

theorem resolve_of_unbuilt (unbuilt : adapter.buildClauses params = .ok none) :
    adapter.resolve params state = (.ok [], state) := by
  simp only [resolve, unbuilt]

theorem resolve_of_unrendered {fault : GraphError}
    (built : adapter.buildClauses params = .ok (some clauses))
    (unrendered : clauses.toSql = .error fault) :
    adapter.resolve params state = (.error fault, state) := by
  simp only [resolve, built, unrendered]

/-- What becomes of the end of a query. -/
def received (field : String) :
    Option (Except SourceFault RowSet) → Except GraphError (List Record)
  | none => .error .cancelled
  | some (.error fault) => .error (.execution field fault)
  | some (.ok rows) => .ok rows.toRecords

theorem resolve_of_rendered (built : adapter.buildClauses params = .ok (some clauses))
    (rendered : clauses.toSql = .ok statement) :
    adapter.resolve params state =
      (received params.field (adapter.source.query statement state).await.1,
        (adapter.source.query statement state).await.2) := by
  simp only [resolve, built, rendered]
  rcases (adapter.source.query statement state).await with ⟨none | fault | rows, after⟩ <;> rfl

theorem resolve_of_stopped (built : adapter.buildClauses params = .ok (some clauses))
    (rendered : clauses.toSql = .ok statement) (cancelled : state.cancelled = true) :
    adapter.resolve params state = (.error .cancelled, state) := by
  rw [resolve_of_rendered built rendered, DataSource.await_query_of_cancelled cancelled, received]

theorem resolve_of_sent (built : adapter.buildClauses params = .ok (some clauses))
    (rendered : clauses.toSql = .ok statement) (running : state.cancelled = false)
    {result : Option (Except SourceFault RowSet)} {after : RequestState World}
    (settles : (adapter.source statement state).Settles result after) :
    adapter.resolve params state = (received params.field result, after) := by
  rw [resolve_of_rendered built rendered, DataSource.await_query_of_running running,
    SourceQuery.settles_iff.mp settles]

end Steps

section Endings

variable {adapter : TableAdapter World} {params : ResolveParams} {state after : RequestState World}
  {answer : Except GraphError (List Record)} {sent : List String}

theorem forall₂_rowRecord_iff {rows : RowSet} {records : List Record} :
    List.Forall₂ (fun row record => RowSet.rowRecord rows.columns row = record)
        rows.rows records ↔ records = rows.toRecords := by
  rw [← List.forall₂_map_left_iff (f := RowSet.rowRecord rows.columns) (R := Eq),
    List.forall₂_eq_eq_eq, eq_comm]
  rfl

/-- Every resolution ends in one of these ways. -/
theorem exists_ends (adapter : TableAdapter World) (params : ResolveParams)
    (state : RequestState World) :
    ∃ answer sent after, adapter.Ends params state answer sent after := by
  rcases adapter.buildClauses_cases params with unbuilt | ⟨clauses, built⟩
  · obtain ⟨link, linked, keyless⟩ := buildClauses_eq_none_iff.mp unbuilt
    exact ⟨_, _, _, .unlinkable linked keyless⟩
  · by_cases missing : clauses.columns = "" ∨ clauses.table = ""
    · exact ⟨_, _, _, .incomplete built missing⟩
    · obtain ⟨columns, table⟩ := not_or.mp missing
      obtain ⟨statement, rendered⟩ : ∃ statement, clauses.toSql = .ok statement :=
        ⟨_, SelectClauses.toSql_eq_ok columns table⟩
      cases running : state.cancelled with
      | true => exact ⟨_, _, _, .cancelled built rendered running⟩
      | false =>
          obtain ⟨none | fault | rows, after, settles⟩ :=
            (adapter.source statement state).exists_settles
          · exact ⟨_, _, _, .interrupted built rendered running settles⟩
          · exact ⟨_, _, _, .failed built rendered running settles⟩
          · exact ⟨_, _, _, .answered built rendered running settles
              (forall₂_rowRecord_iff.mpr rfl)⟩

theorem Ends.resolve_eq (ends : adapter.Ends params state answer sent after) :
    adapter.resolve params state = (answer, after) := by
  cases ends with
  | unlinkable linked keyless =>
      exact resolve_of_unbuilt (buildClauses_eq_none_iff.mpr ⟨_, linked, keyless⟩)
  | incomplete built missing =>
      exact resolve_of_unrendered built (SelectClauses.toSql_eq_error_iff.mpr ⟨rfl, missing⟩)
  | cancelled built rendered cancelled => exact resolve_of_stopped built rendered cancelled
  | interrupted built rendered running interrupted =>
      exact resolve_of_sent built rendered running interrupted
  | failed built rendered running failed => exact resolve_of_sent built rendered running failed
  | answered built rendered running answered placed =>
      rw [resolve_of_sent built rendered running answered, forall₂_rowRecord_iff.mp placed]
      rfl

/-- A query of a recorded source settles as before, with the statement in the record. -/
theorem settles_recording {statement : String} {result : Option (Except SourceFault RowSet)}
    (settles : (adapter.source statement state).Settles result after) (before : List String) :
    (adapter.recording.source statement (state.withRecord before)).Settles result
      (after.withRecord (before ++ [statement])) := by
  have sameToken : ∀ state : RequestState World,
      (state.withRecord (before ++ [statement])).cancelled = state.cancelled := fun _ => rfl
  have mapped := SourceQuery.await_map sameToken (adapter.source statement state)
  rw [SourceQuery.settles_iff.mp settles] at mapped
  exact SourceQuery.settles_iff.mpr mapped

/-- A resolution whose source is recorded ends in the same way, with what was sent added to the
record. -/
theorem Ends.resolve_recording (ends : adapter.Ends params state answer sent after)
    (before : List String) :
    adapter.recording.resolve params (state.withRecord before) =
      (answer, after.withRecord (before ++ sent)) := by
  have sameClauses : adapter.recording.buildClauses params = adapter.buildClauses params := rfl
  cases ends with
  | unlinkable linked keyless =>
      have unbuilt := buildClauses_eq_none_iff.mpr ⟨_, linked, keyless⟩
      rw [resolve_of_unbuilt (sameClauses.trans unbuilt), List.append_nil]
  | incomplete built missing =>
      have unrendered := SelectClauses.toSql_eq_error_iff.mpr ⟨rfl, missing⟩
      rw [resolve_of_unrendered (sameClauses.trans built) unrendered, List.append_nil]
  | cancelled built rendered cancelled =>
      rw [resolve_of_stopped (sameClauses.trans built) rendered cancelled, List.append_nil]
  | interrupted built rendered running interrupted =>
      exact resolve_of_sent (sameClauses.trans built) rendered running
        (settles_recording interrupted before)
  | failed built rendered running failed =>
      exact resolve_of_sent (sameClauses.trans built) rendered running
        (settles_recording failed before)
  | answered built rendered running answered placed =>
      rw [resolve_of_sent (sameClauses.trans built) rendered running
        (settles_recording answered before), forall₂_rowRecord_iff.mp placed]
      rfl

theorem Ends.unique {otherAnswer : Except GraphError (List Record)} {otherSent : List String}
    {otherAfter : RequestState World} (ends : adapter.Ends params state answer sent after)
    (other : adapter.Ends params state otherAnswer otherSent otherAfter) :
    answer = otherAnswer ∧ sent = otherSent ∧ after = otherAfter := by
  have same := (ends.resolve_recording []).symm.trans (other.resolve_recording [])
  rw [Prod.mk.injEq, RequestState.withRecord_inj] at same
  exact ⟨same.1, same.2.2, same.2.1⟩

/-- What a recorded resolution shows decides in which way it ended. -/
theorem resolve_recording_eq_iff {before : List String} :
    adapter.recording.resolve params (state.withRecord before) =
        (answer, after.withRecord (before ++ sent)) ↔
      adapter.Ends params state answer sent after := by
  refine ⟨fun recorded => ?_, fun ends => ends.resolve_recording before⟩
  obtain ⟨_, _, _, ends⟩ := exists_ends adapter params state
  rw [ends.resolve_recording before, Prod.mk.injEq, RequestState.withRecord_inj] at recorded
  obtain ⟨rfl, rfl, records⟩ := recorded
  obtain rfl := List.append_cancel_left records
  exact ends

/-- The statement of the clauses is sent if there is one and the request goes on. -/
theorem Ends.sent_eq_singleton_iff (ends : adapter.Ends params state answer sent after)
    {statement : String} :
    sent = [statement] ↔ adapter.Renders params statement ∧ state.cancelled = false := by
  constructor
  · rintro rfl
    cases ends with
    | interrupted built rendered running _ => exact ⟨⟨_, built, rendered⟩, running⟩
    | failed built rendered running _ => exact ⟨⟨_, built, rendered⟩, running⟩
    | answered built rendered running _ _ => exact ⟨⟨_, built, rendered⟩, running⟩
  · rintro ⟨⟨clauses, built, rendered⟩, running⟩
    obtain ⟨none | fault | rows, reached, settles⟩ :=
      (adapter.source statement state).exists_settles
    · exact (ends.unique (.interrupted built rendered running settles)).2.1
    · exact (ends.unique (.failed built rendered running settles)).2.1
    · exact (ends.unique (.answered built rendered running settles
        (forall₂_rowRecord_iff.mpr rfl))).2.1

/-- Nothing else is sent. -/
theorem Ends.sent_eq_nil_iff (ends : adapter.Ends params state answer sent after) :
    sent = [] ↔ ¬ ∃ statement, adapter.Renders params statement ∧ state.cancelled = false := by
  simp only [← ends.sent_eq_singleton_iff]
  cases ends <;> simp

/-- A resolution that ends cancelled leaves a cancelled request, which was cancelled from the start
if nothing was sent. -/
theorem Ends.cancelled_of_cancelled
    (ends : adapter.Ends params state (.error .cancelled) sent after) :
    after.cancelled = true ∧ (sent = [] ↔ state.cancelled = true) := by
  cases ends with
  | cancelled _ _ cancelled => simp [cancelled]
  | interrupted _ _ running interrupted => simp [running, interrupted.cancelled_of_none]

/-- A resolution that sends nothing leaves everything as it was. -/
theorem Ends.after_eq (ends : adapter.Ends params state answer [] after) : after = state := by
  cases ends <;> rfl

/-- A resolution that sends nothing does so whatever its source. -/
theorem Ends.withSource (ends : adapter.Ends params state answer [] after)
    (source : DataSource World) :
    ({ adapter with source } : TableAdapter World).Ends params state answer [] after := by
  cases ends with
  | unlinkable linked keyless => exact .unlinkable linked keyless
  | incomplete built missing => exact .incomplete built missing
  | cancelled built rendered cancelled => exact .cancelled built rendered cancelled

/-- Without arguments that write anew what is selected, a statement is incomplete if the adapter
has no column or no name of a table, or if it selects nothing but a column without any name. -/
theorem missing_iff {clauses : SelectClauses}
    (kept : ∀ argument ∈ params.arguments, argument.KeepsTarget)
    (built : adapter.buildClauses params = .ok (some clauses)) :
    (clauses.columns = "" ∨ clauses.table = "") ↔
      (adapter.columns = [] ∨ ∃ column,
        selectedColumns adapter.columns params.selection = [column] ∧
          column.name = "" ∧ column.label = "") ∨ adapter.table = "" := by
  obtain ⟨columns, table⟩ := buildClauses_target kept built
  rw [columns, table, selectTexts_eq_empty_iff, selectedColumns_eq_nil_iff]

/-- A resolution ends in exactly one of the ways above, and it ends so whether its source is
recorded or not.  The record grows by the statement of the clauses if these can be rendered and the
request was not cancelled, and by nothing otherwise.  A request that is found cancelled ends the
resolution, before its statement is sent or while the query waits.  Only a lack of columns or of a
table keeps clauses from being rendered. -/
theorem resolve_sends_at_most_once (adapter : TableAdapter World) (params : ResolveParams)
    (state : RequestState World) (before : List String) :
    (∃ answer sent after, adapter.Ends params state answer sent after) ∧
    (∀ answer sent after, adapter.Ends params state answer sent after →
      adapter.resolve params state = (answer, after)) ∧
    (∀ answer sent after,
      adapter.recording.resolve params (state.withRecord before) =
          (answer, after.withRecord (before ++ sent)) ↔
        adapter.Ends params state answer sent after) ∧
    (∀ statement,
      (adapter.recording.resolve params (state.withRecord before)).2.world.2 =
          before ++ [statement] ↔
        adapter.Renders params statement ∧ state.cancelled = false) ∧
    ((adapter.recording.resolve params (state.withRecord before)).2.world.2 = before ↔
      ¬ ∃ statement, adapter.Renders params statement ∧ state.cancelled = false) ∧
    (∀ sent after, adapter.Ends params state (.error .cancelled) sent after →
      after.cancelled = true ∧ (sent = [] ↔ state.cancelled = true)) ∧
    ∀ clauses, (∀ argument ∈ params.arguments, argument.KeepsTarget) →
      adapter.buildClauses params = .ok (some clauses) →
        ((clauses.columns = "" ∨ clauses.table = "") ↔
          (adapter.columns = [] ∨ ∃ column,
            selectedColumns adapter.columns params.selection = [column] ∧
              column.name = "" ∧ column.label = "") ∨ adapter.table = "") := by
  obtain ⟨answer, sent, after, ends⟩ := exists_ends adapter params state
  have record : (adapter.recording.resolve params (state.withRecord before)).2.world.2 =
      before ++ sent := by
    rw [ends.resolve_recording before]
    rfl
  refine ⟨⟨answer, sent, after, ends⟩, fun _ _ _ => Ends.resolve_eq,
    fun _ _ _ => resolve_recording_eq_iff, ?_, ?_, fun _ _ => Ends.cancelled_of_cancelled,
    fun _ => missing_iff⟩
  · intro statement
    rw [record, List.append_cancel_left_eq, ends.sent_eq_singleton_iff]
  · rw [record, List.append_right_eq_self, ends.sent_eq_nil_iff]

end Endings

end TableAdapter

namespace Courses

/-- Courses of a teacher, from a source that waits and fails when it is asked for the first time,
answers at once when it is asked again, and finds the request cancelled from then on. -/
def adapter : TableAdapter Nat where
  table := "course"
  columns := [{ name := "id" }]
  source := fun _ state =>
    let asked := { state with world := state.world + 1 }
    match state.world with
    | 0 => .waiting asked (.answered (.error (.stated "connection reset")) asked)
    | 1 => .answered (.ok ⟨["id"], [[.integer 7], []]⟩) asked
    | _ => .waiting asked (.waiting { asked with cancelled := true } (.answered (.ok {}) asked))
  link := some ⟨"teacher_id", "id"⟩

/-- The courses of a teacher whose key is a value. -/
def ofTeacher (key : Json) : ResolveParams where
  field := "courses"
  parent := some [("id", key)]

def statement : String := "SELECT id FROM course WHERE  teacher_id = '3' "

/-- A state in which the source has been asked some number of times, with an earlier record. -/
def recorded (asked : Nat) (cancelled : Bool) (sent : List String) :
    RequestState (Nat × List String) :=
  RequestState.withRecord ⟨asked, cancelled⟩ ("earlier" :: sent)

theorem courses_sent_at_most_once :
    (∃ clauses, adapter.buildClauses (ofTeacher (.string "3")) = .ok (some clauses) ∧
      ¬ (clauses.columns = "" ∨ clauses.table = "")) ∧
    adapter.recording.resolve (ofTeacher (.string "3")) (recorded 0 false []) =
      (.error (.execution "courses" (.stated "connection reset")),
        recorded 1 false [statement]) ∧
    adapter.recording.resolve (ofTeacher (.string "3")) (recorded 1 false []) =
      (.ok [[("id", .ofInt 7)], [("id", .null)]], recorded 2 false [statement]) ∧
    adapter.recording.resolve (ofTeacher (.string "3")) (recorded 2 false []) =
      (.error .cancelled, recorded 3 true [statement]) ∧
    adapter.recording.resolve (ofTeacher (.string "3")) (recorded 1 true []) =
      (.error .cancelled, recorded 1 true []) ∧
    adapter.recording.resolve (ofTeacher .null) (recorded 1 true []) =
      (.ok [], recorded 1 true []) := by
  have built : adapter.buildClauses (ofTeacher (.string "3")) = .ok (some _) := rfl
  have rendered : adapter.Renders (ofTeacher (.string "3")) statement := ⟨_, built, by decide⟩
  obtain ⟨clauses, alsoBuilt, text⟩ := rendered
  have ends := fun key state => (adapter.resolve_sends_at_most_once (ofTeacher key) state
    ["earlier"]).2.2.1
  have complete := (adapter.resolve_sends_at_most_once (ofTeacher (.string "3")) ⟨0, false⟩
    ["earlier"]).2.2.2.2.2.2 _ (List.forall_mem_nil _) alsoBuilt
  refine ⟨⟨clauses, alsoBuilt, ?_⟩, ?_, ?_, ?_, ?_, ?_⟩
  · rw [complete]
    rintro ((none | ⟨column, selected, unnamed, _⟩) | unnamed)
    · cases none
    · have same : [{ name := "id" }] = [column] := selected
      obtain rfl := List.singleton_inj.mp same
      exact absurd unnamed (by decide)
    · exact absurd unnamed (by decide)
  · exact (ends _ _ _ _ _).mpr (.failed alsoBuilt text rfl (.resumed rfl (.answered _ _)))
  · exact (ends _ _ _ _ _).mpr (.answered alsoBuilt text rfl (.answered _ _)
      (.cons rfl (.cons rfl .nil)))
  · exact (ends _ _ _ _ _).mpr (.interrupted alsoBuilt text rfl (.resumed rfl (.cancelled _ rfl)))
  · exact (ends _ _ _ _ _).mpr (.cancelled alsoBuilt text rfl)
  · exact (ends _ _ _ _ _).mpr (.unlinkable rfl (.null rfl))

end Courses

end NodeGraph
