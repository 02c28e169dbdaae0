import NodeGraph.Proofs.Execution.Documents

/-!
# The operation of a request

A document is refused for the first of its definitions that is no query, wherever it stands and
whichever operation is wanted.  A document of queries gives the first query with the wanted name,
or its only one.  A request without an operation calls no resolver.
-/

namespace NodeGraph

namespace Definition

/-- The definitions that no document may have, with the reason. -/
inductive Unsupported : Definition → QueryFault → Prop
  | fragment (name typeCondition : String) (selections : List Selection) :
      Unsupported (.fragment name typeCondition selections) (.fragmentDefinition name)
  | mutation (name : Option String) (declared : List VariableDefinition)
      (selections : List Selection) :
      Unsupported (.operation .mutation name declared selections) .mutation
  | subscription (name : Option String) (declared : List VariableDefinition)
      (selections : List Selection) :
      Unsupported (.operation .subscription name declared selections) .subscription

/-- The queries that a request can run.  A selection set by itself has no name and declares no
variables. -/
inductive Runs : Definition → QueryOperation → Prop
  | query (name : Option String) (declared : List VariableDefinition)
      (selections : List Selection) :
      Runs (.operation .query name declared selections) ⟨name, declared, selections⟩
  | selectionSet (selections : List Selection) :
      Runs (.selectionSet selections) ⟨none, [], selections⟩

end Definition

namespace QueryDocument

/-- A document of queries. -/
def Supported (document : QueryDocument) : Prop :=
  ∀ definition ∈ document, ∀ reason, ¬ definition.Unsupported reason

/-- A definition of a document is a query with a name. -/
def Names (document : QueryDocument) (name : String) : Prop :=
  ∃ definition ∈ document, ∃ operation, definition.Runs operation ∧ operation.name = some name

/-- The first definition that is no query decides why a document is refused. -/
def Refused (document : QueryDocument) (reason : QueryFault) : Prop :=
  ∃ front definition back, document = front ++ definition :: back ∧
    Supported front ∧ definition.Unsupported reason

/-- The query that is selected: the first one with the wanted name, or the only one. -/
inductive Selects (document : QueryDocument) : Option String → QueryOperation → Prop
  | named {front back : QueryDocument} {definition : Definition} {operation : QueryOperation}
      {name : String} (split : document = front ++ definition :: back)
      (runs : definition.Runs operation) (named : operation.name = some name)
      (first : ¬ Names front name) : Selects document (some name) operation
  | only {definition : Definition} {operation : QueryOperation} (only : document = [definition])
      (runs : definition.Runs operation) : Selects document none operation

/-- Why a document of queries does not give an operation. -/
inductive Misses (document : QueryDocument) : Option String → QueryFault → Prop
  | unknown {name : String} (unknown : ¬ Names document name) :
      Misses document (some name) (.unknownOperation name)
  | empty (empty : document = []) : Misses document none .noOperation
  | several (several : 2 ≤ document.length) : Misses document none .operationNameNeeded

section Definitions

variable {definition : Definition} {operation : QueryOperation} {fault : GraphError}

theorem queryOf_eq_ok_iff : queryOf definition = .ok operation ↔ definition.Runs operation := by
  constructor
  · intro gives
    cases definition with
    | selectionSet selections =>
        cases gives
        exact .selectionSet selections
    | operation kind name declared selections =>
        cases kind with
        | query =>
            cases gives
            exact .query name declared selections
        | mutation => cases gives
        | subscription => cases gives
    | fragment name typeCondition selections => cases gives
  · rintro (_ | _) <;> rfl

theorem queryOf_eq_error_iff :
    queryOf definition = .error fault ↔
      ∃ reason, fault = .query reason ∧ definition.Unsupported reason := by
  constructor
  · intro fails
    cases definition with
    | selectionSet selections => cases fails
    | operation kind name declared selections =>
        cases kind with
        | query => cases fails
        | mutation =>
            cases fails
            exact ⟨_, rfl, .mutation name declared selections⟩
        | subscription =>
            cases fails
            exact ⟨_, rfl, .subscription name declared selections⟩
    | fragment name typeCondition selections =>
        cases fails
        exact ⟨_, rfl, .fragment name typeCondition selections⟩
  · rintro ⟨reason, rfl, unsupported⟩
    cases unsupported <;> rfl

/-- A definition is a query or it is unsupported. -/
theorem exists_runs_iff :
    (∃ operation, definition.Runs operation) ↔ ∀ reason, ¬ definition.Unsupported reason := by
  constructor
  · rintro ⟨operation, runs⟩ reason unsupported
    cases runs <;> cases unsupported
  · intro supported
    cases read : queryOf definition with
    | ok operation => exact ⟨operation, queryOf_eq_ok_iff.mp read⟩
    | error fault =>
        obtain ⟨reason, _, unsupported⟩ := queryOf_eq_error_iff.mp read
        exact absurd unsupported (supported reason)

theorem eq_of_runs {other : QueryOperation} (runs : definition.Runs operation)
    (also : definition.Runs other) : other = operation :=
  Except.ok.inj ((queryOf_eq_ok_iff.mpr also).symm.trans (queryOf_eq_ok_iff.mpr runs))

end Definitions

section Queries

variable {document : QueryDocument} {operations : List QueryOperation}

theorem queries_eq_ok_iff :
    queries document = .ok operations ↔ List.Forall₂ Definition.Runs document operations := by
  simp only [queries, mapM_eq_ok_iff, queryOf_eq_ok_iff]

theorem exists_queries_iff :
    (∃ operations, queries document = .ok operations) ↔ document.Supported := by
  simp only [queries_eq_ok_iff, exists_forall₂_iff, exists_runs_iff]
  rfl

theorem queries_eq_error_iff {fault : GraphError} :
    queries document = .error fault ↔
      ∃ reason, fault = .query reason ∧ document.Refused reason := by
  simp only [queries, mapM_eq_error_iff, queryOf_eq_ok_iff, exists_runs_iff,
    queryOf_eq_error_iff]
  constructor
  · rintro ⟨front, definition, back, split, supported, reason, rfl, unsupported⟩
    exact ⟨reason, rfl, front, definition, back, split, supported, unsupported⟩
  · rintro ⟨reason, rfl, front, definition, back, split, supported, unsupported⟩
    exact ⟨front, definition, back, split, supported, reason, rfl, unsupported⟩

theorem Refused.not_supported {reason : QueryFault} (refused : document.Refused reason) :
    ¬ document.Supported := by
  obtain ⟨front, definition, back, rfl, _, unsupported⟩ := refused
  exact fun supported => supported definition (by simp) reason unsupported

end Queries

section Choice

variable {document : QueryDocument} {operations : List QueryOperation}
  {operation : QueryOperation} {fault : GraphError} {wanted : Option String} {name : String}

theorem names_cons_iff {definition : Definition} (runs : definition.Runs operation) :
    Names (definition :: document) name ↔ operation.name = some name ∨ Names document name := by
  constructor
  · rintro ⟨other, member, found, foundRuns, named⟩
    rcases List.mem_cons.mp member with rfl | later
    · rw [eq_of_runs runs foundRuns] at named
      exact .inl named
    · exact .inr ⟨other, later, found, foundRuns, named⟩
  · rintro (named | ⟨other, later, found, foundRuns, named⟩)
    · exact ⟨definition, List.mem_cons_self, operation, runs, named⟩
    · exact ⟨other, List.mem_cons_of_mem _ later, found, foundRuns, named⟩

/-- Looking for a name among the queries finds the first definition with the name. -/
theorem find?_name_eq_some_iff (placed : List.Forall₂ Definition.Runs document operations) :
    operations.find? (fun operation => operation.name == some name) = some operation ↔
      document.Selects (some name) operation := by
  induction placed with
  | nil =>
      constructor
      · intro found
        cases found
      · rintro ⟨split, -, -, -⟩
        exact absurd split (by simp)
  | @cons definition first rest others runs _ ih =>
      rw [List.find?_cons]
      by_cases named : first.name = some name
      · rw [beq_iff_eq.mpr named]
        constructor
        · intro found
          cases found
          exact .named (List.nil_append _).symm runs named (by simp [Names])
        · rintro @⟨front, back, other, _, _, split, otherRuns, otherNamed, unnamed⟩
          cases front with
          | nil =>
              cases split
              exact congrArg some (eq_of_runs otherRuns runs)
          | cons _ front =>
              cases split
              exact absurd ((names_cons_iff runs).mpr (.inl named)) unnamed
      · rw [beq_false_of_ne named, ih]
        constructor
        · rintro @⟨front, back, other, _, _, rfl, otherRuns, otherNamed, unnamed⟩
          refine .named List.cons_append.symm otherRuns otherNamed ?_
          rw [names_cons_iff runs]
          exact not_or.mpr ⟨named, unnamed⟩
        · rintro @⟨front, back, other, _, _, split, otherRuns, otherNamed, unnamed⟩
          cases front with
          | nil =>
              cases split
              rw [eq_of_runs runs otherRuns] at otherNamed
              exact absurd otherNamed named
          | cons _ front =>
              cases split
              rw [names_cons_iff runs, not_or] at unnamed
              exact .named rfl otherRuns otherNamed unnamed.2

theorem find?_name_eq_none_iff (placed : List.Forall₂ Definition.Runs document operations) :
    operations.find? (fun operation => operation.name == some name) = none ↔
      ¬ document.Names name := by
  induction placed with
  | nil => simp [Names]
  | @cons definition first rest others runs _ ih =>
      rw [List.find?_cons, names_cons_iff runs, not_or, ← ih]
      by_cases named : first.name = some name
      · simp [named]
      · simp [named, beq_false_of_ne named]

theorem choose_eq_ok_iff (placed : List.Forall₂ Definition.Runs document operations) :
    choose wanted operations = .ok operation ↔ document.Selects wanted operation := by
  cases wanted with
  | some name =>
      rw [← find?_name_eq_some_iff placed, choose]
      cases operations.find? fun operation => operation.name == some name with
      | none => simp
      | some found => simp
  | none =>
      constructor
      · intro chosen
        rcases placed with _ | ⟨runs, _ | ⟨_, _⟩⟩
        · cases chosen
        · cases chosen
          exact .only rfl runs
        · cases chosen
      · rintro ⟨⟩
        rename_i definition only runs
        subst only
        rcases placed with _ | ⟨also, ⟨⟩⟩
        rw [eq_of_runs runs also]
        rfl

theorem choose_eq_error_iff (placed : List.Forall₂ Definition.Runs document operations) :
    choose wanted operations = .error fault ↔
      ∃ reason, fault = .query reason ∧ document.Misses wanted reason := by
  cases wanted with
  | some name =>
      rw [choose]
      cases found : operations.find? fun operation => operation.name == some name with
      | none =>
          have unknown := (find?_name_eq_none_iff placed).mp found
          constructor
          · intro fails
            cases fails
            exact ⟨_, rfl, .unknown unknown⟩
          · rintro ⟨_, rfl, ⟨⟩⟩
            rfl
      | some operation =>
          constructor
          · intro fails
            cases fails
          · rintro ⟨_, rfl, unknown⟩
            cases unknown with
            | unknown unknown =>
                rw [← find?_name_eq_none_iff placed, found] at unknown
                cases unknown
  | none =>
      constructor
      · intro fails
        rcases placed with _ | ⟨_, _ | ⟨_, _⟩⟩
        · cases fails
          exact ⟨_, rfl, .empty rfl⟩
        · cases fails
        · cases fails
          exact ⟨_, rfl, .several (by simp)⟩
      · rintro ⟨_, rfl, misses⟩
        cases misses with
        | empty empty =>
            subst empty
            cases placed
            rfl
        | several several =>
            rcases placed with _ | ⟨_, _ | ⟨_, _⟩⟩
            · simp at several
            · simp at several
            · rfl

/-- Among queries a name selects if one of them has it, and no name selects if there is one. -/
theorem exists_selects_iff (supported : document.Supported) :
    (∃ operation, document.Selects wanted operation) ↔
      (∃ name, wanted = some name ∧ document.Names name) ∨
        wanted = none ∧ document.length = 1 := by
  obtain ⟨operations, read⟩ := exists_queries_iff.mpr supported
  have placed := queries_eq_ok_iff.mp read
  cases wanted with
  | some name =>
      have found : (∃ operation, document.Selects (some name) operation) ↔
          document.Names name := by
        simp only [← find?_name_eq_some_iff placed]
        rw [← Option.isSome_iff_exists, Option.isSome_iff_ne_none, Ne,
          find?_name_eq_none_iff placed, not_not]
      rw [found]
      simp
  | none =>
      simp only [← choose_eq_ok_iff placed]
      rcases placed with _ | ⟨_, _ | ⟨_, _⟩⟩ <;> simp [choose]

end Choice

section Selection

variable {document : QueryDocument} {wanted : Option String} {operation : QueryOperation}
  {fault : GraphError}

theorem selectOperation_eq_ok_iff :
    document.selectOperation wanted = .ok operation ↔
      document.Supported ∧ document.Selects wanted operation := by
  rw [selectOperation]
  cases read : queries document with
  | error other =>
      have unsupported : ¬ document.Supported := by
        obtain ⟨reason, _, refused⟩ := queries_eq_error_iff.mp read
        exact refused.not_supported
      constructor
      · intro chosen
        cases chosen
      · exact fun both => absurd both.1 unsupported
  | ok operations =>
      have supported := exists_queries_iff.mp ⟨operations, read⟩
      have chosen : choose wanted operations = .ok operation ↔
          document.Selects wanted operation := choose_eq_ok_iff (queries_eq_ok_iff.mp read)
      exact chosen.trans (and_iff_right supported).symm

theorem selectOperation_eq_error_iff :
    document.selectOperation wanted = .error fault ↔
      ∃ reason, fault = .query reason ∧
        (document.Refused reason ∨ document.Supported ∧ document.Misses wanted reason) := by
  rw [selectOperation]
  cases read : queries document with
  | error other =>
      obtain ⟨first, rfl, refused⟩ := queries_eq_error_iff.mp read
      constructor
      · intro fails
        cases fails
        exact ⟨first, rfl, .inl refused⟩
      · rintro ⟨reason, rfl, again | ⟨supported, _⟩⟩
        · have same := read.symm.trans (queries_eq_error_iff.mpr ⟨reason, rfl, again⟩)
          cases same
          rfl
        · exact absurd supported refused.not_supported
  | ok operations =>
      have supported := exists_queries_iff.mp ⟨operations, read⟩
      have missed : choose wanted operations = .error fault ↔
          ∃ reason, fault = .query reason ∧ document.Misses wanted reason :=
        choose_eq_error_iff (queries_eq_ok_iff.mp read)
      constructor
      · intro fails
        obtain ⟨reason, same, misses⟩ := missed.mp fails
        exact ⟨reason, same, .inr ⟨supported, misses⟩⟩
      · rintro ⟨reason, same, refused | ⟨_, misses⟩⟩
        · exact absurd supported refused.not_supported
        · exact missed.mpr ⟨reason, same, misses⟩

end Selection

end QueryDocument

namespace Schema

variable {World : Type}

/-- A document without an operation for the request leaves everything as it was. -/
theorem executeDocument_of_unselected (schema : Schema (Resolver World))
    {document : QueryDocument} {wanted : Option String} {fault : GraphError}
    (unselected : document.selectOperation wanted = .error fault) (provided : JsonObject)
    (before : Progress World) :
    schema.executeDocument document wanted provided before = (.error fault, before) := by
  rw [executeDocument, unselected]
  rfl

/-- An operation is selected exactly if all definitions are queries and one has the wanted name, or
none is wanted and there is one; it is the first with the name, or the only one.  Otherwise the
first definition that is no query decides the error, whatever is wanted, and among queries what is
wanted; then a request for the document ends with this error and leaves everything as it was,
without a call of a resolver. -/
theorem selects_operation_exactly (schema : Schema (Resolver World)) (document : QueryDocument)
    (wanted : Option String) :
    ((∃ operation, document.selectOperation wanted = .ok operation) ↔
      document.Supported ∧ ((∃ name, wanted = some name ∧ document.Names name) ∨
        wanted = none ∧ document.length = 1)) ∧
    (∀ operation, document.selectOperation wanted = .ok operation ↔
      document.Supported ∧ document.Selects wanted operation) ∧
    (∀ fault, document.selectOperation wanted = .error fault ↔
      ∃ reason, fault = .query reason ∧
        (document.Refused reason ∨ document.Supported ∧ document.Misses wanted reason)) ∧
    ∀ request before fault, QueryDocument.parse? request.query = some document →
      document.selectOperation request.operationName = .error fault →
        schema.execute request before = (.error fault, before) := by
  refine ⟨?_, fun operation => QueryDocument.selectOperation_eq_ok_iff,
    fun fault => QueryDocument.selectOperation_eq_error_iff, ?_⟩
  · simp only [QueryDocument.selectOperation_eq_ok_iff, exists_and_left]
    exact and_congr_right fun supported => QueryDocument.exists_selects_iff supported
  · intro request before fault parsed unselected
    rw [schema.execute_eq_executeDocument parsed]
    exact schema.executeDocument_of_unselected unselected request.provided before

end Schema

namespace Letters

def field (name : String) : Selection := .field none name [] []

/-- Two queries of one name around a bare selection set. -/
def twins : QueryDocument :=
  [.operation .query (some "A") [] [field "a"], .selectionSet [field "b"],
    .operation .query (some "A") [⟨"n", none⟩] [field "c"]]

/-- A mutation and a fragment between two queries. -/
def mixed : QueryDocument :=
  [.operation .query (some "A") [] [field "a"], .operation .mutation none [] [field "b"],
    .fragment "C" "T" [field "c"], .operation .query (some "D") [] [field "d"]]

def wantsA : QueryRequest where
  query := "query A \x7b a \x7d mutation \x7b b \x7d fragment C on T \x7b c \x7d " ++
    "query D \x7b d \x7d"
  operationName := some "A"

def wantsATokens : List Token :=
  [.name "query", .name "A", .punctuator '\x7b', .name "a", .punctuator '\x7d',
    .name "mutation", .punctuator '\x7b', .name "b", .punctuator '\x7d',
    .name "fragment", .name "C", .name "on", .name "T", .punctuator '\x7b', .name "c",
    .punctuator '\x7d', .name "query", .name "D", .punctuator '\x7b', .name "d",
    .punctuator '\x7d']

def letters : Schema (Resolver Unit) where
  objects := [{ name := "Letter", nodeType := "letter", complete := true }]
  roots := [⟨"a", "letter", .object 0, [], fun _ state => (.ok [], state)⟩]
  arguments := {}

theorem first_twin_selected_mixed_refused :
    twins.selectOperation (some "A") = .ok ⟨some "A", [], [field "a"]⟩ ∧
      (¬ ∃ operation, twins.selectOperation none = .ok operation) ∧
      mixed.Refused .mutation ∧
      ∀ before, letters.execute wantsA before = (.error (.query .mutation), before) := by
  have divided : Token.tokenize? wantsA.query = some wantsATokens := by decide +kernel
  have parsed : QueryDocument.parse? wantsA.query = some mixed := by
    rw [QueryDocument.parse?_of_tokenize? divided]
    rfl
  obtain ⟨some_iff, selects, _, _⟩ := letters.selects_operation_exactly twins (some "A")
  obtain ⟨none_iff, _, _, _⟩ := letters.selects_operation_exactly twins none
  obtain ⟨_, _, fails, unchanged⟩ := letters.selects_operation_exactly mixed (some "A")
  have refused : mixed.Refused .mutation := by
    refine ⟨[_], _, _, rfl, ?_, .mutation none [] [field "b"]⟩
    intro definition member reason unsupported
    rw [List.mem_singleton.mp member] at unsupported
    cases unsupported
  refine ⟨?_, ?_, refused, ?_⟩
  · have supported : twins.Supported := (some_iff.mp ⟨_, rfl⟩).1
    refine (selects _).mpr ⟨supported, ?_⟩
    exact .named (List.nil_append _).symm (.query _ _ _) rfl (by simp [QueryDocument.Names])
  · rw [none_iff]
    simp [twins]
  · intro before
    exact unchanged wantsA before _ parsed ((fails _).mpr ⟨_, rfl, .inl refused⟩)

end Letters

end NodeGraph
