import NodeGraph.Store.Statement

/-!
# Reading statements

A statement is read from the tokens of its text.  In a condition negation binds tightest
and disjunction least.  A text holds one statement or none.
-/

namespace NodeGraph

namespace Statement

/-- What a reader returns: a value and the tokens that are left. -/
abbrev Reading (α : Type) := Option (α × List SqlToken)

/-- Drop a keyword. -/
def keyword? (word : String) : List SqlToken → Option (List SqlToken)
  | .word text :: rest => if upper text = word then some rest else none
  | _ => none

/-- Drop a symbol. -/
def symbol? (text : String) : List SqlToken → Option (List SqlToken)
  | .symbol found :: rest => if found = text then some rest else none
  | _ => none

/-- Read a word as a name, if the test admits it, or a quoted name. -/
def nameThat? (admits : String → Bool) : List SqlToken → Reading (String × NameForm)
  | .word text :: rest => if admits text then some ((text, .plain), rest) else none
  | .quotedName text form :: rest => some ((text, form), rest)
  | _ => none

/-- Read a name.  A literal in its place is one, too. -/
def name? : List SqlToken → Reading String
  | .literal text :: rest => some (text, rest)
  | tokens => (nameThat? isName tokens).map fun found => (found.1.1, found.2)

/-- Read the name of a column after the names that qualify it; `path` holds those read, in
reverse. -/
def qualified? (path : List String) (last : String × NameForm) :
    List SqlToken → Reading Term
  | .symbol "." :: .word text :: rest =>
      if path.length < 2 && isName text then
        qualified? (last.1 :: path) (text, .plain) rest
      else none
  | .symbol "." :: .quotedName text form :: rest =>
      if path.length < 2 then qualified? (last.1 :: path) (text, form) rest else none
  | .symbol "." :: _ => none
  | rest => some (.column ⟨path.reverse, last.1, last.2⟩, rest)

def term? (tokens : List SqlToken) : Reading Term :=
  match tokens with
  | .number text :: rest => some (.constant (.ofText text) text, rest)
  | .word text :: rest =>
      match wordValue? text with
      | some value => some (.constant value text, rest)
      | none => if isColumnName text then qualified? [] (text, .plain) rest else none
  | .quotedName text form :: rest => qualified? [] (text, form) rest
  | _ => none

def literal? : List SqlToken → Reading SqlLiteral
  | .literal text :: rest => some (.text text, rest)
  | .number text :: rest => some (.numeral text, rest)
  | _ => none

/-- Read literals and commas up to a parenthesis; `done` holds those read, in reverse. -/
def literals? (done : List SqlLiteral) : Nat → List SqlToken → Reading (List SqlLiteral)
  | 0, _ => none
  | steps + 1, tokens =>
      match literal? tokens with
      | some (literal, .symbol "," :: rest) => literals? (literal :: done) steps rest
      | some (literal, .symbol ")" :: rest) => some ((literal :: done).reverse, rest)
      | _ => none

def operatorOf? (symbol : String) : Option Operator :=
  [Operator.equal, .notEqual, .greaterThan, .greaterOrEqual, .lessThan, .lessOrEqual].find?
    fun operator => operator.symbol == symbol

/-- Read a comparison of a term.  A containment in no values is decided without it. -/
def comparison? (steps : Nat) (tokens : List SqlToken) : Reading (Condition Term) :=
  match term? tokens with
  | none => none
  | some (term, .symbol symbol :: rest) =>
      match operatorOf? symbol, literal? rest with
      | some operator, some (literal, rest) => some (.compare term operator literal, rest)
      | _, _ => none
  | some (term, rest) =>
      let negated := (keyword? "NOT" rest).isSome
      match keyword? "IN" ((keyword? "NOT" rest).getD rest) with
      | some (.symbol "(" :: .symbol ")" :: rest) =>
          some (.contains (.constant (.integer 0) "0") negated [], rest)
      | some (.symbol "(" :: rest) =>
          (literals? [] steps rest).map fun found =>
            (.contains term negated found.1, found.2)
      | _ => none

mutual

/-- Read a condition in which disjunction binds least. -/
def disjunction? (steps : Nat) (tokens : List SqlToken) : Reading (Condition Term) :=
  match steps with
  | 0 => none
  | steps + 1 =>
      match conjunction? steps tokens with
      | none => none
      | some (left, rest) => moreDisjuncts? steps left rest

def moreDisjuncts? (steps : Nat) (left : Condition Term) (tokens : List SqlToken) :
    Reading (Condition Term) :=
  match steps with
  | 0 => none
  | steps + 1 =>
      match keyword? "OR" tokens with
      | none => some (left, tokens)
      | some rest =>
          match conjunction? steps rest with
          | none => none
          | some (right, rest) => moreDisjuncts? steps (.disjunction left right) rest

/-- Read a condition without a disjunction outside parentheses. -/
def conjunction? (steps : Nat) (tokens : List SqlToken) : Reading (Condition Term) :=
  match steps with
  | 0 => none
  | steps + 1 =>
      match negation? steps tokens with
      | none => none
      | some (left, rest) => moreConjuncts? steps left rest

def moreConjuncts? (steps : Nat) (left : Condition Term) (tokens : List SqlToken) :
    Reading (Condition Term) :=
  match steps with
  | 0 => none
  | steps + 1 =>
      match keyword? "AND" tokens with
      | none => some (left, tokens)
      | some rest =>
          match negation? steps rest with
          | none => none
          | some (right, rest) => moreConjuncts? steps (.conjunction left right) rest

/-- Read a comparison, a negation or a condition in parentheses. -/
def negation? (steps : Nat) (tokens : List SqlToken) : Reading (Condition Term) :=
  match steps with
  | 0 => none
  | steps + 1 =>
      match keyword? "NOT" tokens with
      | some rest =>
          (negation? steps rest).map fun found => (.negation found.1, found.2)
      | none =>
          match symbol? "(" tokens with
          | some rest =>
              match disjunction? steps rest with
              | some (inner, rest) => (symbol? ")" rest).map fun rest => (inner, rest)
              | none => none
          | none => comparison? steps tokens

end

/-- The greatest height of a condition. -/
def heightLimit : Nat := 1000

/-- Read a condition that is not too high.  Every nested call but five takes a token. -/
def condition? (tokens : List SqlToken) : Reading (Condition Term) :=
  (disjunction? (5 * tokens.length + 5) tokens).filter fun found =>
    decide (found.1.height Term.height ≤ heightLimit)

/-- Read a condition after its keyword, if there is one. -/
def optionalCondition? (tokens : List SqlToken) : Reading (Option (Condition Term)) :=
  match keyword? "WHERE" tokens with
  | some rest => (condition? rest).map fun found => (some found.1, found.2)
  | none => some (none, tokens)

/-- Read a label, if there is one; the test admits those that follow without a keyword. -/
def optionalLabel? (admits : String → Bool) (tokens : List SqlToken) :
    Reading (Option String) :=
  match keyword? "AS" tokens with
  | some rest => (name? rest).map fun found => (some found.1, found.2)
  | none =>
      match tokens with
      | .literal text :: rest => some (some text, rest)
      | _ =>
          match nameThat? admits tokens with
          | some (found, rest) => some (some found.1, rest)
          | none => some (none, tokens)

def item? (tokens : List SqlToken) : Reading SelectItem :=
  match symbol? "*" tokens, name? tokens with
  | some rest, _ => some (.everything none, rest)
  | none, some (table, .symbol "." :: .symbol "*" :: rest) => some (.everything table, rest)
  | _, _ =>
      match term? tokens with
      | none => none
      | some (term, rest) =>
          (optionalLabel? isTermLabel rest).map fun found => (.term term found.1, found.2)

/-- Read items; `done` holds those read, in reverse. -/
def items? (done : List SelectItem) : Nat → List SqlToken → Reading (List SelectItem)
  | 0, _ => none
  | steps + 1, tokens =>
      match item? tokens with
      | none => none
      | some (item, .symbol "," :: rest) => items? (item :: done) steps rest
      | some (item, rest) => some ((item :: done).reverse, rest)

/-- Read a sort with its direction, which is true for descending. -/
def sort? (tokens : List SqlToken) : Reading (Term × Bool) :=
  match term? tokens with
  | none => none
  | some (term, rest) =>
      match keyword? "DESC" rest, keyword? "ASC" rest with
      | some rest, _ => some ((term, true), rest)
      | none, some rest => some ((term, false), rest)
      | none, none => some ((term, false), rest)

/-- Read sorts; `done` holds those read, in reverse. -/
def sorts? (done : List (Term × Bool)) : Nat → List SqlToken →
    Reading (List (Term × Bool))
  | 0, _ => none
  | steps + 1, tokens =>
      match sort? tokens with
      | none => none
      | some (sort, .symbol "," :: rest) => sorts? (sort :: done) steps rest
      | some (sort, rest) => some ((sort :: done).reverse, rest)

/-- Read an order after its keywords, if there is one. -/
def optionalOrdering? (tokens : List SqlToken) : Reading (List (Term × Bool)) :=
  match keyword? "ORDER" tokens with
  | none => some ([], tokens)
  | some rest =>
      match keyword? "BY" rest with
      | none => none
      | some rest => sorts? [] (rest.length + 1) rest

/-- Read a window after its keyword, if there is one: how many rows to skip and how many
to keep. -/
def optionalWindow? (tokens : List SqlToken) : Reading (Option (Nat × Nat)) :=
  match keyword? "LIMIT" tokens with
  | none => some (none, tokens)
  | some (.number first :: .symbol "," :: .number second :: rest) =>
      some (some (digitsValue first.toList, digitsValue second.toList), rest)
  | some (.number first :: .word word :: .number second :: rest) =>
      if upper word = "OFFSET" then
        some (some (digitsValue second.toList, digitsValue first.toList), rest)
      else none
  | some (.number first :: rest) => some (some (0, digitsValue first.toList), rest)
  | some _ => none

def table? (tokens : List SqlToken) : Reading TableName :=
  match name? tokens with
  | none => none
  | some (first, .symbol "." :: rest) =>
      match name? rest with
      | none => none
      | some (name, rest) =>
          (optionalLabel? isTableLabel rest).map fun found =>
            (⟨some first, name, found.1⟩, found.2)
  | some (name, rest) =>
      (optionalLabel? isTableLabel rest).map fun found =>
        (⟨none, name, found.1⟩, found.2)

/-- Read a selection after its keyword. -/
def selection? (tokens : List SqlToken) : Option (SelectStatement × List SqlToken) := do
  let (items, rest) ← items? [] (tokens.length + 1) tokens
  let rest ← keyword? "FROM" rest
  let (table, rest) ← table? rest
  let (condition, rest) ← optionalCondition? rest
  let (ordering, rest) ← optionalOrdering? rest
  let (window, rest) ← optionalWindow? rest
  return ({ items, table, condition, ordering, window }, rest)

/-- Read a deletion after its keyword. -/
def deletion? (tokens : List SqlToken) : Option (Statement × List SqlToken) := do
  let rest ← keyword? "FROM" tokens
  let (table, rest) ← name? rest
  let (condition, rest) ← optionalCondition? rest
  return (.delete table condition, rest)

/-- Read a value that is inserted: a literal, or a word that is a value. -/
def inserted? : List SqlToken → Reading Unit
  | .word text :: rest => (wordValue? text).map fun _ => ((), rest)
  | tokens => (literal? tokens).map fun found => ((), found.2)

/-- Read values that are inserted up to a parenthesis; `count` have been read. -/
def insertedCount? (count : Nat) : Nat → List SqlToken → Reading Nat
  | 0, _ => none
  | steps + 1, tokens =>
      match inserted? tokens with
      | some (_, .symbol "," :: rest) => insertedCount? (count + 1) steps rest
      | some (_, .symbol ")" :: rest) => some (count + 1, rest)
      | _ => none

/-- Drop the type and the constraints of a column. -/
def skipColumnWords : List SqlToken → List SqlToken
  | [] => []
  | .word text :: rest =>
      if isName text || ["PRIMARY", "NOT", "NULL", "UNIQUE"].contains (upper text) then
        skipColumnWords rest
      else .word text :: rest
  | other :: rest => other :: rest

/-- Read columns up to a parenthesis, each with what `after` drops; `done` holds those read,
in reverse. -/
def columns? (after : List SqlToken → List SqlToken) (done : List String) :
    Nat → List SqlToken → Reading (List String)
  | 0, _ => none
  | steps + 1, tokens =>
      match (name? tokens).map fun found => (found.1, after found.2) with
      | some (column, .symbol "," :: rest) => columns? after (column :: done) steps rest
      | some (column, .symbol ")" :: rest) => some ((column :: done).reverse, rest)
      | _ => none

/-- Read an insertion after its keyword. -/
def insertion? (tokens : List SqlToken) : Option (Statement × List SqlToken) := do
  let rest ← keyword? "INTO" tokens
  let (table, rest) ← name? rest
  let (columns, rest) ← match symbol? "(" rest with
    | none => some (none, rest)
    | some inner => (columns? id [] (inner.length + 1) inner).map fun found =>
        (some found.1, found.2)
  let rest ← keyword? "VALUES" rest
  let rest ← symbol? "(" rest
  let (width, rest) ← insertedCount? 0 (rest.length + 1) rest
  return (.insert table columns width, rest)

/-- Read assignments; `done` holds their columns, in reverse. -/
def assignments? (done : List String) : Nat → List SqlToken → Reading (List String)
  | 0, _ => none
  | steps + 1, tokens =>
      match name? tokens with
      | some (column, .symbol "=" :: rest) =>
          match literal? rest with
          | some (_, .symbol "," :: rest) => assignments? (column :: done) steps rest
          | some (_, rest) => some ((column :: done).reverse, rest)
          | none => none
      | _ => none

/-- Read an update after its keyword. -/
def change? (tokens : List SqlToken) : Option (Statement × List SqlToken) := do
  let (table, rest) ← name? tokens
  let rest ← keyword? "SET" rest
  let (columns, rest) ← assignments? [] (rest.length + 1) rest
  let (condition, rest) ← optionalCondition? rest
  return (.update table columns condition, rest)

/-- Read the creation of a table after its keyword. -/
def creation? (tokens : List SqlToken) : Option (Statement × List SqlToken) := do
  let rest ← keyword? "TABLE" tokens
  let checked := do keyword? "EXISTS" (← keyword? "NOT" (← keyword? "IF" rest))
  let (table, rest) ← name? (checked.getD rest)
  let rest ← symbol? "(" rest
  let (columns, rest) ← columns? skipColumnWords [] (rest.length + 1) rest
  return (.create table checked.isSome columns, rest)

/-- Read the dropping of a table after its keyword. -/
def dropping? (tokens : List SqlToken) : Option (Statement × List SqlToken) := do
  let rest ← keyword? "TABLE" tokens
  let checked := do keyword? "EXISTS" (← keyword? "IF" rest)
  let (table, rest) ← name? (checked.getD rest)
  return (.drop table checked.isSome, rest)

def statement? : List SqlToken → Option (Statement × List SqlToken)
  | .word text :: rest =>
      match upper text with
      | "SELECT" => (selection? rest).map fun found => (.select found.1, found.2)
      | "DELETE" => deletion? rest
      | "INSERT" => insertion? rest
      | "UPDATE" => change? rest
      | "CREATE" => creation? rest
      | "DROP" => dropping? rest
      | _ => none
  | _ => none

/-- The statements of a text, which are divided by semicolons: none, or one. -/
def parse? (text : String) : Option (Option Statement) :=
  match SqlToken.tokenize? text with
  | none => none
  | some tokens =>
      match tokens.dropWhile fun token => token == .symbol ";" with
      | [] => some none
      | tokens =>
          match statement? tokens with
          | some (statement, rest) =>
              if rest.all fun token => token == .symbol ";" then some (some statement)
              else none
          | none => none

end Statement

end NodeGraph
