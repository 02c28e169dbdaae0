import NodeGraph.Proofs.Store.Tokens
import NodeGraph.Text.Blank

/-!
# Division into tokens

A space ends every token that is not between quotes, so two texts with a space between them are
divided as each is alone.
-/

namespace NodeGraph

namespace SqlToken

/-- A text that is divided into tokens, each after what the reader skips. -/
inductive Divides : List Char → List SqlToken → Prop
  | nil {text} (blank : skipBlanks text = []) : Divides text []
  | cons {text token rest tokens} (read : read? (skipBlanks text) = some (token, rest))
      (later : Divides rest tokens) : Divides text (token :: tokens)

theorem divides_of_readAll {done found : List SqlToken} {steps : Nat} {text : List Char}
    (read : readAll done steps text = some found) :
    ∃ tokens, found = done.reverse ++ tokens ∧ tokens.length < steps ∧ Divides text tokens := by
  induction steps generalizing done text with
  | zero => cases read
  | succ steps ih =>
      rw [readAll] at read
      split at read
      · rename_i blank
        cases read
        exact ⟨[], (List.append_nil _).symm, Nat.succ_pos _, .nil blank⟩
      · split at read
        · rename_i token rest first
          obtain ⟨tokens, rfl, few, later⟩ := ih read
          exact ⟨token :: tokens, by simp, Nat.succ_lt_succ few, .cons first later⟩
        · cases read

theorem Divides.readAll {text : List Char} {tokens : List SqlToken} (divides : Divides text tokens)
    (done : List SqlToken) {steps : Nat} (enough : tokens.length < steps) :
    SqlToken.readAll done steps text = some (done.reverse ++ tokens) := by
  induction divides generalizing done steps with
  | nil blank =>
      obtain ⟨steps, rfl⟩ := Nat.exists_eq_add_one_of_ne_zero (Nat.ne_zero_of_lt enough)
      simp only [SqlToken.readAll, blank, List.append_nil]
  | @cons text token rest tokens read later ih =>
      obtain ⟨steps, rfl⟩ := Nat.exists_eq_add_one_of_ne_zero (Nat.ne_zero_of_lt enough)
      have visible : skipBlanks text ≠ [] := by
        intro blank
        rw [blank] at read
        cases read
      rw [SqlToken.readAll]
      split
      · contradiction
      · simp only [read]
        rw [ih _ (Nat.lt_of_succ_lt_succ enough), List.reverse_cons, List.append_assoc,
          List.singleton_append]

/-- A part of a text that a test takes ends before a space. -/
theorem takeWhile_before_space {test : Char → Bool} (stops : test ' ' = false)
    (text after : List Char) :
    (text ++ ' ' :: after).takeWhile test = text.takeWhile test ∧
      (text ++ ' ' :: after).dropWhile test = text.dropWhile test ++ ' ' :: after := by
  induction text with
  | nil => simp [stops]
  | cons c text ih =>
      cases taken : test c with
      | true => simpa [taken] using ih
      | false => simp [taken]

theorem readLiteral_before_space {text body rest : List Char}
    (read : Sql.readLiteral text = some (body, rest)) (after : List Char) :
    Sql.readLiteral (text ++ ' ' :: after) = some (body, rest ++ ' ' :: after) := by
  fun_induction Sql.readLiteral text generalizing body with
  | case1 => cases read
  | case2 rest ih =>
      obtain ⟨⟨inner, left⟩, found, same⟩ := Option.map_eq_some_iff.mp read
      cases same
      simp only [List.cons_append, Sql.readLiteral, ih found, Option.map_some]
  | case3 rest ends =>
      cases read
      cases rest with
      | nil => rfl
      | cons d rest =>
          have different : d ≠ '\'' := by
            rintro rfl
            exact ends rest rfl rfl
          simp [Sql.readLiteral, different]
  | case4 c rest _ different ih =>
      obtain ⟨⟨inner, left⟩, found, same⟩ := Option.map_eq_some_iff.mp read
      cases same
      simp [Sql.readLiteral, different, ih found]

theorem readQuotedName_before_space {quote : Char} (visible : quote ≠ ' ')
    {text name rest : List Char} (read : readQuotedName quote text = some (name, rest))
    (after : List Char) :
    readQuotedName quote (text ++ ' ' :: after) = some (name, rest ++ ' ' :: after) := by
  fun_induction readQuotedName quote text generalizing name with
  | case1 => cases read
  | case2 =>
      cases read
      simp [readQuotedName, visible.symm]
  | case3 => cases read
  | case4 rest ih =>
      obtain ⟨⟨inner, left⟩, found, same⟩ := Option.map_eq_some_iff.mp read
      cases same
      simp [readQuotedName, ih found]
  | case5 next rest different =>
      cases read
      simp [readQuotedName, different]
  | case6 c next rest different ih =>
      obtain ⟨⟨inner, left⟩, found, same⟩ := Option.map_eq_some_iff.mp read
      cases same
      have longer := ih found
      rw [List.cons_append] at longer
      simp [readQuotedName, different, longer]

theorem readBracketedName_before_space {text name rest : List Char}
    (read : readBracketedName text = some (name, rest)) (after : List Char) :
    readBracketedName (text ++ ' ' :: after) = some (name, rest ++ ' ' :: after) := by
  unfold readBracketedName at read ⊢
  split at read
  · cases read
  · rename_i bracket rest ended
    cases read
    have short : (text.takeWhile fun c => c != ']').length ≠ text.length := by
      have whole := congrArg List.length
        (List.takeWhile_append_dropWhile (p := fun c => c != ']') (l := text))
      rw [List.length_append, ended, List.length_cons] at whole
      omega
    rw [List.dropWhile_append, List.takeWhile_append, ended, if_neg short]
    rfl

theorem readPlain?_before_space {c : Char} {text rest : List Char} {token : SqlToken}
    (read : readPlain? c text = some (token, rest)) (after : List Char) :
    readPlain? c (text ++ ' ' :: after) = some (token, rest ++ ' ' :: after) := by
  have endsWord : isNamePart ' ' = false := rfl
  have endsDigits : Char.isDigit ' ' = false := rfl
  obtain ⟨word, wordLeft⟩ := takeWhile_before_space endsWord text after
  obtain ⟨digits, digitsLeft⟩ := takeWhile_before_space endsDigits text after
  simp only [readPlain?, word, wordLeft, digits, digitsLeft] at read ⊢
  split at read
  · rename_i starts
    cases read
    rw [if_pos starts]
  rename_i noWord
  rw [if_neg noWord]
  split at read
  · rename_i digit
    rw [if_pos digit]
    split at read
    · cases read
    · rename_i ended
      cases read
      cases left : text.dropWhile Char.isDigit with
      | nil => rfl
      | cons next others =>
          rw [left] at ended
          exact if_neg ended
  rename_i noDigit
  rw [if_neg noDigit]
  split at read
  · rename_i known
    cases read
    rw [if_pos known]
  · cases read

/-- What a token is does not depend on what stands behind a space. -/
theorem read?_before_space {text rest : List Char} {token : SqlToken}
    (read : read? text = some (token, rest)) (after : List Char) :
    read? (text ++ ' ' :: after) = some (token, rest ++ ' ' :: after) := by
  unfold read? at read
  split at read
  · cases read
  · obtain ⟨⟨inner, left⟩, found, same⟩ := Option.map_eq_some_iff.mp read
    cases same
    simp [read?, readLiteral_before_space found]
  · obtain ⟨⟨inner, left⟩, found, same⟩ := Option.map_eq_some_iff.mp read
    cases same
    simp [read?, readQuotedName_before_space (by decide) found]
  · obtain ⟨⟨inner, left⟩, found, same⟩ := Option.map_eq_some_iff.mp read
    cases same
    simp [read?, readQuotedName_before_space (by decide) found]
  · obtain ⟨⟨inner, left⟩, found, same⟩ := Option.map_eq_some_iff.mp read
    cases same
    simp [read?, readBracketedName_before_space found]
  · cases read
    rfl
  · cases read
    rfl
  · cases read
    rfl
  · cases read
    rfl
  · cases read
    rfl
  · rename_i c text noLiteral noQuoted noBacktick noBracket noNot noDiffer noAtLeast noAtMost noSame
    -- A symbol of two characters would be one without the space, too.
    have second : ∀ {d others}, d ≠ ' ' → text ++ ' ' :: after = d :: others →
        ∃ more, text = d :: more := by
      intro d others visible same
      obtain ⟨rfl, spaced⟩ | ⟨more, rfl, -⟩ := List.append_eq_cons_iff.mp same
      · exact absurd (List.cons.inj spaced).1.symm visible
      · exact ⟨more, rfl⟩
    have plain : read? (c :: (text ++ ' ' :: after)) = readPlain? c (text ++ ' ' :: after) := by
      rw [read?]
      · exact noLiteral
      · exact noQuoted
      · exact noBacktick
      · exact noBracket
      all_goals
        intro others first same
        obtain ⟨more, rfl⟩ := second (by decide) same
      · exact noNot more first rfl
      · exact noDiffer more first rfl
      · exact noAtLeast more first rfl
      · exact noAtMost more first rfl
      · exact noSame more first rfl
    rw [List.cons_append, plain]
    exact readPlain?_before_space read after

theorem skipBlanks_append {text after : List Char} :
    skipBlanks (text ++ ' ' :: after) =
      if skipBlanks text = [] then skipBlanks (' ' :: after)
      else skipBlanks text ++ ' ' :: after := by
  cases text with
  | nil => rfl
  | cons c text =>
      cases blank : isBlank c with
      | false => simp [skipBlanks, blank]
      | true =>
          have continues : isBlank ' ' = true ∧ continuesBlank ' ' = true := ⟨rfl, rfl⟩
          simp [skipBlanks, blank, List.dropWhile_append, List.isEmpty_iff, continues]

namespace Divides

theorem congr {text other : List Char} (same : skipBlanks text = skipBlanks other)
    {tokens : List SqlToken} (divides : Divides other tokens) : Divides text tokens := by
  cases divides with
  | nil blank => exact .nil (same.trans blank)
  | cons read later => exact .cons (same ▸ read) later

/-- A text that a space follows is divided as it is alone. -/
theorem append {text after : List Char} {tokens later : List SqlToken}
    (left : Divides text tokens) (right : Divides (' ' :: after) later) :
    Divides (text ++ ' ' :: after) (tokens ++ later) := by
  induction left with
  | nil blank => exact right.congr (by rw [skipBlanks_append, if_pos blank])
  | @cons text token rest tokens read _ ih =>
      have visible : skipBlanks text ≠ [] := by
        intro blank
        rw [blank] at read
        cases read
      have longer := read?_before_space read after
      exact .cons (by rw [skipBlanks_append, if_neg visible, longer]) ih

/-- A space before a text is skipped.  A vertical tab, which is skipped after a space only, begins
no token. -/
theorem space {text : List Char} {tokens : List SqlToken} (divides : Divides text tokens) :
    Divides (' ' :: text) tokens := by
  have skipped : skipBlanks (' ' :: text) = text.dropWhile continuesBlank := rfl
  cases text with
  | nil => exact divides.congr (show skipBlanks [' '] = skipBlanks [] from rfl)
  | cons c rest =>
      cases continues : continuesBlank c with
      | false =>
          have visible : isBlank c = false := by
            rw [continuesBlank, Bool.or_eq_false_iff] at continues
            exact continues.1
          refine divides.congr ?_
          rw [skipped]
          simp [continues, skipBlanks, visible]
      | true =>
          cases blank : isBlank c with
          | true =>
              refine divides.congr ?_
              rw [skipped]
              simp [continues, skipBlanks, blank]
          | false =>
              rw [continuesBlank, blank, Bool.false_or, beq_iff_eq] at continues
              subst continues
              cases divides with
              | nil blank => cases blank
              | cons read later => cases read

end Divides

/-- A blank character that begins no name is skipped, or it is a vertical tab. -/
theorem read?_of_isBlank {c : Char} (blank : Text.isBlank c = true)
    (noName : isNameStart c = false) (rest : List Char) : read? (c :: rest) = none := by
  have small : c.toNat < 128 := by
    simp only [isNameStart, Bool.or_eq_false_iff, decide_eq_false_iff_not, not_le] at noName
    exact noName.2
  have code : c.toNat ∈ [9, 10, 11, 12, 13, 32] := by
    simp only [Text.isBlank, Bool.or_eq_true, Bool.and_eq_true, beq_iff_eq,
      decide_eq_true_eq] at blank
    simp only [List.mem_cons, List.not_mem_nil, or_false]
    omega
  have same := Char.ofNat_toNat c
  generalize c.toNat = number at code same
  subst same
  fin_cases code <;> rfl

/-- A blank text has no tokens but words. -/
theorem Divides.words {text : List Char} {tokens : List SqlToken} (divides : Divides text tokens)
    (blank : ∀ c ∈ text, Text.isBlank c = true) :
    ∀ token ∈ tokens, ∃ word, token = .word word := by
  induction divides with
  | nil => simp
  | @cons text token rest tokens read _ ih =>
      have suffix : skipBlanks text <:+ text := by
        unfold skipBlanks
        split
        · exact List.suffix_rfl
        · split
          · exact (List.dropWhile_suffix _).trans (List.suffix_cons _ _)
          · exact List.suffix_rfl
      cases left : skipBlanks text with
      | nil =>
          rw [left] at read
          cases read
      | cons c others =>
          rw [left] at read suffix
          cases starts : isNameStart c with
          | false =>
              rw [read?_of_isBlank (blank c (suffix.subset List.mem_cons_self)) starts] at read
              cases read
          | true =>
              rw [read?_of_isNameStart starts, readPlain?, if_pos starts] at read
              cases read
              rw [List.forall_mem_cons]
              refine ⟨⟨_, rfl⟩, ih fun d member => blank d (suffix.subset ?_)⟩
              exact List.mem_cons_of_mem _ ((List.dropWhile_suffix _).subset member)

theorem tokenize?_eq_some_iff {text : String} (noNull : '\x00' ∉ text.toList)
    {tokens : List SqlToken} :
    tokenize? text = some tokens ↔
      Divides text.toList tokens ∧ tokens.length ≤ text.toList.length := by
  have whole : (text.toList.takeWhile fun c => c != '\x00') = text.toList := by
    rw [List.takeWhile_eq_self_iff]
    intro c member
    rw [bne_iff_ne]
    rintro rfl
    exact noNull member
  simp only [tokenize?, whole]
  constructor
  · intro read
    obtain ⟨found, rfl, few, divides⟩ := divides_of_readAll read
    exact ⟨divides, Nat.le_of_lt_succ few⟩
  · rintro ⟨divides, few⟩
    simpa using divides.readAll [] (Nat.lt_succ_of_le few)

end SqlToken

end NodeGraph
