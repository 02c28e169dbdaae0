import NodeGraph.Proofs.Argument.FilterLanguage

/-!
# The language of sort orders

A sort order accepts an object, or a list of objects, whose entries hold directions.  Whatever
values it has been sent, its sorts are what the last entries of all fields in the accepted values
say, in the order of these entries.  A refused value counts as not sent, and a list as its objects
sent one after another.
-/

namespace NodeGraph

open NodeGraph.Filter (lastMentions nodup_of_lastMentions mem_keys_of_lastMentions
  forall₂_lastMentions_concat)

namespace SortDirection

/-- A text that is a word, except that its letters may be upper-case ASCII letters. -/
def Spells (text word : String) : Prop :=
  List.Forall₂ (fun letter expected => letter = expected ∨ letter = expected.toUpper)
    text.toList word.toList

theorem toNat_toLower (letter : Char) :
    letter.toLower.toNat =
      if 65 ≤ letter.toNat ∧ letter.toNat ≤ 90 then letter.toNat + 32 else letter.toNat := by
  unfold Char.toLower
  simp only [Char.toNat, UInt32.le_iff_toNat_le, ge_iff_le]
  split
  · rename_i upper
    change 65 ≤ letter.val.toNat ∧ letter.val.toNat ≤ 90 at upper
    change (letter.val + ('a'.val - 'A'.val)).toNat = _
    rw [if_pos upper, UInt32.toNat_add]
    change (letter.val.toNat + 32) % 2 ^ 32 = letter.val.toNat + 32
    omega
  · rename_i other
    exact (if_neg other).symm

theorem toNat_toUpper (letter : Char) :
    letter.toUpper.toNat =
      if 97 ≤ letter.toNat ∧ letter.toNat ≤ 122 then letter.toNat - 32 else letter.toNat := by
  unfold Char.toUpper
  simp only [Char.toNat, UInt32.le_iff_toNat_le]
  split
  · rename_i lower
    change 97 ≤ letter.val.toNat ∧ letter.val.toNat ≤ 122 at lower
    change (letter.val + ('A'.val - 'a'.val)).toNat = _
    rw [if_pos lower, UInt32.toNat_add]
    -- The difference of the letters wraps around to 2 ^ 32 - 32.
    change (letter.val.toNat + 4294967264) % 2 ^ 32 = letter.val.toNat - 32
    omega
  · rename_i other
    exact (if_neg other).symm

theorem toLower_eq_iff {letter expected : Char} (lower : expected.toLower = expected) :
    letter.toLower = expected ↔ letter = expected ∨ letter = expected.toUpper := by
  rw [← Char.toNat_inj, toNat_toLower] at lower
  simp only [← Char.toNat_inj, toNat_toLower, toNat_toUpper]
  grind

theorem map_toLower_eq_iff (letters : List Char) {word : List Char}
    (lower : ∀ letter ∈ word, letter.toLower = letter) :
    letters.map Char.toLower = word ↔
      List.Forall₂ (fun letter expected => letter = expected ∨ letter = expected.toUpper)
        letters word := by
  induction word generalizing letters with
  | nil => rw [List.map_eq_nil_iff, List.forall₂_nil_right_iff]
  | cons expected rest ih =>
      rw [List.forall_mem_cons] at lower
      cases letters with
      | nil => simp
      | cons letter later =>
          rw [List.map_cons, List.cons.injEq, List.forall₂_cons, toLower_eq_iff lower.1,
            ih later lower.2]

theorem ofText?_eq_ascending_iff {text : String} :
    ofText? text = some .ascending ↔ Spells text "asc" := by
  have lower : ∀ letter ∈ "asc".toList, letter.toLower = letter := by simp
  rw [Spells, ← map_toLower_eq_iff text.toList lower]
  unfold ofText?
  dsimp only
  split
  · rename_i same
    exact ⟨fun _ => same, fun _ => rfl⟩
  · rename_i different
    constructor
    · intro read
      split at read <;> cases read
    · intro same
      exact absurd same different

theorem ofText?_eq_descending_iff {text : String} :
    ofText? text = some .descending ↔ Spells text "desc" := by
  have lower : ∀ letter ∈ "desc".toList, letter.toLower = letter := by simp
  rw [Spells, ← map_toLower_eq_iff text.toList lower]
  unfold ofText?
  dsimp only
  split
  · rename_i ascending
    rw [ascending]
    decide
  · split
    · rename_i same
      exact ⟨fun _ => same, fun _ => rfl⟩
    · rename_i different
      constructor
      · intro read
        cases read
      · intro same
        exact absurd same different

end SortDirection

open SortDirection (Spells)

namespace Json

/-- The direction that a value gives. -/
inductive DirectedAs : Json → SortDirection → Prop
  | ascending {word : String} (spelt : Spells word "asc") : DirectedAs (.string word) .ascending
  | descending {word : String} (spelt : Spells word "desc") : DirectedAs (.string word) .descending

/-- An object, or a list of objects, whose entries hold directions. -/
inductive IsSortOrder : Json → Prop
  | object {entries : List (String × Json)}
      (directed : ∀ entry ∈ entries, ∃ direction, entry.2.DirectedAs direction) :
      IsSortOrder (.object entries)
  | list {objects : List (List (String × Json))}
      (directed : ∀ entries ∈ objects, ∀ entry ∈ entries, ∃ direction,
        entry.2.DirectedAs direction) :
      IsSortOrder (.array (objects.map .object))

/-- The entries of an object, or of the objects of a list one after another. -/
def mentions : Json → List (String × Json)
  | .array items => items.flatMap entries
  | value => value.entries

theorem mentions_list (objects : List (List (String × Json))) :
    (Json.array (objects.map .object)).mentions = objects.flatten := by
  rw [mentions, List.flatMap_map]
  exact List.flatMap_id

end Json

namespace OrderBy

/-- What the entry of a field means. -/
inductive Means : String × Json → SortKey → Prop
  | direction (field : String) {value : Json} {direction : SortDirection}
      (directed : value.DirectedAs direction) : Means (field, value) ⟨field, direction⟩

theorem Means.field_eq {entry : String × Json} {sort : SortKey} (means : Means entry sort) :
    entry.1 = sort.field := by
  cases means
  rfl

theorem exists_means_iff {entry : String × Json} :
    (∃ sort, Means entry sort) ↔ ∃ direction, entry.2.DirectedAs direction := by
  constructor
  · rintro ⟨sort, ⟨field, directed⟩⟩
    exact ⟨_, directed⟩
  · rintro ⟨direction, directed⟩
    exact ⟨_, .direction entry.1 directed⟩

theorem readEntry_eq_ok_iff {entry : String × Json} {sort : SortKey} :
    readEntry entry = .ok sort ↔ Means entry sort := by
  obtain ⟨field, value⟩ := entry
  constructor
  · intro read
    unfold readEntry at read
    split at read
    · rename_i word sent
      obtain rfl : value = .string word := sent
      split at read
      · rename_i direction found
        obtain rfl := Except.ok.inj read
        cases direction with
        | ascending =>
            exact .direction _ (.ascending (SortDirection.ofText?_eq_ascending_iff.mp found))
        | descending =>
            exact .direction _ (.descending (SortDirection.ofText?_eq_descending_iff.mp found))
      · cases read
    · cases read
  · rintro ⟨_, directed⟩
    cases directed with
    | ascending spelt => simp only [readEntry, SortDirection.ofText?_eq_ascending_iff.mpr spelt]
    | descending spelt => simp only [readEntry, SortDirection.ofText?_eq_descending_iff.mpr spelt]

theorem mapM_itemEntries_eq_ok_iff {items : List Json} {objects : List (List (String × Json))} :
    items.mapM itemEntries = .ok objects ↔ items = objects.map .object := by
  have read : ∀ item entries, itemEntries item = .ok entries ↔ item = .object entries := by
    intro item entries
    cases item <;> simp [itemEntries]
  simp only [mapM_eq_ok_iff, read]
  rw [← List.forall₂_map_right_iff (f := Json.object) (R := Eq), List.forall₂_eq_eq_eq]

/-- The entries of a value that has some are its mentions. -/
theorem entries_eq_ok_iff {value : Json} {given : List (String × Json)} :
    entries value = .ok given ↔
      value = .object given ∨
      ∃ objects : List (List (String × Json)), value = .array (objects.map .object) ∧
        given = objects.flatten := by
  constructor
  · intro gathered
    unfold entries at gathered
    split at gathered
    · cases gathered
      exact .inl rfl
    · obtain ⟨objects, listed, rfl⟩ := exists_of_map_eq_ok gathered
      obtain rfl := mapM_itemEntries_eq_ok_iff.mp listed
      exact .inr ⟨objects, rfl, rfl⟩
    · cases gathered
  · rintro (rfl | ⟨objects, rfl, rfl⟩)
    · rfl
    · rw [entries, mapM_itemEntries_eq_ok_iff.mpr rfl]
      rfl

/-- Reading gives what the mentions of an accepted value mean, in order. -/
theorem read_eq_ok_iff {value : Json} {sorts : List SortKey} :
    read value = .ok sorts ↔ value.IsSortOrder ∧ List.Forall₂ Means value.mentions sorts := by
  constructor
  · intro gives
    obtain ⟨given, gathered, gives⟩ := exists_of_bind_eq_ok gives
    have placed : List.Forall₂ Means given sorts :=
      (mapM_eq_ok_iff.mp gives).imp fun _ _ => readEntry_eq_ok_iff.mp
    have directed : ∀ entry ∈ given, ∃ direction, entry.2.DirectedAs direction := by
      intro entry member
      obtain ⟨sort, _, means⟩ := exists_right_of_forall₂ placed member
      exact exists_means_iff.mp ⟨sort, means⟩
    obtain rfl | ⟨objects, rfl, rfl⟩ := entries_eq_ok_iff.mp gathered
    · exact ⟨.object directed, placed⟩
    · rw [Json.mentions_list]
      refine ⟨.list fun entries listed entry member => ?_, placed⟩
      exact directed entry (List.mem_flatten_of_mem listed member)
  · rintro ⟨accepted, placed⟩
    have gathered : entries value = .ok value.mentions := by
      cases accepted with
      | object _ => rfl
      | list _ =>
          rw [Json.mentions_list]
          exact entries_eq_ok_iff.mpr (.inr ⟨_, rfl, rfl⟩)
    rw [read, gathered]
    exact mapM_eq_ok_iff.mpr (placed.imp fun _ _ => readEntry_eq_ok_iff.mpr)

theorem exists_read_iff {value : Json} :
    (∃ sorts, read value = .ok sorts) ↔ value.IsSortOrder := by
  constructor
  · rintro ⟨sorts, gives⟩
    exact (read_eq_ok_iff.mp gives).1
  · intro accepted
    have directed : ∀ entry ∈ value.mentions, ∃ direction, entry.2.DirectedAs direction := by
      cases accepted with
      | object directed => exact directed
      | list directed =>
          rw [Json.mentions_list]
          intro entry member
          obtain ⟨entries, listed, held⟩ := List.mem_flatten.mp member
          exact directed entries listed entry held
    obtain ⟨sorts, placed⟩ := exists_forall₂_iff.mpr fun entry member =>
      exists_means_iff.mpr (directed entry member)
    exact ⟨sorts, read_eq_ok_iff.mpr ⟨accepted, placed⟩⟩

/-- Recording succeeds exactly for sort orders. -/
theorem record_eq_ok_iff (before : List SortKey) (value : Json) :
    (record before value).1 = .ok () ↔ value.IsSortOrder := by
  rw [← exists_read_iff, record]
  split
  · rename_i more gives
    exact ⟨fun _ => ⟨more, gives⟩, fun _ => rfl⟩
  · rename_i fault failed
    constructor
    · intro accepted
      cases accepted
    · rintro ⟨sorts, gives⟩
      rw [failed] at gives
      cases gives

theorem record_of_refused {before : List SortKey} {value : Json} {fault : GraphError}
    (refused : (record before value).1 = .error fault) : (record before value).2 = before := by
  unfold record at refused ⊢
  split at refused
  · cases refused
  · rfl

instance : DecidablePred Json.IsSortOrder := fun value =>
  decidable_of_iff ((record [] value).1 = .ok ()) (record_eq_ok_iff [] value)

/-- The sorts are what the last mentions of all fields mean, in order. -/
def Tells (mentioned : List (String × Json)) (sorts : List SortKey) : Prop :=
  List.Forall₂ Means (lastMentions mentioned) sorts

/-- Sorts that are put one after another tell what their mentions and all before them say. -/
theorem Tells.foldl_put {mentioned entries : List (String × Json)} {sorts more : List SortKey}
    (tells : Tells mentioned sorts) (placed : List.Forall₂ Means entries more) :
    Tells (mentioned ++ entries) (more.foldl put sorts) := by
  induction placed generalizing mentioned sorts with
  | nil => rwa [List.append_nil]
  | cons means _ ih =>
      have next : Tells (mentioned ++ [_]) (put sorts _) :=
        forall₂_lastMentions_concat tells (fun _ _ => Means.field_eq) means
      have later := ih next
      rwa [List.append_assoc] at later

/-- The sorts after values that a client sends one after another, refused ones among them. -/
def receive (sorts : List SortKey) (values : List Json) : List SortKey :=
  values.foldl (fun sorts value => (record sorts value).2) sorts

/-- The mentions of the accepted ones among the values of a client. -/
def acceptedMentions (values : List Json) : List (String × Json) :=
  (values.filter fun value => value.IsSortOrder).flatMap Json.mentions

theorem record_of_read {value : Json} {more : List SortKey} (gives : read value = .ok more)
    (before : List SortKey) : record before value = (.ok (), more.foldl put before) := by
  rw [record, gives]

/-- Sorts tell what the accepted values say, in whatever order refused ones came between. -/
theorem Tells.receive {mentioned : List (String × Json)} {sorts : List SortKey}
    (tells : Tells mentioned sorts) (values : List Json) :
    Tells (mentioned ++ acceptedMentions values) (receive sorts values) := by
  induction values generalizing mentioned sorts with
  | nil => rwa [acceptedMentions, List.filter_nil, List.flatMap_nil, List.append_nil]
  | cons value later ih =>
      by_cases sorted : value.IsSortOrder
      · obtain ⟨more, gives⟩ := exists_read_iff.mpr sorted
        have next : Tells (mentioned ++ value.mentions) (record sorts value).2 := by
          rw [record_of_read gives]
          exact tells.foldl_put (read_eq_ok_iff.mp gives).2
        rw [acceptedMentions, List.filter_cons_of_pos (by simpa using sorted), List.flatMap_cons,
          ← List.append_assoc]
        exact ih next
      · have kept : (record sorts value).2 = sorts := by
          rcases recorded : (record sorts value).1 with fault | _
          · exact record_of_refused recorded
          · exact absurd ((record_eq_ok_iff sorts value).mp recorded) sorted
        rw [acceptedMentions, List.filter_cons_of_neg (by simpa using sorted), OrderBy.receive,
          List.foldl_cons, kept]
        exact ih tells

theorem tells_start : Tells [] [] :=
  .nil

/-- How the entry of a field stands in a statement. -/
inductive Renders : String × Json → String → Prop
  | ascending (field : String) {word : String} (spelt : Spells word "asc") :
      Renders (field, .string word) (field ++ " ASC")
  | descending (field : String) {word : String} (spelt : Spells word "desc") :
      Renders (field, .string word) (field ++ " DESC")

theorem Means.renders {entry : String × Json} {sort : SortKey} (means : Means entry sort) :
    Renders entry (sort.field ++ " " ++ sort.direction.keyword) := by
  obtain ⟨field, directed⟩ := means
  rw [String.append_assoc]
  cases directed with
  | ascending spelt => exact .ascending field spelt
  | descending spelt => exact .descending field spelt

theorem Tells.exists_toSql {mentioned : List (String × Json)} {sorts : List SortKey}
    (tells : Tells mentioned sorts) :
    ∃ texts, List.Forall₂ Renders (lastMentions mentioned) texts ∧
      toSql sorts = ",".intercalate texts := by
  refine ⟨_, ?_, rfl⟩
  rw [List.forall₂_map_right_iff]
  exact tells.imp fun _ _ => Means.renders

/-- Objects sent one after another leave what all their entries mean, put one after another. -/
theorem exists_receive_objects {objects : List (List (String × Json))}
    (directed : ∀ entries ∈ objects, ∀ entry ∈ entries, ∃ direction,
      entry.2.DirectedAs direction) :
    ∃ more, List.Forall₂ Means objects.flatten more ∧
      ∀ before, receive before (objects.map .object) = more.foldl put before := by
  induction objects with
  | nil => exact ⟨[], .nil, fun _ => rfl⟩
  | cons entries rest ih =>
      rw [List.forall_mem_cons] at directed
      obtain ⟨first, gives⟩ := exists_read_iff.mpr (.object directed.1)
      obtain ⟨others, placed, received⟩ := ih directed.2
      refine ⟨first ++ others, List.rel_append (read_eq_ok_iff.mp gives).2 placed, ?_⟩
      intro before
      rw [List.foldl_append, ← received, receive, List.map_cons, List.foldl_cons,
        record_of_read gives]
      rfl

/-- A list that is accepted acts like its objects sent one after another. -/
theorem record_list {items : List Json} (sorted : (Json.array items).IsSortOrder)
    (before : List SortKey) :
    record before (.array items) = (.ok (), receive before items) := by
  cases sorted with
  | @list objects directed =>
      obtain ⟨more, placed, received⟩ := exists_receive_objects directed
      rw [received]
      refine record_of_read (read_eq_ok_iff.mpr ⟨.list directed, ?_⟩) before
      rwa [Json.mentions_list]

/-- A sort order accepts the objects and lists of objects that give directions, in every state,
and keeps its sorts when it refuses a value.  After any values it has every mentioned field of the
accepted ones once, with the direction of the last mention, in the order of these mentions, and
renders them so.  A list that is accepted leaves what its objects leave one after another. -/
theorem sorts_are_last_mentions :
    (∀ before value, (record before value).1 = .ok () ↔ value.IsSortOrder) ∧
    (∀ before value fault, (record before value).1 = .error fault →
      (record before value).2 = before) ∧
    (∀ values,
      ((receive [] values).map SortKey.field).Nodup ∧
      (∀ field, field ∈ (receive [] values).map SortKey.field ↔
        field ∈ (acceptedMentions values).map Prod.fst) ∧
      List.Forall₂ Means (lastMentions (acceptedMentions values)) (receive [] values) ∧
      ∃ texts, List.Forall₂ Renders (lastMentions (acceptedMentions values)) texts ∧
        toSql (receive [] values) = ",".intercalate texts) ∧
    ∀ before items, (Json.array items).IsSortOrder →
      record before (.array items) = (.ok (), receive before items) := by
  refine ⟨record_eq_ok_iff, fun _ _ _ => record_of_refused, fun values => ?_,
    fun before items sorted => record_list sorted before⟩
  have tells : Tells (acceptedMentions values) (receive [] values) :=
    tells_start.receive values
  have keyed : ∀ entry sort, Means entry sort → entry.1 = sort.field := fun _ _ => Means.field_eq
  exact ⟨nodup_of_lastMentions tells keyed, fun _ => mem_keys_of_lastMentions tells keyed, tells,
    tells.exists_toSql⟩

/-- Objects that mention a field twice. -/
def ageAroundName : List Json :=
  [.object [("age", .string "ASC")], .object [("name", .string "Desc")],
    .object [("age", .string "desc")]]

/-- A sort order whose second direction there is not. -/
def sideways : Json :=
  .object [("id", .string "asc"), ("age", .string "sideways")]

theorem sorts_of_ageAroundName :
    (record [⟨"id", .ascending⟩] sideways).2 = [⟨"id", .ascending⟩] ∧
    (Json.array ageAroundName).IsSortOrder ∧
    record [] (.array ageAroundName) = (.ok (), receive [] ageAroundName) ∧
    receive [] [sideways, .array ageAroundName] = [⟨"name", .descending⟩, ⟨"age", .descending⟩] ∧
    List.Forall₂ Means (lastMentions (acceptedMentions [sideways, .array ageAroundName]))
      [⟨"name", .descending⟩, ⟨"age", .descending⟩] ∧
    toSql (receive [] [sideways, .array ageAroundName]) = "name DESC,age DESC" := by
  obtain ⟨accepts, keeps, run, list⟩ := sorts_are_last_mentions
  have sorted : (Json.array ageAroundName).IsSortOrder := (accepts [] _).mp rfl
  have left : receive [] [sideways, .array ageAroundName] =
      [⟨"name", .descending⟩, ⟨"age", .descending⟩] := rfl
  obtain ⟨_, _, tells, _⟩ := run [sideways, .array ageAroundName]
  rw [left] at tells
  exact ⟨keeps _ _ _ rfl, sorted, list [] _ sorted, left, tells, by rw [left]; decide +kernel⟩

end OrderBy

end NodeGraph
