import Mathlib.Tactic.ByContra
import Mathlib.Tactic.MkIffOfInductiveProp
import NodeGraph.Store.MemoryStore

/-!
# Writes that fail

A table is created in place of one with its name, or it gets a row.  Such a write can fail for the
name of the table, for its columns and for the width of the row.  A failed write leaves all tables
as they were, with one exception: a table that is to be replaced is dropped before the columns of
the new one are looked at, so it is lost if these are refused.
-/

namespace NodeGraph

/-- A call that writes to a store. -/
inductive TableWrite where
  | create (table : String) (columns : List String)
  | insert (table : String) (row : List Cell)

/-- The name of the table that is written to. -/
def TableWrite.table : TableWrite → String
  | .create table _ => table
  | .insert table _ => table

namespace MemoryStore

open Statement

def perform (store : MemoryStore) : TableWrite → Except StoreFault Unit × MemoryStore
  | .create table columns => store.createTable table columns
  | .insert table row => store.insertRow table row

/-- The store without the tables of a name. -/
def without (store : MemoryStore) (name : String) : MemoryStore :=
  { store with tables := store.tables.filter fun table => !sameName table.name name }

/-- The names that a table can have. -/
@[mk_iff]
structure AllowsName (name : String) : Prop where
  noNull : '\x00' ∉ name.toList
  unreserved : ¬ "SQLITE_".toList <+: (upper name).toList

/-- The columns that a table can have: no two of them have one name in different cases. -/
@[mk_iff]
structure AllowsColumns (columns : List String) : Prop where
  noNull : ∀ column ∈ columns, '\x00' ∉ column.toList
  distinct : (columns.map upper).Nodup
  width_le : columns.length ≤ widthLimit

/-- The writes that fail, with the reason and the store that is left. -/
inductive Refuses (store : MemoryStore) : TableWrite → StoreFault → MemoryStore → Prop
  | noColumns (name : String) : Refuses store (.create name []) (.noColumns name) store
  | name {name : String} {columns : List String} (nonempty : columns ≠ [])
      (refused : ¬ AllowsName name) :
      Refuses store (.create name columns) (.notCreated name) store
  | columns {name : String} {columns : List String} (allowed : AllowsName name)
      (refused : ¬ AllowsColumns columns) :
      Refuses store (.create name columns) (.notCreated name) (store.without name)
  | missing {name : String} (row : List Cell) (missing : store.table? name = none) :
      Refuses store (.insert name row) (.notInserted name) store
  | width {name : String} {row : List Cell} {table : StoredTable}
      (found : store.table? name = some table) (differs : row.length ≠ table.columns.length) :
      Refuses store (.insert name row) (.notInserted name) store

/-- A write that drops a table and fails afterwards. -/
inductive Loses (store : MemoryStore) : TableWrite → Prop
  | columns {name : String} {columns : List String} (allowed : AllowsName name)
      (refused : ¬ AllowsColumns columns) (present : store.table? name ≠ none) :
      Loses store (.create name columns)

section Names

theorem repeatsColumn_eq_false_iff {columns : List String} :
    repeatsColumn columns = false ↔ (columns.map upper).Nodup := by
  induction columns with
  | nil => simp [repeatsColumn]
  | cons column rest ih =>
      have alike : rest.any (sameName column) = false ↔ upper column ∉ rest.map upper := by
        simp only [sameName, List.any_eq_false, beq_iff_eq, List.mem_map, not_exists, not_and]
        exact forall₂_congr fun other _ => not_congr eq_comm
      rw [repeatsColumn, Bool.or_eq_false_iff, ih, alike, List.map_cons, List.nodup_cons]

theorem refusesName_eq_false_iff {name : String} :
    (hasNull name || isReserved name) = false ↔ AllowsName name := by
  rw [Bool.or_eq_false_iff, allowsName_iff]
  unfold hasNull isReserved
  rw [← Bool.not_eq_true, ← Bool.not_eq_true, List.contains_iff_mem, List.isPrefixOf_iff_prefix]

theorem refusesColumns_eq_false_iff {columns : List String} :
    (columns.any hasNull || repeatsColumn columns ||
        decide (widthLimit < columns.length)) = false ↔ AllowsColumns columns := by
  have noNull : columns.any hasNull = false ↔ ∀ column ∈ columns, '\x00' ∉ column.toList := by
    simp [hasNull]
  rw [Bool.or_eq_false_iff, Bool.or_eq_false_iff, noNull, repeatsColumn_eq_false_iff,
    decide_eq_false_iff_not, Nat.not_lt, and_assoc, allowsColumns_iff]

instance (name : String) : Decidable (AllowsName name) :=
  decidable_of_iff _ refusesName_eq_false_iff

instance (columns : List String) : Decidable (AllowsColumns columns) :=
  decidable_of_iff _ refusesColumns_eq_false_iff

end Names

section Dropping

variable (store : MemoryStore) (name : String)

/-- A table that is dropped is gone under its name in any case, and no other is. -/
theorem table?_without (other : String) :
    (store.without name).table? other =
      if sameName other name then none else store.table? other := by
  unfold table? without
  rw [List.find?_filter]
  by_cases dropped : sameName other name = true
  · rw [if_pos dropped, List.find?_eq_none]
    simp only [sameName, beq_iff_eq] at dropped
    simp [sameName, dropped]
  · rw [if_neg dropped]
    congr 1
    funext table
    simp only [sameName, beq_iff_eq] at dropped
    by_cases found : upper table.name = upper other
    · simp [sameName, found, dropped]
    · simp [sameName, found]

theorem table?_congr {name other : String} (same : sameName name other = true) :
    store.table? name = store.table? other := by
  simp only [sameName, beq_iff_eq] at same
  simp [table?, sameName, same]

/-- Nothing is dropped exactly if no table has the name. -/
theorem without_eq_self_iff : store.without name = store ↔ store.table? name = none := by
  constructor
  · intro same
    rw [← same, table?_without]
    exact if_pos (beq_self_eq_true (upper name))
  · intro missing
    have kept : store.tables.filter (fun table => !sameName table.name name) = store.tables := by
      rw [List.filter_eq_self]
      intro table member
      simpa using List.find?_eq_none.mp missing table member
    rw [without, kept]

end Dropping

section Failing

variable {store after : MemoryStore} {fault : StoreFault} {name : String} {columns : List String}

/-- The name is checked before the old table is dropped, the columns after that. -/
theorem createTable_eq (nonempty : columns ≠ []) :
    store.createTable name columns =
      if AllowsName name then
        if AllowsColumns columns then
          (.ok (), { store.without name with
            tables := (store.without name).tables ++ [{ name, columns }] })
        else (.error (.notCreated name), store.without name)
      else (.error (.notCreated name), store) := by
  have named : ¬ columns.isEmpty = true := by simpa using nonempty
  rw [createTable, if_neg named]
  by_cases allowed : AllowsName name
  · have unrefused : ¬ (hasNull name || isReserved name) = true := by
      rw [refusesName_eq_false_iff.mpr allowed]
      exact Bool.false_ne_true
    rw [if_pos allowed, if_neg unrefused]
    by_cases fitting : AllowsColumns columns
    · rw [if_pos fitting, if_neg]
      · rfl
      · rw [refusesColumns_eq_false_iff.mpr fitting]
        exact Bool.false_ne_true
    · rw [if_neg fitting, if_pos]
      · rfl
      · exact Bool.not_eq_false _ ▸ mt refusesColumns_eq_false_iff.mp fitting
  · rw [if_neg allowed, if_pos]
    exact Bool.not_eq_false _ ▸ mt refusesName_eq_false_iff.mp allowed

theorem createTable_eq_error_iff :
    store.createTable name columns = (.error fault, after) ↔
      store.Refuses (.create name columns) fault after := by
  constructor
  · intro failed
    cases columns with
    | nil =>
        cases failed
        exact .noColumns name
    | cons column rest =>
        rw [createTable_eq (List.cons_ne_nil column rest)] at failed
        split at failed
        · rename_i allowed
          split at failed
          · cases failed
          · rename_i refused
            cases failed
            exact .columns allowed refused
        · rename_i refused
          cases failed
          exact .name (List.cons_ne_nil column rest) refused
  · intro refuses
    cases refuses with
    | noColumns => rfl
    | name nonempty refused => rw [createTable_eq nonempty, if_neg refused]
    | columns allowed refused =>
        have nonempty : columns ≠ [] := by
          rintro rfl
          exact refused (by decide)
        rw [createTable_eq nonempty, if_pos allowed, if_neg refused]

theorem insertRow_eq_error_iff {row : List Cell} :
    store.insertRow name row = (.error fault, after) ↔
      store.Refuses (.insert name row) fault after := by
  unfold insertRow
  constructor
  · intro failed
    split at failed
    · rename_i missing
      cases failed
      exact .missing row missing
    · rename_i table found
      split at failed
      · cases failed
      · rename_i differs
        cases failed
        exact .width found differs
  · intro refuses
    cases refuses with
    | missing _ missing => rw [missing]
    | width found differs =>
        rw [found]
        exact if_neg differs

theorem perform_eq_error_iff {write : TableWrite} :
    store.perform write = (.error fault, after) ↔ store.Refuses write fault after := by
  cases write with
  | create name columns => exact createTable_eq_error_iff
  | insert name row => exact insertRow_eq_error_iff

/-- A failed write leaves the store as it was, or it has dropped the table that it names. -/
theorem Refuses.after_eq {write : TableWrite} (refuses : store.Refuses write fault after) :
    ¬ store.Loses write ∧ after = store ∨
      store.Loses write ∧ after = store.without write.table := by
  cases refuses with
  | noColumns name =>
      refine .inl ⟨?_, rfl⟩
      rintro ⟨_, refused, _⟩
      exact refused (by decide)
  | name nonempty refused =>
      refine .inl ⟨?_, rfl⟩
      rintro ⟨allowed, _, _⟩
      exact refused allowed
  | @columns name columns allowed refused =>
      by_cases missing : store.table? name = none
      · refine .inl ⟨?_, (without_eq_self_iff store _).mpr missing⟩
        rintro ⟨_, _, present⟩
        exact present missing
      · exact .inr ⟨.columns allowed refused missing, rfl⟩
  | missing row missing =>
      refine .inl ⟨?_, rfl⟩
      rintro ⟨⟩
  | width found differs =>
      refine .inl ⟨?_, rfl⟩
      rintro ⟨⟩

/-- A write that fails has one of the reasons above.  It leaves the store as it was unless it
drops a table before it fails; then this table is gone, and every other has the columns and rows
that it had. -/
theorem failed_write_keeps_tables {write : TableWrite}
    (failed : store.perform write = (.error fault, after)) :
    store.Refuses write fault after ∧ (after = store ↔ ¬ store.Loses write) ∧
      (∀ name, after.table? name ≠ store.table? name ↔
        store.Loses write ∧ sameName name write.table = true) ∧
      (∀ name, after.table? name = store.table? name ∨ after.table? name = none) ∧
      after.executed = store.executed ∧ after.failure = store.failure := by
  have refuses := perform_eq_error_iff.mp failed
  rcases refuses.after_eq with ⟨kept, rfl⟩ | ⟨lost, rfl⟩
  · exact ⟨refuses, by simp [kept], by simp [kept], fun _ => .inl rfl, rfl, rfl⟩
  · have present : store.table? write.table ≠ none := by
      obtain ⟨_, _, present⟩ := lost
      exact present
    refine ⟨refuses, ?_, ?_, ?_, rfl, rfl⟩
    · simpa [lost, without_eq_self_iff] using present
    · intro name
      rw [table?_without]
      by_cases same : sameName name write.table = true
      · rw [if_pos same, table?_congr store same]
        exact ⟨fun _ => ⟨lost, same⟩, fun _ => present.symm⟩
      · rw [if_neg same]
        exact ⟨fun changed => absurd rfl changed, fun both => absurd both.2 same⟩
    · intro name
      rw [table?_without]
      split
      · exact .inr rfl
      · exact .inl rfl

end Failing

end MemoryStore

namespace Party

/-- Guests and dishes, each with a row. -/
def party : MemoryStore where
  tables :=
    [{ name := "guests", columns := ["id", "name"], rows := [[.integer 1, .text "ada"]] },
      { name := "dishes", columns := ["name"], rows := [[.text "soup"]] }]

/-- Guests anew, with a column that is named twice. -/
def newGuests : TableWrite := .create "Guests" ["id", "ID"]

theorem newGuests_refused :
    party.perform newGuests = (.error (.notCreated "Guests"), party.without "Guests") :=
  MemoryStore.perform_eq_error_iff.mpr (.columns (by decide) (by decide))

theorem guests_lost_dishes_kept :
    ∃ after, party.perform newGuests = (.error (.notCreated "Guests"), after) ∧
      party.Loses newGuests ∧ after ≠ party ∧ after.table? "GUESTS" ≠ party.table? "GUESTS" ∧
      after.table? "dishes" = party.table? "dishes" := by
  obtain ⟨_, unchanged, changed, _⟩ := MemoryStore.failed_write_keeps_tables newGuests_refused
  have lost : party.Loses newGuests := .columns (by decide) (by decide) (by decide)
  refine ⟨_, newGuests_refused, lost, fun same => unchanged.mp same lost, ?_, ?_⟩
  · exact (changed "GUESTS").mpr ⟨lost, by decide⟩
  · by_contra different
    exact absurd ((changed "dishes").mp different).2 (by decide)

/-- The guests do not have the columns and rows that they had before the write that failed. -/
theorem failed_write_loses_guests :
    ∃ after, party.perform newGuests = (.error (.notCreated "Guests"), after) ∧
      party.table? "guests" =
        some { name := "guests", columns := ["id", "name"], rows := [[.integer 1, .text "ada"]] } ∧
      after.table? "guests" = none :=
  ⟨party.without "Guests", newGuests_refused, by decide, by decide⟩

end Party

end NodeGraph
