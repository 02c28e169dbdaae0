import Mathlib.Data.List.Induction
import Mathlib.Data.List.Nodup
import NodeGraph.Json.Value

/-!
# Objects written entry by entry

An object that is written from entries has their distinct keys in order of first
appearance, and under each key the value of its last entry.
-/

namespace NodeGraph

namespace JsonObject

/-- The last entry with a key decides the value under it. -/
def LastWins (entries : List (String × Json)) (fields : JsonObject) : Prop :=
  ∀ front key value back, entries = front ++ (key, value) :: back →
    key ∉ back.map Prod.fst → find? fields key = some value

/-- An entry whose key no later entry has holds what an object has under the key. -/
theorem LastWins.value_eq {front back : List (String × Json)} {entry : String × Json}
    {fields : JsonObject} {value : Json} (last : LastWins (front ++ entry :: back) fields)
    (unrepeated : entry.1 ∉ back.map Prod.fst) (held : find? fields entry.1 = some value) :
    entry.2 = value :=
  Option.some.inj ((last front entry.1 entry.2 back rfl unrepeated).symm.trans held)

/-- Two objects are equal if they have the same keys in the same order and hold the same under
each. -/
theorem eq_of_find?_eq {first second : JsonObject} (distinct : (keys first).Nodup)
    (sameKeys : keys first = keys second)
    (sameValues : ∀ key ∈ keys first, find? first key = find? second key) : first = second := by
  induction first generalizing second with
  | nil => exact (List.map_eq_nil_iff.mp sameKeys.symm).symm
  | cons entry rest ih =>
      obtain ⟨key, value⟩ := entry
      cases second with
      | nil => cases sameKeys
      | cons other others =>
          obtain ⟨otherKey, otherValue⟩ := other
          obtain ⟨fresh, distinct⟩ := List.nodup_cons.mp distinct
          obtain ⟨rfl, sameRest⟩ := List.cons.inj sameKeys
          have sameValue : value = otherValue := by
            simpa [find?] using sameValues key (List.mem_cons_self ..)
          have restEq : rest = others := by
            apply ih distinct sameRest
            intro name member
            have different : (name == key) = false := by
              rw [beq_eq_false_iff_ne]
              rintro rfl
              exact fresh member
            have found := sameValues name (List.mem_cons_of_mem _ member)
            simpa only [find?, List.lookup_cons, different] using found
          rw [sameValue, restEq]

theorem ofEntries_concat (entries : List (String × Json)) (entry : String × Json) :
    ofEntries (entries ++ [entry]) = insert entry.1 entry.2 (ofEntries entries) := by
  simp [ofEntries]

/-- The keys are those of the entries, each where it first appears. -/
theorem keys_ofEntries (entries : List (String × Json)) :
    keys (ofEntries entries) = (entries.map Prod.fst).eraseDups := by
  induction entries using List.reverseRecOn with
  | nil => rfl
  | append_singleton entries entry ih =>
      rw [ofEntries_concat, keys_insert, ih, List.map_append, List.eraseDups_append]
      by_cases known : entry.1 ∈ entries.map Prod.fst
      · rw [if_pos (List.mem_eraseDups.mpr known)]
        simp [List.removeAll, known]
      · rw [if_neg (mt List.mem_eraseDups.mp known)]
        simp [List.removeAll, known, List.eraseDups_cons]

theorem nodup_keys_ofEntries (entries : List (String × Json)) :
    (keys (ofEntries entries)).Nodup := by
  induction entries using List.reverseRecOn with
  | nil => exact List.nodup_nil
  | append_singleton entries entry ih =>
      rw [ofEntries_concat, keys_insert]
      split
      · exact ih
      · rename_i new
        rw [← List.concat_eq_append]
        exact List.Nodup.concat new ih

theorem find?_ofEntries (entries : List (String × Json)) (key : String) :
    find? (ofEntries entries) key = entries.reverse.lookup key := by
  induction entries using List.reverseRecOn with
  | nil => rfl
  | append_singleton entries entry ih =>
      obtain ⟨name, value⟩ := entry
      rw [ofEntries_concat, List.reverse_append, List.reverse_singleton,
        List.singleton_append, List.lookup_cons]
      by_cases same : key = name
      · rw [same, find?_insert_self, beq_self_eq_true]
      · rw [find?_insert_of_ne _ _ same, ih, beq_false_of_ne same]

theorem lastWins_ofEntries (entries : List (String × Json)) :
    LastWins entries (ofEntries entries) := by
  rintro front key value back rfl later
  rw [find?_ofEntries, List.reverse_append, List.reverse_cons, List.append_assoc,
    List.lookup_eq_some_iff]
  refine ⟨back.reverse, front.reverse, by simp, ?_⟩
  intro entry member
  rw [bne_iff_ne]
  rintro rfl
  exact later (List.mem_map_of_mem (List.mem_reverse.mp member))

end JsonObject

end NodeGraph
