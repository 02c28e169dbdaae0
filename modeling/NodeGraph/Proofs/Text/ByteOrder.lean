import NodeGraph.Text.Utf8
import Mathlib.Data.List.Basic

/-!
# The order of texts by their bytes

Comparing texts character by character is comparing the bytes that encode them: of two
characters the smaller one has the smaller encoding, and neither encoding begins the other.
-/

namespace NodeGraph

namespace Text

open String (utf8EncodeChar)

theorem toList_loop (bytes : ByteArray) (position : Nat) (taken : List UInt8) :
    ByteArray.toList.loop bytes position taken =
      taken.reverse ++ bytes.data.toList.drop position := by
  fun_induction ByteArray.toList.loop bytes position taken with
  | case1 position taken more ih =>
      have bound : position < bytes.data.toList.length := by simpa using more
      rw [ih, List.drop_eq_getElem_cons bound]
      simp [ByteArray.get!, more]
  | case2 position taken done =>
      rw [List.drop_eq_nil_of_le (by simpa using Nat.le_of_not_lt done), List.append_nil]

/-- The bytes of a text are those of its characters, one after another. -/
theorem utf8Bytes_eq (text : String) :
    utf8Bytes text = text.toList.flatMap utf8EncodeChar := by
  conv => lhs; rw [← String.ofList_toList (s := text)]
  rw [utf8Bytes, String.toUTF8_eq_toByteArray, ByteArray.toList, toList_loop]
  exact List.toList_data_toByteArray

section Bytes

variable {first second : Nat} {rest others : List UInt8}

theorem ofNat_cons_lt (less : first < second) (bound : second < 256) :
    UInt8.ofNat first :: rest < UInt8.ofNat second :: others := by
  refine List.cons_lt_cons_iff.mpr (.inl ?_)
  rw [UInt8.lt_iff_toNat_lt, UInt8.toNat_ofNat', UInt8.toNat_ofNat']
  omega

/-- Bytes that are not greater leave the decision to the rest only if they are equal. -/
theorem ofNat_cons_lt_of_le (notGreater : first ≤ second) (bound : second < 256)
    (decided : first = second → rest < others) :
    UInt8.ofNat first :: rest < UInt8.ofNat second :: others := by
  rcases Nat.lt_or_eq_of_le notGreater with less | rfl
  · exact ofNat_cons_lt less bound
  · exact List.cons_lt_cons_iff.mpr (.inr ⟨rfl, decided rfl⟩)

end Bytes

/-- The encoding of a smaller character comes first, whatever follows the two encodings. -/
theorem utf8EncodeChar_append_lt {first second : Char} (less : first < second)
    (rest others : List UInt8) :
    utf8EncodeChar first ++ rest < utf8EncodeChar second ++ others := by
  have codes : first.val.toNat < second.val.toNat := less
  have bounded : second.val.toNat < 1114112 := by
    rcases second.valid with low | ⟨_, high⟩ <;> omega
  unfold utf8EncodeChar
  generalize first.val.toNat = code at codes
  generalize second.val.toNat = other at codes bounded
  dsimp only
  -- encodings of different lengths differ in the first byte, which tells the length
  split_ifs <;> try omega
  all_goals simp only [List.cons_append, List.nil_append]
  · exact ofNat_cons_lt (by omega) (by omega)
  · exact ofNat_cons_lt (by omega) (by omega)
  · exact ofNat_cons_lt (by omega) (by omega)
  · exact ofNat_cons_lt (by omega) (by omega)
  · refine ofNat_cons_lt_of_le (by omega) (by omega) fun leads => ?_
    exact ofNat_cons_lt (by omega) (by omega)
  · exact ofNat_cons_lt (by omega) (by omega)
  · exact ofNat_cons_lt (by omega) (by omega)
  · refine ofNat_cons_lt_of_le (by omega) (by omega) fun leads => ?_
    refine ofNat_cons_lt_of_le (by omega) (by omega) fun seconds => ?_
    exact ofNat_cons_lt (by omega) (by omega)
  · exact ofNat_cons_lt (by omega) (by omega)
  · refine ofNat_cons_lt_of_le (by omega) (by omega) fun leads => ?_
    refine ofNat_cons_lt_of_le (by omega) (by omega) fun seconds => ?_
    refine ofNat_cons_lt_of_le (by omega) (by omega) fun thirds => ?_
    exact ofNat_cons_lt (by omega) (by omega)

theorem utf8EncodeChar_ne_nil (c : Char) : utf8EncodeChar c ≠ [] := by
  unfold utf8EncodeChar
  dsimp only
  split_ifs <;> simp

theorem flatMap_utf8EncodeChar_lt {first second : List Char} (less : first < second) :
    first.flatMap utf8EncodeChar < second.flatMap utf8EncodeChar := by
  induction first generalizing second with
  | nil =>
      cases second with
      | nil => exact absurd less (List.not_lt_nil [])
      | cons c rest =>
          rw [List.flatMap_cons]
          obtain ⟨byte, bytes, encoded⟩ := List.exists_cons_of_ne_nil (utf8EncodeChar_ne_nil c)
          rw [encoded]
          exact List.nil_lt_cons byte _
  | cons c rest ih =>
      cases second with
      | nil => exact absurd less (List.not_lt_nil _)
      | cons d others =>
          rw [List.flatMap_cons, List.flatMap_cons]
          rcases List.cons_lt_cons_iff.mp less with smaller | ⟨rfl, later⟩
          · exact utf8EncodeChar_append_lt smaller _ _
          · exact List.append_left_lt (ih later)

/-- A smaller text has the smaller bytes. -/
theorem utf8Bytes_lt_of_lt {first second : String} (less : first < second) :
    utf8Bytes first < utf8Bytes second := by
  rw [utf8Bytes_eq, utf8Bytes_eq]
  exact flatMap_utf8EncodeChar_lt (String.lt_iff.mp less)

end Text

end NodeGraph
