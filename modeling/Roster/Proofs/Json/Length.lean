import Roster.Proofs.Json.Form

/-!
How long texts are: no shorter than what they spell. What stands in a list or an object is spelled
in it, so that a long part makes for a long text.
-/

namespace Roster.Json

/-- Characters take no fewer bytes than there are of them. -/
theorem length_le_size_bytes (text : List Char) : text.length ≤ text.utf8Encode.size := by
  -- Every character takes at least one byte.
  induction text with
  | nil => simp
  | cons c rest ih =>
    have size : [c].utf8Encode.size = c.utf8Size := by
      rw [List.utf8Encode_singleton, List.size_toByteArray, String.length_utf8EncodeChar]
    have positive := c.utf8Size_pos
    rw [List.utf8Encode_cons, ByteArray.size_append, size, List.length_cons]
    omega

/-- Every character of a text in quotes is spelled. -/
theorem length_le_length_flatMap_escapeChar (text : List Char) :
    text.length ≤ (text.flatMap escapeChar).length := by
  have spelled (c : Char) : 0 < (escapeChar c).length := by
    unfold escapeChar
    -- However a character is escaped, something is written for it.
    repeat' split
    all_goals simp
  induction text with
  | nil => simp
  | cons c rest ih =>
    have positive := spelled c
    rw [List.flatMap_cons, List.length_append, List.length_cons]
    omega

/-- In quotes, a text is longer than before. -/
theorem length_lt_length_chars_str (text : String) : text.length < (str text).chars.length := by
  -- The quotes are added to characters that escaping only makes longer.
  have inside := length_le_length_flatMap_escapeChar text.toList
  rw [String.length_toList] at inside
  simp only [chars, quote, List.length_append, List.length_cons]
  omega

/-- An object is longer than each value in it. -/
theorem length_chars_lt_of_member {members : List (String × Json)} (name : String) {value : Json}
    (member : (name, value) ∈ members) : value.chars.length < (obj members).chars.length := by
  have inside : value.chars.length ≤ (memberChars members).length := by
    induction members with
    | nil => cases member
    | cons first rest ih =>
      obtain ⟨key, other⟩ := first
      rw [memberChars_cons, List.length_append, List.length_cons, List.length_append]
      rcases List.mem_cons.1 member with same | later
      · cases same
        omega
      · have within := ih later
        -- There are members behind the first one, and a comma in front of them.
        have more : rest.isEmpty = false :=
          List.isEmpty_eq_false_iff.2 (List.ne_nil_of_mem later)
        simp only [more, Bool.false_eq_true, if_false, List.length_cons]
        omega
  simp only [chars, List.length_append, List.length_cons]
  omega

/-- A list is longer than all items in it together. -/
theorem length_flatMap_chars_lt_arr (items : List Json) :
    (items.flatMap chars).length < (arr items).chars.length := by
  have inside : (items.flatMap chars).length ≤ (itemChars items).length := by
    induction items with
    | nil => simp
    | cons item rest ih =>
      -- Only between items there is a comma.
      cases rest with
      | nil => simp [itemChars]
      | cons next rest =>
        rw [itemChars, List.flatMap_cons, List.length_append, List.length_append, List.length_cons]
        omega
  simp only [chars, List.length_append, List.length_cons]
  omega

/-- The bytes of a compact text are no fewer than its characters. -/
theorem length_chars_le_size_compact (json : Json) :
    json.chars.length ≤ json.compact.toUTF8.size := by
  -- The compact text is these characters and nothing else.
  rw [compact, String.toUTF8_eq_toByteArray, String.toByteArray_ofList]
  exact length_le_size_bytes json.chars

end Roster.Json
