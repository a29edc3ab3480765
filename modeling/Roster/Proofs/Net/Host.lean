import Roster.Net.Host
import Roster.Proofs.Net.Address
import Roster.Proofs.Wire

/-!
Hosts that are spelled by the text of an address. Four numbers with points between them pass the
decoding of percent signs and the mapping of names unchanged and are read as the octets they spell;
groups in brackets are read as the groups, in either spelling of an address that stands for one of
version 4.
-/

namespace Roster

/-- What stands in a part stands in the parts put together. -/
theorem mem_intercalate_of_mem {α : Type} {separator part : List α} {parts : List (List α)} {x : α}
    (inside : x ∈ part) (listed : part ∈ parts) : x ∈ separator.intercalate parts := by
  -- Induction on the parts. A single part stands without a separator, so it is a case of its own.
  induction parts with
  | nil => cases listed
  | cons first rest ih =>
    cases rest with
    | nil =>
      obtain rfl := List.mem_singleton.1 listed
      simpa using inside
    | cons next rest =>
      rw [List.intercalate_cons_cons, List.mem_append]
      rcases List.mem_cons.1 listed with rfl | later
      · exact .inl (List.mem_append_left _ inside)
      · exact .inr (ih later)

/-- What stands in parts put together stands between them or in one of them. -/
theorem mem_of_mem_intercalate {α : Type} {separator : List α} {parts : List (List α)} {x : α}
    (inside : x ∈ separator.intercalate parts) : x ∈ separator ∨ ∃ part ∈ parts, x ∈ part := by
  -- The same cases as for the converse: the separator appears from the second part on.
  induction parts with
  | nil => cases inside
  | cons first rest ih =>
    cases rest with
    | nil => exact .inr ⟨first, List.mem_cons_self, by simpa using inside⟩
    | cons next rest =>
      rw [List.intercalate_cons_cons, List.mem_append, List.mem_append] at inside
      rcases inside with (here | between) | later
      · exact .inr ⟨first, List.mem_cons_self, here⟩
      · exact .inl between
      · rcases ih later with between | ⟨part, listed, there⟩
        · exact .inl between
        · exact .inr ⟨part, List.mem_cons_of_mem _ listed, there⟩

namespace Percent

/-- The bytes of an array from a place on are listed behind those that are listed already. -/
theorem toList_loop (bytes : ByteArray) (place : Nat) (listed : List UInt8) :
    ByteArray.toList.loop bytes place listed = listed.reverse ++ bytes.data.toList.drop place := by
  -- The loop gathers bytes in reverse from its place on, so what it returns is what was gathered
  -- before and then the rest of the array.
  fun_induction ByteArray.toList.loop bytes place listed with
  | case1 place listed inside ih =>
    have within : place < bytes.data.toList.length := inside
    have byte : bytes.get! place = bytes.data.toList[place] := getElem!_pos bytes.data place inside
    rw [ih, List.drop_eq_getElem_cons within, byte]
    simp
  | case2 place listed beyond =>
    have all : bytes.data.toList.length ≤ place := Nat.le_of_not_lt beyond
    simp [List.drop_eq_nil_of_le all]

/-- The bytes of an array in a list. -/
theorem toList_eq (bytes : ByteArray) : bytes.toList = bytes.data.toList := by
  -- The loop starts with nothing gathered, at the front.
  rw [ByteArray.toList, toList_loop]
  rfl

/-- The byte of a percent sign is in no other character. -/
theorem eq_percent_of_mem {c : Char} (member : 37 ∈ String.utf8EncodeChar c) : c = '%' := by
  have bound : c.toNat < 2 ^ 32 := c.val.toNat_lt
  have number : c.toNat = 37 := by
    -- Beyond ASCII all bytes are from 128 on.
    have bytes : String.utf8EncodeChar c =
      if c.toNat ≤ 127 then [UInt8.ofNat c.toNat]
      else if c.toNat ≤ 2047 then
        [UInt8.ofNat (c.toNat / 64 % 32 + 192), UInt8.ofNat (c.toNat % 64 + 128)]
      else if c.toNat ≤ 65535 then
        [UInt8.ofNat (c.toNat / 4096 % 16 + 224), UInt8.ofNat (c.toNat / 64 % 64 + 128),
          UInt8.ofNat (c.toNat % 64 + 128)]
      else
        [UInt8.ofNat (c.toNat / 262144 % 8 + 240), UInt8.ofNat (c.toNat / 4096 % 64 + 128),
          UInt8.ofNat (c.toNat / 64 % 64 + 128), UInt8.ofNat (c.toNat % 64 + 128)] := rfl
    rw [bytes] at member
    split_ifs at member <;>
      simp only [List.mem_cons, List.not_mem_nil, or_false, ← UInt8.toNat_inj,
        UInt8.toNat_ofNat', UInt8.reduceToNat] at member <;> omega
  exact Char.ext (UInt32.toNat_inj.1 number)

/-- Bytes without a percent sign stay as they are. -/
theorem decodeBytes_of_not_mem {bytes : List UInt8} (plain : 37 ∉ bytes) :
    decodeBytes bytes = bytes := by
  -- Only a percent sign starts an escape; without one each byte stands for itself.
  fun_induction decodeBytes bytes with
  | case1 => simp at plain
  | case2 => simp at plain
  | case3 byte rest _ ih => rw [ih fun later => plain (List.mem_cons_of_mem _ later)]
  | case4 => rfl

/-- A text without a percent sign stays as it is. -/
theorem decode?_of_not_mem {text : List Char} (plain : '%' ∉ text) :
    decode? (String.ofList text) = some (String.ofList text) := by
  have bytes : (String.ofList text).toUTF8.toList = text.flatMap String.utf8EncodeChar := by
    rw [toList_eq]
    simp [List.utf8Encode]
  have same : decodeBytes (String.ofList text).toUTF8.toList =
      (String.ofList text).toUTF8.toList := by
    -- A percent byte in the encoding comes from a percent sign in the text alone, since the bytes
    -- of longer encodings are all above the plain ones.
    refine decodeBytes_of_not_mem fun percent => ?_
    rw [bytes, List.mem_flatMap] at percent
    obtain ⟨c, member, percent⟩ := percent
    exact plain (eq_percent_of_mem percent ▸ member)
  rw [decode?, same, toList_eq, Array.toArray_toList]
  exact fromUTF8?_toUTF8 _

end Percent

namespace Address

/-- The range of the digits. -/
theorem range_of_isDigit {c : Char} (digit : c.isDigit) : '0' ≤ c ∧ c ≤ '9' := by
  -- The standard test is the two bounds joined.
  simp only [Char.isDigit, Bool.and_eq_true, decide_eq_true_eq] at digit
  exact digit

/-- A digit has a value below ten. -/
theorem digitValue?_lt_of_isDigit {c : Char} (digit : c.isDigit) :
    (digitValue? c).any (· < 10) = true := by
  -- A digit's value is its distance from zero's code, at most nine.
  have range := range_of_isDigit digit
  have high : c.toNat ≤ 57 := range.2
  simp only [digitValue?, if_pos range, Option.any_some, decide_eq_true_eq]
  omega

/-- Four octets are written in digits and points. -/
theorem isDigit_or_of_mem_dotted {octets : Vector UInt8 4} {c : Char}
    (member : c ∈ dotted octets) : c.isDigit ∨ c = '.' := by
  -- A character is either one of the points between the octets or a digit of one of them.
  rcases mem_of_mem_intercalate member with point | ⟨part, listed, inside⟩
  · exact .inr (List.mem_singleton.1 point)
  · obtain ⟨octet, -, rfl⟩ := List.mem_map.1 listed
    exact .inl (isDigit_of_mem_digitText inside)

end Address

namespace Domain

/-- The mapping of names leaves digits and points as they are. -/
theorem toAscii?_of_numeric {text : List Char} (numeric : ∀ c ∈ text, c.isDigit ∨ c = '.') :
    toAscii? (text.map Char.toNat) = some text := by
  have range : ∀ c ∈ text, 46 ≤ c.toNat ∧ c.toNat ≤ 57 := by
    intro c member
    rcases numeric c member with digit | rfl
    · have low : 48 ≤ c.toNat := (Address.range_of_isDigit digit).1
      have high : c.toNat ≤ 57 := (Address.range_of_isDigit digit).2
      omega
    · decide
  have numbers : ∀ n ∈ text.map Char.toNat, 46 ≤ n ∧ n ≤ 57 := by
    simpa only [List.forall_mem_map] using range
  -- There are no letters, so none is put in lower case.
  have same : lowered (text.map Char.toNat) = text.map Char.toNat := by
    refine (List.map_congr_left fun n member => ?_).trans (List.map_id _)
    have bound := numbers n member
    exact if_neg (by omega)
  -- Without a letter x no part is an encoded one.
  have plain : isPlain (text.map Char.toNat) = true := by
    simp only [isPlain, Bool.and_eq_true, List.all_eq_true, decide_eq_true_eq, Bool.not_eq_true',
      List.any_eq_false]
    refine ⟨fun n member => ?_, fun part listed encoded => ?_⟩
    · have bound := numbers n member
      omega
    · have letter : 120 ∈ part := (List.isPrefixOf_iff_prefix.1 encoded).subset (by decide)
      have inside : 120 ∈ [0x2E].intercalate (parts (text.map Char.toNat)) :=
        mem_intercalate_of_mem letter listed
      rw [parts, List.intercalate_splitOn] at inside
      have bound := numbers 120 inside
      omega
  have allowed : text.any isForbidden = false := by
    rw [List.any_eq_false]
    intro c member forbidden
    simp only [isForbidden, Bool.or_eq_true, decide_eq_true_eq, List.contains_iff_mem] at forbidden
    rcases forbidden with (blank | rfl) | mark
    · have low : c.toNat ≤ 32 := blank
      have bound := range c member
      omega
    · exact absurd (numeric _ member) (by decide)
    · -- None of the marks is a digit or a point.
      have others : ∀ d ∈ "%#/:<>?@[\\]^|".toList, ¬(d.isDigit ∨ d = '.') := by simp
      exact others c mark (numeric c member)
  have back : (text.map Char.toNat).map Char.ofNat = text := by
    rw [List.map_map]
    exact List.map_id'' Char.ofNat_toNat text
  rw [toAscii?, same, if_pos plain, back, allowed?, allowed]
  rfl

end Domain

namespace Host

open Address

/-- The digits of a number spell it, since no zero stands in front that would make it octal. -/
theorem number?_digitText (n : Nat) : number? (digitText 10 n) = some n := by
  have isDigit : ∀ c ∈ digitText 10 n, c.isDigit := fun c member =>
    isDigit_of_mem_digitText member
  have decimal : ((digitText 10 n).all fun c => (digitValue? c).any (· < 10)) = true :=
    List.all_eq_true.2 fun c member => digitValue?_lt_of_isDigit (isDigit c member)
  have number := digitNumber_digitText (by decide) (by decide : (10 : Nat) ≤ 16) n
  unfold number?
  split
  · rename_i empty
    exact absurd empty Nat.toDigits_ne_nil
  -- The letters in front of hexadecimal digits are no digits.
  · rename_i digits text
    exact absurd (isDigit 'x' (text ▸ List.mem_cons_of_mem _ List.mem_cons_self)) (by decide)
  · rename_i digits text
    exact absurd (isDigit 'X' (text ▸ List.mem_cons_of_mem _ List.mem_cons_self)) (by decide)
  · rename_i c digits _ _ text
    obtain rfl : n = 0 := head?_digitText (by decide) (by decide : (10 : Nat) ≤ 16) (text ▸ rfl)
    cases text
  · simp only [decimal, if_true, number]

/-- Four numbers of one octet each make up the address with these octets. -/
theorem ofNumbers?_octets (a b c d : UInt8) :
    ofNumbers? [a.toNat, b.toNat, c.toNat] d.toNat = some (.v4 #v[a, b, c, d]) := by
  have first := And.intro a.toNat_lt b.toNat_lt
  have second := And.intro c.toNat_lt d.toNat_lt
  have fits : ¬(3 < 3 ∨ [a.toNat, b.toNat, c.toNat].any (255 < ·) ∨ 256 ≤ d.toNat) := by
    simp only [List.any_cons, List.any_nil, Bool.or_false, Bool.or_eq_true, decide_eq_true_eq]
    omega
  let bits := (((0 * 256 + a.toNat) * 256 + b.toNat) * 256 + c.toNat) * 256 + d.toNat
  -- Shifted to the right, the number ends in one octet after the other.
  have last {n : Nat} {octet : UInt8} (same : n % 256 = octet.toNat) :
      UInt8.ofNat (n % 256) = octet := by
    rw [same, UInt8.ofNat_toNat]
  have one : UInt8.ofNat (bits / 16777216 % 256) = a := last (by omega)
  have two : UInt8.ofNat (bits / 65536 % 256) = b := last (by omega)
  have three : UInt8.ofNat (bits / 256 % 256) = c := last (by omega)
  have four : UInt8.ofNat (bits / 1 % 256) = d := last (by omega)
  calc ofNumbers? [a.toNat, b.toNat, c.toNat] d.toNat
    _ = some (.v4 #v[UInt8.ofNat (bits / 16777216 % 256), UInt8.ofNat (bits / 65536 % 256),
          UInt8.ofNat (bits / 256 % 256), UInt8.ofNat (bits / 1 % 256)]) := if_neg fits
    _ = some (.v4 #v[a, b, c, d]) := by rw [one, two, three, four]

/-- The parts of four octets with points between them are the digits of each. -/
theorem numericParts_dotted (octets : Vector UInt8 4) :
    numericParts (dotted octets) = octets.toList.map fun octet => digitText 10 octet.toNat := by
  have parts : (dotted octets).splitOn '.' =
      octets.toList.map fun octet => digitText 10 octet.toNat := by
    refine List.splitOn_intercalate '.' (fun part listed point => ?_) fun empty => ?_
    · obtain ⟨octet, -, rfl⟩ := List.mem_map.1 listed
      exact absurd (isDigit_of_mem_digitText point) (by decide)
    · have size := congrArg List.length empty
      simp at size
  -- The last part is not empty.
  have some : (octets.toList.map fun octet => digitText 10 octet.toNat).getLast? ≠ some [] := by
    intro last
    obtain ⟨octet, -, empty⟩ := List.mem_map.1 (List.mem_of_getLast? last)
    exact Nat.toDigits_ne_nil empty
  rw [numericParts, parts]
  exact if_neg some

/-- A text of four octets has to be an address. -/
theorem endsInNumber_dotted (octets : Vector UInt8 4) : endsInNumber (dotted octets) = true := by
  -- Four parts are never empty, and the last of them is digits, which is all that is asked.
  unfold endsInNumber
  rw [numericParts_dotted]
  split
  · rename_i none
    have size := congrArg List.length (List.getLast?_eq_none_iff.1 none)
    simp at size
  · rename_i part last
    obtain ⟨octet, -, rfl⟩ := List.mem_map.1 (List.mem_of_getLast? last)
    simp [number?_digitText]

/-- A text of four octets is read as these octets. -/
theorem numeric?_dotted (octets : Vector UInt8 4) :
    numeric? (dotted octets) = some (.v4 octets) := by
  unfold numeric?
  rw [numericParts_dotted]
  obtain ⟨⟨list⟩, size⟩ := octets
  -- Each part is a number below 256, so none spills over into the octets before it.
  match list, size with
  | [a, b, c, d], _ =>
    simp only [Vector.toList_mk, List.map_cons, List.map_nil, List.mapM_cons, List.mapM_nil,
      number?_digitText, Option.pure_def, Option.bind_eq_bind, Option.bind_some]
    exact ofNumbers?_octets a b c d

/-- Four octets in a host are read as the address with these octets. -/
theorem parse?_dotted (octets : Vector UInt8 4) :
    parse? (dotted octets) = some (.address (.v4 octets)) := by
  -- The text has no bracket, no percent sign and no letter, so it comes to the test for a number as
  -- it was written.
  have numeric : ∀ c ∈ dotted octets, c.isDigit ∨ c = '.' := fun c => isDigit_or_of_mem_dotted
  have plain : '%' ∉ dotted octets := fun percent => absurd (numeric '%' percent) (by decide)
  have some : (dotted octets).isEmpty = false := by
    rw [List.isEmpty_eq_false_iff]
    intro empty
    have read := readDotted_dotted_nil octets
    rw [empty] at read
    cases read
  unfold parse?
  split
  · rename_i rest text
    exact absurd (numeric '[' (text ▸ List.mem_cons_self)) (by decide)
  · rw [Percent.decode?_of_not_mem plain]
    simp only [Option.bind_eq_bind, Option.bind_some, String.toList_ofList,
      Domain.toAscii?_of_numeric numeric, some, Bool.false_eq_true, if_false,
      endsInNumber_dotted, if_true, numeric?_dotted, Option.pure_def]

/-- The text of eight groups in brackets is read as the address with these groups. -/
theorem parse?_brackets (groups : Vector UInt16 8) :
    parse? ('[' :: ((Address.v6 groups).text.toList ++ [']'])) =
      some (.address (.v6 groups)) := by
  -- The brackets are taken off and the groups read between them.
  show bracketed? ((Address.v6 groups).text.toList ++ [']']) = _
  rw [bracketed?, List.getLast?_concat, if_pos rfl, List.dropLast_concat, parseGroups?_text]
  rfl

/-- What a host that is an address is written as, with an address of version 6 in groups alone,
reads back as the address. -/
theorem parse?_bare (address : Address) :
    Address.parse? (bare (.address address)) = some address := by
  -- Without its brackets a host of groups is the compressed text, which holds no dotted octets.
  cases address with
  | v4 octets => exact Address.parse?_text (.v4 octets)
  | v6 groups =>
    simp [Address.parse?, bare, parseOctets?_compressed, parseGroups?_compressed]

end Host

end Roster
