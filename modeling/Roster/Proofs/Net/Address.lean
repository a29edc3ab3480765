import Roster.Net.Address
import Mathlib.Data.List.Basic
import Mathlib.Data.List.TakeWhile

/-!
The text of an address reads back as the address, in every form that the text can take: dotted,
eight groups, groups around a double colon, and groups with a dotted part.
-/

namespace Roster.Address

/-- A digit of a base up to sixteen has its own value. -/
theorem digitValue?_digitChar {digit : Nat} (small : digit < 16) :
    digitValue? (Nat.digitChar digit) = some digit := by
  -- Sixteen characters, each checked against the three ranges that the reader knows.
  have each : ∀ digit < 16, digitValue? (Nat.digitChar digit) = some digit := by decide
  exact each digit small

/-- All digits of a number have a value. -/
theorem isHex_of_mem_digitText {base n : Nat} (big : 1 < base) (small : base ≤ 16) {c : Char}
    (member : c ∈ digitText base n) : (digitValue? c).isSome := by
  -- The last digit is split off until a single one is left.
  induction n using Nat.strongRecOn with
  | ind n ih =>
    unfold digitText at *
    rw [Nat.toDigits_eq_if big] at member
    split at member
    · rename_i single
      rw [List.mem_singleton.1 member, digitValue?_digitChar (by omega)]
      rfl
    · rcases List.mem_append.1 member with front | last
      · exact ih (n / base) (Nat.div_lt_self (by omega) big) front
      · have digit := Nat.mod_lt n (show 0 < base by omega)
        rw [List.mem_singleton.1 last, digitValue?_digitChar (by omega)]
        rfl

/-- The digits of a number spell the number. -/
theorem digitNumber_digitText {base : Nat} (big : 1 < base) (small : base ≤ 16) (n : Nat) :
    digitNumber base (digitText base n) = n := by
  induction n using Nat.strongRecOn with
  | ind n ih =>
    unfold digitText at *
    rw [Nat.toDigits_eq_if big]
    split
    · rename_i single
      simp [digitNumber, digitValue?_digitChar (show n < 16 by omega)]
    · -- The digits in front spell the quotient, and the last one is the remainder.
      have digit := Nat.mod_lt n (show 0 < base by omega)
      have front := ih (n / base) (Nat.div_lt_self (by omega) big)
      simp only [digitNumber] at front ⊢
      rw [List.foldl_append, front]
      simp only [List.foldl_cons, List.foldl_nil,
        digitValue?_digitChar (show n % base < 16 by omega), Option.getD_some]
      rw [Nat.mul_comm]
      exact Nat.div_add_mod n base

/-- Only zero starts with the digit zero. -/
theorem head?_digitText {base n : Nat} (big : 1 < base) (small : base ≤ 16)
    (zero : (digitText base n).head? = some '0') : n = 0 := by
  induction n using Nat.strongRecOn with
  | ind n ih =>
    unfold digitText at *
    rw [Nat.toDigits_eq_if big] at zero
    split at zero
    · simpa using zero
    · rename_i large
      -- The first digit is that of the quotient, which is not zero.
      rw [List.head?_append_of_ne_nil _ Nat.toDigits_ne_nil] at zero
      have none := ih (n / base) (Nat.div_lt_self (by omega) big) zero
      have some : 0 < n / base := Nat.div_pos (by omega) (by omega)
      omega

/-- Characters that satisfy a test are taken up to a rest that starts with none. -/
theorem takeWhile_append_of_head? {p : Char → Bool} {front rest : List Char}
    (passes : ∀ c ∈ front, p c) (stops : ∀ c ∈ rest.head?, p c = false) :
    (front ++ rest).takeWhile p = front ∧ (front ++ rest).dropWhile p = rest := by
  rw [List.takeWhile_append_of_pos passes, List.dropWhile_append_of_pos passes]
  -- What the front leaves unread is the rest, whose own first character stops the reading.
  cases rest with
  | nil => simp
  | cons c rest => simp [stops c rfl]

/-- The digits of a number in base ten are digits. -/
theorem isDigit_of_mem_digitText {n : Nat} {c : Char} (member : c ∈ digitText 10 n) :
    c.isDigit :=
  Nat.isDigit_of_mem_toDigits (by decide) (by decide) member

/-- An octet reads back in front of anything but a digit. -/
theorem readOctet_digitText (octet : UInt8) {rest : List Char}
    (stops : ∀ c ∈ rest.head?, c.isDigit = false) :
    readOctet (digitText 10 octet.toNat ++ rest) = some (octet, rest) := by
  have isDigit : ∀ c ∈ digitText 10 octet.toNat, c.isDigit := fun _ => isDigit_of_mem_digitText
  obtain ⟨taken, left⟩ := takeWhile_append_of_head? isDigit stops
  have bound := octet.toNat_lt
  -- The reader turns down long octets, large ones and those with a zero in front.
  have short : (digitText 10 octet.toNat).length ≤ 3 :=
    (Nat.length_toDigits_le_iff (by decide) (by decide)).2 (by omega)
  have number := digitNumber_digitText (by decide) (by decide : (10 : Nat) ≤ 16) octet.toNat
  have lead : ¬(1 < (digitText 10 octet.toNat).length ∧
      (digitText 10 octet.toNat).head? = some '0') := by
    rintro ⟨long, zero⟩
    rw [head?_digitText (by decide) (by decide) zero] at long
    simp [digitText] at long
  have nonempty : digitText 10 octet.toNat ≠ [] := Nat.toDigits_ne_nil
  unfold readOctet
  simp only [taken, left, number]
  rw [if_neg (by rintro (h | h | h | h); exacts [nonempty h, by omega, by omega, lead h])]
  simp

/-- Four octets read back in front of anything but a digit. -/
theorem readDotted_dotted (octets : Vector UInt8 4) {rest : List Char}
    (stops : ∀ c ∈ rest.head?, c.isDigit = false) :
    readDotted (dotted octets ++ rest) = some (octets, rest) := by
  obtain ⟨⟨list⟩, size⟩ := octets
  -- Four octets and no other number, so the text is written out octet by octet.
  match list, size with
  | [a, b, c, d], _ =>
    have point : ∀ text : List Char, ∀ c ∈ ('.' :: text).head?, c.isDigit = false := by simp
    simp only [dotted, List.intercalate, List.map_cons, List.map_nil, List.intersperse_cons_cons,
      List.intersperse_singleton, Vector.toList_mk, List.flatten_cons, List.flatten_nil,
      List.append_nil, List.append_assoc, List.cons_append, List.nil_append]
    -- Each octet but the last is followed by a point, which is no digit; the last by what follows.
    simp only [readDotted, readOctet_digitText a (point _), readNextOctet,
      readOctet_digitText b (point _), readOctet_digitText c (point _),
      readOctet_digitText d stops, Option.bind_eq_bind, Option.bind_some, Option.pure_def]

/-- A text whose first digits are not followed by a point is not dotted. -/
theorem readDotted_eq_none {text : List Char}
    (pointless : (text.dropWhile Char.isDigit).head? ≠ some '.') : readDotted text = none := by
  -- Whatever octet stands in front, no point follows it.
  have next : readNextOctet (text.dropWhile Char.isDigit) = none := by
    unfold readNextOctet
    split
    · rename_i rest same
      rw [same] at pointless
      exact absurd rfl pointless
    · rfl
  unfold readDotted
  cases read : readOctet text with
  | none => rfl
  | some pair =>
    have left : pair.2 = text.dropWhile Char.isDigit := by
      unfold readOctet at read
      simp only at read
      split at read
      · cases read
      · cases read
        rfl
    simp [left, next]

/-- A group reads back in front of a colon or at the end. -/
theorem readGroup_digitText (group : UInt16) {rest : List Char}
    (colon : ∀ c ∈ rest.head?, c = ':') :
    readGroup (digitText 16 group.toNat ++ rest) = some (group, rest) := by
  have isHex : ∀ c ∈ digitText 16 group.toNat, (digitValue? c).isSome := fun c member =>
    isHex_of_mem_digitText (by decide) (by decide) member
  have ends : ∀ c ∈ rest.head?, (digitValue? c).isSome = false := fun c first => by
    rw [colon c first]
    rfl
  -- The colon that may follow is no hexadecimal digit, so the reader takes the group's digits and
  -- no more.
  obtain ⟨taken, left⟩ :=
    takeWhile_append_of_head? (p := fun c => (digitValue? c).isSome) isHex ends
  -- Sixteen bits take at most four hexadecimal digits, the most the reader allows.
  have bound := group.toNat_lt
  have short : (digitText 16 group.toNat).length ≤ 4 :=
    (Nat.length_toDigits_le_iff (by decide) (by decide)).2 (by omega)
  have number := digitNumber_digitText (by decide) (by decide : (16 : Nat) ≤ 16) group.toNat
  have nonempty : digitText 16 group.toNat ≠ [] := Nat.toDigits_ne_nil
  unfold readGroup
  simp only [taken, left, number]
  rw [if_neg (by rintro (h | h); exacts [nonempty h, by omega])]
  simp

/-- No group is read where a text starts with a colon or is empty. -/
theorem readGroup_eq_none {text : List Char} (colon : ∀ c ∈ text.head?, c = ':') :
    readGroup text = none := by
  -- A group needs at least one digit, and neither a colon nor the end gives one.
  have taken : text.takeWhile (fun c => (digitValue? c).isSome) = [] := by
    cases text with
    | nil => rfl
    | cons c rest =>
      rw [colon c rfl]
      rfl
  simp [readGroup, taken]

/-- A text that starts with a colon or is empty is not dotted. -/
theorem readDotted_eq_none_of_colon {text : List Char} (colon : ∀ c ∈ text.head?, c = ':') :
    readDotted text = none := by
  -- An octet starts with a digit, which neither a colon nor the end is.
  apply readDotted_eq_none
  cases text with
  | nil => simp
  | cons c rest =>
    rw [colon c rfl]
    simp

/-- A group in front of a colon or at the end is not dotted. -/
theorem readDotted_group (group : UInt16) {rest : List Char} (colon : ∀ c ∈ rest.head?, c = ':') :
    readDotted (digitText 16 group.toNat ++ rest) = none := by
  apply readDotted_eq_none
  intro point
  -- What is left of the group has digits only, so the point would have to be in the rest.
  rw [List.dropWhile_append] at point
  split at point
  · cases rest with
    | nil => cases point
    | cons c rest =>
      rw [colon c rfl] at point
      simp at point
  · rename_i some
    have inside : '.' ∈ (digitText 16 group.toNat).dropWhile Char.isDigit := by
      cases left : (digitText 16 group.toNat).dropWhile Char.isDigit with
      | nil => simp [left] at some
      | cons c more =>
        rw [left] at point
        cases point
        exact List.mem_cons_self
    have digit := (List.dropWhile_suffix _).subset inside
    exact absurd (isHex_of_mem_digitText (by decide) (by decide) digit) (by decide)

/-- Groups that each have a colon in front. -/
def colonText (groups : List UInt16) : List Char :=
  groups.flatMap fun group => ':' :: digitText 16 group.toNat

/-- The first group stands in front of the others. -/
theorem groupText_cons (group : UInt16) (groups : List UInt16) :
    groupText (group :: groups) = digitText 16 group.toNat ++ colonText groups := by
  -- The colons stand between the groups on one side and in front of each later group on the other,
  -- so the induction moves the head along.
  unfold groupText colonText
  induction groups generalizing group with
  | nil => simp [List.intercalate]
  | cons next rest ih =>
    have later := ih next
    simp only [List.intercalate, List.map_cons, List.intersperse_cons_cons, List.flatten_cons,
      List.flatMap_cons] at later ⊢
    rw [later]
    simp

/-- Whether a text cannot go on a list of groups: it is empty or starts with a double colon. -/
def EndsGroups (text : List Char) : Prop := text = [] ∨ ∃ rest, text = ':' :: ':' :: rest

/-- Groups with colons in front start with a colon, if there are any, and so does what ends them. -/
theorem EndsGroups.head?_colonText {rest : List Char} (ends : EndsGroups rest)
    (groups : List UInt16) : ∀ c ∈ (colonText groups ++ rest).head?, c = ':' := by
  -- Groups that follow start with their colon; with none left, what ends them does.
  intro c first
  cases groups with
  | nil =>
    rcases ends with rfl | ⟨rest, rfl⟩
    · cases first
    · exact (Option.some.inj first).symm
  | cons group groups => exact (Option.some.inj first).symm

/-- No groups are read where the list of groups ends. -/
theorem readGroups_ends (limit : Nat) (first : Bool) {rest : List Char} (ends : EndsGroups rest) :
    readGroups limit first rest = ⟨[], false, rest⟩ := by
  cases limit with
  | zero => rfl
  | succ limit =>
    unfold readGroups
    cases first with
    | true =>
      -- Neither four octets nor a group stand there.
      have colon : ∀ c ∈ rest.head?, c = ':' := ends.head?_colonText []
      simp only [if_true, readDotted_eq_none_of_colon colon, readGroup_eq_none colon, ite_self]
    | false =>
      rcases ends with rfl | ⟨rest, rfl⟩
      · rfl
      · -- The first colon is passed, and the second one is no digit.
        have colon : ∀ c ∈ (':' :: rest).head?, c = ':' := fun c first =>
          (Option.some.inj first).symm
        simp [readDotted_eq_none_of_colon colon, readGroup_eq_none colon]

/-- A group is read in front of the others, after a colon unless it is the first. -/
theorem readGroups_group (limit : Nat) (first : Bool) (group : UInt16) {rest : List Char}
    (colon : ∀ c ∈ rest.head?, c = ':') :
    readGroups (limit + 1) first ((if first then [] else [':']) ++
        (digitText 16 group.toNat ++ rest)) =
      { readGroups limit false rest with
        groups := group :: (readGroups limit false rest).groups } := by
  -- At the front a group has no colon of its own, and the two cases read the same.
  conv_lhs => unfold readGroups
  cases first <;> simp [readDotted_group group colon, readGroup_digitText group colon]

/-- Groups with colons in front read back up to the end of the groups. -/
theorem readGroups_colonText {limit : Nat} {groups : List UInt16} {rest : List Char}
    (room : groups.length ≤ limit) (ends : EndsGroups rest) :
    readGroups limit false (colonText groups ++ rest) = ⟨groups, false, rest⟩ := by
  -- Induction on the groups: one step reads a colon and a group, which uses up one of the limit.
  induction groups generalizing limit with
  | nil => exact readGroups_ends limit false ends
  | cons group groups ih =>
    obtain ⟨limit, rfl⟩ : ∃ below, limit = below + 1 :=
      ⟨limit - 1, by simp only [List.length_cons] at room; omega⟩
    have step := readGroups_group limit false group (ends.head?_colonText groups)
    rw [ih (Nat.le_of_succ_le_succ room)] at step
    simpa [colonText] using step

/-- Groups with colons between them read back up to the end of the groups. -/
theorem readGroups_groupText (limit : Nat) {groups : List UInt16} {rest : List Char}
    (room : groups.length ≤ limit) (ends : EndsGroups rest) :
    readGroups limit true (groupText groups ++ rest) = ⟨groups, false, rest⟩ := by
  cases groups with
  | nil => exact readGroups_ends limit true ends
  | cons group groups =>
    obtain ⟨limit, rfl⟩ : ∃ below, limit = below + 1 :=
      ⟨limit - 1, by simp only [List.length_cons] at room; omega⟩
    have step := readGroups_group limit true group (ends.head?_colonText groups)
    -- The other groups have colons in front.
    rw [readGroups_colonText (Nat.le_of_succ_le_succ room) ends] at step
    rw [groupText_cons, List.append_assoc]
    exact step

/-- Groups are not dotted. -/
theorem readDotted_groupText (groups : List UInt16) {rest : List Char} (ends : EndsGroups rest) :
    readDotted (groupText groups ++ rest) = none := by
  -- A group's digits may look like an octet's, but a colon follows where a point would have to.
  cases groups with
  | nil => exact readDotted_eq_none_of_colon (ends.head?_colonText [])
  | cons group groups =>
    rw [groupText_cons, List.append_assoc]
    exact readDotted_group group (ends.head?_colonText groups)

/-- A run of zeros is found where the groups have one. -/
theorem longestZeros_split (place : Nat) (groups : List UInt16) :
    ∃ before after, groups = before ++ List.replicate (longestZeros place groups).2 0 ++ after ∧
      (longestZeros place groups).1 = place + before.length := by
  induction groups generalizing place with
  | nil => exact ⟨[], [], rfl, rfl⟩
  | cons group rest ih =>
    simp only [longestZeros]
    split
    · -- The run starts here and consists of all zeros in front.
      refine ⟨[], (group :: rest).dropWhile (· == 0), ?_, rfl⟩
      have zeros : (group :: rest).takeWhile (· == 0) =
          List.replicate ((group :: rest).takeWhile (· == 0)).length 0 :=
        List.eq_replicate_of_mem fun zero member => by
          simpa using List.mem_takeWhile_imp member
      rw [List.nil_append, ← zeros, List.takeWhile_append_dropWhile]
    · obtain ⟨before, after, split, start⟩ := ih (place + 1)
      refine ⟨group :: before, after, ?_, ?_⟩
      · rw [List.cons_append, List.cons_append, ← split]
      · rw [start, List.length_cons]
        omega

/--
Eight groups are all written with colons between them, or with a double colon for some zeros.
-/
theorem compressed_cases (groups : Vector UInt16 8) :
    compressed groups = groupText groups.toList ∨
      ∃ before length after, 2 ≤ length ∧
        groups.toList = before ++ List.replicate length 0 ++ after ∧
        compressed groups = groupText before ++ ':' :: ':' :: groupText after := by
  obtain ⟨before, after, split, start⟩ := longestZeros_split 0 groups.toList
  unfold compressed
  generalize longestZeros 0 groups.toList = zeros at split start ⊢
  obtain ⟨place, length⟩ := zeros
  simp only [Nat.zero_add] at split start ⊢
  subst start
  by_cases short : length < 2
  · exact .inl (if_pos short)
  · refine .inr ⟨before, length, after, by omega, split, ?_⟩
    -- The groups in front and behind are those around the zeros.
    have front : groups.toList.take before.length = before := by
      rw [split, List.append_assoc, List.take_left]
    have back : groups.toList.drop (before.length + length) = after := by
      rw [split]
      exact List.drop_left' (by simp)
    rw [if_neg short, front, back]
    simp

/-- Eight groups in a list are the groups. -/
theorem ofGroups?_toList (groups : Vector UInt16 8) : ofGroups? groups.toList = some groups := by
  -- The list carries its own length, which is the one the check asks for.
  obtain ⟨⟨list⟩, size⟩ := groups
  simpa [ofGroups?] using size

/-- Eight groups read back, whether a run of zeros is left out or not. -/
theorem parseGroups?_compressed (groups : Vector UInt16 8) :
    parseGroups? (compressed groups) = some groups := by
  have size : groups.toList.length = 8 := by simp
  rcases compressed_cases groups with text | ⟨before, length, after, long, split, text⟩
  · -- All groups are written, and no text is left behind them.
    have all := readGroups_groupText 8 (Nat.le_of_eq size) (.inl rfl)
    rw [List.append_nil, ← text] at all
    simp [parseGroups?, all, size, ofGroups?_toList]
  · have sizes : before.length + length + after.length = 8 := by
      rw [split] at size
      simpa [Nat.add_assoc] using size
    -- What stands around the double colon leaves room for the zeros that it stands for.
    have head := readGroups_groupText 8 (show before.length ≤ 8 by omega)
      (.inr ⟨groupText after, rfl⟩)
    have tail := readGroups_groupText (7 - before.length)
      (show after.length ≤ 7 - before.length by omega) (.inl rfl)
    rw [List.append_nil] at tail
    have zeros : 8 - before.length - after.length = length := by omega
    simp only [text, parseGroups?, head]
    rw [if_neg (by omega)]
    simp only [Bool.false_eq_true, if_false, tail, List.isEmpty_nil, if_true, zeros]
    rw [← split, ofGroups?_toList]

/-- Eight groups are not dotted. -/
theorem parseOctets?_compressed (groups : Vector UInt16 8) :
    parseOctets? (compressed groups) = none := by
  -- Compressed or not, the text starts with groups, and those never read as octets.
  have undotted : readDotted (compressed groups) = none := by
    rcases compressed_cases groups with text | ⟨before, length, after, -, -, text⟩
    · have all := readDotted_groupText groups.toList (.inl rfl)
      rwa [List.append_nil, ← text] at all
    · rw [text]
      exact readDotted_groupText before (.inr ⟨groupText after, rfl⟩)
  rw [parseOctets?, undotted]

/-- Two octets make up the group that they were taken from. -/
theorem groupOf_octetsOf (group : UInt16) :
    groupOf (octetsOf group).1 (octetsOf group).2 = group := by
  apply UInt16.toNat_inj.1
  have bound := group.toNat_lt
  -- The high octet is the quotient by 256, and the low one the remainder.
  have high : ((octetsOf group).1.toUInt16 <<< 8).toNat = (group.toNat / 256) <<< 8 := by
    show (group.toNat >>> 8 % 256) <<< 8 % 65536 = (group.toNat / 256) <<< 8
    rw [Nat.shiftRight_eq_div_pow, Nat.mod_eq_of_lt (by omega : group.toNat / 2 ^ 8 < 256),
      Nat.shiftLeft_eq]
    omega
  have low : (octetsOf group).2.toUInt16.toNat = group.toNat % 256 := rfl
  rw [groupOf, UInt16.toNat_or, high, low, ← Nat.shiftLeft_add_eq_or_of_lt (by omega),
    Nat.shiftLeft_eq]
  omega

/-- Two octets are taken from the group that they make up. -/
theorem octetsOf_groupOf (high low : UInt8) : octetsOf (groupOf high low) = (high, low) := by
  have bounds : high.toNat < 256 ∧ low.toNat < 256 := ⟨high.toNat_lt, low.toNat_lt⟩
  -- The high octet is the quotient by 256, and the low one the remainder.
  have group : (groupOf high low).toNat = high.toNat * 256 + low.toNat := by
    have shifted : (high.toUInt16 <<< 8).toNat = high.toNat <<< 8 := by
      show high.toNat <<< 8 % 65536 = high.toNat <<< 8
      rw [Nat.shiftLeft_eq]
      omega
    have kept : low.toUInt16.toNat = low.toNat := rfl
    rw [groupOf, UInt16.toNat_or, shifted, kept,
      ← Nat.shiftLeft_add_eq_or_of_lt (by omega : low.toNat < 2 ^ 8), Nat.shiftLeft_eq]
  refine Prod.ext (UInt8.toNat_inj.1 ?_) (UInt8.toNat_inj.1 ?_)
  · show (groupOf high low).toNat >>> 8 % 256 = high.toNat
    rw [group, Nat.shiftRight_eq_div_pow]
    omega
  · show (groupOf high low).toNat % 256 = low.toNat
    rw [group]
    omega

/-- The version 6 address that stands for one of version 4 is recognized. -/
theorem mapped?_mapping (octets : Vector UInt8 4) : mapped? (mapping octets) = some octets := by
  -- A mapping spells two octets per group, and splitting the groups again gives them back.
  obtain ⟨⟨list⟩, size⟩ := octets
  match list, size with
  | [a, b, c, d], _ => simp [mapped?, mapping, octetsOf_groupOf]

/-- A version 6 address that stands for one of version 4 is determined by it. -/
theorem eq_mapping_of_mapped? {groups : Vector UInt16 8} {octets : Vector UInt8 4}
    (stands : mapped? groups = some octets) : groups = mapping octets := by
  obtain ⟨⟨list⟩, size⟩ := groups
  match list, size with
  | [a, b, c, d, e, f, g, h], _ =>
    unfold mapped? at stands
    split at stands
    · rename_i zeros
      simp only [Option.some.injEq] at stands
      subst stands
      simp only [Vector.toList_mk, List.take_succ_cons, List.take_zero, List.cons.injEq,
        and_true] at zeros
      obtain ⟨rfl, rfl, rfl, rfl, rfl, rfl⟩ := zeros
      -- The last two groups are made up of the octets again.
      have first := groupOf_octetsOf g
      have second := groupOf_octetsOf h
      simp [mapping, first, second]
    · cases stands

/-- Four octets with nothing behind them read back. -/
theorem readDotted_dotted_nil (octets : Vector UInt8 4) :
    readDotted (dotted octets) = some (octets, []) := by
  -- At the end of the text nothing follows that a reader could take.
  have ends : ∀ c ∈ ([] : List Char).head?, c.isDigit = false := by simp
  have all := readDotted_dotted octets ends
  rwa [List.append_nil] at all

/-- Four octets behind a double colon and a fixed group read back as the address that stands for
them. -/
theorem parseGroups?_mapping (octets : Vector UInt8 4) :
    parseGroups? (':' :: ':' :: 'f' :: 'f' :: 'f' :: 'f' :: ':' :: dotted octets) =
      some (mapping octets) := by
  have head := readGroups_ends 8 true
    (.inr ⟨'f' :: 'f' :: 'f' :: 'f' :: ':' :: dotted octets, rfl⟩)
  -- Behind the group ffff the four octets are read as two groups at once.
  have last : readGroups 6 false (':' :: dotted octets) =
      ⟨[groupOf octets[0] octets[1], groupOf octets[2] octets[3]], true, []⟩ := by
    simp [readGroups, readDotted_dotted_nil]
  have tail := readGroups_group 6 true 0xffff
    (show ∀ c ∈ (':' :: dotted octets).head?, c = ':' from fun c first =>
      (Option.some.inj first).symm)
  rw [last] at tail
  have text : 'f' :: 'f' :: 'f' :: 'f' :: ':' :: dotted octets =
      (if true then [] else [':']) ++ (digitText 16 (0xffff : UInt16).toNat ++
        ':' :: dotted octets) := rfl
  simp only [parseGroups?, head, List.length_nil, Nat.sub_zero]
  rw [text, tail]
  rfl

/-- The text of eight groups reads back as the groups. -/
theorem parseGroups?_text (groups : Vector UInt16 8) :
    parseGroups? (Address.v6 groups).text.toList = some groups := by
  -- A mapped address is written with its octets in dots, any other with its groups.
  cases stands : mapped? groups with
  | none => simp [text, stands, parseGroups?_compressed]
  | some octets =>
    obtain rfl := eq_mapping_of_mapped? stands
    simp [text, stands, parseGroups?_mapping]

/-- The text of an address reads back as the address. -/
@[simp] theorem parse?_text (address : Address) : parse? address.text = some address := by
  cases address with
  | v4 octets => simp [parse?, text, parseOctets?, readDotted_dotted_nil]
  | v6 groups =>
    -- Neither of its spellings is taken for a version 4 address.
    have undotted : parseOctets? (v6 groups).text.toList = none := by
      cases stands : mapped? groups with
      | none => simp [text, stands, parseOctets?_compressed]
      | some octets =>
        have colon : ∀ c ∈ (v6 groups).text.toList.head?, c = ':' := by
          simp [text, stands]
        rw [parseOctets?, readDotted_eq_none_of_colon colon]
    simp [parse?, undotted, parseGroups?_text]

/-- Different addresses have different texts. -/
theorem text_injective {a b : Address} (same : a.text = b.text) : a = b := by
  -- Both sides are read back from the one text.
  have read := parse?_text a
  rw [same, parse?_text] at read
  exact (Option.some.inj read).symm

/-- The canonical form of an address is its own. -/
@[simp] theorem canonical_canonical (address : Address) :
    address.canonical.canonical = address.canonical := by
  -- A mapped address becomes one of four octets, which is not mapped itself.
  cases address with
  | v4 octets => rfl
  | v6 groups =>
    cases stands : mapped? groups with
    | none => simp [canonical, stands]
    | some octets => simp [canonical, stands]

end Roster.Address
