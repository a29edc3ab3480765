import Roster.Json.Numeral
import Roster.Proofs.Json.Text
import Roster.Proofs.Net.Address

/-! The number that an integer is written as reads back as that integer, if it has 64 bits. -/

namespace Roster.Json

/-- A text that follows a value does not go on with a digit. -/
theorem Follows.not_isDigit {c : Char} {rest : List Char} (follows : Follows (c :: rest)) :
    c.isDigit = false := by
  -- A comma and the two closing marks are no digits.
  rcases follows with rfl | rfl | rfl <;> rfl

/-- The digits of a number are dropped up to what follows. -/
theorem dropWhile_toDigits (n : Nat) {rest : List Char} (follows : Follows rest) :
    (Nat.toDigits 10 n ++ rest).dropWhile Char.isDigit = rest := by
  -- All of the number's own characters are digits, and what may follow a number is not.
  have isDigit : ∀ c ∈ Nat.toDigits 10 n, c.isDigit := fun c member =>
    Nat.isDigit_of_mem_toDigits (by decide) (by decide) member
  rw [List.dropWhile_append_of_pos isDigit]
  cases rest with
  | nil => rfl
  | cons c rest => simp [follows.not_isDigit]

/-- The digits of a number spell the number. -/
theorem decimal_toDigits (n : Nat) : decimal (Nat.toDigits 10 n) = n := by
  -- Both sides sum the digits' values, with the factors of each product in the other order.
  have spelled := Nat.ofDigitChars_ten_toDigits (n := n)
  simpa only [decimal, Nat.ofDigitChars, Nat.mul_comm, show '0'.toNat = 48 from rfl] using spelled

/-- The digits of a number are read as they were written. -/
theorem wholeDigits_toDigits (atEnd : Fault) (n : Nat) {rest : List Char}
    (follows : Follows rest) :
    wholeDigits atEnd (Nat.toDigits 10 n ++ rest) = .ok (Nat.toDigits 10 n, rest) := by
  have taken := takeWhile_toDigits n follows
  have left := dropWhile_toDigits n follows
  cases spelled : Nat.toDigits 10 n with
  | nil => exact absurd spelled Nat.toDigits_ne_nil
  | cons c tail =>
    rw [spelled, List.cons_append] at taken left
    have isDigit : c.isDigit :=
      Nat.isDigit_of_mem_toDigits (by decide) (by decide) (spelled ▸ List.mem_cons_self)
    -- Up to what follows there are digits, and there is at least one.
    have read : digits atEnd (c :: (tail ++ rest)) = .ok (c :: tail, rest) := by
      simp only [digits, isDigit, if_true, taken, left]
    rw [List.cons_append]
    unfold wholeDigits
    split
    · rename_i next more front
      -- Only zero is spelled with a zero in front, and it has no other digit.
      obtain ⟨rfl, same⟩ := List.cons.inj front
      have zero : n = 0 := Address.head?_digitText (by decide : 1 < 10) (by decide)
        (by rw [Address.digitText, spelled]; rfl)
      obtain rfl : tail = [] := by
        rw [zero] at spelled
        exact (List.cons.inj spelled).2.symm
      rw [List.nil_append] at same
      rw [same] at follows
      rw [follows.not_isDigit, same]
      rfl
    · exact read

/-- Digits of a number that fits in 64 bits are all taken into it. -/
theorem gather_of_lt (size : Nat) {text : List Char}
    (small : text.foldl (fun n c => n * 10 + (c.toNat - 48)) size < 18446744073709551616) :
    Numeral.gather size text =
      (text.foldl (fun n c => n * 10 + (c.toNat - 48)) size, text.length) := by
  -- A number only grows with its digits, so no front part of them is too large either.
  have grows : ∀ (text : List Char) (size : Nat),
      size ≤ text.foldl (fun n c => n * 10 + (c.toNat - 48)) size := by
    intro text
    induction text with
    | nil => exact fun size => Nat.le_refl size
    | cons c rest ih =>
      intro size
      have next := ih (size * 10 + (c.toNat - 48))
      rw [List.foldl_cons]
      omega
  induction text generalizing size with
  | nil => rfl
  | cons c rest ih =>
    rw [List.foldl_cons] at small
    -- So the next digit is taken too.
    have fits := Nat.lt_of_le_of_lt (grows rest _) small
    simp only [Numeral.gather, fits, if_true, ih _ small, List.foldl_cons, List.length_cons]

/-- Rounding to a double at most doubles a number. -/
theorem roundToDouble_le (n : Nat) : Numeral.roundToDouble n ≤ 2 * n := by
  by_cases zero : n = 0
  · subst zero
    decide
  · unfold Numeral.roundToDouble
    -- The unit is no more than the number, and rounding up adds at most one.
    have unit : Nat.pow 2 (n.log2 - 52) ≤ n :=
      le_trans (Nat.pow_le_pow_right (by decide) (Nat.sub_le _ _)) (Nat.log2_self_le zero)
    have down := Nat.div_mul_le_self n (Nat.pow 2 (n.log2 - 52))
    simp only
    split
    · rw [Nat.add_mul]
      omega
    · omega

/-- A number without point and exponent that fits in 64 bits is within the doubles. -/
theorem overflows_eq_false (negative : Bool) {digits : List Char}
    (small : decimal digits < 18446744073709551616) :
    (Numeral.mk negative digits none none).overflows = false := by
  -- All the digits are gathered, and rounding what they spell at most doubles it.
  have gathered : Numeral.gather 0 digits = (decimal digits, digits.length) := gather_of_lt 0 small
  have rounded := roundToDouble_le (decimal digits)
  have one : Numeral.roundToDouble 1 = 1 := by decide
  have within : Numeral.roundToDouble (decimal digits) < 2 ^ 66 := by omega
  -- The bound is far beyond twice the numbers of 64 bits.
  have below : ∀ low high : Nat, 66 ≤ low → low < high →
      decide (Nat.pow 2 high - Nat.pow 2 low ≤ Numeral.roundToDouble (decimal digits) * 1) =
        false := by
    intro low high great ordered
    refine decide_eq_false ?_
    have first : 2 ^ 66 ≤ 2 ^ low := Nat.pow_le_pow_right (by decide) great
    have second : 2 ^ (low + 1) ≤ 2 ^ high := Nat.pow_le_pow_right (by decide) ordered
    rw [Nat.pow_succ] at second
    show ¬2 ^ high - 2 ^ low ≤ _
    omega
  simp only [Numeral.overflows, gathered, Option.getD_none, Numeral.gather, Nat.sub_self]
  -- Neither point nor exponent moves the digits.
  show (decide (decimal digits ≠ 0) && true && (false ||
    decide (Nat.pow 2 1024 - Nat.pow 2 970 ≤
      Numeral.roundToDouble (decimal digits) * Numeral.roundToDouble 1))) = false
  rw [one, below 970 1024 (by decide) (by decide), Bool.or_false, Bool.and_false]

/-- The digits of a number that fits in 64 bits are within the doubles. -/
theorem overflows_toDigits (negative : Bool) {n : Nat} (small : n < 18446744073709551616) :
    (Numeral.mk negative (Nat.toDigits 10 n) none none).overflows = false :=
  overflows_eq_false negative (by rwa [decimal_toDigits])

/-- Digits that fit in 64 bits spell an integer. -/
theorem integer?_toDigits {n : Nat} (small : n < 18446744073709551616) :
    (Numeral.mk false (Nat.toDigits 10 n) none none).integer? = some (Int.ofNat n) := by
  -- Below the bound of an unsigned word the digits count as they are.
  show (if decimal (Nat.toDigits 10 n) < 18446744073709551616 then
    some (Int.ofNat (decimal (Nat.toDigits 10 n))) else none) = _
  rw [decimal_toDigits, if_pos small]

/-- Digits after a minus sign that are not too great for it spell a negative integer. -/
theorem integer?_toDigits_negative {m : Nat} (small : m < 9223372036854775808) :
    (Numeral.mk true (Nat.toDigits 10 (m + 1)) none none).integer? = some (Int.negSucc m) := by
  -- The bound of a signed word holds for what is below zero, and zero itself is excluded.
  have within : ¬(m + 1 = 0 ∨ 9223372036854775808 < m + 1) := by omega
  show (if decimal (Nat.toDigits 10 (m + 1)) = 0 ∨
      9223372036854775808 < decimal (Nat.toDigits 10 (m + 1)) then none
    else some (-Int.ofNat (decimal (Nat.toDigits 10 (m + 1))))) = _
  rw [decimal_toDigits, if_neg within]
  rfl

/-- The text of an integer of 64 bits reads back as the integer. -/
theorem number_intText {n : Int} (low : -9223372036854775808 ≤ n) (high : n < 9223372036854775808)
    {rest : List Char} (follows : Follows rest) :
    number (intText n ++ rest) = .ok (.int n, rest) := by
  -- What follows a value starts neither a fraction nor an exponent.
  have noFraction : fractionPart .truncated rest = .ok (none, rest) := by
    cases rest with
    | nil => rfl
    | cons c rest => rcases follows with rfl | rfl | rfl <;> rfl
  have noExponent : exponentPart .truncated rest = .ok (none, rest) := by
    cases rest with
    | nil => rfl
    | cons c rest => rcases follows with rfl | rfl | rfl <;> rfl
  cases n with
  | ofNat m =>
    have small : m < 18446744073709551616 := by
      rw [Int.ofNat_eq_natCast] at high
      omega
    -- The first character is a digit and no sign.
    have unsigned : minusSign (Nat.toDigits 10 m ++ rest) = (false, Nat.toDigits 10 m ++ rest) := by
      unfold minusSign
      split
      · rename_i tail same
        exact absurd same (toDigits_append_ne_minus m rest tail)
      · rfl
    simp only [number, intText, Numeral.read, unsigned, wholeDigits_toDigits .truncated m follows,
      noFraction, noExponent, overflows_toDigits false small, integer?_toDigits small,
      Bool.false_eq_true, if_false]
  | negSucc m =>
    -- Behind the minus sign stand digits that are not too great for it.
    have small : m + 1 < 18446744073709551616 := by omega
    have negative : m < 9223372036854775808 := by omega
    simp only [number, intText, Numeral.read, List.cons_append, minusSign,
      wholeDigits_toDigits .truncated (m + 1) follows, noFraction, noExponent,
      overflows_toDigits true small, integer?_toDigits_negative negative, Bool.false_eq_true,
      if_false]

end Roster.Json
