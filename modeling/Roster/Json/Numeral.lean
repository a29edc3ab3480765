import Roster.Json.Lexeme

/-! Numbers in JSON text: their grammar, and which of them are integers or out of range. -/

namespace Roster.Json

/-- A number as it is spelled. -/
structure Numeral where
  negative : Bool
  whole : List Char
  fraction : Option (List Char)
  -- Whether the exponent is negative, and its digits.
  exponent : Option (Bool × List Char)
  deriving DecidableEq

/-- The number that decimal digits spell. -/
def decimal (digits : List Char) : Nat := digits.foldl (fun n c => n * 10 + (c.toNat - 48)) 0

/-- Reads one or more digits; `atEnd` is the fault of a text that ends before the first. -/
def digits (atEnd : Fault) (text : List Char) : Reading (List Char) :=
  match text with
  | [] => .error atEnd
  | c :: _ =>
    if c.isDigit then .ok (text.takeWhile Char.isDigit, text.dropWhile Char.isDigit)
    else .error .malformed

theorem digits_shorter {atEnd : Fault} {text found rest : List Char}
    (read : digits atEnd text = .ok (found, rest)) : rest.length < text.length := by
  -- One digit has to be there, and dropping more of them makes nothing longer.
  cases text with
  | nil => simp [digits] at read
  | cons c tail =>
    simp only [digits] at read
    split at read
    · rename_i isDigit
      simp only [Except.ok.injEq, Prod.mk.injEq, List.dropWhile_cons, isDigit, if_true] at read
      have := (List.dropWhile_suffix Char.isDigit (l := tail)).length_le
      rw [← read.2, List.length_cons]
      omega
    · simp at read

/-- Reads the digits in front of a point, which start with a zero only when it stands alone. -/
def wholeDigits (atEnd : Fault) (text : List Char) : Reading (List Char) :=
  match text with
  | '0' :: c :: rest => if c.isDigit then .error .malformed else .ok (['0'], c :: rest)
  | _ => digits atEnd text

theorem wholeDigits_shorter {atEnd : Fault} {text found rest : List Char}
    (read : wholeDigits atEnd text = .ok (found, rest)) : rest.length < text.length := by
  -- A zero in front stands alone; else there is a run of digits.
  simp only [wholeDigits] at read
  split at read
  · split at read
    · simp at read
    · simp only [Except.ok.injEq, Prod.mk.injEq] at read
      simp [← read.2]
  · exact digits_shorter read

/-- Reads the point and the digits after it, if there are any. -/
def fractionPart (atEnd : Fault) (text : List Char) : Reading (Option (List Char)) :=
  match text with
  | '.' :: rest => (digits atEnd rest).map fun (found, more) => (some found, more)
  | _ => .ok (none, text)

theorem fractionPart_shorter {atEnd : Fault} {text rest : List Char} {found : Option (List Char)}
    (read : fractionPart atEnd text = .ok (found, rest)) : rest.length ≤ text.length := by
  -- Without a point nothing is taken.
  simp only [fractionPart] at read
  split at read
  · rename_i tail
    cases inner : digits atEnd tail with
    | error fault => simp [inner, Except.map] at read
    | ok pair =>
      have := digits_shorter inner
      simp only [inner, Except.map, Except.ok.injEq, Prod.mk.injEq] at read
      rw [← read.2, List.length_cons]
      omega
  · simp only [Except.ok.injEq, Prod.mk.injEq] at read
    simp [read.2]

/-- Splits a sign off the front of an exponent. -/
def exponentSign : List Char → Bool × List Char
  | '-' :: rest => (true, rest)
  | '+' :: rest => (false, rest)
  | text => (false, text)

theorem exponentSign_length (text : List Char) :
    (exponentSign text).2.length ≤ text.length := by
  -- At most one sign is taken.
  unfold exponentSign
  split <;> simp

/-- Reads an exponent, if there is one. -/
def exponentPart (atEnd : Fault) (text : List Char) : Reading (Option (Bool × List Char)) :=
  match text with
  | c :: rest =>
    if c = 'e' ∨ c = 'E' then
      (digits atEnd (exponentSign rest).2).map fun (found, more) =>
        (some ((exponentSign rest).1, found), more)
    else .ok (none, c :: rest)
  | [] => .ok (none, [])

theorem exponentPart_shorter {atEnd : Fault} {text rest : List Char}
    {found : Option (Bool × List Char)}
    (read : exponentPart atEnd text = .ok (found, rest)) : rest.length ≤ text.length := by
  -- Without a letter for the exponent nothing is taken.
  cases text with
  | nil =>
    simp only [exponentPart, Except.ok.injEq, Prod.mk.injEq] at read
    simp [← read.2]
  | cons c tail =>
    simp only [exponentPart] at read
    split at read
    · cases inner : digits atEnd (exponentSign tail).2 with
      | error fault => simp [inner, Except.map] at read
      | ok pair =>
        have := digits_shorter inner
        have := exponentSign_length tail
        simp only [inner, Except.map, Except.ok.injEq, Prod.mk.injEq] at read
        rw [← read.2, List.length_cons]
        omega
    · simp only [Except.ok.injEq, Prod.mk.injEq] at read
      simp [← read.2]

/-- Splits a minus sign off the front of a number. -/
def minusSign : List Char → Bool × List Char
  | '-' :: rest => (true, rest)
  | text => (false, text)

theorem minusSign_length (text : List Char) : (minusSign text).2.length ≤ text.length := by
  -- At most one sign is taken.
  unfold minusSign
  split <;> simp

namespace Numeral

/-- Reads a number; `atEnd` is the fault of a text that ends where a digit has to follow. -/
def read (atEnd : Fault) (text : List Char) : Reading Numeral :=
  match wholeDigits atEnd (minusSign text).2 with
  | .error fault => .error fault
  | .ok (whole, afterWhole) =>
    match fractionPart atEnd afterWhole with
    | .error fault => .error fault
    | .ok (fraction, afterFraction) =>
      match exponentPart atEnd afterFraction with
      | .error fault => .error fault
      | .ok (exponent, rest) => .ok (⟨(minusSign text).1, whole, fraction, exponent⟩, rest)

theorem read_shorter {atEnd : Fault} {text rest : List Char} {numeral : Numeral}
    (done : read atEnd text = .ok (numeral, rest)) : rest.length < text.length := by
  -- The digits before the point take something away, and no later part gives it back.
  simp only [read] at done
  split at done
  · simp at done
  · rename_i whole
    split at done
    · simp at done
    · rename_i fraction
      split at done
      · simp at done
      · rename_i exponent
        have := wholeDigits_shorter whole
        have := fractionPart_shorter fraction
        have := exponentPart_shorter exponent
        have := minusSign_length text
        simp only [Except.ok.injEq, Prod.mk.injEq] at done
        rw [← done.2]
        omega

/-- The integer of 64 bits, signed or not, that a number without point and exponent spells. -/
def integer? (numeral : Numeral) : Option Int :=
  let size := decimal numeral.whole
  if numeral.fraction.isSome || numeral.exponent.isSome then none
  else if numeral.negative then
    -- A negative zero is no integer.
    if size = 0 ∨ 9223372036854775808 < size then none else some (-size)
  else if size < 18446744073709551616 then some size
  else none

/-- Takes digits into a number as long as it fits in 64 bits, and counts those taken. -/
def gather (size : Nat) : List Char → Nat × Nat
  | [] => (size, 0)
  | c :: rest =>
    let grown := size * 10 + (c.toNat - 48)
    if grown < 18446744073709551616 then
      let (final, taken) := gather grown rest
      (final, taken + 1)
    else (size, 0)

/-- The nearest number with a significand of 53 bits; of two the one with an even significand. -/
def roundToDouble (n : Nat) : Nat :=
  let spare := n.log2 - 52
  let unit := Nat.pow 2 spare
  let low := n / unit
  let excess := n % unit
  let up := unit < 2 * excess ∨ (unit = 2 * excess ∧ low % 2 = 1)
  (if up then low + 1 else low) * unit

/-- Whether a number is beyond the doubles, computed from the digits that fit in 64 bits. -/
def overflows (numeral : Numeral) : Bool :=
  let (size, taken) := gather 0 numeral.whole
  let (size, decimals) := gather size (numeral.fraction.getD [])
  let shift : Int := match numeral.exponent with
    | none => 0
    | some (negative, digits) => if negative then -(decimal digits) else decimal digits
  let power : Int := (numeral.whole.length - taken : Nat) - decimals + shift
  -- A product past the middle between the last double and the next power of two is infinite.
  size ≠ 0 && 0 ≤ power &&
    (308 < power ||
      Nat.pow 2 1024 - Nat.pow 2 970 ≤
        roundToDouble size * roundToDouble (Nat.pow 10 power.toNat))

end Numeral

/-- Reads a number, which has to lie within the doubles. -/
def number (text : List Char) : Reading Json :=
  match Numeral.read .truncated text with
  | .error fault => .error fault
  | .ok (numeral, rest) =>
    if numeral.overflows then .error .malformed
    else match numeral.integer? with
      | some n => .ok (.int n, rest)
      | none => .ok (.float (String.ofList (text.take (text.length - rest.length))), rest)

theorem number_shorter {text rest : List Char} {json : Json}
    (done : number text = .ok (json, rest)) : rest.length < text.length := by
  -- Which number the figures spell has no part in what is left behind them.
  simp only [number] at done
  split at done
  · simp at done
  · rename_i found
    have := Numeral.read_shorter found
    split at done
    · simp at done
    · split at done
      all_goals
        simp only [Except.ok.injEq, Prod.mk.injEq] at done
        rw [← done.2]
        omega

/-- Passes over a number of any size. -/
def skipNumber (text : List Char) : Except Fault (List Char) :=
  (Numeral.read .malformed text).map Prod.snd

theorem skipNumber_shorter {text rest : List Char} (done : skipNumber text = .ok rest) :
    rest.length < text.length := by
  -- A number is passed over by reading it.
  cases found : Numeral.read .malformed text with
  | error fault => simp [skipNumber, found, Except.map] at done
  | ok pair =>
    have := Numeral.read_shorter found
    simp only [skipNumber, found, Except.map, Except.ok.injEq] at done
    rw [← done]
    exact this

end Roster.Json
