import Roster.Json.Skip
import Roster.Proofs.Json.Form

/-!
How names, texts and numbers are spelled in JSON: texts letter by letter, numbers as digits with a
point and an exponent. What is read from a spelling is what it stands for, and passing over a text
does not look into what its letters stand for.
-/

namespace Roster.Json

/-- A part of a quoted text: a printed character, a letter behind a backslash, or four digits. -/
inductive Letter
  | plain (c : Char) (printed : c ≠ '"' ∧ c ≠ '\\' ∧ ¬c < ' ')
  | short (c meant : Char) (listed : shortEscape? c = some meant)
  | unit (a b c d : Char) (n : Nat) (digits : hexNumber? a b c d = some n)

namespace Letter

/-- A letter as it is spelled. -/
def chars : Letter → List Char
  | plain c _ => [c]
  | short c _ _ => ['\\', c]
  | unit a b c d _ _ => ['\\', 'u', a, b, c, d]

/-- The characters that letters stand for; halves of characters have to come in pairs. -/
def resolve? : List Letter → Option (List Char)
  | [] => some []
  | plain c _ :: rest => (resolve? rest).map (c :: ·)
  | short _ meant _ :: rest => (resolve? rest).map (meant :: ·)
  | unit _ _ _ _ high _ :: rest =>
    if isLowSurrogate high then none
    else if isHighSurrogate high then
      match rest with
      | unit _ _ _ _ low _ :: rest =>
        if isLowSurrogate low then (resolve? rest).map (joinSurrogates high low :: ·) else none
      | _ => none
    else (resolve? rest).map (Char.ofNat high :: ·)

/-- The text that letters stand for. -/
def text? (letters : List Letter) : Option String := (resolve? letters).map String.ofList

/-- Letters in quotes. -/
def quoted (letters : List Letter) : List Char := '"' :: (letters.flatMap chars ++ ['"'])

/-- Four digits are read as their number. -/
theorem fourHex_digits {a b c d : Char} {n : Nat} (digits : hexNumber? a b c d = some n)
    (rest : List Char) : fourHex (a :: b :: c :: d :: rest) = .ok (n, rest) := by
  simp only [fourHex, digits]

/-- The first half of a character needs the second one right behind it. -/
theorem unicodeEscape_lone {a b c d : Char} {high : Nat} (digits : hexNumber? a b c d = some high)
    (notLow : ¬isLowSurrogate high = true) (isHigh : isHighSurrogate high = true)
    {rest : List Char} (some : rest ≠ []) (goesOn : rest ≠ ['\\'])
    (other : ∀ more, rest ≠ '\\' :: 'u' :: more) :
    unicodeEscape (a :: b :: c :: d :: rest) = .error .malformed := by
  -- What follows is none of the three texts that the reader knows what to make of.
  simp only [unicodeEscape, fourHex_digits digits, notLow, isHigh, if_true, ite_self]

/-- What stands in quotes is no half of a character if it is no letter with four digits. -/
theorem lone_of_not_unit {letters : List Letter}
    (other : ∀ a b c d n digits rest, letters ≠ unit a b c d n digits :: rest) (rest : List Char) :
    letters.flatMap chars ++ '"' :: rest ≠ [] ∧ letters.flatMap chars ++ '"' :: rest ≠ ['\\'] ∧
      ∀ more, letters.flatMap chars ++ '"' :: rest ≠ '\\' :: 'u' :: more := by
  refine ⟨by simp, ?_⟩
  -- The readers look for a slash and a u behind a surrogate; only a unit spells those, and the
  -- closing quote is neither.
  cases letters with
  | nil => simp
  | cons letter letters =>
    cases letter with
    | plain c printed => simp [chars, printed.2.1]
    | short c meant listed =>
      -- The short escapes name their characters, and u is none of the names.
      have differs : c ≠ 'u' := by
        rintro rfl
        cases listed
      simp [chars, differs]
    | unit a b c d n digits => exact absurd rfl (other a b c d n digits letters)

/-- A quoted text is read as what its letters stand for, if they stand for anything. -/
theorem stringFrom_letters (read : List Char) (letters : List Letter) (rest : List Char) :
    stringFrom read (letters.flatMap chars ++ '"' :: rest) =
      match resolve? letters with
      | some found => .ok (String.ofList (read.reverse ++ found), rest)
      | none => .error .malformed := by
  fun_induction resolve? letters generalizing read with
  | case1 =>
    rw [stringFrom.eq_def]
    simp
  | case2 c printed letters ih =>
    rw [List.flatMap_cons, chars, List.append_assoc, List.singleton_append,
      stringFrom_plain read printed.1 printed.2.1 printed.2.2, ih]
    cases resolve? letters <;> simp
  | case3 c meant listed letters ih =>
    -- No escape of one letter is spelled like one of four digits.
    have other : c ≠ 'u' := by
      rintro rfl
      cases listed
    have escaped : escape (c :: (letters.flatMap chars ++ '"' :: rest)) =
        .ok (meant, letters.flatMap chars ++ '"' :: rest) := by
      simp only [escape, other, if_false, listed]
    rw [List.flatMap_cons, chars, List.append_assoc, List.cons_append, List.singleton_append,
      stringFrom_slash, escaped]
    simp only [ih]
    cases resolve? letters <;> simp
  | case4 a b c d high digits letters low =>
    have escaped : escape ('u' :: a :: b :: c :: d :: (letters.flatMap chars ++ '"' :: rest)) =
        .error .malformed := by
      simp only [escape, unicodeEscape, fourHex_digits digits, low, if_true]
    rw [List.flatMap_cons, chars, List.append_assoc]
    simp only [List.cons_append, List.nil_append, stringFrom_slash, escaped]
  | case5 a b c d high digits notLow isHigh e f g h low lowDigits letters isLow ih =>
    have escaped : escape ('u' :: a :: b :: c :: d :: '\\' :: 'u' :: e :: f :: g :: h ::
        (letters.flatMap chars ++ '"' :: rest)) =
        .ok (joinSurrogates high low, letters.flatMap chars ++ '"' :: rest) := by
      simp only [escape, unicodeEscape, fourHex_digits digits, fourHex_digits lowDigits, notLow,
        isHigh, isLow, if_true, if_false, Bool.false_eq_true]
    simp only [List.flatMap_cons, chars, List.cons_append, List.nil_append, stringFrom_slash,
      escaped, ih]
    cases resolve? letters <;> simp
  | case6 a b c d high digits notLow isHigh e f g h low lowDigits letters isLow =>
    have escaped : escape ('u' :: a :: b :: c :: d :: '\\' :: 'u' :: e :: f :: g :: h ::
        (letters.flatMap chars ++ '"' :: rest)) = .error .malformed := by
      simp only [escape, unicodeEscape, fourHex_digits digits, fourHex_digits lowDigits, notLow,
        isHigh, isLow, if_true, if_false, Bool.false_eq_true]
    simp only [List.flatMap_cons, chars, List.cons_append, List.nil_append, stringFrom_slash,
      escaped]
  | case7 a b c d high digits letters notLow isHigh other =>
    -- Nothing that can be the second half of the character follows.
    obtain ⟨some, goesOn, differs⟩ := lone_of_not_unit other rest
    have escaped : escape ('u' :: a :: b :: c :: d :: (letters.flatMap chars ++ '"' :: rest)) =
        .error .malformed := unicodeEscape_lone digits notLow isHigh some goesOn differs
    simp only [List.flatMap_cons, chars, List.cons_append, List.nil_append, stringFrom_slash,
      escaped]
  | case8 a b c d n digits letters notLow notHigh ih =>
    have escaped : escape ('u' :: a :: b :: c :: d :: (letters.flatMap chars ++ '"' :: rest)) =
        .ok (Char.ofNat n, letters.flatMap chars ++ '"' :: rest) := by
      simp only [escape, unicodeEscape, fourHex_digits digits, notLow, notHigh, if_true, if_false,
        Bool.false_eq_true]
    simp only [List.flatMap_cons, chars, List.cons_append, List.nil_append, stringFrom_slash,
      escaped, ih]
    cases resolve? letters <;> simp

/-- A quoted text is passed over whatever its letters stand for. -/
theorem skipString_letters (letters : List Letter) (rest : List Char) :
    skipString (letters.flatMap chars ++ '"' :: rest) = .ok rest := by
  induction letters with
  | nil =>
    rw [skipString.eq_def]
    simp
  | cons letter letters ih =>
    -- Behind a backslash the escape is passed over as a whole.
    have slash {text more : List Char} (passed : skipEscape text = .ok more) :
        skipString ('\\' :: text) = skipString more := by
      conv_lhs => rw [skipString.eq_def]
      simp only [show ('\\' : Char) ≠ '"' by decide, if_false, if_true]
      split
      · rename_i failed
        rw [passed] at failed
        cases failed
      · rename_i done
        rw [passed] at done
        cases done
        rfl
    cases letter with
    | plain c printed =>
      rw [List.flatMap_cons, chars, List.append_assoc, List.singleton_append, skipString.eq_def]
      simp only [printed, if_false, ih]
    | short c meant listed =>
      have other : c ≠ 'u' := by
        rintro rfl
        cases listed
      have passed : skipEscape (c :: (letters.flatMap chars ++ '"' :: rest)) =
          .ok (letters.flatMap chars ++ '"' :: rest) := by
        simp only [skipEscape, other, if_false, listed, Option.isSome_some, if_true]
      simp only [List.flatMap_cons, chars, List.cons_append, List.nil_append, slash passed, ih]
    | unit a b c d n digits =>
      have passed : skipEscape ('u' :: a :: b :: c :: d :: (letters.flatMap chars ++ '"' :: rest)) =
          .ok (letters.flatMap chars ++ '"' :: rest) := by
        simp only [skipEscape, if_true, fourHex_digits digits]
        rfl
      simp only [List.flatMap_cons, chars, List.cons_append, List.nil_append, slash passed, ih]

/-- The control characters are spelled with four digits. -/
theorem hexNumber?_control : ∀ n < 32,
    hexNumber? '0' '0' (Nat.digitChar (n / 16)) (Nat.digitChar (n % 16)) = some n ∧
      isLowSurrogate n = false ∧ isHighSurrogate n = false := by
  -- Thirty-two codes, each checked.
  decide

/-- Each character has a letter that stands for it. -/
theorem exists_letter (c : Char) :
    ∃ letter, ∀ rest, resolve? (letter :: rest) = (resolve? rest).map (c :: ·) := by
  -- A printed character stands for itself, a control character needs its code, and the two marks
  -- have short escapes.
  by_cases printed : c ≠ '"' ∧ c ≠ '\\' ∧ ¬c < ' '
  · exact ⟨plain c printed, fun rest => rfl⟩
  · by_cases control : c < ' '
    · obtain ⟨digits, notLow, notHigh⟩ := hexNumber?_control c.toNat control
      refine ⟨unit _ _ _ _ c.toNat digits, fun rest => ?_⟩
      rw [resolve?.eq_def]
      simp [notLow, notHigh, Char.ofNat_toNat]
    · have marks : c = '"' ∨ c = '\\' := by
        by_contra other
        exact printed ⟨fun quote => other (.inl quote), fun slash => other (.inr slash), control⟩
      rcases marks with rfl | rfl
      · exact ⟨short '"' '"' rfl, fun rest => rfl⟩
      · exact ⟨short '\\' '\\' rfl, fun rest => rfl⟩

/-- Each text has letters that stand for it. -/
theorem exists_letters (text : String) : ∃ letters, text? letters = some text := by
  have each : ∀ chars : List Char, ∃ letters, resolve? letters = some chars := by
    intro chars
    -- A letter for each character, none of which depends on those behind it.
    induction chars with
    | nil => exact ⟨[], rfl⟩
    | cons c chars ih =>
      obtain ⟨letters, resolved⟩ := ih
      obtain ⟨letter, stands⟩ := exists_letter c
      exact ⟨letter :: letters, by rw [stands, resolved]; rfl⟩
  obtain ⟨letters, resolved⟩ := each text.toList
  exact ⟨letters, by rw [text?, resolved, Option.map_some, String.ofList_toList]⟩

end Letter

/-- One or more decimal digits. -/
def Digits : Type := { digits : List Char // digits ≠ [] ∧ ∀ c ∈ digits, c.isDigit = true }

/-- The part of a number that moves its point. -/
structure Exponent where
  mark : Char
  sign : Option Char
  digits : Digits
  marks : mark = 'e' ∨ mark = 'E'
  signs : ∀ c ∈ sign, c = '+' ∨ c = '-'

/-- A number as it is spelled, without a zero in front of other digits. -/
structure Figure where
  negative : Bool
  whole : Digits
  fraction : Option Digits
  exponent : Option Exponent
  trimmed : whole.val.head? = some '0' → whole.val = ['0']

/-- Digits are read up to what is no digit. -/
theorem Digits.read (digits : Digits) (atEnd : Fault) {rest : List Char}
    (stops : ∀ c ∈ rest.head?, c.isDigit = false) :
    Json.digits atEnd (digits.val ++ rest) = .ok (digits.val, rest) := by
  -- The run of digits is not empty and what follows is no digit, so all of it is taken and no more.
  obtain ⟨text, some, all⟩ := digits
  obtain ⟨taken, left⟩ := Address.takeWhile_append_of_head? all stops
  cases text with
  | nil => exact absurd rfl some
  | cons c text =>
    have first := all c List.mem_cons_self
    rw [List.cons_append] at taken left ⊢
    simp only [Json.digits, first, if_true, taken, left]

/-- A number starts with a digit, unless it has a sign in front. -/
theorem Digits.exists_cons (digits : Digits) :
    ∃ c rest, digits.val = c :: rest ∧ c.isDigit = true := by
  -- Being non-empty is part of what digits are.
  obtain ⟨text, some, all⟩ := digits
  cases text with
  | nil => exact absurd rfl some
  | cons c rest => exact ⟨c, rest, rfl, all c List.mem_cons_self⟩

namespace Figure

/-- The digits behind a point, with the point. -/
def fractionChars : Option Digits → List Char
  | none => []
  | some digits => '.' :: digits.val

/-- An exponent with its mark and its sign. -/
def exponentChars : Option Exponent → List Char
  | none => []
  | some exponent => exponent.mark :: (exponent.sign.toList ++ exponent.digits.val)

/-- A number as it is written. -/
def chars (figure : Figure) : List Char :=
  (if figure.negative then ['-'] else []) ++
    (figure.whole.val ++ (fractionChars figure.fraction ++ exponentChars figure.exponent))

/-- What is read from a number. -/
def numeral (figure : Figure) : Numeral where
  negative := figure.negative
  whole := figure.whole.val
  fraction := figure.fraction.map Subtype.val
  exponent := figure.exponent.map fun exponent => (exponent.sign == some '-', exponent.digits.val)

/-- The integer that a number spells without point and exponent; a negative zero is none. -/
def integer? (figure : Figure) : Option Int :=
  let size := decimal figure.whole.val
  if figure.fraction.isSome || figure.exponent.isSome then none
  else if figure.negative then
    if size = 0 then none else some (-size)
  else some size

end Figure

/-- Whether a text does not go on with a part of a number. -/
def Stops (text : List Char) : Prop :=
  ∀ c ∈ text.head?, c.isDigit = false ∧ c ≠ '.' ∧ c ≠ 'e' ∧ c ≠ 'E'

namespace Figure

variable {rest : List Char}

/-- Behind the digits in front of an exponent stands neither a digit nor a point. -/
theorem exponentChars_head (exponent : Option Exponent) (stops : Stops rest) :
    ∀ c ∈ (exponentChars exponent ++ rest).head?, c.isDigit = false ∧ c ≠ '.' := by
  -- An exponent starts with its mark, and without one what follows the figure comes first.
  intro c first
  cases exponent with
  | some exponent =>
    cases first
    rcases exponent.marks with mark | mark <;> rw [mark] <;> decide
  | none => exact ⟨(stops c first).1, (stops c first).2.1⟩

/-- The digits in front of the point are read, of which only a lone one may be a zero in front. -/
theorem wholeDigits_whole (figure : Figure) (atEnd : Fault)
    (stops : ∀ c ∈ rest.head?, c.isDigit = false) :
    wholeDigits atEnd (figure.whole.val ++ rest) = .ok (figure.whole.val, rest) := by
  unfold wholeDigits
  split
  · rename_i c more front
    -- A zero in front is the only digit.
    obtain ⟨first, digits, spelled, -⟩ := figure.whole.exists_cons
    have zero : figure.whole.val = ['0'] := by
      apply figure.trimmed
      rw [spelled, List.cons_append] at front
      rw [spelled, List.head?_cons, (List.cons.inj front).1]
    rw [zero, List.singleton_append] at front
    obtain rfl := (List.cons.inj front).2
    rw [stops c rfl, zero]
    rfl
  · exact figure.whole.read atEnd stops

/-- The digits behind a point are read with it. -/
theorem fractionPart_chars (fraction : Option Digits) (atEnd : Fault)
    (stops : ∀ c ∈ rest.head?, c.isDigit = false ∧ c ≠ '.') :
    fractionPart atEnd (fractionChars fraction ++ rest) =
      .ok (fraction.map Subtype.val, rest) := by
  -- Without a fraction the reader must not see a point, and what follows has none in front.
  cases fraction with
  | some digits =>
    show (Json.digits atEnd (digits.val ++ rest)).map _ = _
    rw [digits.read atEnd fun c first => (stops c first).1]
    rfl
  | none =>
    show fractionPart atEnd rest = _
    unfold fractionPart
    split
    · exact absurd rfl (stops '.' rfl).2
    · rfl

/-- A sign is split off the digits of an exponent. -/
theorem exponentSign_digits (exponent : Exponent) (rest : List Char) :
    exponentSign (exponent.sign.toList ++ (exponent.digits.val ++ rest)) =
      (exponent.sign == some '-', exponent.digits.val ++ rest) := by
  obtain ⟨mark, sign, digits, marks, signs⟩ := exponent
  cases sign with
  | some sign => rcases signs sign rfl with rfl | rfl <;> rfl
  | none =>
    -- The first digit is no sign.
    obtain ⟨c, more, spelled, digit⟩ := digits.exists_cons
    show exponentSign (digits.val ++ rest) = (false, digits.val ++ rest)
    rw [spelled, List.cons_append]
    unfold exponentSign
    split
    · rename_i same
      rw [(List.cons.inj same).1] at digit
      cases digit
    · rename_i same
      rw [(List.cons.inj same).1] at digit
      cases digit
    · rfl

/-- The digits of an exponent are read with its mark and its sign. -/
theorem exponentPart_chars (exponent : Option Exponent) (atEnd : Fault) (stops : Stops rest) :
    exponentPart atEnd (exponentChars exponent ++ rest) =
      .ok (exponent.map fun given => (given.sign == some '-', given.digits.val), rest) := by
  -- Without an exponent the reader must not see its mark, and what follows has none in front.
  cases exponent with
  | some exponent =>
    have sign := exponentSign_digits exponent rest
    simp only [exponentChars, List.cons_append, List.append_assoc, exponentPart, exponent.marks,
      if_true, sign, exponent.digits.read atEnd fun c first => (stops c first).1]
    rfl
  | none =>
    cases rest with
    | nil => rfl
    | cons c rest =>
      have mark : ¬(c = 'e' ∨ c = 'E') := not_or.2 (stops c rfl).2.2
      simp only [exponentChars, List.nil_append, exponentPart, mark, if_false]
      rfl

/-- A minus sign is split off a number. -/
theorem minusSign_chars (figure : Figure) :
    minusSign (figure.chars ++ rest) = (figure.negative,
      figure.whole.val ++ (fractionChars figure.fraction ++
        (exponentChars figure.exponent ++ rest))) := by
  unfold chars
  cases figure.negative with
  | true => simp [minusSign]
  | false =>
    -- The first digit is no sign.
    obtain ⟨c, more, spelled, digit⟩ := figure.whole.exists_cons
    simp only [Bool.false_eq_true, if_false, List.nil_append, List.append_assoc, spelled,
      List.cons_append]
    unfold minusSign
    split
    · rename_i same
      rw [(List.cons.inj same).1] at digit
      cases digit
    · rfl

/-- A number is read as it is spelled. -/
theorem read_chars (figure : Figure) (atEnd : Fault) (stops : Stops rest) :
    Numeral.read atEnd (figure.chars ++ rest) = .ok (figure.numeral, rest) := by
  have afterFraction := exponentChars_head figure.exponent stops
  -- Each part stops at the next one, and the parts that may be missing pass the question on to what
  -- follows.
  have afterWhole : ∀ c ∈ (fractionChars figure.fraction ++
      (exponentChars figure.exponent ++ rest)).head?, c.isDigit = false := by
    cases figure.fraction with
    | some digits =>
      intro c first
      cases first
      rfl
    | none => exact fun c first => (afterFraction c first).1
  simp only [Numeral.read, figure.minusSign_chars, figure.wholeDigits_whole atEnd afterWhole,
    fractionPart_chars figure.fraction atEnd afterFraction,
    exponentPart_chars figure.exponent atEnd stops]
  rfl

/-- A number starts with a minus sign or a digit. -/
theorem exists_cons (figure : Figure) :
    ∃ c rest, figure.chars = c :: rest ∧ (c = '-' ∨ c.isDigit = true) := by
  -- The minus sign, where there is one, or the first of the whole digits.
  obtain ⟨c, more, spelled, digit⟩ := figure.whole.exists_cons
  unfold chars
  cases figure.negative with
  | true => exact ⟨'-', _, rfl, .inl rfl⟩
  | false => exact ⟨c, _, by rw [spelled]; rfl, .inr digit⟩

end Figure

/-- Each integer has a number that spells it. -/
theorem Figure.exists_integer? (n : Int) : ∃ figure : Figure, figure.integer? = some n := by
  let digits := Nat.toDigits 10 n.natAbs
  have isDigit : ∀ c ∈ digits, c.isDigit = true := fun c listed =>
    Nat.isDigit_of_mem_toDigits (by decide) (by decide) listed
  -- Decimal digits start with a zero for zero alone, as a figure demands.
  have trimmed : digits.head? = some '0' → digits = ['0'] := by
    intro zero
    have none : n.natAbs = 0 := Address.head?_digitText (by decide : 1 < 10) (by decide) zero
    show Nat.toDigits 10 n.natAbs = _
    rw [none]
    rfl
  refine ⟨⟨decide (n < 0), ⟨digits, Nat.toDigits_ne_nil, isDigit⟩, none, none, trimmed⟩, ?_⟩
  have spelled : decimal digits = n.natAbs := decimal_toDigits n.natAbs
  show (if decide (n < 0) = true then
    if decimal digits = 0 then none else some (-(decimal digits : Int))
    else some (decimal digits : Int)) = _
  rw [spelled]
  -- Zero is not negative, so minus zero, which is no integer here, is never spelled.
  by_cases negative : n < 0
  · have some : n.natAbs ≠ 0 := by omega
    simp only [negative, decide_true, if_true, some, if_false, Option.some.injEq]
    omega
  · simp only [negative, decide_false, Bool.false_eq_true, if_false, Option.some.injEq]
    omega

/-- A word is read up to its end. -/
theorem word_append (expected rest : List Char) : word expected (expected ++ rest) = .ok rest := by
  -- Each character meets itself.
  induction expected with
  | nil => rfl
  | cons c expected ih => exact (if_pos rfl).trans ih

end Roster.Json
