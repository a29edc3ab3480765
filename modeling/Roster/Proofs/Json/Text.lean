import Roster.Json.Lexeme
import Mathlib.Data.List.Basic

/-!
Compact JSON text tells what it was written for: the reader undoes quoting, and of values written
one way each text belongs to one value and shows where it ends.
-/

namespace Roster.Json

/-- A hexadecimal digit reads as the number it was written for. -/
theorem hexValue?_hexDigit {n : Nat} (small : n < 16) : hexValue? (hexDigit n) = some n := by
  -- There are sixteen digits.
  revert n
  decide

/-- The number of a control character in four digits reads as that character. -/
theorem unicodeEscape_control {c : Char} (control : c < ' ') (rest : List Char) :
    unicodeEscape ('0' :: '0' :: hexDigit (c.toNat / 16) :: hexDigit (c.toNat % 16) :: rest) =
      .ok (c, rest) := by
  have small : c.toNat < 32 := control
  have zero : hexValue? '0' = some 0 := by decide
  have high := hexValue?_hexDigit (n := c.toNat / 16) (by omega)
  have low := hexValue?_hexDigit (n := c.toNat % 16) (by omega)
  have number : hexNumber? '0' '0' (hexDigit (c.toNat / 16)) (hexDigit (c.toNat % 16)) =
      some c.toNat := by
    simp only [hexNumber?, zero, high, low, Option.bind_eq_bind, Option.bind_some, pure]
    congr 1
    omega
  -- Surrogates lie far above.
  have basic : isLowSurrogate c.toNat = false ∧ isHighSurrogate c.toNat = false := by
    simp only [isLowSurrogate, isHighSurrogate, Bool.and_eq_false_iff, decide_eq_false_iff_not]
    omega
  simp only [unicodeEscape, fourHex, number, basic, Bool.false_eq_true, if_false,
    Char.ofNat_toNat]

/-- A character stands for itself, or a backslash and what reads as the character do. -/
theorem escapeChar_cases (c : Char) :
    (escapeChar c = [c] ∧ c ≠ '"' ∧ c ≠ '\\' ∧ ¬c < ' ') ∨
      ∃ tail, escapeChar c = '\\' :: tail ∧ ∀ rest, escape (tail ++ rest) = .ok (c, rest) := by
  by_cases short : c ∈ ['"', '\\', '\x08', '\x0c', '\n', '\r', '\t']
  · -- Each of these has a letter of its own.
    refine .inr ?_
    simp only [List.mem_cons, List.not_mem_nil, or_false] at short
    rcases short with rfl | rfl | rfl | rfl | rfl | rfl | rfl
    all_goals exact ⟨[_], rfl, fun rest => rfl⟩
  · simp only [List.mem_cons, List.not_mem_nil, or_false, not_or] at short
    by_cases control : c < ' '
    · -- Any other control character is given by number.
      refine .inr ⟨['u', '0', '0', hexDigit (c.toNat / 16), hexDigit (c.toNat % 16)], ?_, ?_⟩
      · simp only [escapeChar, short, control, if_true, if_false]
      · intro rest
        exact unicodeEscape_control control rest
    · refine .inl ⟨?_, short.1, short.2.1, control⟩
      simp only [escapeChar, short, control, if_false]

/-- A printed character in a quoted text is read as it is. -/
theorem stringFrom_plain (read : List Char) {c : Char} (notQuote : c ≠ '"') (notSlash : c ≠ '\\')
    (notControl : ¬c < ' ') (rest : List Char) :
    stringFrom read (c :: rest) = stringFrom (c :: read) rest := by
  -- None of the three conditions that stop or divert the reader holds.
  conv_lhs => rw [stringFrom.eq_def]
  simp only [notQuote, notSlash, notControl, if_false]

/-- A backslash starts an escape, behind which the text goes on. -/
theorem stringFrom_slash (read rest : List Char) :
    stringFrom read ('\\' :: rest) =
      match escape rest with
      | .error fault => .error fault
      | .ok (meant, more) => stringFrom (meant :: read) more := by
  conv_lhs => rw [stringFrom.eq_def]
  simp only [show ('\\' : Char) ≠ '"' by decide, if_false, if_true]
  -- The definition matches on the escape with a proof that it got shorter; the cases are the same
  -- without it.
  split
  · rename_i failed
    rw [failed]
  · rename_i done
    rw [done]

/-- Whatever stands for a character in a quoted text reads as that character. -/
theorem stringFrom_escapeChar (read : List Char) (c : Char) (rest : List Char) :
    stringFrom read (escapeChar c ++ rest) = stringFrom (c :: read) rest := by
  rcases escapeChar_cases c with ⟨plain, notQuote, notSlash, notControl⟩ | ⟨tail, escaped, reads⟩
  · rw [plain, List.singleton_append, stringFrom_plain read notQuote notSlash notControl]
  · -- The backslash starts an escape, which is read to its end.
    rw [escaped, List.cons_append, stringFrom_slash, reads]

/-- The reader undoes the quoting of a text, whatever follows. -/
theorem stringFrom_quoted (read chars rest : List Char) :
    stringFrom read (chars.flatMap escapeChar ++ '"' :: rest) =
      .ok (String.ofList (read.reverse ++ chars), rest) := by
  induction chars generalizing read with
  | nil =>
    -- The closing quote ends the text.
    rw [stringFrom.eq_def]
    simp
  | cons c chars ih =>
    rw [List.flatMap_cons, List.append_assoc, stringFrom_escapeChar, ih]
    simp

/-- Where a quoted text ends does not depend on what follows, and it tells the text. -/
theorem quote_append_inj {a b : String} {x y : List Char}
    (same : quote a ++ x = quote b ++ y) : a = b ∧ x = y := by
  -- The reader starts behind the opening quote.
  have unquoted : ∀ (text : String) (rest : List Char),
      stringFrom [] ((quote text ++ rest).tail) = .ok (text, rest) := by
    intro text rest
    have read := stringFrom_quoted [] text.toList rest
    simpa [quote] using read
  have read := unquoted a x
  rw [same, unquoted b y] at read
  cases read
  exact ⟨rfl, rfl⟩

/-- Whether a text may follow a value: it is empty or goes on with a comma or a closing bracket. -/
def Follows : List Char → Prop
  | [] => True
  | c :: _ => c = ',' ∨ c = ']' ∨ c = '\x7d'

theorem follows_comma (rest : List Char) : Follows (',' :: rest) := .inl rfl

theorem follows_bracket (rest : List Char) : Follows (']' :: rest) := .inr (.inl rfl)

theorem follows_brace (rest : List Char) : Follows ('\x7d' :: rest) := .inr (.inr rfl)

/-- A text that follows a value does not go on with a digit. -/
theorem Follows.takeWhile_isDigit {rest : List Char} (follows : Follows rest) :
    rest.takeWhile Char.isDigit = [] := by
  cases rest with
  | nil => rfl
  | cons c rest =>
    -- None of the three characters is a digit.
    rcases follows with rfl | rfl | rfl <;> rfl

/-- The digits of a number are all that is taken as digits in front of what follows. -/
theorem takeWhile_toDigits (n : Nat) {rest : List Char} (follows : Follows rest) :
    (Nat.toDigits 10 n ++ rest).takeWhile Char.isDigit = Nat.toDigits 10 n := by
  -- All of the number's own characters are digits, and what may follow a number starts with none.
  rw [List.takeWhile_append_of_pos fun c member => ?_, follows.takeWhile_isDigit, List.append_nil]
  exact Nat.isDigit_of_mem_toDigits (by decide) (by decide) member

/-- Digits tell their number and where they end. -/
theorem toDigits_append_inj {m n : Nat} {x y : List Char} (followsX : Follows x)
    (followsY : Follows y) (same : Nat.toDigits 10 m ++ x = Nat.toDigits 10 n ++ y) :
    m = n ∧ x = y := by
  -- Both sides have the same digits in front, and these have one value.
  have digits := congrArg (List.takeWhile Char.isDigit) same
  rw [takeWhile_toDigits m followsX, takeWhile_toDigits n followsY] at digits
  have number := congrArg (Nat.ofDigitChars 10 · 0) digits
  simp only [Nat.ofDigitChars_ten_toDigits] at number
  subst number
  exact ⟨rfl, List.append_cancel_left same⟩

/-- No digits of a number start with a minus sign. -/
theorem toDigits_append_ne_minus (m : Nat) (x y : List Char) :
    Nat.toDigits 10 m ++ x ≠ '-' :: y := by
  intro same
  cases digits : Nat.toDigits 10 m with
  | nil => exact absurd digits Nat.toDigits_ne_nil
  | cons c rest =>
    -- The first character would have to be a digit.
    have isDigit : c.isDigit :=
      Nat.isDigit_of_mem_toDigits (by decide) (by decide) (digits ▸ List.mem_cons_self)
    rw [digits, List.cons_append, List.cons.injEq] at same
    rw [same.1] at isDigit
    cases isDigit

/-- The text of an integer tells the integer and where it ends. -/
theorem intText_append_inj {m n : Int} {x y : List Char} (followsX : Follows x)
    (followsY : Follows y) (same : intText m ++ x = intText n ++ y) : m = n ∧ x = y := by
  cases m with
  | ofNat m =>
    cases n with
    | ofNat n =>
      -- Neither has a sign.
      obtain ⟨rfl, rest⟩ := toDigits_append_inj followsX followsY same
      exact ⟨rfl, rest⟩
    | negSucc n => exact absurd same (toDigits_append_ne_minus m x _)
  | negSucc m =>
    cases n with
    | ofNat n => exact absurd same.symm (toDigits_append_ne_minus n y _)
    | negSucc n =>
      -- The signs are the same, so the digits after them are compared.
      obtain ⟨size, rest⟩ := toDigits_append_inj followsX followsY (List.cons.inj same).2
      cases size
      exact ⟨rfl, rest⟩

/-- Whether the texts of values tell the values and where they end, given what may follow. -/
def Telling {α : Type} (write : α → Json) : Prop :=
  ∀ ⦃a b x y⦄, Follows x → Follows y →
    (write a).chars ++ x = (write b).chars ++ y → a = b ∧ x = y

theorem telling_str : Telling Json.str :=
  fun _ _ _ _ _ _ same => quote_append_inj same

theorem telling_int : Telling Json.int :=
  fun _ _ _ _ followsX followsY same => intText_append_inj followsX followsY same

theorem telling_bool : Telling Json.bool := by
  intro a b x y _ _ same
  -- The first letters of the two words differ.
  cases a <;> cases b <;> simp_all [chars]

/-- The text of a member tells its value, if the name is known. -/
theorem Telling.member {α : Type} {write : α → Json} (telling : Telling write) (name : String)
    {a b : α} {x y : List Char} (followsX : Follows x) (followsY : Follows y)
    (same : quote name ++ ':' :: (write a).chars ++ x = quote name ++ ':' :: (write b).chars ++ y) :
    a = b ∧ x = y := by
  simp only [List.append_assoc, List.cons_append] at same
  -- Behind the name stands the colon, and then the value.
  have values := (quote_append_inj same).2
  exact telling followsX followsY (List.cons.inj values).2

/-- The first item stands in front of the others. -/
theorem itemChars_cons (item : Json) (rest : List Json) :
    itemChars (item :: rest) =
      item.chars ++ if rest.isEmpty then [] else ',' :: itemChars rest := by
  cases rest <;> simp [itemChars]

/-- What stands behind an item of a list follows a value. -/
theorem follows_items (items : List Json) (rest : List Char) :
    Follows ((if items.isEmpty then [] else ',' :: itemChars items) ++ ']' :: rest) := by
  -- What stands behind an item is the closing bracket or the comma before the next one.
  cases items with
  | nil => exact follows_bracket rest
  | cons item items => exact follows_comma _

/-- The texts of items up to the closing bracket tell the items, if no item starts with one. -/
theorem Telling.items {α : Type} {write : α → Json} (telling : Telling write)
    (opens : ∀ value rest tail, (write value).chars ++ rest ≠ ']' :: tail) {as bs : List α}
    {x y : List Char}
    (same : itemChars (as.map write) ++ ']' :: x = itemChars (bs.map write) ++ ']' :: y) :
    as = bs ∧ x = y := by
  induction as generalizing bs with
  | nil =>
    cases bs with
    | nil => exact ⟨rfl, (List.cons.inj same).2⟩
    | cons b bs =>
      -- An item does not start with the bracket that ends the empty list.
      rw [List.map_cons, itemChars_cons, List.append_assoc] at same
      exact absurd same.symm (opens b _ x)
  | cons a as ih =>
    rw [List.map_cons, itemChars_cons, List.append_assoc] at same
    cases bs with
    | nil => exact absurd same (opens a _ y)
    | cons b bs =>
      rw [List.map_cons, itemChars_cons, List.append_assoc] at same
      obtain ⟨rfl, rest⟩ := telling (follows_items _ x) (follows_items _ y) same
      -- A comma or the bracket shows whether the list goes on.
      cases as with
      | nil =>
        cases bs with
        | nil => exact ⟨rfl, (List.cons.inj rest).2⟩
        | cons b bs => cases rest
      | cons next as =>
        cases bs with
        | nil => cases rest
        | cons b bs =>
          obtain ⟨items, rest⟩ := ih (List.cons.inj rest).2
          exact ⟨congrArg (a :: ·) items, rest⟩

/-- The compact texts of lists tell the lists, if no item starts with a closing bracket. -/
theorem Telling.compact_list {α : Type} {write : α → Json} (telling : Telling write)
    (opens : ∀ value rest tail, (write value).chars ++ rest ≠ ']' :: tail) {as bs : List α}
    (same : (arr (as.map write)).compact = (arr (bs.map write)).compact) : as = bs := by
  -- Equal texts give equal characters behind the opening bracket, and those tell the items one by
  -- one.
  have texts := String.ofList_injective same
  simp only [chars] at texts
  exact (telling.items opens (List.cons.inj texts).2).1

end Roster.Json
