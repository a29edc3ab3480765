import Roster.Json

/-! The smallest parts of a JSON text: blanks, fixed words and quoted texts. -/

namespace Roster.Json

/-- Why a text is not a value of the wanted form. -/
inductive Fault
  -- The text ends before the value does.
  | truncated
  -- The text is not JSON.
  | malformed
  -- The text is JSON of another form.
  | mismatched
  deriving DecidableEq, Repr

/-- The part of a text that follows what was read from it, or why nothing could be read. -/
abbrev Reading (α : Type) := Except Fault (α × List Char)

/-- Whether a character may stand between the parts of a value. -/
def isBlank (c : Char) : Bool := c == ' ' || c == '\n' || c == '\t' || c == '\r'

/-- A text without the blanks in front. -/
def trim (text : List Char) : List Char := text.dropWhile isBlank

/-- Dropping blanks makes no text longer. -/
theorem length_trim_le (text : List Char) : (trim text).length ≤ text.length :=
  (List.dropWhile_suffix _).length_le

/-- After the first nonblank character less text is left than before. -/
theorem length_lt_of_trim {text rest : List Char} {c : Char} (front : trim text = c :: rest) :
    rest.length < text.length := by
  -- Trimming never makes a text longer, and here a character comes off it as well.
  have bound := length_trim_le text
  rw [front, List.length_cons] at bound
  omega

/-- Reads a fixed word. -/
def word : List Char → List Char → Except Fault (List Char)
  | [], text => .ok text
  | _ :: _, [] => .error .truncated
  | expected :: more, c :: rest => if c = expected then word more rest else .error .malformed

/-- A word read leaves no more than there was. -/
theorem word_shorter {expected text rest : List Char} (read : word expected text = .ok rest) :
    rest.length ≤ text.length := by
  -- The induction is on the expected letters, each of which takes one character at most.
  induction expected generalizing text with
  | nil => simp only [word, Except.ok.injEq] at read; simp [read]
  | cons e more ih =>
    cases text with
    | nil => simp [word] at read
    | cons c tail =>
      simp only [word] at read
      split at read
      · have := ih read
        simp only [List.length_cons]
        omega
      · simp at read

/-- The value of a hexadecimal digit in either case. -/
def hexValue? (c : Char) : Option Nat :=
  if '0' ≤ c ∧ c ≤ '9' then some (c.toNat - 48)
  else if 'a' ≤ c ∧ c ≤ 'f' then some (c.toNat - 87)
  else if 'A' ≤ c ∧ c ≤ 'F' then some (c.toNat - 55)
  else none

/-- The number of four hexadecimal digits. -/
def hexNumber? (a b c d : Char) : Option Nat := do
  let a ← hexValue? a
  let b ← hexValue? b
  let c ← hexValue? c
  let d ← hexValue? d
  return ((a * 16 + b) * 16 + c) * 16 + d

/-- Reads four hexadecimal digits; what is wrong depends on whether four bytes are left at all. -/
def fourHex (text : List Char) : Reading Nat :=
  let fault : Fault :=
    if (text.take 4).foldl (fun size c => size + c.utf8Size) 0 < 4 then .truncated else .malformed
  match text with
  | a :: b :: c :: d :: rest =>
    match hexNumber? a b c d with
    | some n => .ok (n, rest)
    | none => .error fault
  | _ => .error fault

/-- Four digits read leave less than there was. -/
theorem fourHex_shorter {text rest : List Char} {n : Nat} (read : fourHex text = .ok (n, rest)) :
    rest.length < text.length := by
  -- Four characters are taken, or nothing is read.
  simp only [fourHex] at read
  split at read
  · split at read
    · simp only [Except.ok.injEq, Prod.mk.injEq] at read
      simp only [← read.2, List.length_cons]
      omega
    · simp at read
  · simp at read

/-- Whether a number is the first half of a character beyond the basic plane. -/
def isHighSurrogate (n : Nat) : Bool := 0xD800 ≤ n && n ≤ 0xDBFF

/-- Whether a number is the second half of a character beyond the basic plane. -/
def isLowSurrogate (n : Nat) : Bool := 0xDC00 ≤ n && n ≤ 0xDFFF

/-- The character of two surrogate halves. -/
def joinSurrogates (high low : Nat) : Char :=
  Char.ofNat (0x10000 + (high - 0xD800) * 0x400 + (low - 0xDC00))

/-- The character meant by a single letter after a backslash. -/
def shortEscape? (c : Char) : Option Char :=
  match c with
  | '"' => some '"'
  | '\\' => some '\\'
  | '/' => some '/'
  | 'b' => some '\x08'
  | 'f' => some '\x0c'
  | 'n' => some '\n'
  | 'r' => some '\r'
  | 't' => some '\t'
  | _ => none

/-- Reads a character given by number, after the `u`; halves of characters must come in pairs. -/
def unicodeEscape (text : List Char) : Reading Char :=
  match fourHex text with
  | .error fault => .error fault
  | .ok (high, rest) =>
    if isLowSurrogate high then .error .malformed
    else if isHighSurrogate high then
      match rest with
      | [] => .error .truncated
      | '\\' :: [] => .error .truncated
      | '\\' :: 'u' :: more =>
        match fourHex more with
        | .error fault => .error fault
        | .ok (low, last) =>
          if isLowSurrogate low then .ok (joinSurrogates high low, last) else .error .malformed
      | _ => .error .malformed
    else .ok (Char.ofNat high, rest)

/-- Reads an escaped character, after the backslash. -/
def escape : List Char → Reading Char
  | [] => .error .truncated
  | c :: rest =>
    if c = 'u' then unicodeEscape rest
    else match shortEscape? c with
      | some meant => .ok (meant, rest)
      | none => .error .malformed

theorem unicodeEscape_shorter {text rest : List Char} {c : Char}
    (read : unicodeEscape text = .ok (c, rest)) : rest.length < text.length := by
  -- Each half that is read takes four characters away.
  simp only [unicodeEscape] at read
  split at read
  · simp at read
  · rename_i first
    have := fourHex_shorter first
    split at read
    · simp at read
    · split at read
      · split at read
        · simp at read
        · simp at read
        · split at read
          · simp at read
          · rename_i second
            have := fourHex_shorter second
            split at read
            · simp only [Except.ok.injEq, Prod.mk.injEq] at read
              simp only [List.length_cons] at *
              rw [← read.2]
              omega
            · simp at read
        · simp at read
      · simp only [Except.ok.injEq, Prod.mk.injEq] at read
        rw [← read.2]
        omega

theorem escape_shorter {text rest : List Char} {c : Char}
    (read : escape text = .ok (c, rest)) : rest.length < text.length := by
  -- The character behind the backslash is gone in each case.
  cases text with
  | nil => simp [escape] at read
  | cons head tail =>
    simp only [escape] at read
    split at read
    · have := unicodeEscape_shorter read
      simp only [List.length_cons]
      omega
    · split at read
      · simp only [Except.ok.injEq, Prod.mk.injEq] at read
        simp [read.2]
      · simp at read

/-- Reads a quoted text after its opening quote, given the characters read so far in reverse. -/
def stringFrom (read : List Char) (text : List Char) : Reading String :=
  match text with
  | [] => .error .truncated
  | c :: rest =>
    if c = '"' then .ok (String.ofList read.reverse, rest)
    else if c = '\\' then
      match _ : escape rest with
      | .error fault => .error fault
      | .ok (meant, more) => stringFrom (meant :: read) more
    else if c < ' ' then .error .malformed
    else stringFrom (c :: read) rest
termination_by text.length
decreasing_by
  · have := escape_shorter (by assumption)
    simp only [List.length_cons]
    omega
  · simp

theorem stringFrom_shorter {read text rest : List Char} {value : String}
    (done : stringFrom read text = .ok (value, rest)) : rest.length < text.length := by
  -- The induction follows the reader, which takes a letter or an escape at a time.
  fun_induction stringFrom read text with
  | case1 => simp at done
  | case2 =>
    simp only [Except.ok.injEq, Prod.mk.injEq] at done
    simp [done.2]
  | case3 => simp at done
  | case4 =>
    rename_i step _ ih
    have := ih done
    have := escape_shorter step
    simp only [List.length_cons]
    omega
  | case5 => simp at done
  | case6 =>
    rename_i ih
    have := ih done
    simp only [List.length_cons]
    omega

/-- Passes over an escaped character, after the backslash; halves of characters may stand alone. -/
def skipEscape : List Char → Except Fault (List Char)
  | [] => .error .truncated
  | c :: rest =>
    if c = 'u' then (fourHex rest).map Prod.snd
    else if (shortEscape? c).isSome then .ok rest
    else .error .malformed

theorem skipEscape_shorter {text rest : List Char} (done : skipEscape text = .ok rest) :
    rest.length < text.length := by
  -- The character behind the backslash is gone in each case.
  cases text with
  | nil => simp [skipEscape] at done
  | cons head tail =>
    simp only [skipEscape] at done
    split at done
    · cases digits : fourHex tail with
      | error fault => simp [digits, Except.map] at done
      | ok found =>
        have := fourHex_shorter digits
        simp only [digits, Except.map, Except.ok.injEq] at done
        simp only [← done, List.length_cons]
        omega
    · split at done
      · simp only [Except.ok.injEq] at done
        simp [done]
      · simp at done

/-- Passes over a quoted text after its opening quote. -/
def skipString (text : List Char) : Except Fault (List Char) :=
  match text with
  | [] => .error .truncated
  | c :: rest =>
    if c = '"' then .ok rest
    else if c = '\\' then
      match _ : skipEscape rest with
      | .error fault => .error fault
      | .ok more => skipString more
    else if c < ' ' then .error .malformed
    else skipString rest
termination_by text.length
decreasing_by
  · have := skipEscape_shorter (by assumption)
    simp only [List.length_cons]
    omega
  · simp

theorem skipString_shorter {text rest : List Char} (done : skipString text = .ok rest) :
    rest.length < text.length := by
  -- The induction follows the reader, which takes a letter or an escape at a time.
  fun_induction skipString text with
  | case1 => simp at done
  | case2 =>
    simp only [Except.ok.injEq] at done
    simp [done]
  | case3 => simp at done
  | case4 =>
    rename_i step _ ih
    have := ih done
    have := skipEscape_shorter step
    simp only [List.length_cons]
    omega
  | case5 => simp at done
  | case6 =>
    rename_i ih
    have := ih done
    simp only [List.length_cons]
    omega

end Roster.Json
