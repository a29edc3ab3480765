import Roster.Toml.Lexeme

/-! Numbers, dates and times in settings files. -/

namespace Roster.Toml

/-- Reads digits with single underscores between them, and leaves the underscores out. -/
def groupedDigits (isDigit : Char → Bool) : List Char → Option (List Char × List Char)
  | c :: '_' :: d :: rest =>
    if !isDigit c then none
    else if isDigit d then
      (groupedDigits isDigit (d :: rest)).map fun (digits, more) => (c :: digits, more)
    else some ([c], '_' :: d :: rest)
  | c :: rest =>
    if !isDigit c then none
    else match groupedDigits isDigit rest with
      | some (digits, more) => some (c :: digits, more)
      | none => some ([c], rest)
  | [] => none

/-- The number that digits of a base spell. -/
def numberOf (base : Nat) (digits : List Char) : Nat :=
  digits.foldl (fun n c => n * base + (hexValue? c).getD 0) 0

/-- Splits a sign off the front of a number. -/
def sign : List Char → Bool × List Char
  | '-' :: rest => (true, rest)
  | '+' :: rest => (false, rest)
  | text => (false, text)

/-- Reads the digits of a whole number, which start with a zero only when it stands alone. -/
def wholeDigits : List Char → Option (List Char × List Char)
  | '0' :: rest => some (['0'], rest)
  | text => groupedDigits Char.isDigit text

/-- An integer of 64 bits with sign. -/
def integerOf? (n : Int) : Option Toml :=
  if -9223372036854775808 ≤ n ∧ n < 9223372036854775808 then some (.integer n) else none

/-- Reads an integer of a base other than ten, after its mark. -/
def basedInteger (base : Nat) (text : List Char) : Option (Toml × List Char) := do
  let (digits, rest) ← groupedDigits (fun c => (hexValue? c).any (· < base)) text
  return (← integerOf? (numberOf base digits), rest)

/-- Reads an integer. -/
def readInteger (text : List Char) : Option (Toml × List Char) :=
  match text with
  | '0' :: 'x' :: rest => basedInteger 16 rest
  | '0' :: 'o' :: rest => basedInteger 8 rest
  | '0' :: 'b' :: rest => basedInteger 2 rest
  | _ => do
    let (negative, text) := sign text
    let (digits, rest) ← wholeDigits text
    let size : Int := numberOf 10 digits
    return (← integerOf? (if negative then -size else size), rest)

/-- Reads the point and the digits after it. -/
def fraction : List Char → Option (List Char × List Char)
  | '.' :: rest => groupedDigits Char.isDigit rest
  | _ => none

/-- Reads an exponent. -/
def exponent : List Char → Option (Int × List Char)
  | c :: rest =>
    if c = 'e' ∨ c = 'E' then do
      let (negative, text) := sign rest
      let (digits, rest) ← groupedDigits Char.isDigit text
      let size : Int := numberOf 10 digits
      return (if negative then -size else size, rest)
    else none
  | [] => none

/-- Whether a positive number, given by its digits and the power of ten of the last, is too large
for a double. -/
def isTooLarge (digits : List Char) (power : Int) : Bool :=
  let size := numberOf 10 digits
  let digitCount : Int := (Nat.toDigits 10 size).length
  if size = 0 || digitCount + power < 300 then false
  else if 400 < digitCount + power then true
  else if 0 ≤ power then Nat.pow 2 1024 - Nat.pow 2 970 ≤ size * Nat.pow 10 power.toNat
  else (Nat.pow 2 1024 - Nat.pow 2 970) * Nat.pow 10 (-power).toNat ≤ size

/-- The text that was read, given what is left of it. -/
def spelling (text rest : List Char) : String :=
  String.ofList (text.take (text.length - rest.length))

/-- Reads a number with a point or an exponent. -/
def decimalFloat (text : List Char) : Option (Toml × List Char) := do
  let (negative, unsigned) := sign text
  let (whole, afterWhole) ← wholeDigits unsigned
  let (decimals, power, rest) ← match fraction afterWhole with
    | some (decimals, rest) =>
      match exponent rest with
      | some (power, rest) => some (decimals, power, rest)
      | none => some (decimals, (0 : Int), rest)
    | none => (exponent afterWhole).map fun (power, rest) => ([], power, rest)
  if !negative && isTooLarge (whole ++ decimals) (power - decimals.length) then none
  else return (.float (spelling text rest), rest)

/-- Reads a number that is infinite or none. -/
def specialFloat (text : List Char) : Option (Toml × List Char) :=
  match (sign text).2 with
  | 'i' :: 'n' :: 'f' :: rest => some (.float (spelling text rest), rest)
  | 'n' :: 'a' :: 'n' :: rest => some (.float (spelling text rest), rest)
  | _ => none

/-- Reads so many decimal digits. -/
def fixedDigits (count : Nat) (text : List Char) : Option (Nat × List Char) :=
  let digits := text.take count
  if digits.length = count ∧ digits.all Char.isDigit then
    some (numberOf 10 digits, text.drop count)
  else none

/-- Reads a character. -/
def mark (c : Char) : List Char → Option (List Char)
  | head :: rest => if head = c then some rest else none
  | [] => none

/-- The days of a month. -/
def daysIn (year month : Nat) : Nat :=
  let leap := year % 4 = 0 ∧ (year % 100 ≠ 0 ∨ year % 400 = 0)
  if month = 2 then if leap then 29 else 28
  else if [4, 6, 9, 11].contains month then 30
  else 31

/-- Passes over a date. -/
def date (text : List Char) : Option (List Char) := do
  let (year, text) ← fixedDigits 4 text
  let (month, text) ← fixedDigits 2 (← mark '-' text)
  let (day, text) ← fixedDigits 2 (← mark '-' text)
  if 1 ≤ month ∧ month ≤ 12 ∧ 1 ≤ day ∧ day ≤ daysIn year month then some text else none

/-- Passes over a time of day; the last second may be a leap second. -/
def time (text : List Char) : Option (List Char) := do
  let (hour, text) ← fixedDigits 2 text
  let (minute, text) ← fixedDigits 2 (← mark ':' text)
  let (second, text) ← fixedDigits 2 (← mark ':' text)
  if hour < 24 ∧ minute < 60 ∧ second ≤ 60 then
    match text with
    | '.' :: rest =>
      let decimals := rest.takeWhile Char.isDigit
      if decimals.isEmpty then some text else some (rest.drop decimals.length)
    | _ => some text
  else none

/-- Passes over the distance of a time from universal time, if it is given. -/
def offset (text : List Char) : List Char :=
  let distance (rest : List Char) : Option (List Char) := do
    let (hour, rest) ← fixedDigits 2 rest
    let (minute, rest) ← fixedDigits 2 (← mark ':' rest)
    if hour < 24 ∧ minute < 60 then some rest else none
  match text with
  | 'Z' :: rest => rest
  | 'z' :: rest => rest
  | '+' :: rest => (distance rest).getD text
  | '-' :: rest => (distance rest).getD text
  | _ => text

/-- Reads a date, a time of day, or both. -/
def readDateTime (text : List Char) : Option (Toml × List Char) :=
  let done (rest : List Char) : Option (Toml × List Char) :=
    some (.dateTime (spelling text rest), rest)
  match date text with
  | some afterDate =>
    let afterTime := match afterDate with
      | c :: rest => if c = 'T' ∨ c = 't' ∨ c = ' ' then (time rest).map offset else none
      | [] => none
    done (afterTime.getD afterDate)
  | none => (time text).bind done

/-- Reads a value without parts. -/
def scalar (text : List Char) : Option (Toml × List Char) :=
  match text with
  | '"' :: _ => (quoted text).map fun (value, rest) => (.string value, rest)
  | '\'' :: _ => (quoted text).map fun (value, rest) => (.string value, rest)
  | 't' :: 'r' :: 'u' :: 'e' :: rest => some (.boolean true, rest)
  | 'f' :: 'a' :: 'l' :: 's' :: 'e' :: rest => some (.boolean false, rest)
  | _ =>
    -- The longer readings are tried before the shorter ones.
    (readDateTime text).or <| (decimalFloat text).or <| (specialFloat text).or (readInteger text)

end Roster.Toml
