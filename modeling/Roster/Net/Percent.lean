/-! Bytes written as a percent sign and two hexadecimal digits. -/

namespace Roster.Percent

/-- The value of a hexadecimal digit in either case. -/
def digit? (byte : UInt8) : Option UInt8 :=
  if 48 ≤ byte ∧ byte ≤ 57 then some (byte - 48)
  else if 97 ≤ byte ∧ byte ≤ 102 then some (byte - 87)
  else if 65 ≤ byte ∧ byte ≤ 70 then some (byte - 55)
  else none

/-- The byte that stands behind a percent sign. -/
def byte? (high low : UInt8) : Option UInt8 := do
  return (← digit? high) * 16 + (← digit? low)

/-- Resolves the bytes that are written in digits; a percent sign without digits stays. -/
def decodeBytes : List UInt8 → List UInt8
  | 37 :: high :: low :: rest =>
    match byte? high low with
    | some byte => byte :: decodeBytes rest
    | none => 37 :: decodeBytes (high :: low :: rest)
  | byte :: rest => byte :: decodeBytes rest
  | [] => []
termination_by bytes => bytes.length

/-- A text with its percent signs resolved, unless the bytes are then no text. -/
def decode? (text : String) : Option String :=
  String.fromUTF8? ⟨(decodeBytes text.toUTF8.toList).toArray⟩

/-- A digit in upper case. -/
def digitChar (n : Nat) : Char := (Nat.digitChar n).toUpper

/-- A byte written in digits. -/
def encodeByte (byte : UInt8) : List Char :=
  ['%', digitChar (byte.toNat / 16), digitChar (byte.toNat % 16)]

/-- A text in which the characters of a set, and all beyond ASCII, are written in digits. -/
def encode (isUnsafe : Char → Bool) (text : List Char) : List Char :=
  text.flatMap fun c =>
    if isUnsafe c || 128 ≤ c.toNat then c.toString.toUTF8.toList.flatMap encodeByte else [c]

/-- Whether a character is a control character. -/
def isControl (c : Char) : Bool := c < ' ' || c = '\x7f'

end Roster.Percent
