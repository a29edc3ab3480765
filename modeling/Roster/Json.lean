import Roster.Millis

/-! JSON values and their compact text. -/

namespace Roster

/-- A JSON value. -/
inductive Json where
  | null
  | bool (value : Bool)
  | int (value : Int)
  -- A number that is no integer of 64 bits, as it was spelled.
  | float (spelling : String)
  | str (value : String)
  | arr (items : List Json)
  | obj (members : List (String × Json))
  deriving Inhabited

namespace Json

/-- The digit for a number below 16. -/
def hexDigit (n : Nat) : Char := Nat.digitChar n

/-- The characters that stand for one character inside a quoted text. -/
def escapeChar (c : Char) : List Char :=
  if c = '"' then ['\\', '"']
  else if c = '\\' then ['\\', '\\']
  else if c = '\x08' then ['\\', 'b']
  else if c = '\x0c' then ['\\', 'f']
  else if c = '\n' then ['\\', 'n']
  else if c = '\r' then ['\\', 'r']
  else if c = '\t' then ['\\', 't']
  else if c < ' ' then ['\\', 'u', '0', '0', hexDigit (c.toNat / 16), hexDigit (c.toNat % 16)]
  else [c]

/-- A text in quotes, with quotes, backslashes and control characters escaped. -/
def quote (text : String) : List Char := '"' :: text.toList.flatMap escapeChar ++ ['"']

/-- The decimal digits of an integer, after a minus sign when it is negative. -/
def intText (n : Int) : List Char :=
  match n with
  | .ofNat m => Nat.toDigits 10 m
  | .negSucc m => '-' :: Nat.toDigits 10 (m + 1)

mutual

/-- The text of a value without blanks. -/
def chars : Json → List Char
  | null => "null".toList
  | bool value => if value then "true".toList else "false".toList
  | int value => intText value
  | float spelling => spelling.toList
  | str value => quote value
  | arr items => '[' :: itemChars items ++ [']']
  | obj members => '{' :: memberChars members ++ ['}']

/-- The texts of list items with commas between them. -/
def itemChars : List Json → List Char
  | [] => []
  | [item] => chars item
  | item :: next :: rest => chars item ++ ',' :: itemChars (next :: rest)

/-- The texts of members with commas between them. -/
def memberChars : List (String × Json) → List Char
  | [] => []
  | [(key, value)] => quote key ++ ':' :: chars value
  | (key, value) :: next :: rest =>
    quote key ++ ':' :: chars value ++ ',' :: memberChars (next :: rest)

end

/-- The text of a value without blanks. -/
def compact (json : Json) : String := String.ofList json.chars

/-- The value of an object's member; of members with one name the last counts. -/
def member? (members : List (String × Json)) (name : String) : Option Json :=
  (members.reverse.find? (fun pair => pair.1 == name)).map Prod.snd

end Json

end Roster
