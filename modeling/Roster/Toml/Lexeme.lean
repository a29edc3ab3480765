import Roster.Toml

/-! The smallest parts of a settings file: blanks, comments, quoted texts and keys. -/

namespace Roster.Toml

/-- A text without the blanks in front. -/
def trim (text : List Char) : List Char := text.dropWhile fun c => c = ' ' || c = '\t'

/-- Whether a control character may not stand in a line. -/
def isControl (c : Char) : Bool := (c < ' ' && c ≠ '\t') || c = '\x7f'

/-- Reads the end of a line. -/
def newline? : List Char → Option (List Char)
  | '\n' :: rest => some rest
  | '\r' :: '\n' :: rest => some rest
  | _ => none

/-- A text without the comment in front, if there is one. -/
def skipComment (text : List Char) : List Char :=
  match text with
  | '#' :: rest => rest.dropWhile (!isControl ·)
  | _ => text

/-- A text without blanks, comments and ends of lines in front. -/
def skipLines (text : List Char) : List Char := go text.length text
where
  go : Nat → List Char → List Char
    | 0, text => trim text
    | budget + 1, text =>
      let text := skipComment (trim text)
      match newline? text with
      | some rest => go budget rest
      | none => text

/-- The value of a hexadecimal digit in either case. -/
def hexValue? (c : Char) : Option Nat :=
  if '0' ≤ c ∧ c ≤ '9' then some (c.toNat - 48)
  else if 'a' ≤ c ∧ c ≤ 'f' then some (c.toNat - 87)
  else if 'A' ≤ c ∧ c ≤ 'F' then some (c.toNat - 55)
  else none

/-- The character whose number is written in hexadecimal digits. -/
def charOf? (digits : List Char) : Option Char := do
  let values ← digits.mapM hexValue?
  let n := values.foldl (fun n digit => n * 16 + digit) 0
  if n < 0xD800 ∨ (0xDFFF < n ∧ n < 0x110000) then some (Char.ofNat n) else none

/-- The character meant by a letter after a backslash. -/
def shortEscape? (c : Char) : Option Char :=
  match c with
  | '"' => some '"'
  | '\\' => some '\\'
  | 'b' => some '\x08'
  | 'f' => some '\x0c'
  | 'n' => some '\n'
  | 'r' => some '\r'
  | 't' => some '\t'
  | _ => none

/-- Reads a text in double quotes on one line, after the opening quote. -/
def basicString (read : List Char) : List Char → Option (String × List Char)
  | [] => none
  | '"' :: rest => some (String.ofList read.reverse, rest)
  | '\\' :: 'u' :: a :: b :: c :: d :: rest => do
    basicString ((← charOf? [a, b, c, d]) :: read) rest
  | '\\' :: 'U' :: a :: b :: c :: d :: e :: f :: g :: h :: rest => do
    basicString ((← charOf? [a, b, c, d, e, f, g, h]) :: read) rest
  | '\\' :: c :: rest => do basicString ((← shortEscape? c) :: read) rest
  | c :: rest => if isControl c || c = '\\' then none else basicString (c :: read) rest

/-- Reads a text in single quotes on one line, after the opening quote. -/
def literalString (text : List Char) : Option (String × List Char) :=
  let body := text.takeWhile fun c => c ≠ '\'' && !isControl c
  match text.drop body.length with
  | '\'' :: rest => some (String.ofList body, rest)
  | _ => none

/-- The end of a text over several lines at quotes of one kind: up to two of five quotes belong to
the text. -/
def closing? (quote : Char) (text : List Char) : Option (Nat × List Char) :=
  let count := (text.takeWhile (· = quote)).length
  if count < 3 then none
  else
    let kept := min (count - 3) 2
    some (kept, text.drop (kept + 3))

/-- Reads a text over several lines in double quotes, after the opening quotes. -/
def longBasic (trimming : Bool) (read : List Char) : List Char → Option (String × List Char)
  | [] => none
  | '"' :: rest =>
    match closing? '"' ('"' :: rest) with
    | some (kept, after) =>
      some (String.ofList (read.reverse ++ List.replicate kept '"'), after)
    | none => longBasic false ('"' :: read) rest
  | '\r' :: '\n' :: rest => longBasic trimming (if trimming then read else '\n' :: read) rest
  | '\n' :: rest => longBasic trimming (if trimming then read else '\n' :: read) rest
  | '\\' :: 'u' :: a :: b :: c :: d :: rest => do
    longBasic false ((← charOf? [a, b, c, d]) :: read) rest
  | '\\' :: 'U' :: a :: b :: c :: d :: e :: f :: g :: h :: rest => do
    longBasic false ((← charOf? [a, b, c, d, e, f, g, h]) :: read) rest
  | '\\' :: c :: rest =>
    match shortEscape? c with
    | some meant => longBasic false (meant :: read) rest
    | none =>
      -- A backslash at the end of a line takes all blanks and ends of lines that follow away.
      if (newline? (trim (c :: rest))).isSome then longBasic true read (c :: rest) else none
  | c :: rest =>
    if trimming && (c = ' ' || c = '\t') then longBasic true read rest
    else if isControl c || c = '\\' then none
    else longBasic false (c :: read) rest

/-- Reads a text over several lines in single quotes, after the opening quotes. -/
def longLiteral (read : List Char) : List Char → Option (String × List Char)
  | [] => none
  | '\'' :: rest =>
    match closing? '\'' ('\'' :: rest) with
    | some (kept, after) =>
      some (String.ofList (read.reverse ++ List.replicate kept '\''), after)
    | none => longLiteral ('\'' :: read) rest
  | '\r' :: '\n' :: rest => longLiteral ('\n' :: read) rest
  | c :: rest =>
    if isControl c && c ≠ '\n' then none else longLiteral (c :: read) rest

/-- A text without the end of a line in front. -/
def skipNewline (text : List Char) : List Char := (newline? text).getD text

/-- Reads a quoted text of any kind. -/
def quoted : List Char → Option (String × List Char)
  | '"' :: '"' :: '"' :: rest => longBasic false [] (skipNewline rest)
  | '\'' :: '\'' :: '\'' :: rest => longLiteral [] (skipNewline rest)
  | '"' :: rest => basicString [] rest
  | '\'' :: rest => literalString rest
  | _ => none

/-- Whether a character may stand in a key without quotes. -/
def isBare (c : Char) : Bool :=
  ('a' ≤ c && c ≤ 'z') || ('A' ≤ c && c ≤ 'Z') || c.isDigit || c = '_' || c = '-'

/-- Reads one name of a key, quoted on one line or bare. -/
def keyName : List Char → Option (String × List Char)
  | '"' :: rest => basicString [] rest
  | '\'' :: rest => literalString rest
  | text =>
    let name := text.takeWhile isBare
    if name.isEmpty then none else some (String.ofList name, text.drop name.length)

/-- Reads a key: names with dots between them, and blanks around the dots. -/
def key (text : List Char) : Option (List String × List Char) := go text.length text
where
  go : Nat → List Char → Option (List String × List Char)
    | 0, _ => none
    | budget + 1, text => do
      let (name, rest) ← keyName (trim text)
      match trim rest with
      | '.' :: more =>
        let (names, last) ← go budget more
        return (name :: names, last)
      | more => return ([name], more)

/-- How many names a key has less than, and how deep values may be nested. -/
def depthLimit : Nat := 80

/-- Reads a key that is not too long. -/
def boundedKey (text : List Char) : Option (List String × List Char) := do
  let (names, rest) ← key text
  if names.length < depthLimit then some (names, rest) else none

end Roster.Toml
