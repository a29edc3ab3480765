import Roster.Toml.Scalar

/-! Whole settings files: nested values, headings and lines. -/

namespace Roster.Toml

/-- Reads the items of a list up to the closing bracket. -/
def arrayItems (element : List Char → Option (Toml × List Char)) :
    Nat → List Char → Option (List Toml × List Char)
  | 0, _ => none
  | budget + 1, text =>
    match skipLines text with
    | ']' :: rest => some ([], rest)
    | text => do
      let (value, rest) ← element text
      match skipLines rest with
      | ',' :: more =>
        let (values, last) ← arrayItems element budget more
        return (value :: values, last)
      | ']' :: last => return ([value], last)
      | _ => none

/-- Reads a key, an equals sign and a value. -/
def keyValue (element : List Char → Option (Toml × List Char)) (text : List Char) :
    Option (List String × Toml × List Char) := do
  let (names, rest) ← boundedKey text
  let (value, rest) ← element (trim (← mark '=' rest))
  return (names, value, rest)

/-- Reads the members of a table in braces up to the closing brace, on one line and without a comma
at the end. -/
def inlineMembers (element : List Char → Option (Toml × List Char)) (root : Toml) :
    Nat → List Char → Option (Toml × List Char)
  | 0, _ => none
  | budget + 1, text => do
    let (names, value, rest) ← keyValue element text
    let root ← assign names value root
    match trim rest with
    | ',' :: more => inlineMembers element root budget more
    | '\x7d' :: last => return (root, last)
    | _ => none

/-- A table that nothing can be added to. -/
def close : Toml → Toml
  | .table _ members => .table .closed members
  | other => other

/-- Reads a value whose brackets are nested less deep than a limit. -/
def value : Nat → List Char → Option (Toml × List Char)
  | depth, text =>
    match depth, text with
    | deeper + 1, '[' :: rest =>
      (arrayItems (value deeper) rest.length.succ rest).map fun (items, last) =>
        (.array items, last)
    | deeper + 1, '\x7b' :: rest =>
      match trim rest with
      | '\x7d' :: last => some (.table .closed [], last)
      | _ =>
        (inlineMembers (value deeper) (.table .headed []) rest.length.succ rest).map
          fun (root, last) => (close root, last)
    | _, text => scalar text

/-- Reads what may stand at the end of a line, and the end itself. -/
def lineEnd (text : List Char) : Option (List Char) :=
  match skipComment (trim text) with
  | [] => some []
  | rest => newline? rest

/-- Reads the lines of a file into the tables so far, below the heading in force. -/
def readLines (root : Toml) (heading : List String) : Nat → List Char → Option Toml
  | 0, _ => none
  | budget + 1, text =>
    match skipLines text with
    | [] => some root
    | '[' :: '[' :: rest => do
      let (names, rest) ← boundedKey rest
      let rest ← mark ']' (← mark ']' rest)
      readLines (← addTable names root) names budget (← lineEnd rest)
    | '[' :: rest => do
      let (names, rest) ← boundedKey rest
      readLines (← openTable names root) names budget (← lineEnd (← mark ']' rest))
    | text => do
      let (names, found, rest) ← keyValue (value (depthLimit - 1)) text
      let root ← descend false (assign names found) heading root
      readLines root heading budget (← lineEnd rest)

/-- The members of the table that a settings file spells; a byte order mark in front is passed
over. -/
def parse? (text : String) : Option (List (String × Toml)) :=
  let text := match text.toList with
    | '\ufeff' :: rest => rest
    | text => text
  match readLines (.table .headed []) [] text.length.succ text with
  | some (.table _ members) => some members
  | _ => none

end Roster.Toml
