/-! Tables written as rows of numbers in base 36, with commas between numbers and a semicolon after
each row. -/

namespace Roster.Unicode

/-- The value of a digit in base 36. -/
def digit36 (c : Char) : Nat := if c.isDigit then c.toNat - 48 else c.toNat - 87

/-- The rows of a table: the current number, the current row in reverse, and the rows before. -/
def rowsFrom (number : Nat) (row : List Nat) (rows : Array (List Nat)) :
    List Char → Array (List Nat)
  | [] => rows
  | c :: rest =>
    if c = ';' then rowsFrom 0 [] (rows.push (number :: row).reverse) rest
    else if c.isWhitespace then rowsFrom number row rows rest
    else if c = ',' then rowsFrom 0 (number :: row) rows rest
    else rowsFrom (number * 36 + digit36 c) row rows rest

/-- The rows of a table; blanks and ends of lines do not count. -/
def rows (table : String) : Array (List Nat) := rowsFrom 0 [] #[] table.toList

/-- The row among rows of ranges in which a number lies. -/
def rangeOf? (ranges : Array (List Nat)) (n : Nat) : Option (List Nat) :=
  ranges.find? fun
    | first :: last :: _ => first ≤ n && n ≤ last
    | _ => false

/-- Whether a number lies in one of the ranges. -/
def inRanges (ranges : Array (List Nat)) (n : Nat) : Bool := (rangeOf? ranges n).isSome

/-- The rest of the row that starts with a number. -/
def rowOf? (table : Array (List Nat)) (n : Nat) : Option (List Nat) :=
  (table.find? fun row => row.head? == some n).map List.tail

end Roster.Unicode
