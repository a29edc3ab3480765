import Roster.Unicode.FoldingData
import Roster.Unicode.Table

/-! The folding of characters in host names. -/

namespace Roster.Unicode

/-- What becomes of a character in a host name. -/
inductive Folding
  | kept
  | replaced (targets : List Nat)
  | refused

/-- The rows of replacements that follow one another. -/
def runRows : Array (List Nat) := rows foldingRuns

/-- The rows of replacements by texts. -/
def textRows : Array (List Nat) := rows foldingTexts

/-- The rows of characters that stand for nothing. -/
def ignoredRows : Array (List Nat) := rows foldingIgnored

/-- The rows of characters that are refused. -/
def refusedRows : Array (List Nat) := rows foldingRefused

/-- The replacement that a row of replacements gives to a character. -/
def inRun? (n : Nat) : List Nat → Option Nat
  | [first, count, distance, target] =>
    let place := n - first
    if n < first then none
    else if distance = 0 then if place < count then some target else none
    else if place % distance = 0 ∧ place / distance < count then some (target + place) else none
  | _ => none

/-- The folding of a character. -/
def fold (n : Nat) : Folding :=
  match runRows.findSome? (inRun? n) with
  | some target => .replaced [target]
  | none =>
    match rowOf? textRows n with
    | some targets => .replaced targets
    | none =>
      if inRanges ignoredRows n then .replaced []
      else if inRanges refusedRows n then .refused
      else .kept

/-- The folding of a text, or nothing when a character of it is refused. -/
def foldAll (text : List Nat) : Option (List Nat) :=
  (text.mapM fun n => match fold n with
    | .kept => some [n]
    | .replaced targets => some targets
    | .refused => none).map List.flatten

end Roster.Unicode
