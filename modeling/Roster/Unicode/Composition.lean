import Roster.Unicode.CompositionData
import Roster.Unicode.Table

/-! The composed normal form of texts, in which equal texts are spelled alike. -/

namespace Roster.Unicode

/-- The rows of characters that compose from two others. -/
def pairRows : Array (List Nat) := rows compositionPairs

/-- The rows of characters that decompose and never compose again. -/
def onlyRows : Array (List Nat) := rows decompositionOnly

/-- The rows of combining classes. -/
def combiningRows : Array (List Nat) := rows combiningRanges

/-- The class by which a combining character is ordered; 0 for a character that is none. -/
def combiningClass (n : Nat) : Nat := ((rangeOf? combiningRows n).bind (·[2]?)).getD 0

/-- The characters that a Korean syllable decomposes to. -/
def syllableParts? (n : Nat) : Option (List Nat) :=
  if n < 0xAC00 ∨ 0xAC00 + 11172 ≤ n then none
  else
    let place := n - 0xAC00
    let pair := [0x1100 + place / 588, 0x1161 + place % 588 / 28]
    some (if place % 28 = 0 then pair else pair ++ [0x11A7 + place % 28])

/-- The characters that a character decomposes to, up to a depth. -/
def decompose : Nat → Nat → List Nat
  | 0, n => [n]
  | depth + 1, n =>
    match (syllableParts? n).or ((rowOf? pairRows n).or (rowOf? onlyRows n)) with
    | some parts => parts.flatMap (decompose depth)
    | none => [n]

/-- How deep decompositions are nested at most. -/
def decompositionDepth : Nat := 8

/-- Puts a combining character behind those in front of it that it may not pass. -/
def settle (n rank : Nat) : List Nat → List Nat
  -- The characters in front are listed from the nearest to the farthest.
  | [] => [n]
  | last :: rest =>
    if rank ≠ 0 ∧ rank < combiningClass last then last :: settle n rank rest
    else n :: last :: rest

/-- Orders each run of combining characters by their classes; equal ones keep their order. -/
def orderMarks (text : List Nat) : List Nat :=
  (text.foldl (fun front n => settle n (combiningClass n) front) []).reverse

/-- The character that two characters compose to. -/
def composePair? (first second : Nat) : Option Nat :=
  if 0x1100 ≤ first ∧ first < 0x1113 ∧ 0x1161 ≤ second ∧ second < 0x1176 then
    some (0xAC00 + ((first - 0x1100) * 21 + (second - 0x1161)) * 28)
  else if 0xAC00 ≤ first ∧ first < 0xAC00 + 11172 ∧ (first - 0xAC00) % 28 = 0 ∧
      0x11A7 < second ∧ second < 0x11C3 then
    some (first + (second - 0x11A7))
  else
    (pairRows.find? fun row => row.tail == [first, second]).bind List.head?

/-- The state of a composition: finished characters in reverse, the last starter, and what follows
it, in reverse. -/
structure Composing where
  finished : List Nat
  starter : Option Nat
  after : List Nat

/-- Composes a character with the last starter unless another character blocks it. -/
def Composing.add (state : Composing) (n : Nat) : Composing :=
  let rank := combiningClass n
  let blocked := match state.after with
    | [] => false
    | last :: _ => rank ≤ combiningClass last
  match if blocked then none else state.starter.bind (composePair? · n) with
  | some composed => { state with starter := some composed }
  | none =>
    if rank = 0 then ⟨state.after ++ state.starter.toList ++ state.finished, some n, []⟩
    else { state with after := n :: state.after }

/-- The composed normal form of a text. -/
def compose (text : List Nat) : List Nat :=
  let ordered := orderMarks (text.flatMap (decompose decompositionDepth))
  let final := ordered.foldl Composing.add ⟨[], none, []⟩
  (final.after ++ final.starter.toList ++ final.finished).reverse

end Roster.Unicode
