import Roster.Unicode.ClassesData
import Roster.Unicode.Table

/-! The classes of characters in host names, and the rules on writing direction and joining. -/

namespace Roster.Unicode

/-- The direction of a character in writing. -/
inductive Direction
  | leftToRight
  | rightToLeft
  | arabicLetter
  | arabicNumber
  | europeanNumber
  | europeanSeparator
  | commonSeparator
  | europeanTerminator
  | otherNeutral
  | boundaryNeutral
  | nonspacingMark
  | other
  deriving DecidableEq

namespace Direction

/-- The directions in the order of their numbers in the table. -/
def all : List Direction :=
  [leftToRight, rightToLeft, arabicLetter, arabicNumber, europeanNumber, europeanSeparator,
    commonSeparator, europeanTerminator, otherNeutral, boundaryNeutral, nonspacingMark, other]

/-- The directions that may stand in a text written from right to left. -/
def inRightToLeft : List Direction :=
  [rightToLeft, arabicLetter, arabicNumber, europeanNumber, europeanSeparator, commonSeparator,
    europeanTerminator, otherNeutral, boundaryNeutral, nonspacingMark]

/-- The directions that may stand in a text written from left to right. -/
def inLeftToRight : List Direction :=
  [leftToRight, europeanNumber, europeanSeparator, commonSeparator, europeanTerminator,
    otherNeutral, boundaryNeutral, nonspacingMark]

end Direction

/-- The rows of directions. -/
def directionRows : Array (List Nat) := rows directionRanges

/-- The rows of combining marks. -/
def markRows : Array (List Nat) := rows markRanges

/-- The direction of a character. -/
def direction (n : Nat) : Direction :=
  (((rangeOf? directionRows n).bind (·[2]?)).bind (Direction.all[·]?)).getD .leftToRight

/-- Whether a character is a combining mark. -/
def isMark (n : Nat) : Bool := inRanges markRows n

/-- Whether a text has a character that is written from right to left. -/
def hasRightToLeft (text : List Nat) : Bool :=
  text.any fun n => [.rightToLeft, .arabicLetter, .arabicNumber].contains (direction n)

/-- Whether the directions in one part of a host name go together. -/
def directionsAgree (part : List Nat) : Bool :=
  let directions := part.map direction
  -- Marks at the end count for the letter in front of them.
  let last := (directions.reverse.dropWhile (· == .nonspacingMark)).head?
  match directions.head? with
  | none => true
  | some .leftToRight =>
    directions.all Direction.inLeftToRight.contains &&
      last.any [.leftToRight, .europeanNumber].contains
  | some first =>
    [Direction.rightToLeft, .arabicLetter].contains first &&
      directions.all Direction.inRightToLeft.contains &&
      last.any [.rightToLeft, .arabicLetter, .europeanNumber, .arabicNumber].contains &&
      !(directions.contains .europeanNumber && directions.contains .arabicNumber)

/-- The rows of letters that join to both sides or to the left. -/
def joinsLeftRows : Array (List Nat) := rows joinsBothSides ++ rows joinsLeft

/-- The rows of letters that join to both sides or to the right. -/
def joinsRightRows : Array (List Nat) := rows joinsBothSides ++ rows joinsRight

/-- The rows of characters that joining passes over. -/
def joinsThroughRows : Array (List Nat) := rows joinsThrough

/-- Whether the nearest letter joins as wanted, when characters that joining passes over are left
out. -/
def nearestJoins (wanted : Array (List Nat)) (text : List Nat) : Bool :=
  ((text.dropWhile (inRanges joinsThroughRows)).head?).any (inRanges wanted)

end Roster.Unicode
