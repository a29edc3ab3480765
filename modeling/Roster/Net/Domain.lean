import Roster.Net.Punycode
import Roster.Unicode.Classes
import Roster.Unicode.Composition
import Roster.Unicode.Folding

/-! Host names: every spelling of a name is brought into the one form in letters of ASCII. -/

namespace Roster.Domain

open Roster.Unicode

/-- The front of a part that is spelled in letters and digits for other characters. -/
def encodedFront : List Nat := "xn--".toList.map Char.toNat

/-- Whether the joiners in a part stand where they change the look of letters. -/
def joinersFit : List Nat → List Nat → Bool
  | _, [] => true
  | front, n :: rest =>
    -- A joiner has to follow a mark of class 9; one that separates may also part joined letters.
    let afterVirama := front.head?.any fun last => combiningClass last = 9
    let fits :=
      if n = 0x200D then afterVirama
      else if n = 0x200C then
        afterVirama || (nearestJoins joinsLeftRows front && nearestJoins joinsRightRows rest)
      else true
    fits && joinersFit (n :: front) rest

/-- Whether a part may stand in a host name. -/
def isValidPart (part : List Nat) : Bool :=
  !(part.head?.any isMark) && joinersFit [] part

/-- Whether a part is its own folded and composed form. -/
def isSettled (part : List Nat) : Bool := foldAll part = some part && compose part = part

/-- The characters of a part, which may be spelled in letters and digits. -/
def decodePart? (part : List Nat) : Option (List Nat) :=
  if encodedFront.isPrefixOf part then do
    let decoded ← Punycode.decode? ((part.drop 4).map Char.ofNat)
    -- A spelling in letters and digits is for parts that need it.
    if decoded.all (· < 128) || !isSettled decoded then none
    else some decoded
  else some part

/-- The form of a part in ASCII. -/
def encodePart (part : List Nat) : List Char :=
  if part.all (· < 128) then part.map Char.ofNat else "xn--".toList ++ Punycode.encode part

/-- Whether a character of ASCII may not stand in a host name. -/
def isForbidden (c : Char) : Bool :=
  c ≤ ' ' || c = '\x7f' || "%#/:<>?@[\\]^|".toList.contains c

/-- A text cut at its points. -/
def parts (text : List Nat) : List (List Nat) := text.splitOn 0x2E

/-- A name in ASCII unless it has a forbidden character. -/
def allowed? (ascii : List Char) : Option (List Char) :=
  if ascii.any isForbidden then none else some ascii

/-- The form in ASCII of a name that may have any characters and encoded parts. -/
def mapped? (name : List Nat) : Option (List Char) := do
  let folded ← foldAll name
  let parts ← (parts (compose folded)).mapM decodePart?
  if !parts.all isValidPart then none
  -- The direction of writing matters once anything is written from right to left.
  else if parts.any hasRightToLeft && !parts.all directionsAgree then none
  else allowed? (['.'].intercalate (parts.map encodePart))

/-- A name with its letters of ASCII in lower case. -/
def lowered (name : List Nat) : List Nat :=
  name.map fun n => if 0x41 ≤ n ∧ n ≤ 0x5A then n + 0x20 else n

/-- Whether a name in lower case is in ASCII and has no encoded part. -/
def isPlain (name : List Nat) : Bool :=
  name.all (· < 128) && !(parts name).any (encodedFront.isPrefixOf ·)

/-- The one form of a host name in ASCII, if it has one. -/
def toAscii? (name : List Nat) : Option (List Char) :=
  -- Of a plain name all that the mapping changes is the case of letters.
  if isPlain (lowered name) then allowed? ((lowered name).map Char.ofNat) else mapped? name

end Roster.Domain
