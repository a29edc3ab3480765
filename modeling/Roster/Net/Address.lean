/-! Internet addresses of both versions, their text and the reading of it. -/

namespace Roster

/-- An internet address. -/
inductive Address where
  | v4 (octets : Vector UInt8 4)
  | v6 (groups : Vector UInt16 8)
  deriving DecidableEq

namespace Address

/-- A number's digits in a base. -/
def digitText (base n : Nat) : List Char := Nat.toDigits base n

/-- Four octets in decimal digits with points between them. -/
def dotted (octets : Vector UInt8 4) : List Char :=
  ['.'].intercalate (octets.toList.map fun octet => digitText 10 octet.toNat)

/-- The place and the length of the first of the longest runs of zeros, counted from a place on. -/
def longestZeros (place : Nat) : List UInt16 → Nat × Nat
  | [] => (place, 0)
  | group :: rest =>
    let here := ((group :: rest).takeWhile (· == 0)).length
    let later := longestZeros (place + 1) rest
    if later.2 ≤ here then (place, here) else later

/-- Groups in hexadecimal digits with colons between them. -/
def groupText (groups : List UInt16) : List Char :=
  [':'].intercalate (groups.map fun group => digitText 16 group.toNat)

/-- Eight groups, of which the longest run of two or more zeros is left out. -/
def compressed (groups : Vector UInt16 8) : List Char :=
  let (place, length) := longestZeros 0 groups.toList
  if length < 2 then groupText groups.toList
  else groupText (groups.toList.take place) ++ [':', ':'] ++
    groupText (groups.toList.drop (place + length))

/-- A group of sixteen bits as two octets. -/
def octetsOf (group : UInt16) : UInt8 × UInt8 := ((group >>> 8).toUInt8, group.toUInt8)

/-- Two octets as a group of sixteen bits. -/
def groupOf (high low : UInt8) : UInt16 := (high.toUInt16 <<< 8) ||| low.toUInt16

/-- The version 4 address that a version 6 address stands for. -/
def mapped? (groups : Vector UInt16 8) : Option (Vector UInt8 4) :=
  if groups.toList.take 6 = [0, 0, 0, 0, 0, 0xffff] then
    let (a, b) := octetsOf groups[6]
    let (c, d) := octetsOf groups[7]
    some #v[a, b, c, d]
  else none

/-- The version 6 address that stands for a version 4 address. -/
def mapping (octets : Vector UInt8 4) : Vector UInt16 8 :=
  #v[0, 0, 0, 0, 0, 0xffff, groupOf octets[0] octets[1], groupOf octets[2] octets[3]]

/-- An address in version 4 wherever it stands for one. -/
def canonical : Address → Address
  | v4 octets => v4 octets
  | v6 groups => match mapped? groups with
    | some octets => v4 octets
    | none => v6 groups

/-- The text of an address; the part of version 4 inside one of version 6 is dotted. -/
def text : Address → String
  | v4 octets => String.ofList (dotted octets)
  | v6 groups => match mapped? groups with
    | some octets => "::ffff:" ++ String.ofList (dotted octets)
    | none => String.ofList (compressed groups)

/-- The numbers by which addresses are ordered: version 4 first, then from left to right. -/
def rank : Address → List Nat
  | v4 octets => 4 :: octets.toList.map UInt8.toNat
  | v6 groups => 6 :: groups.toList.map UInt16.toNat

/-- Whether numbers do not come after others when they are compared from left to right. -/
def inOrder : List Nat → List Nat → Bool
  | [], _ => true
  | _ :: _, [] => false
  | m :: ms, n :: ns => m < n || (m = n && inOrder ms ns)

/-- The value of a hexadecimal digit in either case. -/
def digitValue? (c : Char) : Option Nat :=
  if '0' ≤ c ∧ c ≤ '9' then some (c.toNat - 48)
  else if 'a' ≤ c ∧ c ≤ 'f' then some (c.toNat - 87)
  else if 'A' ≤ c ∧ c ≤ 'F' then some (c.toNat - 55)
  else none

/-- The number that digits of a base spell. -/
def digitNumber (base : Nat) (digits : List Char) : Nat :=
  digits.foldl (fun n c => n * base + (digitValue? c).getD 0) 0

/-- Reads an octet: one to three decimal digits without a leading zero. -/
def readOctet (text : List Char) : Option (UInt8 × List Char) :=
  let digits := text.takeWhile Char.isDigit
  let n := digitNumber 10 digits
  if digits = [] ∨ 3 < digits.length ∨ 255 < n ∨ (1 < digits.length ∧ digits.head? = some '0') then
    none
  else some (UInt8.ofNat n, text.dropWhile Char.isDigit)

/-- Reads a point and then an octet. -/
def readNextOctet : List Char → Option (UInt8 × List Char)
  | '.' :: rest => readOctet rest
  | _ => none

/-- Reads four octets with points between them. -/
def readDotted (text : List Char) : Option (Vector UInt8 4 × List Char) := do
  let (a, text) ← readOctet text
  let (b, text) ← readNextOctet text
  let (c, text) ← readNextOctet text
  let (d, text) ← readNextOctet text
  return (#v[a, b, c, d], text)

/-- Reads a group: one to four hexadecimal digits. -/
def readGroup (text : List Char) : Option (UInt16 × List Char) :=
  let isHex := fun c => (digitValue? c).isSome
  let digits := text.takeWhile isHex
  if digits = [] ∨ 4 < digits.length then none
  else some (UInt16.ofNat (digitNumber 16 digits), text.dropWhile isHex)

/-- The groups found at the front of a text. -/
structure Groups where
  groups : List UInt16
  -- Whether the last two of them were dotted.
  dotted : Bool
  rest : List Char

/-- Reads groups with colons between them, as many as there are up to a limit. -/
def readGroups : Nat → Bool → List Char → Groups
  | 0, _, text => ⟨[], false, text⟩
  | limit + 1, first, text =>
    let front : Option (List Char) :=
      if first then some text
      else match text with
        | ':' :: rest => some rest
        | _ => none
    match front with
    | none => ⟨[], false, text⟩
    | some front =>
      -- A dotted part fills two groups, so there has to be room for both.
      match if limit = 0 then none else readDotted front with
      | some (octets, rest) =>
        ⟨[groupOf octets[0] octets[1], groupOf octets[2] octets[3]], true, rest⟩
      | none =>
        match readGroup front with
        | none => ⟨[], false, text⟩
        | some (group, rest) =>
          let more := readGroups limit false rest
          { more with groups := group :: more.groups }

/-- A list of eight groups. -/
def ofGroups? (groups : List UInt16) : Option (Vector UInt16 8) :=
  if sized : groups.toArray.size = 8 then some ⟨groups.toArray, sized⟩ else none

/-- Reads a version 6 address: eight groups, or fewer around a double colon. -/
def parseGroups? (text : List Char) : Option (Vector UInt16 8) :=
  let head := readGroups 8 true text
  if head.groups.length = 8 then
    if head.rest.isEmpty then ofGroups? head.groups else none
  else if head.dotted then none
  else match head.rest with
    | ':' :: ':' :: rest =>
      let tail := readGroups (7 - head.groups.length) true rest
      let zeros := 8 - head.groups.length - tail.groups.length
      if tail.rest.isEmpty then ofGroups? (head.groups ++ List.replicate zeros 0 ++ tail.groups)
      else none
    | _ => none

/-- Reads a version 4 address. -/
def parseOctets? (text : List Char) : Option (Vector UInt8 4) :=
  match readDotted text with
  | some (octets, []) => some octets
  | _ => none

/-- Reads an address of either version. -/
def parse? (text : String) : Option Address :=
  ((parseOctets? text.toList).map v4).or ((parseGroups? text.toList).map v6)

end Address

end Roster
