import Roster.Net.Address
import Roster.Net.Domain
import Roster.Net.Percent

/-! Hosts in addresses of resources: names, and internet addresses in many spellings. -/

namespace Roster

/-- A host. -/
inductive Host where
  | name (text : String)
  | address (address : Address)
  deriving DecidableEq

namespace Host

/-- The text of a host without brackets. -/
def bare : Host → String
  | name text => text
  | address (.v4 octets) => String.ofList (Address.dotted octets)
  | address (.v6 groups) => String.ofList (Address.compressed groups)

/-- The text of a host; a version 6 address stands in brackets. -/
def text : Host → String
  | address (.v6 groups) => "[" ++ bare (.address (.v6 groups)) ++ "]"
  | host => host.bare

/-- The number that a part of a numeric host spells: decimal, octal after `0`, hexadecimal after
`0x`. -/
def number? (part : List Char) : Option Nat :=
  let spelled (base : Nat) (digits : List Char) : Option Nat :=
    if digits.all fun c => (Address.digitValue? c).any (· < base) then
      some (Address.digitNumber base digits)
    else none
  match part with
  | [] => none
  | '0' :: 'x' :: digits => spelled 16 digits
  | '0' :: 'X' :: digits => spelled 16 digits
  | '0' :: c :: digits => spelled 8 (c :: digits)
  | digits => spelled 10 digits

/-- The parts of a name between points, without an empty one at the end. -/
def numericParts (name : List Char) : List (List Char) :=
  let parts := name.splitOn '.'
  if parts.getLast? = some [] then parts.dropLast else parts

/-- Whether a name ends in a number, so that it has to be an address. -/
def endsInNumber (name : List Char) : Bool :=
  match (numericParts name).getLast? with
  | none => false
  | some last => (!last.isEmpty && last.all Char.isDigit) || (number? last).isSome

/-- The address whose last octets one number gives, after one octet for each number in front. -/
def ofNumbers? (front : List Nat) (last : Nat) : Option Address :=
  if 3 < front.length ∨ front.any (255 < ·) ∨ Nat.pow 256 (4 - front.length) ≤ last then none
  else
    let high := front.foldl (fun n octet => n * 256 + octet) 0
    let bits := high * Nat.pow 256 (4 - front.length) + last
    let octet (shift : Nat) : UInt8 := UInt8.ofNat (bits / Nat.pow 256 shift % 256)
    some (.v4 #v[octet 3, octet 2, octet 1, octet 0])

/-- The address that a name spells by numbers. -/
def numeric? (name : List Char) : Option Address := do
  let numbers ← (numericParts name).mapM number?
  ofNumbers? numbers.dropLast (← numbers.getLast?)

/-- The address between the brackets of a host. -/
def bracketed? (text : List Char) : Option Host :=
  if text.getLast? = some ']' then
    (Address.parseGroups? text.dropLast).map fun groups => .address (.v6 groups)
  else none

/-- Reads a host of a scheme that has internet hosts. -/
def parse? (text : List Char) : Option Host :=
  match text with
  | '[' :: rest => bracketed? rest
  | _ => do
    let decoded ← Percent.decode? (String.ofList text)
    let name ← Domain.toAscii? (decoded.toList.map Char.toNat)
    if name.isEmpty then none
    else if endsInNumber name then return .address (← numeric? name)
    else return .name (String.ofList name)

/-- Whether a character may not stand in the host of any scheme. -/
def isForbidden (c : Char) : Bool := "\x00\t\n\r #/:<>?@[\\]^|".toList.contains c

/-- Reads a host of a scheme with hosts of its own kind. -/
def parseOpaque? (text : List Char) : Option Host :=
  match text with
  | '[' :: rest => bracketed? rest
  | _ =>
    if text.any isForbidden then none
    else some (.name (String.ofList (Percent.encode Percent.isControl text)))

end Host

end Roster
