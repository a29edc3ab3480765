import Roster.Net.Address

/-! The addresses of hosts. -/

namespace Roster

/-- Why a host has no addresses. -/
inductive Unresolved
  | unknown (host : String)
  | invalid
  deriving DecidableEq

/-- The wording of a failed look-up. -/
def Unresolved.message : Unresolved → String
  | unknown host => s!"unknown host {host}"
  | invalid => "invalid host name"

/-- A way to look the addresses of a host up. -/
abbrev Resolver := String → Except Unresolved (List Address)

namespace Resolver

/-- The look-up that knows addresses by their own text alone, and gives them in canonical form. -/
def literals : Resolver := fun host =>
  match Address.parse? host with
  | some address => .ok [address.canonical]
  | none => .error (.unknown host)

/-- The look-up of a machine without name service, which takes no host with a null character. -/
def system : Resolver := fun host =>
  if host.contains '\x00' then .error .invalid else literals host

/-- The look-up in a table of names, and then by another look-up. -/
def table (names : List (String × List Address)) (other : Resolver) : Resolver := fun host =>
  match names.find? (fun pair => pair.1 == host) with
  | some (_, addresses) => .ok addresses
  | none => other host

end Resolver

end Roster
