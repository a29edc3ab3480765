import Roster.Http.Status
import Roster.Net.Uri

/-!
Calls over a network. A redirection is followed, up to ten in a row: with the same call where the
answer asks for that, and else with a call that reads the new place.
-/

namespace Roster.Http

/-- A request on its way to the server at an address. -/
structure Call where
  method : String
  uri : Uri
  -- The JSON text that goes along.
  body : Option String
  deriving DecidableEq

/-- What a server answers. -/
structure Answer where
  status : Status
  -- Where a redirection leads to.
  location : Option String
  body : ByteArray

/-- The content of an answer, of which some kinds have none. -/
def Answer.content (answer : Answer) : ByteArray :=
  if answer.status.code = 204 ∨ answer.status.code = 304 then .empty else answer.body

/-- What becomes of a call. -/
inductive Reply
  | answered (answer : Answer)
  -- The server closes the connection without an answer.
  | dropped
  -- The server never answers.
  | silent
  -- There is no connection to any server.
  | unconnected

instance : Inhabited Reply := ⟨.unconnected⟩

/-- A call that reached a server, and what became of it. -/
structure Exchange where
  call : Call
  reply : Reply

/-- What becomes of a call. -/
abbrev Network (m : Type → Type) := Call → m Reply

/-- Why a call has no answer. -/
inductive Failure
  | request
  | timeout
  deriving DecidableEq

/-- What came of a call and the redirections after it. -/
structure Delivery where
  result : Except Failure Answer
  -- The calls that reached a server, in order.
  exchanges : List Exchange

/-- What a reply means for the call when nothing follows it. -/
def Reply.result : Reply → Except Failure Answer
  | answered answer => .ok answer
  | silent => .error .timeout
  | dropped | unconnected => .error .request

/-- The exchange that a call and its reply make, if the call reached a server. -/
def Reply.exchanges (reply : Reply) (call : Call) : List Exchange :=
  match reply with
  | unconnected => []
  | _ => [⟨call, reply⟩]

/-- The call that a reply redirects to, if it does. -/
def Reply.redirected? (reply : Reply) (call : Call) : Option Call :=
  match reply with
  | answered answer => do
    let uri ← call.uri.join? (← answer.location)
    if [301, 302, 303].contains answer.status.code then some ⟨"GET", uri, none⟩
    else if [307, 308].contains answer.status.code then some { call with uri }
    else none
  | _ => none

/-- Whether a call can be made at all: over a plain or an encrypted connection to some host. -/
def Call.isPossible (call : Call) : Bool :=
  ["http", "https"].contains call.uri.scheme && call.uri.host.isSome

variable {m : Type → Type} [Monad m]

/-- Makes a call if it can be made. -/
def attempt (network : Network m) (call : Call) : m Reply :=
  if call.isPossible then network call else pure .unconnected

/-- Delivers a call, with at most so many redirections; one more is a failure. -/
def deliver (network : Network m) : Nat → Call → m Delivery
  | 0, call => do
    let reply ← attempt network call
    let result := if (reply.redirected? call).isSome then .error .request else reply.result
    pure ⟨result, reply.exchanges call⟩
  | more + 1, call => do
    let reply ← attempt network call
    match reply.redirected? call with
    | none => pure ⟨reply.result, reply.exchanges call⟩
    | some next =>
      let delivery ← deliver network more next
      pure { delivery with exchanges := reply.exchanges call ++ delivery.exchanges }

/-- How many redirections in a row are followed. -/
def redirectionLimit : Nat := 10

/-- Sends a call to the address that a text names. -/
def send (network : Network m) (method uri : String) (body : Option String) : m Delivery :=
  match Uri.parse? uri with
  | none => pure ⟨.error .request, []⟩
  | some uri => deliver network redirectionLimit ⟨method, uri, body⟩

end Roster.Http
