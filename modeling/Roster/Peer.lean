import Roster.Http.Exchange
import Roster.Wire

/-! What a node exchanges with a peer: it reads all of the peer's entries, or offers it one. -/

namespace Roster.Peer

open Http (Answer Exchange Failure Network Status)

/-- Why an exchange with a peer failed, under the address that was called. -/
inductive Fault
  | request (uri : String)
  | timeout (uri : String)
  | status (uri : String) (status : Status)
  | malformed (uri : String)
  deriving DecidableEq

/-- The wording of a fault. -/
def Fault.message : Fault → String
  | request uri => s!"request to {uri} failed"
  | timeout uri => s!"request to {uri} timed out"
  | status uri code => s!"{uri} responded with status {code.text}"
  | malformed uri => s!"malformed snapshot from {uri}"

/-- Where the entries of the peer at an address are. -/
def entriesUri (base : String) : String :=
  String.ofList (base.toList.reverse.dropWhile (· = '/')).reverse ++ "/v1/store/dynamic"

/-- The fault that a call without an answer means. -/
def Fault.ofFailure (uri : String) : Failure → Fault
  | .request => request uri
  | .timeout => timeout uri

/-- What came of an exchange. -/
structure Result (α : Type) where
  outcome : Except Fault α
  -- The calls that reached a server, in order.
  exchanges : List Exchange

/-- The entries in the content of an answer. -/
def entriesIn? (content : ByteArray) : Option (List Entry) := do
  (Entry.form.list.parse (← String.fromUTF8? content)).toOption

/-- What reading all entries came to, from the delivery of the call. -/
def fetched (uri : String) : Except Failure Answer → Except Fault (List Entry)
  | .error failure => .error (.ofFailure uri failure)
  | .ok answer =>
    if !answer.status.isSuccess then .error (.status uri answer.status)
    else match entriesIn? answer.content with
      | none => .error (.malformed uri)
      | some entries => .ok entries

/-- What offering an entry came to, from the delivery of the call. -/
def offered (uri : String) : Except Failure Answer → Except Fault Unit
  | .error failure => .error (.ofFailure uri failure)
  | .ok answer => if answer.status.isSuccess then .ok () else .error (.status uri answer.status)

variable {m : Type → Type} [Monad m]

/-- Reads all entries of the peer at an address. -/
def fetch (network : Network m) (base : String) : m (Result (List Entry)) := do
  let delivery ← Http.send network "GET" (entriesUri base) none
  pure ⟨fetched (entriesUri base) delivery.result, delivery.exchanges⟩

/-- Offers an entry to the peer at an address. -/
def offer (network : Network m) (base : String) (entry : Entry) : m (Result Unit) := do
  let delivery ← Http.send network "POST" (entriesUri base) (some (Entry.form.write entry).compact)
  pure ⟨offered (entriesUri base) delivery.result, delivery.exchanges⟩

end Roster.Peer
