import Roster.Node
import Roster.Peer

/-!
One round of replication: a node reads all entries of every peer and merges what it got, one whole
answer after the other. A peer that fails takes nothing from the others.
-/

namespace Roster

/-- What came of reading one peer: how many of its entries were taken in, or why there are none. -/
structure Pull where
  peer : String
  merged : Except Peer.Fault Nat

/-- The counts of a round. -/
structure Summary where
  peers : Nat
  failed : Nat
  merged : Nat
  deriving DecidableEq

/-- How many entries a reading brought. -/
def Pull.count (pull : Pull) : Nat := pull.merged.toOption.getD 0

/-- Whether a reading failed. -/
def Pull.isFailed (pull : Pull) : Bool := pull.merged.toOption.isNone

/-- The counts of the readings of a round. -/
def Summary.ofPulls (pulls : List Pull) : Summary where
  peers := pulls.length
  failed := pulls.countP Pull.isFailed
  merged := pulls.foldl (fun total pull => total + pull.count) 0

/-- What a peer gave when it was read. -/
structure Catch where
  peer : String
  entries : Except Peer.Fault (List Entry)

namespace Node

/-- Merges entries of a peer one after the other and counts those taken in. -/
def mergeAll (node : Node) : List Entry → Outcome Nat
  | [] => node.unchanged 0
  | entry :: rest =>
    let first := node.merge entry
    let others := first.node.mergeAll rest
    ⟨first.answer.toNat + others.answer, others.node, first.reports ++ others.reports⟩

/-- Merges what one peer gave. -/
def take (node : Node) (found : Catch) : Outcome Pull :=
  match found.entries with
  | .error fault => node.unchanged ⟨found.peer, .error fault⟩
  | .ok entries => (node.mergeAll entries).map fun merged => ⟨found.peer, .ok merged⟩

/-- Merges what the peers gave, in the order in which it arrived. -/
def takeAll (node : Node) : List Catch → Outcome (List Pull)
  | [] => node.unchanged []
  | found :: rest =>
    let first := node.take found
    let others := first.node.takeAll rest
    ⟨first.answer :: others.answer, others.node, first.reports ++ others.reports⟩

end Node

end Roster
