import Mathlib.Data.List.Basic
import Roster.Proofs.Net.Address
import Roster.Proofs.Node.Refusal

/-!
Requesters in two spellings. A client of version 4 may show up under the version 6 address that
stands for its own. Whatever a node compares, stores or shows is the canonical form, so a run comes
to the same whichever requests come in which spelling.
-/

namespace Roster

namespace Address

/-- An address of version 4 in the spelling of version 6. -/
def respelled : Address → Address
  | v4 octets => v6 (mapping octets)
  | v6 groups => v6 groups

example : (v4 #v[10, 0, 0, 1]).respelled.text = "::ffff:10.0.0.1" := by decide +kernel

/-- Both spellings have the same canonical form. -/
@[simp] theorem canonical_respelled (address : Address) :
    address.respelled.canonical = address.canonical := by
  -- An address of four octets is respelled as the mapping of itself.
  cases address with
  | v4 octets => simp only [respelled, canonical, mapped?_mapping]
  | v6 groups => rfl

end Address

namespace Node

/-- What arrives at a node: something to do, or a request over HTTP at a clock reading. -/
inductive Arrival
  | act (action : Action)
  | respond (resolver : Resolver) (now : Millis) (requester : Address) (request : Http.Request)

/-- An action whose requester, if it has one, shows up under the other spelling. -/
def Action.respelled : Action → Action
  | .write now (.announce resolver nodeId announcement requester) =>
    .write now (.announce resolver nodeId announcement requester.respelled)
  | .write now (.delete resolver nodeId requester) =>
    .write now (.delete resolver nodeId requester.respelled)
  | .accept entry requester => .accept entry requester.respelled
  | .snapshot requester => .snapshot requester.respelled
  | other => other

/-- What arrives from the same requester under the other spelling. -/
def Arrival.respelled : Arrival → Arrival
  | .act action => .act action.respelled
  | .respond resolver now requester request => .respond resolver now requester.respelled request

/-- What a node does with what arrives. -/
def handle (node : Node) : Arrival → Outcome (Reply ⊕ Http.Response Api.Content)
  | .act action => (node.act action).map .inl
  | .respond resolver now requester request =>
    (node.respond resolver now requester request).map .inr

/-- What comes of all that arrives, one after the other. -/
def handleAll (node : Node) : List Arrival → List (Outcome (Reply ⊕ Http.Response Api.Content))
  | [] => []
  | arrival :: rest => node.handle arrival :: (node.handle arrival).node.handleAll rest

/-- A node after all that arrives. -/
def afterAll (node : Node) (arrivals : List Arrival) : Node :=
  arrivals.foldl (fun node arrival => (node.handle arrival).node) node

/-- What arrives, where the requesters at some places show up under the other spelling. -/
def respelledAt (chosen : Nat → Bool) (arrivals : List Arrival) : List Arrival :=
  arrivals.mapIdx fun place arrival => if chosen place then arrival.respelled else arrival

variable (node : Node) (resolver : Resolver) (now : Millis) (requester : Address)

@[simp] theorem announce_respelled (nodeId : String) (announcement : Announcement) :
    node.announce resolver now nodeId announcement requester.respelled =
      node.announce resolver now nodeId announcement requester := by
  -- The checks and the announcer of the entry are about the canonical address.
  simp only [announce, admitAnnounce, checkAnnounce, Trust.checkAnnounce, writeAnnounced,
    Address.canonical_respelled]

@[simp] theorem delete_respelled (nodeId : String) :
    node.delete resolver now nodeId requester.respelled =
      node.delete resolver now nodeId requester := by
  simp only [delete, checkDelete, Trust.checkDelete, Address.canonical_respelled]

@[simp] theorem checkReplicate_respelled :
    node.checkReplicate requester.respelled = node.checkReplicate requester := by
  simp only [checkReplicate, Trust.checkReplicate, Address.canonical_respelled]

@[simp] theorem snapshot_respelled :
    node.snapshot requester.respelled = node.snapshot requester := by
  simp only [snapshot, checkReplicate_respelled]

@[simp] theorem acceptOffer_respelled (entry : Entry) :
    node.acceptOffer entry requester.respelled = node.acceptOffer entry requester := by
  simp only [acceptOffer, checkReplicate_respelled]

/-- An action comes to the same under either spelling. -/
theorem act_respelled (action : Action) : node.act action.respelled = node.act action := by
  cases action with
  | write now write =>
    -- Only the two writes of clients carry a requester.
    cases write with
    | announce resolver nodeId announcement requester =>
      simp only [Action.respelled, act, perform, announce_respelled]
    | delete resolver nodeId requester =>
      simp only [Action.respelled, act, perform, delete_respelled]
    | announceTrusted => rfl
    | deleteTrusted => rfl
  | accept entry requester => simp only [Action.respelled, act, acceptOffer_respelled]
  | snapshot requester => simp only [Action.respelled, act, snapshot_respelled]
  | _ => rfl

/-- A request over HTTP is answered alike under either spelling. -/
theorem respond_respelled (request : Http.Request) :
    node.respond resolver now requester.respelled request =
      node.respond resolver now requester request := by
  -- Paths and contents do not depend on the requester, and all else is left to the node.
  have performed (route : Api.Route) :
      Api.perform node resolver now requester.respelled request route =
        Api.perform node resolver now requester request route := by
    cases route <;>
      simp only [Api.perform, Api.put, Api.post, Api.get, announce_respelled, delete_respelled,
        acceptOffer_respelled, snapshot_respelled]
  simp only [respond, performed]

/-- What arrives comes to the same under either spelling. -/
@[simp] theorem handle_respelled (arrival : Arrival) :
    node.handle arrival.respelled = node.handle arrival := by
  -- A requester comes with an action or with a request.
  cases arrival with
  | act action => simp only [Arrival.respelled, handle, act_respelled]
  | respond resolver now requester request =>
    simp only [Arrival.respelled, handle, respond_respelled]

/--
The spelling of a requester's address never matters.

Whichever requests of a run come from the version 6 address that stands for the requester's own of
version 4, and by whichever way they come: every answer, refusal and report and the node after each
request are the same, and so is the node at the end. That covers whom an entry names as its
announcer, the entries that are offered to peers, and the lines of the audit record.
-/
theorem requester_spelling_irrelevant (chosen : Nat → Bool) (arrivals : List Arrival) :
    node.handleAll (respelledAt chosen arrivals) = node.handleAll arrivals ∧
      node.afterAll (respelledAt chosen arrivals) = node.afterAll arrivals := by
  induction arrivals generalizing node chosen with
  | nil => exact ⟨rfl, rfl⟩
  | cons arrival rest ih =>
    -- The first arrival leaves the same node, and the places of the others count from one.
    have first : node.handle (if chosen 0 then arrival.respelled else arrival) =
        node.handle arrival := by
      split
      · exact node.handle_respelled arrival
      · rfl
    obtain ⟨handled, after⟩ := ih (node.handle arrival).node fun place => chosen (place + 1)
    have split : respelledAt chosen (arrival :: rest) =
        (if chosen 0 then arrival.respelled else arrival) ::
          respelledAt (fun place => chosen (place + 1)) rest := List.mapIdx_cons
    rw [split]
    constructor
    · rw [handleAll, handleAll, first, handled]
    · show (node.handle _).node.afterAll _ = (node.handle arrival).node.afterAll rest
      rw [first, after]

end Node

end Roster
