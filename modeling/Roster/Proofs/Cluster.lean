import Roster.Cluster
import Roster.Proofs.Api

/-!
Reading over the network. A call that reads is answered by each member out of what it holds, so
whatever is read, and wherever a redirection leads, no member comes to hold anything else.
-/

namespace Roster

open Http (Call Reply Network Request Response)

/-- An address that a call is redirected to is read if the first one was. -/
theorem Http.Reply.method_redirected {reply : Reply} {call next : Call}
    (redirected : reply.redirected? call = some next) (reads : call.method = "GET") :
    next.method = "GET" := by
  unfold Http.Reply.redirected? at redirected
  cases reply with
  | answered answer =>
    -- The answer says where to go on, and its status with which method.
    simp only [Option.bind_eq_bind, Option.bind_eq_some_iff] at redirected
    obtain ⟨_, -, _, -, redirected⟩ := redirected
    split at redirected
    · cases redirected
      rfl
    · split at redirected
      · cases redirected
        exact reads
      · cases redirected
  | dropped => cases redirected
  | silent => cases redirected
  | unconnected => cases redirected

namespace Node

/-- Giving the entries away changes nothing. -/
theorem node_snapshot (node : Node) (requester : Address) :
    (node.snapshot requester).node = node := by
  -- A snapshot is refused or given, and nothing is written for it.
  rw [snapshot_eq]
  split <;> rfl

/-- Reading what a route leads to changes no more than the remembered digest. -/
theorem holds_get (node : Node) (now : Millis) (requester : Address) (route : Api.Route) :
    (Api.get node now requester route).node.profile = node.profile ∧
      (Api.get node now requester route).node.store = node.store := by
  -- Only a reading of the digest changes anything, and that is what is remembered of it.
  cases route with
  | entries =>
    have same : (Api.get node now requester .entries).node = node := node.node_snapshot requester
    rw [same]
    exact ⟨rfl, rfl⟩
  | digest => exact ⟨rfl, Ledger.store_digest node.ledger⟩
  | identity => exact ⟨rfl, rfl⟩
  | services kind pool => exact ⟨rfl, rfl⟩
  | announcement nodeId => exact ⟨rfl, rfl⟩

/-- A request that reads changes neither a node's settings nor its entries. -/
theorem holds_respond {request : Request} (reads : request.method = "GET") (node : Node)
    (resolver : Resolver) (now : Millis) (requester : Address) :
    (node.respond resolver now requester request).node.profile = node.profile ∧
      (node.respond resolver now requester request).node.store = node.store := by
  cases leads : Api.routeOf? request with
  | none =>
    obtain ⟨response, -, answered⟩ :=
      Api.respond_of_routeOf?_none leads node resolver now requester
    rw [answered]
    exact ⟨rfl, rfl⟩
  | some route =>
    rw [Api.respond_of_routeOf? leads]
    -- An announcement is put or deleted, but not read.
    have other : ∀ nodeId, route ≠ .announcement nodeId := by
      rintro nodeId rfl
      have works := Api.method_mem_of_routeOf? leads
      rw [reads] at works
      simp [Api.Route.methods] at works
    have noPost : request.method ≠ "POST" := by
      rw [reads]
      decide
    obtain ⟨same, -, -⟩ := Api.perform_of_reading other noPost node resolver now requester
    rw [same]
    exact node.holds_get now requester route

end Node

namespace Cluster

variable {cluster : Cluster} {place : Nat} {member : Member}

/-- The settings and the entries of each member. -/
def holdings (cluster : Cluster) : List (Profile × Store) :=
  cluster.members.map fun member => (member.node.profile, member.node.store)

@[simp] theorem holdings_note (cluster : Cluster) (events : List Event) :
    (cluster.note events).holdings = cluster.holdings := rfl

/-- A node that takes a member's place brings its own settings and entries. -/
theorem holdings_setNode (cluster : Cluster) (place : Nat) (node : Node) :
    (cluster.setNode place node).holdings =
      cluster.holdings.set place (node.profile, node.store) := by
  -- The two lists are compared place by place.
  refine List.ext_getElem? fun other => ?_
  simp only [holdings, setNode, List.getElem?_map, List.getElem?_set, List.getElem?_modify,
    List.length_map]
  by_cases here : place = other
  · subst here
    by_cases inside : place < cluster.members.length
    · simp [inside]
    · simp [inside]
  · simp [here]

/-- What stands at a place in the holdings is that of the member there. -/
theorem holdings_getElem? (found : cluster.members[place]? = some member) :
    cluster.holdings[place]? = some (member.node.profile, member.node.store) := by
  simp [holdings, found]

/-- What stands at a place in the holdings is that of some member there. -/
theorem exists_of_holdings {profile : Profile} {store : Store}
    (held : cluster.holdings[place]? = some (profile, store)) :
    ∃ member, cluster.members[place]? = some member ∧
      member.node.profile = profile ∧ member.node.store = store := by
  -- What is held is listed under the place of the member that holds it.
  rw [holdings, List.getElem?_map, Option.map_eq_some_iff] at held
  obtain ⟨member, found, same⟩ := held
  exact ⟨member, found, congrArg Prod.fst same, congrArg Prod.snd same⟩

/-- A node with the settings and the entries of the one before it does not show in the holdings. -/
theorem holdings_setNode_of_same (found : cluster.members[place]? = some member) {node : Node}
    (same : node.profile = member.node.profile ∧ node.store = member.node.store) :
    (cluster.setNode place node).holdings = cluster.holdings := by
  -- Putting what is held already at the place changes nothing.
  rw [holdings_setNode, same.1, same.2]
  have held := holdings_getElem? found
  refine List.ext_getElem? fun other => ?_
  rw [List.getElem?_set]
  split
  · rename_i here
    subst here
    rw [held]
    simp [(List.getElem?_eq_some_iff.1 held).1]
  · rfl

/-- Whether something that can be told of a cluster does not show what its members read. -/
def Overlooks {β : Type} (view : Cluster → β) : Prop :=
  ∀ ⦃call : Call⦄, call.method = "GET" → ∀ (cluster : Cluster) (place : Nat) (caller : Address),
    view (cluster.serve place caller call).2 = view cluster

/-- A member answers a call that reads without a change to what anyone holds. -/
theorem overlooks_holdings : Overlooks holdings := by
  -- The interface of a member answers a reading from what the member holds.
  intro call reads cluster place caller
  unfold serve
  cases found : cluster.members[place]? with
  | none => rfl
  | some member =>
    exact holdings_setNode_of_same found (Node.holds_respond reads member.node _ _ _)

/-- No call changes what stands where. -/
theorem overlooks_servers : Overlooks servers := by
  -- A member that answers stands where it stood.
  intro call _ cluster place caller
  unfold serve
  split <;> rfl

/-- No call changes whether anything can be reached. -/
theorem overlooks_connected : Overlooks connected := by
  -- Whether calls get through is not a matter of what a member does with them.
  intro call _ cluster place caller
  unfold serve
  split <;> rfl

/-- Whether a program leaves what can be told of a cluster as it is. -/
def Keeps {α β : Type} (view : Cluster → β) (program : StateM Cluster α) : Prop :=
  ∀ cluster : Cluster, view (program.run cluster).2 = view cluster

variable {β : Type} {view : Cluster → β}

/-- What does nothing changes nothing. -/
theorem keeps_pure {α : Type} (value : α) : Keeps view (pure value) := fun _ => rfl

/-- Programs that change nothing change nothing one after the other. -/
theorem Keeps.bind {α γ : Type} {program : StateM Cluster α} {next : α → StateM Cluster γ}
    (first : Keeps view program) (others : ∀ value, Keeps view (next value)) :
    Keeps view (program >>= next) :=
  fun cluster => (others _ _).trans (first cluster)

/-- Wherever a call that reads leads, it changes nothing. -/
theorem Overlooks.keeps_network (overlooks : Overlooks view) {call : Call}
    (reads : call.method = "GET") (caller : Address) : Keeps view (network caller call) := by
  -- A server that is none of the members has no state to change.
  intro cluster
  show view (network caller call cluster).2 = view cluster
  unfold network
  split
  · rfl
  · split
    · rfl
    · rfl
    · exact overlooks reads cluster _ caller

/-- A call that reads changes nothing, whether it can be made or not. -/
theorem Overlooks.keeps_attempt (overlooks : Overlooks view) {call : Call}
    (reads : call.method = "GET") (caller : Address) :
    Keeps view (Http.attempt (network caller) call) := by
  -- A call that cannot be made reaches nobody.
  unfold Http.attempt
  split
  · exact overlooks.keeps_network reads caller
  · exact keeps_pure _

/-- A call that reads changes nothing, however often it is redirected. -/
theorem Overlooks.keeps_deliver (overlooks : Overlooks view) {call : Call}
    (reads : call.method = "GET") (caller : Address) (limit : Nat) :
    Keeps view (Http.deliver (network caller) limit call) := by
  -- The induction is on the redirections that are left; after each the call still reads.
  induction limit generalizing call with
  | zero => exact (overlooks.keeps_attempt reads caller).bind fun _ => keeps_pure _
  | succ limit ih =>
    refine (overlooks.keeps_attempt reads caller).bind fun reply => ?_
    split
    · exact keeps_pure _
    · rename_i next redirected
      exact (ih (Http.Reply.method_redirected redirected reads)).bind fun _ => keeps_pure _

/-- Reading the entries of a peer changes nothing. -/
theorem Overlooks.keeps_fetch (overlooks : Overlooks view) (caller : Address) (peer : String) :
    Keeps view (Peer.fetch (network caller) peer) := by
  -- An address that cannot be read leads nowhere.
  unfold Peer.fetch Http.send
  split
  · exact (keeps_pure _).bind fun _ => keeps_pure _
  · exact (overlooks.keeps_deliver rfl caller Http.redirectionLimit).bind fun _ => keeps_pure _

/-- Peers are read one after the other. -/
theorem pull_cons (cluster : Cluster) (caller : Address) (peer : String) (rest : List String) :
    cluster.pull caller (peer :: rest) =
      let first := (Peer.fetch (network caller) peer).run cluster
      let others := first.2.pull caller rest
      (⟨peer, first.1.outcome⟩ :: others.1, others.2) := by
  -- The first peer is named, since both parts of its result are used.
  rw [pull]
  generalize (Peer.fetch (network caller) peer).run cluster = first
  rfl

/-- Reading the entries of peers changes nothing. -/
theorem Overlooks.view_pull (overlooks : Overlooks view) (cluster : Cluster) (caller : Address)
    (peers : List String) : view (cluster.pull caller peers).2 = view cluster := by
  -- The peers are read one after the other, each in the cluster that the last one left.
  induction peers generalizing cluster with
  | nil => rfl
  | cons peer rest ih =>
    rw [pull_cons]
    exact (ih _).trans (overlooks.keeps_fetch caller peer cluster)

/-- Every peer is read, in the order of the peers. -/
theorem peers_pull (cluster : Cluster) (caller : Address) (peers : List String) :
    (cluster.pull caller peers).1.map Catch.peer = peers := by
  -- Whatever came of it, each reading is listed under its peer.
  induction peers generalizing cluster with
  | nil => rfl
  | cons peer rest ih =>
    rw [pull_cons, List.map_cons, ih]

end Cluster

end Roster
