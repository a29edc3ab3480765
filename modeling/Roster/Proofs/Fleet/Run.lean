import Roster.Proofs.Node
import Mathlib.Logic.Function.Basic

/-!
Fleets: nodes that take requests to write, read all entries of each other, and get offers late,
often, out of order or never. A run is any list of events, and all clocks are independent.
-/

namespace Roster

/-- The profiles of nodes that replicate with each other and agree on the new pool name. -/
structure Plan (Place : Type) where
  profile : Place → Profile
  mapTarget : String
  shared : ∀ place, (profile place).migration.mapTarget = mapTarget
  -- A node that takes no announcements keeps no store and replicates with nobody.
  active : ∀ place, (profile place).dynamic = true

/-- Two nodes of one environment, one before and one after the renaming of the fleet-wide pool. -/
def Plan.pair : Plan Bool where
  profile renamed :=
    { nodeId := if renamed then "second" else "first"
      environment := "test"
      pool := generalPool
      location := "here"
      migration := ⟨"fleet", if renamed then .three else .one⟩
      seeds := []
      dynamic := true
      guarded := false
      maxAge := 100 }
  mapTarget := "fleet"
  shared _ := rfl
  active _ := rfl

/-- Nodes, what they have written, and what they have offered to peers. -/
structure Fleet (Place : Type) where
  nodes : Place → Node
  -- The entries of all accepted requests to write, in order, with the nodes that wrote them.
  written : List (Place × Entry)
  -- All offers made to peers, in order; an offer is never used up.
  offered : List (String × Entry)

namespace Fleet

variable {Place : Type} [DecidableEq Place]

/-- What happens in a fleet. -/
inductive Event (Place : Type)
  -- A node deals with a request to write, at its own clock reading.
  | write (place : Place) (now : Millis) (write : Write)
  -- A node reads all entries that another holds and merges them.
  | pull (place peer : Place)
  -- An offer, by its number, gets through to a node that lets it in.
  | deliver (place : Place) (offer : Nat)
  -- A node removes its expired entries.
  | evict (place : Place) (now : Millis)

/-- Whether an event is an eviction. -/
def Event.isEviction : Event Place → Bool
  | .evict _ _ => true
  | _ => false

/-- Whether an event only moves entries between nodes. -/
def Event.isExchange : Event Place → Bool
  | .pull _ _ => true
  | .deliver _ _ => true
  | _ => false

/-- A fleet at its start, with empty stores. -/
def start (plan : Plan Place) : Fleet Place := ⟨fun place => .start (plan.profile place), [], []⟩

/-- The store of a node. -/
def store (fleet : Fleet Place) (place : Place) : Store := (fleet.nodes place).store

/-- The entries of all accepted requests to write. -/
def entries (fleet : Fleet Place) : List Entry := fleet.written.map Prod.snd

/-- A fleet with another node at a place. -/
def setNode (fleet : Fleet Place) (place : Place) (node : Node) : Fleet Place :=
  { fleet with nodes := Function.update fleet.nodes place node }

/-- The entry that a node writes for a request, if it accepts the request. -/
def accepted (node : Node) (now : Millis) (write : Write) : List Entry :=
  match (node.perform now write).answer with
  | .ok () => [node.entryOf now write]
  | .error _ => []

/-- A fleet after an event. -/
def step (fleet : Fleet Place) : Event Place → Fleet Place
  | .write place now write =>
    let node := fleet.nodes place
    let outcome := node.perform now write
    { nodes := Function.update fleet.nodes place outcome.node
      written := fleet.written ++ (accepted node now write).map (place, ·)
      offered := fleet.offered ++ outcome.offers }
  | .pull place peer =>
    fleet.setNode place ((fleet.nodes place).mergeAll (fleet.store peer).items).node
  | .deliver place offer =>
    -- Which node an offer was meant for does not matter, and an unknown number means nothing.
    match fleet.offered[offer]? with
    | some (_, entry) => fleet.setNode place ((fleet.nodes place).merge entry).node
    | none => fleet
  | .evict place now => fleet.setNode place ((fleet.nodes place).evict now).node

/-- A fleet after a run of events. -/
def run (fleet : Fleet Place) (events : List (Event Place)) : Fleet Place :=
  events.foldl step fleet

@[simp] theorem run_nil (fleet : Fleet Place) : fleet.run [] = fleet := rfl

@[simp] theorem run_cons (fleet : Fleet Place) (event : Event Place)
    (events : List (Event Place)) :
    fleet.run (event :: events) = (fleet.step event).run events := rfl

theorem run_append (fleet : Fleet Place) (before after : List (Event Place)) :
    fleet.run (before ++ after) = (fleet.run before).run after :=
  List.foldl_append

/-- A fleet after a node has written an entry and offered it. -/
def writeEntry (fleet : Fleet Place) (place : Place) (now : Millis) (entry : Entry) :
    Fleet Place where
  nodes := Function.update fleet.nodes place ((fleet.nodes place).write now entry).node
  written := fleet.written ++ [(place, entry)]
  offered := fleet.offered ++ ((fleet.nodes place).write now entry).offers

/-- A fleet after a node has merged entries. -/
def merge (fleet : Fleet Place) (place : Place) (entries : List Entry) : Fleet Place :=
  fleet.setNode place ((fleet.nodes place).mergeAll entries).node

/-- Whether an entry is held by a node or has been offered to one. -/
def Around (fleet : Fleet Place) (entry : Entry) : Prop :=
  (∃ place, entry ∈ (fleet.store place).items) ∨ ∃ offer ∈ fleet.offered, offer.2 = entry

/-- A request to write that is turned down changes nothing. -/
theorem step_write_of_verdict_error {fleet : Fleet Place} {place : Place} {write : Write}
    {rejection : Rejection} (refused : (fleet.nodes place).verdict write = .error rejection)
    (now : Millis) : fleet.step (.write place now write) = fleet := by
  -- The node is put back as it was.
  simp only [step, accepted, Node.perform_of_verdict_error refused, Node.offers_reject]
  simp [Node.reject]

/-- The entry of a request to write that is accepted is written. -/
theorem step_write_of_verdict {fleet : Fleet Place} {place : Place} {write : Write}
    (passed : (fleet.nodes place).verdict write = .ok ()) (now : Millis) :
    fleet.step (.write place now write) =
      fleet.writeEntry place now ((fleet.nodes place).entryOf now write) := by
  -- A verdict that passes is the answer, so the event takes the accepting branch.
  have done := Node.perform_of_accepted ((Node.answer_perform _ now write).trans passed)
  simp only [step, accepted, done]
  rfl

/-- A request to write is turned down and changes nothing, or its entry is written. -/
theorem step_write_cases (fleet : Fleet Place) (place : Place) (now : Millis) (write : Write) :
    fleet.step (.write place now write) = fleet ∨
      fleet.step (.write place now write) =
        fleet.writeEntry place now ((fleet.nodes place).entryOf now write) := by
  -- The verdict alone decides which of the two a write does.
  cases passed : (fleet.nodes place).verdict write with
  | error rejection => exact .inl (step_write_of_verdict_error passed now)
  | ok => exact .inr (step_write_of_verdict passed now)

/--
An event changes nothing, lets a node write an entry or merge entries that are around, or is an
eviction.
-/
theorem step_cases (fleet : Fleet Place) (event : Event Place) :
    fleet.step event = fleet ∨
      (∃ place now entry, event.isExchange = false ∧ (fleet.nodes place).Issues now entry ∧
        fleet.step event = fleet.writeEntry place now entry) ∨
      (∃ place entries, (∀ entry ∈ entries, fleet.Around entry) ∧
        fleet.step event = fleet.merge place entries) ∨
      ∃ place now, event = .evict place now := by
  cases event with
  | write place now write =>
    rcases fleet.step_write_cases place now write with same | written
    · -- The request was turned down.
      exact .inl same
    · exact .inr (.inl ⟨place, now, _, rfl, Node.issues_entryOf _ now write, written⟩)
  | pull place peer =>
    -- All that is merged is held by the peer.
    exact .inr (.inr (.inl ⟨place, _, fun entry member => .inl ⟨peer, member⟩, rfl⟩))
  | deliver place offer =>
    cases found : fleet.offered[offer]? with
    | none =>
      -- There is no such offer.
      exact .inl (by simp only [step, found])
    | some pushed =>
      refine .inr (.inr (.inl ⟨place, [pushed.2], fun entry member => .inr ?_, ?_⟩))
      · exact ⟨pushed, List.mem_of_getElem? found, (List.mem_singleton.1 member).symm⟩
      · -- A single offer is merged like a list of one entry.
        simp only [step, found]
        rfl
  | evict place now => exact .inr (.inr (.inr ⟨place, now, rfl⟩))

@[simp] theorem entries_writeEntry (fleet : Fleet Place) (place : Place) (now : Millis)
    (entry : Entry) :
    (fleet.writeEntry place now entry).entries = fleet.entries ++ [entry] := by
  simp [entries, writeEntry]

@[simp] theorem entries_merge (fleet : Fleet Place) (place : Place) (entries : List Entry) :
    (fleet.merge place entries).entries = fleet.entries := rfl

/-- A fleet whose node is put back as it was is as it was. -/
@[simp] theorem setNode_self (fleet : Fleet Place) (place : Place) :
    fleet.setNode place (fleet.nodes place) = fleet := by
  simp [setNode]

/-- With another node at a place, the other stores are as before. -/
theorem store_setNode (fleet : Fleet Place) (place : Place) (node : Node) (other : Place) :
    (fleet.setNode place node).store other =
      if other = place then node.store else fleet.store other := by
  unfold store setNode
  by_cases same : other = place
  · -- The node at the place is the new one.
    subst same
    simp
  · simp [same]

/-- A node with the same store in its place leaves all stores as they were. -/
theorem store_setNode_of_same {fleet : Fleet Place} {place : Place} {node : Node}
    (same : node.store = fleet.store place) (other : Place) :
    (fleet.setNode place node).store other = fleet.store other := by
  rw [store_setNode]
  -- Other nodes are not touched at all.
  split
  · rename_i here
    rw [same, here]
  · rfl

/-- A written entry is put into the store of the node alone. -/
theorem store_writeEntry (fleet : Fleet Place) (place : Place) (now : Millis) (entry : Entry)
    (other : Place) :
    (fleet.writeEntry place now entry).store other =
      if other = place then (fleet.store place).put entry else fleet.store other := by
  -- Writing an entry puts it, whatever is offered to peers beside.
  rw [store, store, ← Node.store_write (fleet.nodes place) now]
  exact store_setNode fleet place _ other

/-- Merged entries go into the store of the node alone, translated by its phase. -/
theorem store_merge (fleet : Fleet Place) (place : Place) (entries : List Entry)
    (other : Place) :
    (fleet.merge place entries).store other =
      if other = place then
        (fleet.store place).mergeAll (fleet.nodes place).profile.migration entries
      else fleet.store other := by
  -- A merge replaces one node by its merged self, and the store of that node is the merged store.
  rw [store, store, ← Node.store_mergeAll (fleet.nodes place)]
  exact store_setNode fleet place _ other

/-- An eviction takes expired entries out of the store of the node alone. -/
theorem store_step_evict (fleet : Fleet Place) (place : Place) (now : Millis) (other : Place) :
    (fleet.step (.evict place now)).store other =
      if other = place then (fleet.store place).evict now else fleet.store other :=
  store_setNode fleet place _ other

/-- A node with the same profile in its place leaves all profiles as they were. -/
theorem profile_setNode {fleet : Fleet Place} {place : Place} {node : Node}
    (same : node.profile = (fleet.nodes place).profile) (other : Place) :
    ((fleet.setNode place node).nodes other).profile = (fleet.nodes other).profile := by
  unfold setNode
  by_cases here : other = place
  · subst here
    simpa using same
  · -- Other nodes are not touched at all.
    simp [here]

@[simp] theorem profile_writeEntry (fleet : Fleet Place) (place : Place) (now : Millis)
    (entry : Entry) (other : Place) :
    ((fleet.writeEntry place now entry).nodes other).profile = (fleet.nodes other).profile :=
  -- Writing keeps the profile of the node that writes.
  @profile_setNode _ _ fleet place ((fleet.nodes place).write now entry).node rfl other

@[simp] theorem profile_merge (fleet : Fleet Place) (place : Place) (entries : List Entry)
    (other : Place) :
    ((fleet.merge place entries).nodes other).profile = (fleet.nodes other).profile :=
  profile_setNode (Node.profile_mergeAll _ entries) other

/-- No event changes what stays the same as long as a node runs. -/
theorem profile_step (fleet : Fleet Place) (event : Event Place) (other : Place) :
    ((fleet.step event).nodes other).profile = (fleet.nodes other).profile := by
  -- Only the node at one place is replaced, by one with its profile.
  rcases fleet.step_cases event with same | ⟨place, now, entry, -, -, same⟩ |
    ⟨place, entries, -, same⟩ | ⟨place, now, rfl⟩
  · rw [same]
  · rw [same, profile_writeEntry]
  · rw [same, profile_merge]
  · exact @profile_setNode _ _ fleet place ((fleet.nodes place).evict now).node rfl other

/-- Only an eviction can take a version away from a node. -/
theorem reaches_step {fleet : Fleet Place} {place : Place} {nodeId : String} {version : Millis}
    (reached : (fleet.store place).Reaches nodeId version) {event : Event Place}
    (kept : event.isEviction = false) :
    ((fleet.step event).store place).Reaches nodeId version := by
  rcases fleet.step_cases event with same | ⟨writer, now, entry, -, -, same⟩ |
    ⟨merger, entries, -, same⟩ | ⟨evicter, now, rfl⟩
  · rwa [same]
  · -- Only the store of the writer changes, by an offer.
    rw [same, store_writeEntry]
    split
    · rename_i here
      exact (here ▸ reached).put entry
    · exact reached
  · -- Only the store of the merger changes, by offers one after the other.
    rw [same, store_merge]
    split
    · rename_i here
      exact (here ▸ reached).mergeAll _ entries
    · exact reached
  · cases kept

/-- A pull brings the puller to the version of a resident of the peer that is not malformed. -/
theorem reaches_step_pull_of_wellFormed {fleet : Fleet Place} {source : Place} {nodeId : String}
    {resident : Entry} (found : (fleet.store source).get? nodeId = some resident)
    (wellFormed : resident.isWellFormed = true) (puller : Place) :
    ((fleet.step (.pull puller source)).store puller).Reaches nodeId resident.timestamp := by
  -- The source lists its resident, and merging a listed entry leaves the store at its version or
  -- above.
  have same := Store.nodeId_of_get? found
  have listed : resident ∈ (fleet.store source).items :=
    Store.mem_items_iff_get?.2 (same.symm ▸ found)
  have arrived := Store.reaches_mergeAll (fleet.store puller)
    (fleet.nodes puller).profile.migration listed wellFormed
  have merged := store_merge fleet puller (fleet.store source).items puller
  rw [if_pos rfl] at merged
  rwa [← merged, same] at arrived

/-- A delivery brings the receiver to the version of an offer that is not malformed. -/
theorem reaches_step_deliver {fleet : Fleet Place} {offer : Nat} {pushed : String × Entry}
    (made : fleet.offered[offer]? = some pushed) (wellFormed : pushed.2.isWellFormed = true)
    (receiver : Place) :
    ((fleet.step (.deliver receiver offer)).store receiver).Reaches pushed.2.nodeId
      pushed.2.timestamp := by
  -- An offer, once made, can always be looked up again, so its delivery is one merge.
  simp only [step, made]
  rw [store_setNode, if_pos rfl, Node.store_merge]
  exact Store.reaches_merge _ _ wellFormed

end Fleet

end Roster
