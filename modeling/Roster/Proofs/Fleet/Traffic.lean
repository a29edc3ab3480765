import Roster.Cluster
import Roster.Proofs.Fleet.Origin
import Roster.Proofs.Node.Admission
import Roster.Proofs.Wire

/-!
Traffic between the nodes of a fleet: entries travel as the bytes of requests and answers, and each
message reaches any interface late, often, out of order or never. To the receiver it is the entries
that can be read from it, and these are entries that the sender wrote or held.
-/

namespace Roster

/-- What travels from one node to another. -/
inductive Message
  -- The content of a request that offers an entry, with the path it asks for.
  | offer (target : String) (body : ByteArray)
  -- The answer to a request for all entries.
  | listing (answer : Http.Answer)

/-- The circumstances in which a node deals with a message. -/
structure Occasion where
  now : Millis
  resolver : Resolver
  -- Where the message comes from.
  address : Address
  -- The address under which the sender is known as a peer.
  peer : String

/-- The circumstances at a clock reading, where it does not matter who is heard. -/
def Occasion.usual (now : Millis) : Occasion :=
  ⟨now, .literals, .v4 #v[10, 0, 0, 1], "http://peer"⟩

/-- A request with JSON content. -/
def offerRequest (target : String) (body : ByteArray) : Http.Request :=
  ⟨"POST", target, some "application/json", body⟩

/-- A request for all entries. -/
def listingRequest : Http.Request := ⟨"GET", Node.entriesTarget, none, .empty⟩

namespace Message

/-- The message that offers an entry to a peer, unless the peer has no proper address. -/
def ofOffer? (peer : String) (entry : Entry) : Option Message :=
  (Uri.parse? (Peer.entriesUri peer)).map fun uri =>
    .offer uri.target (Entry.form.write entry).compact.toUTF8

/-- The message that answers a request for all entries. -/
def ofResponse (response : Http.Response Api.Content) : Message :=
  .listing ⟨response.status, none, ((response.content.map Api.Content.render).getD "").toUTF8⟩

/-- The entries that can be read from a message. -/
def entries : Message → List Entry
  | offer target body => (Api.readBody Entry.form (offerRequest target body)).toOption.toList
  | listing answer => (Peer.fetched "" (.ok answer)).toOption.getD []

/-- Nothing but the offered entry can be read from an offer. -/
theorem eq_of_mem_entries_ofOffer? {peer : String} {offered entry : Entry} {message : Message}
    (made : ofOffer? peer offered = some message) (read : entry ∈ message.entries) :
    entry = offered := by
  unfold ofOffer? at made
  obtain ⟨uri, -, rfl⟩ := Option.map_eq_some_iff.1 made
  -- The content reads back as the offered entry unless it is too long to be read at all.
  have content := Api.readBody_of_writes Entry.faithful_form "POST" uri.target
    (Entry.form.writes_compact offered)
  unfold entries offerRequest at read
  simp only [content] at read
  split at read
  · cases read
  · exact List.mem_singleton.1 read

/-- An answer that gives entries is read as these entries. -/
theorem entries_ofResponse (found : List Entry) :
    (ofResponse (.withContent (.entries found))).entries = found := by
  -- What is rendered is the compact text of the list.
  have read := Peer.fetched_of_writes (Entry.form.list.writes_compact found) ""
  have entries : (ofResponse (.withContent (.entries found))).entries = (Peer.fetched ""
      (.ok ⟨.ok, none, (Entry.form.list.write found).compact.toUTF8⟩)).toOption.getD [] := rfl
  rw [entries, read]
  rfl

/-- An answer that turns the request down is read as no entries. -/
theorem entries_ofResponse_plain (rejection : Rejection) :
    (ofResponse (.plain (Api.statusOf rejection))).entries = [] := by
  cases rejection <;> rfl

end Message

namespace Node

/-- A node after it has dealt with a message. -/
def receive (node : Node) (occasion : Occasion) : Message → Node
  | .offer target body =>
    (node.respond occasion.resolver occasion.now occasion.address (offerRequest target body)).node
  | .listing answer =>
    (node.take ⟨occasion.peer,
      Peer.fetched (Peer.entriesUri occasion.peer) (.ok answer)⟩).node

/-- What a node does with a request for all entries. -/
def list (node : Node) (occasion : Occasion) : Outcome (Http.Response Api.Content) :=
  node.respond occasion.resolver occasion.now occasion.address listingRequest

/-- An offer that is not turned down is merged like a list of one entry. -/
theorem acceptOffer_cases (node : Node) (entry : Entry) (requester : Address) :
    (node.acceptOffer entry requester).node = node ∨
      (node.acceptOffer entry requester).node = (node.mergeAll [entry]).node := by
  rw [acceptOffer_eq]
  -- The offer is turned down where nothing is dynamic, or since the sender is not trusted.
  cases node.admitReplication requester with
  | error rejection => exact .inl rfl
  | ok => exact .inr rfl

/-- A request with JSON content is turned down, or the entry that can be read from it is merged. -/
theorem respond_offerRequest_cases (node : Node) (resolver : Resolver) (now : Millis)
    (requester : Address) (target : String) (body : ByteArray) :
    (node.respond resolver now requester (offerRequest target body)).node = node ∨
      (node.respond resolver now requester (offerRequest target body)).node =
        (node.mergeAll (Message.offer target body).entries).node := by
  have posted : (Api.post node requester (offerRequest target body)).node = node ∨
      (Api.post node requester (offerRequest target body)).node =
        (node.mergeAll (Message.offer target body).entries).node := by
    cases read : Api.readBody Entry.form (offerRequest target body) with
    | error status =>
      -- Nothing can be read, so the request is answered with a status alone.
      refine .inl ?_
      simp only [Api.post, read]
      rfl
    | ok entry =>
      -- What the interface reads is what counts as readable from the message.
      have entries : (Message.offer target body).entries = [entry] := by
        simp only [Message.entries, read]
        rfl
      simp only [Api.post, read, entries]
      exact node.acceptOffer_cases entry requester
  unfold respond
  cases Api.Route.ofTarget? (offerRequest target body).target with
  | none => exact .inl rfl
  | some route =>
    -- Only where the entries are can anything be posted.
    cases route with
    | entries => exact posted
    | _ => exact .inl rfl

/-- All that can be read from an answer is merged. -/
theorem receive_listing (node : Node) (occasion : Occasion) (answer : Http.Answer) :
    node.receive occasion (.listing answer) =
      (node.mergeAll (Message.listing answer).entries).node := by
  -- The address of a peer shows only in what is said about a failure.
  have read : (Message.listing answer).entries =
      (Peer.fetched (Peer.entriesUri occasion.peer) (.ok answer)).toOption.getD [] := by
    simp only [Message.entries, Peer.fetched]
    split
    · rfl
    · cases Peer.entriesIn? answer.content <;> rfl
  rw [read]
  cases fetched : Peer.fetched (Peer.entriesUri occasion.peer) (.ok answer) with
  | error fault =>
    -- A fault is reported, which is the same as merging nothing.
    simp only [receive, take, fetched]
    rfl
  | ok found =>
    simp only [receive, take, fetched]
    rfl

/-- A message is ignored, or the entries that can be read from it are merged. -/
theorem receive_cases (node : Node) (occasion : Occasion) (message : Message) :
    node.receive occasion message = node ∨
      node.receive occasion message = (node.mergeAll message.entries).node := by
  -- A listing is always merged; an offer may be refused first, and then nothing changes.
  cases message with
  | offer target body => exact node.respond_offerRequest_cases _ _ _ target body
  | listing answer => exact .inr (node.receive_listing occasion answer)

/-- Whoever asks for a node's entries is turned down, or given them; the node stays as it is. -/
theorem list_cases (node : Node) (occasion : Occasion) :
    (node.list occasion).node = node ∧
      ((∃ rejection, (node.list occasion).answer = .plain (Api.statusOf rejection)) ∨
        (node.list occasion).answer = .withContent (.entries node.store.items)) := by
  have asked : node.list occasion = (node.snapshot occasion.address).map Api.read :=
    respond_get ofTarget?_entriesTarget rfl occasion.resolver occasion.now occasion.address
  rw [asked, snapshot_eq]
  -- It is turned down where nothing is dynamic, or since the peer is not trusted.
  cases node.admitReplication occasion.address with
  | error rejection => exact ⟨rfl, .inl ⟨rejection, rfl⟩⟩
  | ok => exact ⟨rfl, .inr rfl⟩

/-- From an answer to a request for all entries nothing else can be read. -/
theorem mem_store_of_mem_list {node : Node} {occasion : Occasion} {entry : Entry}
    (read : entry ∈ (Message.ofResponse (node.list occasion).answer).entries) :
    entry ∈ node.store.items := by
  -- A refusal carries no entries, and any other answer carries the store's own.
  rcases (node.list_cases occasion).2 with ⟨rejection, refused⟩ | given
  · rw [refused, Message.entries_ofResponse_plain] at read
    cases read
  · rwa [given, Message.entries_ofResponse] at read

end Node

/-- A message with the node that sent it. -/
structure Parcel (Place : Type) where
  sender : Place
  message : Message

/-- A fleet and all that its nodes have sent. -/
structure Traffic (Place : Type) where
  fleet : Fleet Place
  -- In order; a message is never used up.
  sent : List (Parcel Place)

namespace Traffic

variable {Place : Type}

/-- What happens in a fleet and on the way between its nodes. -/
inductive Event (Place : Type)
  -- A node deals with a request to write and sends the offers of its entry.
  | write (place : Place) (now : Millis) (write : Write)
  -- A node answers a request for all its entries.
  | answer (place : Place) (occasion : Occasion)
  -- A message, by its number, gets through to a node.
  | receive (place : Place) (number : Nat) (occasion : Occasion)
  -- A node removes its expired entries.
  | evict (place : Place) (now : Millis)
  -- A node looks up whom to trust.
  | refresh (place : Place) (resolver : Resolver) (now : Millis)

/-- The clock reading of an event. -/
def Event.now : Event Place → Millis
  | .write _ now _ => now
  | .answer _ occasion => occasion.now
  | .receive _ _ occasion => occasion.now
  | .evict _ now => now
  | .refresh _ _ now => now

/-- The start of a fleet, with nothing on its way. -/
def start (plan : Plan Place) : Traffic Place := ⟨.start plan, []⟩

/-- The offers of an outcome as they are sent. -/
def offersOf {α : Type} (place : Place) (outcome : Outcome α) : List (Parcel Place) :=
  (outcome.offers.filterMap fun (peer, entry) => Message.ofOffer? peer entry).map (⟨place, ·⟩)

/-- From what a write sends nothing but its entry can be read. -/
theorem mem_offersOf_perform {node : Node} {now : Millis} {write : Write} {place : Place}
    {parcel : Parcel Place} (sent : parcel ∈ offersOf place (node.perform now write)) :
    parcel.sender = place ∧
      ∀ entry ∈ parcel.message.entries, entry = node.entryOf now write := by
  obtain ⟨message, made, rfl⟩ := List.mem_map.1 sent
  obtain ⟨⟨peer, offered⟩, offer, written⟩ := List.mem_filterMap.1 made
  refine ⟨rfl, fun entry read => ?_⟩
  rw [Message.eq_of_mem_entries_ofOffer? written read]
  -- A request that is turned down offers nothing.
  rcases node.perform_cases now write with ⟨rejection, refused⟩ | done
  · rw [refused, Node.offers_reject] at offer
    cases offer
  · rw [done] at offer
    exact Node.offers_write offer

variable [DecidableEq Place]

/-- A fleet and its messages after an event. -/
def step (traffic : Traffic Place) : Event Place → Traffic Place
  | .write place now write =>
    { fleet := traffic.fleet.step (.write place now write)
      sent := traffic.sent ++ offersOf place ((traffic.fleet.nodes place).perform now write) }
  | .answer place occasion =>
    let outcome := (traffic.fleet.nodes place).list occasion
    { fleet := traffic.fleet.setNode place outcome.node
      sent := traffic.sent ++ [⟨place, .ofResponse outcome.answer⟩] }
  | .receive place number occasion =>
    match traffic.sent[number]? with
    | some parcel =>
      { traffic with
        fleet := traffic.fleet.setNode place
          ((traffic.fleet.nodes place).receive occasion parcel.message) }
    | none => traffic
  | .evict place now => { traffic with fleet := traffic.fleet.step (.evict place now) }
  | .refresh place resolver now =>
    { traffic with
      fleet := traffic.fleet.setNode place ((traffic.fleet.nodes place).refresh resolver now) }

/-- A fleet and its messages after a run of events. -/
def run (traffic : Traffic Place) (events : List (Event Place)) : Traffic Place :=
  events.foldl step traffic

@[simp] theorem run_nil (traffic : Traffic Place) : traffic.run [] = traffic := rfl

@[simp] theorem run_cons (traffic : Traffic Place) (event : Event Place)
    (events : List (Event Place)) :
    traffic.run (event :: events) = (traffic.step event).run events := rfl

/-- The last event of a run comes upon what the events before it have led to. -/
theorem run_concat (traffic : Traffic Place) (events : List (Event Place)) (event : Event Place) :
    traffic.run (events ++ [event]) = (traffic.run events).step event :=
  List.foldl_concat step traffic event events

/-- A request to write is turned down, or its entry is written and sent. -/
theorem step_write_cases (traffic : Traffic Place) (place : Place) (now : Millis) (write : Write) :
    traffic.step (.write place now write) = traffic ∨
      (traffic.fleet.nodes place).verdict write = .ok () ∧
        traffic.step (.write place now write) =
          ⟨traffic.fleet.writeEntry place now ((traffic.fleet.nodes place).entryOf now write),
            traffic.sent ++
              offersOf place ((traffic.fleet.nodes place).perform now write)⟩ := by
  cases passed : (traffic.fleet.nodes place).verdict write with
  | error rejection =>
    -- Without an entry there are no offers either.
    refine .inl ?_
    simp only [step, Fleet.step_write_of_verdict_error passed, offersOf,
      Node.perform_of_verdict_error passed, Node.offers_reject]
    simp
  | ok => exact .inr ⟨rfl, by simp only [step, Fleet.step_write_of_verdict passed]⟩

/-- Of a message that gets through, what can be read from it is merged, if anything happens. -/
theorem step_receive_cases (traffic : Traffic Place) (place : Place) (number : Nat)
    (occasion : Occasion) :
    traffic.step (.receive place number occasion) = traffic ∨
      ∃ parcel, traffic.sent[number]? = some parcel ∧
        traffic.step (.receive place number occasion) =
          ⟨traffic.fleet.merge place parcel.message.entries, traffic.sent⟩ := by
  cases found : traffic.sent[number]? with
  -- No message has that number yet.
  | none => exact .inl (by simp only [step, found])
  | some parcel =>
    rcases (traffic.fleet.nodes place).receive_cases occasion parcel.message with same | merged
    · refine .inl ?_
      simp only [step, found, same, Fleet.setNode_self]
    · refine .inr ⟨parcel, rfl, ?_⟩
      simp only [step, found, merged]
      rfl

/-- An answer to a request for all entries is sent, and nothing else happens. -/
theorem step_answer (traffic : Traffic Place) (place : Place) (occasion : Occasion) :
    traffic.step (.answer place occasion) =
      ⟨traffic.fleet, traffic.sent ++
        [⟨place, .ofResponse ((traffic.fleet.nodes place).list occasion).answer⟩]⟩ := by
  -- Listing answers with what the node holds and leaves the node itself as it was.
  have same := ((traffic.fleet.nodes place).list_cases occasion).1
  simp only [step, same, Fleet.setNode_self]

@[simp] theorem fleet_step_evict (traffic : Traffic Place) (place : Place) (now : Millis) :
    (traffic.step (.evict place now)).fleet = traffic.fleet.step (.evict place now) := rfl

@[simp] theorem sent_step_evict (traffic : Traffic Place) (place : Place) (now : Millis) :
    (traffic.step (.evict place now)).sent = traffic.sent := rfl

@[simp] theorem sent_step_refresh (traffic : Traffic Place) (place : Place) (resolver : Resolver)
    (now : Millis) : (traffic.step (.refresh place resolver now)).sent = traffic.sent := rfl

/-- A node that looks up whom to trust keeps its store, and so do all others. -/
@[simp] theorem store_step_refresh (traffic : Traffic Place) (place : Place) (resolver : Resolver)
    (now : Millis) (other : Place) :
    (traffic.step (.refresh place resolver now)).fleet.store other =
      traffic.fleet.store other := by
  -- Only the list of trusted addresses is new.
  have kept : ((traffic.fleet.nodes place).refresh resolver now).store =
      traffic.fleet.store place := rfl
  exact Fleet.store_setNode_of_same kept other

/--
An answer that gets through at once is a reading of one node by another, if the one lets the other
have its entries.
-/
theorem run_answer_receive (traffic : Traffic Place) (place : Place) {peer : Place}
    {asked : Occasion} (active : (traffic.fleet.nodes peer).profile.dynamic = true)
    (trusted : (traffic.fleet.nodes peer).checkReplicate asked.address = .ok ())
    (occasion : Occasion) (more : List (Event Place)) :
    ∃ parcel, traffic.run
        (.answer peer asked :: .receive place traffic.sent.length occasion :: more) =
      run ⟨traffic.fleet.step (.pull place peer), traffic.sent ++ [parcel]⟩ more := by
  -- The peer turns nobody down whom it trusts, so it lists all that it holds.
  have given : ((traffic.fleet.nodes peer).list asked).answer =
      .withContent (.entries (traffic.fleet.store peer).items) := by
    unfold Node.list
    rw [Node.respond_get Node.ofTarget?_entriesTarget rfl]
    simp only [Node.snapshot, active, trusted]
    rfl
  have entries := Message.entries_ofResponse (traffic.fleet.store peer).items
  refine ⟨⟨peer, .ofResponse ((traffic.fleet.nodes peer).list asked).answer⟩, ?_⟩
  rw [run_cons, step_answer, run_cons, given]
  -- The answer is the latest message.
  simp only [step, List.getElem?_concat_length]
  unfold Message.ofResponse at entries ⊢
  rw [Node.receive_listing, entries]
  rfl

/-- Whether a request to write that a node accepted in a run wrote an entry. -/
def Wrote (traffic : Traffic Place) (events : List (Event Place)) (entry : Entry) : Prop :=
  ∃ earlier place now write later, events = earlier ++ .write place now write :: later ∧
    (((traffic.run earlier).fleet.nodes place).perform now write).answer = .ok () ∧
    ((traffic.run earlier).fleet.nodes place).entryOf now write = entry

/-- What was written in the first part of a run was written in the run. -/
theorem Wrote.append {traffic : Traffic Place} {events : List (Event Place)} {entry : Entry}
    (wrote : traffic.Wrote events entry) (more : List (Event Place)) :
    traffic.Wrote (events ++ more) entry := by
  -- Later events only lengthen what comes after the write.
  obtain ⟨earlier, place, now, write, later, rfl, accepted, same⟩ := wrote
  exact ⟨earlier, place, now, write, later ++ more, by simp, accepted, same⟩

/-- A request that is accepted at the end of a run writes its entry. -/
theorem wrote_concat {traffic : Traffic Place} {events : List (Event Place)} {place : Place}
    {write : Write} (passed : ((traffic.run events).fleet.nodes place).verdict write = .ok ())
    (now : Millis) :
    traffic.Wrote (events ++ [.write place now write])
      (((traffic.run events).fleet.nodes place).entryOf now write) :=
  -- The write is the last event, so nothing comes after it.
  ⟨events, place, now, write, [], rfl, (Node.answer_perform _ now write).trans passed, rfl⟩

end Traffic

end Roster
