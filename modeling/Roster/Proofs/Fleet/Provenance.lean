import Mathlib.Data.List.Induction
import Roster.Proofs.Announcement
import Roster.Proofs.Fleet.Traffic

/-!
Replication invents and corrupts nothing. Every entry that a node holds, and every entry that can
be read from a message, was built by an accepted request to write, and only the name of the
fleet-wide pool may have changed since.
-/

namespace Roster

/-- Whether an entry is another one with the fleet-wide pool under either of its names. -/
structure Entry.Respells (mapTarget : String) (entry original : Entry) : Prop where
  nodeId : entry.nodeId = original.nodeId
  timestamp : entry.timestamp = original.timestamp
  maxAge : entry.maxAge = original.maxAge
  announcer : entry.announcer = original.announcer
  -- Services keep their order and all but the name of the pool.
  services : entry.services.map (·.map (Service.unify mapTarget)) =
    original.services.map (·.map (Service.unify mapTarget))

/-- Whether an entry is complete: a live one says how long it lasts and names only services of its
own node, with an id and a kind each, and a tombstone has neither an age nor an announcer. -/
structure Entry.IsProper (entry : Entry) : Prop where
  lasts : ∀ services, entry.services = some services → entry.maxAge.isSome = true
  owned : ∀ services, entry.services = some services → ∀ service ∈ services,
    service.nodeId = entry.nodeId ∧ service.id ≠ "" ∧ service.kind ≠ ""
  bare : entry.services = none → entry.maxAge = none ∧ entry.announcer = none

namespace Entry

/-- Entries that are spelled alike differ in names of the fleet-wide pool alone. -/
theorem respells_of_unify_eq {mapTarget : String} {entry original : Entry}
    (alike : entry.unify mapTarget = original.unify mapTarget) :
    entry.Respells mapTarget original where
  -- Unifying touches the names of pools and nothing else.
  nodeId := (congrArg Entry.nodeId alike :)
  timestamp := (congrArg Entry.timestamp alike :)
  maxAge := (congrArg Entry.maxAge alike :)
  announcer := (congrArg Entry.announcer alike :)
  services := (congrArg Entry.services alike :)

/-- Another name for the pool leaves an entry complete. -/
theorem Respells.isProper {mapTarget : String} {entry original : Entry}
    (respells : entry.Respells mapTarget original) (proper : original.IsProper) :
    entry.IsProper := by
  have same := respells.services
  cases live : entry.services with
  | none =>
    -- The original is a tombstone too.
    rw [live, Option.map_none, eq_comm, Option.map_eq_none_iff] at same
    refine ⟨?_, ?_, fun _ => ?_⟩
    · intro services held
      rw [live] at held
      cases held
    · intro services held
      rw [live] at held
      cases held
    · rw [respells.maxAge, respells.announcer]
      exact proper.bare same
  | some services =>
    rw [live, Option.map_some, eq_comm, Option.map_eq_some_iff] at same
    obtain ⟨originals, written, alike⟩ := same
    refine ⟨fun _ _ => ?_, ?_, ?_⟩
    · rw [respells.maxAge]
      exact proper.lasts originals written
    · intro others held service member
      rw [live] at held
      cases held
      -- Some service of the original is spelled like this one.
      have listed : service.unify mapTarget ∈ originals.map (Service.unify mapTarget) := by
        rw [alike]
        exact List.mem_map_of_mem member
      obtain ⟨other, listed, spelled⟩ := List.mem_map.1 listed
      obtain ⟨owner, id, kind⟩ := proper.owned originals written other listed
      have ids : other.id = service.id := (congrArg Service.id spelled :)
      have owners : other.nodeId = service.nodeId := (congrArg Service.nodeId spelled :)
      have kinds : other.kind = service.kind := (congrArg Service.kind spelled :)
      rw [← owners, ← ids, ← kinds, respells.nodeId]
      exact ⟨owner, id, kind⟩
    · intro dead
      rw [live] at dead
      cases dead

end Entry

/-- A node writes only complete entries. -/
theorem Node.isProper_entryOf {node : Node} {write : Write} (passed : node.verdict write = .ok ())
    (now : Millis) : (node.entryOf now write).IsProper := by
  -- An entry made of an announcement is complete if the announcement was found valid.
  have announced : ∀ nodeId announcement announcer,
      node.checkValid announcement = .ok () →
      (node.entryFor now nodeId announcement announcer).IsProper := by
    intro nodeId announcement announcer valid
    refine ⟨fun _ _ => rfl, ?_, fun dead => by cases dead⟩
    intro services held service member
    cases held
    have sound := (Announcement.faultIn?_eq_none_iff.1 (Node.checkValid_eq_ok_iff.1 valid)).1
    exact sound.owned member
  have removed : ∀ nodeId, (node.tombstoneFor now nodeId).IsProper := by
    intro nodeId
    refine ⟨?_, ?_, fun _ => ⟨rfl, rfl⟩⟩
    · intro services held
      cases held
    · intro services held
      cases held
  cases write with
  | announce resolver nodeId announcement requester =>
    -- Whoever announces, the announcement has been checked.
    exact announced nodeId announcement _ (checkValid_of_verdict passed)
  | delete resolver nodeId requester => exact removed nodeId
  | announceTrusted nodeId announcement => exact announced nodeId announcement none passed
  | deleteTrusted nodeId => exact removed nodeId

namespace Traffic

variable {Place : Type} {plan : Plan Place}

/-- What holds of a fleet of a plan and its messages at all times. -/
structure Genuine (plan : Plan Place) (traffic : Traffic Place) : Prop where
  sound : traffic.fleet.Sound plan
  sent : ∀ parcel ∈ traffic.sent, ∀ entry ∈ parcel.message.entries,
    traffic.fleet.Stems plan.mapTarget entry

/-- Nothing is on its way at the start. -/
theorem genuine_start (plan : Plan Place) : Genuine plan (start plan) where
  -- Nothing is held and nothing has been sent.
  sound := Fleet.sound_start plan
  sent _ sent := by cases sent

variable [DecidableEq Place]

/-- Every event keeps what nodes hold and what they send genuine. -/
theorem genuine_step {traffic : Traffic Place} (genuine : Genuine plan traffic)
    (event : Event Place) : Genuine plan (traffic.step event) := by
  cases event with
  | write place now write =>
    rcases traffic.step_write_cases place now write with same | ⟨passed, written⟩
    · rwa [same]
    · rw [written]
      have wellFormed := (Node.issues_entryOf (traffic.fleet.nodes place) now write).wellFormed
      refine ⟨Fleet.sound_writeEntry genuine.sound place now wellFormed, ?_⟩
      intro parcel sent entry read
      rcases List.mem_append.1 sent with before | new
      · -- What was written before the event is still on record.
        obtain ⟨original, listed, alike⟩ := genuine.sent parcel before entry read
        exact ⟨original, by simp [listed], alike⟩
      · -- The offers of a write are all of its entry.
        rw [(mem_offersOf_perform new).2 entry read]
        exact ⟨_, by simp, rfl⟩
  | answer place occasion =>
    rw [step_answer]
    refine ⟨genuine.sound, ?_⟩
    intro parcel sent entry read
    rcases List.mem_append.1 sent with before | new
    · exact genuine.sent parcel before entry read
    · -- An answer gives what the node holds.
      obtain rfl := List.mem_singleton.1 new
      exact genuine.sound.stems_of_around (.inl ⟨place, Node.mem_store_of_mem_list read⟩)
  | receive place number occasion =>
    rcases traffic.step_receive_cases place number occasion with same | ⟨parcel, found, merged⟩
    · rwa [same]
    · -- What arrives stems from a write by now, whenever the message was sent.
      rw [merged]
      have stems := genuine.sent parcel (List.mem_of_getElem? found)
      exact ⟨Fleet.sound_merge genuine.sound place stems, genuine.sent⟩
  -- An eviction only takes entries away.
  | evict place now => exact ⟨Fleet.sound_evict genuine.sound place now, genuine.sent⟩
  -- A look-up moves no entries.
  | refresh place resolver now =>
    exact ⟨Fleet.sound_setNode genuine.sound rfl rfl, genuine.sent⟩

/-- Every run keeps what nodes hold and what they send genuine. -/
theorem genuine_run {traffic : Traffic Place} (genuine : Genuine plan traffic)
    (events : List (Event Place)) : Genuine plan (traffic.run events) := by
  -- The induction is on the events, and the fleet goes along with its messages.
  induction events generalizing traffic with
  | nil => exact genuine
  | cons event rest ih => exact ih (genuine_step genuine event)

/-- What is on record as written after a run was on record before or was written in the run. -/
theorem wrote_of_mem_entries_run {traffic : Traffic Place} {events : List (Event Place)}
    {original : Entry} (written : original ∈ (traffic.run events).fleet.entries) :
    original ∈ traffic.fleet.entries ∨ traffic.Wrote events original := by
  -- The induction takes the events from the last one back.
  induction events using List.reverseRecOn with
  | nil => exact .inl written
  | append_singleton events event ih =>
    rw [run_concat] at written
    have before : original ∈ (traffic.run events).fleet.entries →
        original ∈ traffic.fleet.entries ∨ traffic.Wrote (events ++ [event]) original :=
      fun listed => (ih listed).imp_right (Wrote.append · [event])
    cases event with
    | write place now write =>
      rcases (traffic.run events).step_write_cases place now write with same | ⟨passed, done⟩
      · exact before (same ▸ written)
      · -- The write puts its own entry on record and no other.
        rw [done, Fleet.entries_writeEntry] at written
        rcases List.mem_append.1 written with old | new
        · exact before old
        · rw [List.mem_singleton.1 new]
          exact .inr (wrote_concat passed now)
    -- Nothing else puts an entry on record.
    | answer place occasion =>
      rw [step_answer] at written
      exact before written
    | receive place number occasion =>
      rcases (traffic.run events).step_receive_cases place number occasion with
        same | ⟨parcel, -, merged⟩
      · exact before (same ▸ written)
      · rw [merged] at written
        exact before written
    | evict place now => exact before written
    | refresh place resolver now => exact before written

/-- Whether an entry is held by a node or can be read from a message. -/
def Present (traffic : Traffic Place) (entry : Entry) : Prop :=
  (∃ place nodeId, (traffic.fleet.store place).get? nodeId = some entry) ∨
    ∃ parcel ∈ traffic.sent, entry ∈ parcel.message.entries

/--
Whatever is present in a fleet was written, and is complete.

Let nodes that share the new name of the fleet-wide pool start with empty stores, accept requests
to write, look up whom to trust, answer each other, and get messages late, often, out of order or
never. Every entry held
by a node or readable from a message is then, but for the name of that pool, an entry that an
accepted request built on some node; so its services are the node's own with an id and a kind each.
-/
theorem replication_invents_nothing (plan : Plan Place) (events : List (Event Place))
    {entry : Entry} (present : ((start plan).run events).Present entry) :
    (∃ original, (start plan).Wrote events original ∧
      entry.Respells plan.mapTarget original) ∧ entry.IsProper := by
  have genuine := genuine_run (genuine_start plan) events
  have stems : ((start plan).run events).fleet.Stems plan.mapTarget entry := by
    rcases present with ⟨place, nodeId, held⟩ | ⟨parcel, sent, read⟩
    · exact genuine.sound.stems place nodeId entry held
    · exact genuine.sent parcel sent entry read
  obtain ⟨original, listed, alike⟩ := stems
  have respells := Entry.respells_of_unify_eq alike
  -- Nothing was on record at the start.
  rcases wrote_of_mem_entries_run listed with none | wrote
  · cases none
  · refine ⟨⟨original, wrote, respells⟩, respells.isProper ?_⟩
    obtain ⟨earlier, place, now, write, later, -, accepted, rfl⟩ := wrote
    rw [Node.answer_perform] at accepted
    exact Node.isProper_entryOf accepted now

/-- An entry that one node wrote is held by another under the new name of the pool. -/
theorem replication_invents_nothing_pair :
    let announcement : Announcement :=
      ⟨"test", "general", "here", [⟨some "s", some "web", some ∅⟩], none⟩
    let occasion := Occasion.usual 6
    let events : List (Event Bool) :=
      [.write false 5 (.announceTrusted "a" announcement), .answer false occasion,
        .receive true 0 occasion]
    let entry : Entry := .live "a" [⟨"s", "a", "web", "fleet", "here", ∅⟩] 5 100 none
    ((start Plan.pair).run events).Present entry ∧
      (∃ original, (start Plan.pair).Wrote events original ∧ entry.Respells "fleet" original) ∧
      entry.IsProper := by
  intro announcement occasion events entry
  have present : ((start Plan.pair).run events).Present entry := by
    let written := (start Plan.pair).step (.write false 5 (.announceTrusted "a" announcement))
    -- No peer is known to which the entry would have been offered.
    have silent : written.sent.length = 0 := by decide
    obtain ⟨parcel, pulled⟩ := @run_answer_receive Bool _ written true false occasion rfl rfl
      occasion []
    rw [silent] at pulled
    have held : ((written.fleet.step (.pull true false)).store true).get? "a" = some entry := by
      decide
    have joined : (start Plan.pair).run events =
        written.run [.answer false occasion, .receive true 0 occasion] := run_cons _ _ _
    rw [joined, pulled]
    exact .inl ⟨true, "a", held⟩
  exact ⟨present, replication_invents_nothing Plan.pair events present⟩

end Traffic

end Roster
