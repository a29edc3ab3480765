import Roster.Proofs.Node.Interleaving
import Roster.Proofs.Store.Outdated

/-!
The versions that a node gives to what it writes. A write is always later than what it finds, and
over a run the versions of one node id only grow: what has been written is reached as long as it is
held, and once it has been evicted the clock is past it.
-/

namespace Roster

namespace Millis

/-- The next instant is not earlier. -/
theorem le_next (t : Millis) : t ≤ t.next := by
  -- At the top the next time is the same, and below it a larger one.
  have bounds := t.inRange
  simp only [le_def, next, val_clamp]
  omega

/-- No instant is later than the last. -/
theorem le_latest (t : Millis) : t ≤ latest := by
  -- Every time is within range.
  have bounds := t.inRange
  simp only [le_def, latest, val_clamp]
  omega

/-- A span that is not negative ends no earlier than it starts. -/
theorem le_later {start span : Millis} (forward : zero ≤ span) : start ≤ start.later span := by
  -- A sum that saturates does so at the top, since the span leads forward.
  have bounds := start.inRange
  simp only [le_def, zero] at forward
  simp only [le_def, later, val_clamp]
  omega

end Millis

/-- An entry of a positive age has expired only after the instant that is its version. -/
theorem Entry.timestamp_lt_of_isExpired {entry : Entry} {now : Millis}
    (expired : entry.isExpired now = true) (positive : ∀ age ∈ entry.maxAge, Millis.zero < age) :
    entry.timestamp < now := by
  unfold isExpired at expired
  split at expired
  · rename_i age _ stated
    -- The end of the age lies between the two instants.
    have forward := le_of_lt (positive age stated)
    exact lt_of_le_of_lt (Millis.le_later forward) (by simpa using expired)
  · cases expired

/-- Whether the age of every live entry is positive, if it has one. -/
def Store.AgesPositive (store : Store) : Prop :=
  ∀ entry ∈ store.items, entry.isTombstone = false → ∀ age ∈ entry.maxAge, Millis.zero < age

instance (store : Store) : Decidable store.AgesPositive :=
  inferInstanceAs (Decidable (∀ entry ∈ store.items, _))

/-- The check of the owner reads nothing but the announcer of the resident entry. -/
theorem Trust.checkOwner_congr {store other : Store} (nodeId : String)
    (announcer : (other.get? nodeId).bind Entry.announcer =
      (store.get? nodeId).bind Entry.announcer)
    (resolver : Resolver) (deed : Deed) (requester : Address) :
    checkOwner other resolver deed nodeId requester =
      checkOwner store resolver deed nodeId requester := by
  -- The check asks the store for the announcer and for nothing else.
  simp only [checkOwner, announcer]

namespace Node

variable {node : Node} {now : Millis} {write : Write} {nodeId : String} {version : Millis}

/-- The version of a write is the time, or one past that of the resident entry if this is later. -/
theorem val_nextTimestamp {resident : Entry} (found : node.store.get? nodeId = some resident)
    (early : resident.timestamp < .latest) :
    (node.nextTimestamp now nodeId).val = max now.val (resident.timestamp.val + 1) := by
  -- A timestamp is bumped past its resident exactly where the clock is not past it already.
  have next := Millis.val_next early
  simp only [nextTimestamp, found, Millis.le_def]
  split <;> omega

/-- The version of a write is the time where all that is held is older. -/
theorem nextTimestamp_of_old
    (old : ∀ resident ∈ node.store.get? nodeId, resident.timestamp < now) :
    node.nextTimestamp now nodeId = now := by
  -- Nothing stands in the clock's way.
  unfold nextTimestamp
  cases found : node.store.get? nodeId with
  | none => rfl
  | some resident => exact if_neg (not_le.2 (old resident found))

/-- The version of a write is not earlier than the time. -/
theorem le_nextTimestamp (node : Node) (now : Millis) (nodeId : String) :
    now ≤ node.nextTimestamp now nodeId := by
  -- The timestamp is the clock's own or, where the resident is not behind the clock, one past that
  -- resident.
  unfold nextTimestamp
  split
  · exact le_refl now
  · rename_i resident _
    split
    · rename_i behind
      exact le_trans behind resident.timestamp.le_next
    · exact le_refl now

/-- Whether a request is accepted depends on the announcer of the resident entry, and on nothing
else in the store. -/
theorem verdict_congr {other : Node} (profile : other.profile = node.profile)
    (announcer : (other.store.get? (node.entryOf now write).nodeId).bind Entry.announcer =
      (node.store.get? (node.entryOf now write).nodeId).bind Entry.announcer) :
    other.verdict write = node.verdict write := by
  -- The check of the owner is the only one that looks into the store.
  cases write with
  | announce resolver nodeId announcement requester =>
    have owner :=
      Trust.checkOwner_congr nodeId announcer resolver .announce requester.canonical
    simp only [verdict, admitAnnounce, checkValid, checkAnnounce, guard, Trust.checkAnnounce,
      profile, owner]
  | delete resolver nodeId requester =>
    have owner := Trust.checkOwner_congr nodeId announcer resolver .delete requester.canonical
    simp only [verdict, checkDelete, guard, Trust.checkDelete, profile, owner]
  | announceTrusted nodeId announcement => simp only [verdict, checkValid, profile]
  | deleteTrusted nodeId => rfl

/-- A write that finds the last instant as the version of the resident entry changes nothing. -/
theorem write_of_latest {entry resident : Entry}
    (found : node.store.get? entry.nodeId = some resident)
    (last : resident.timestamp = .latest) (now : Millis) :
    (node.write now entry).node = node := by
  -- No version is later than the last, so the ledger turns the entry away and stays as it is.
  have refused : ¬node.ledger.store.admits entry := by
    refine Store.not_admits_iff.2 ⟨resident, found, ?_⟩
    have bounds := entry.timestamp.inRange
    rw [last, Millis.le_def]
    simp only [Millis.latest, Millis.val_clamp]
    omega
  simp only [Node.write, Ledger.put, if_neg refused]

/-- A write changes nothing under other node ids. -/
theorem get?_perform_of_ne (accepted : (node.perform now write).answer = .ok ()) {other : String}
    (differs : other ≠ (node.entryOf now write).nodeId) :
    (node.perform now write).node.store.get? other = node.store.get? other := by
  -- A write touches one node id.
  rw [store_perform_of_accepted accepted, Store.get?_put, if_neg fun both => differs both.2.symm]

/-- The entry of an accepted request is held, where no resident has the last instant as its
version. -/
theorem get?_perform (accepted : (node.perform now write).answer = .ok ())
    (early : ∀ resident, node.store.get? (node.entryOf now write).nodeId = some resident →
      resident.timestamp < .latest) :
    (node.perform now write).node.store.get? (node.entryOf now write).nodeId =
      some (node.entryOf now write) := by
  -- The entry is issued past its resident, so it takes the place.
  rw [store_perform_of_accepted accepted]
  exact (node.issues_entryOf now write).get?_put early

/-- A version is lost only to an eviction of an expired entry that is at least as late. -/
theorem reaches_act (reached : node.store.Reaches nodeId version) (action : Action) :
    (node.act action).node.store.Reaches nodeId version ∨
      ∃ now resident, action = .evict now ∧ node.store.get? nodeId = some resident ∧
        version ≤ resident.timestamp ∧ resident.isExpired now = true := by
  -- An entry that comes can only raise the version, so it takes an eviction to lose it.
  have effect := node.effect_act action
  generalize (node.act action).node = after at effect ⊢
  cases effect with
  | none => exact .inl reached
  | @put _ entry =>
    rw [store, Node.put, Ledger.store_put]
    exact .inl (reached.put entry)
  | refresh => exact .inl reached
  | evict now =>
    rcases reached.evict now with still | ⟨resident, gone⟩
    · exact .inl still
    · exact .inr ⟨now, resident, rfl, gone⟩
  | digest =>
    rw [store, Node.digest, Ledger.store_digest]
    exact .inl reached

/-- The clock reading of an action, if it has one. -/
def Action.time? : Action → Option Millis
  | .write now _ => some now
  | .query now _ _ => some now
  | .peers now => some now
  | .refresh _ now => some now
  | .evict now => some now
  | .merge _ | .accept _ _ | .snapshot _ | .digest => none

end Node

namespace Session

variable {session : Session} {nodeId : String} {version : Millis}

/-- The clock reading of an event, if it has one. -/
def Event.time? : Event → Option Millis
  | .arrive now _ => some now
  | .answer now _ _ => some now
  | .act action => action.time?

/-- A run of two parts is a run of the second after one of the first. -/
theorem run_append (session : Session) (before after : List Event) :
    session.run (before ++ after) = (session.run before).run after :=
  List.foldl_append

/-- Whether the clock never goes back in a run. -/
def InOrder (events : List Event) : Prop :=
  events.Pairwise fun earlier later => ∀ a ∈ earlier.time?, ∀ b ∈ later.time?, a ≤ b

instance (events : List Event) : Decidable (InOrder events) :=
  inferInstanceAs (Decidable (events.Pairwise fun _ _ => _))

/-- The entries that a node writes at an event: those of requests that it accepts. -/
inductive Writes (session : Session) : Event → Entry → Prop
  -- The request of a client passes on its arrival or with the last of its look-ups.
  | client {petition : Petition} {event : Event} (resolver : Resolver)
    (passed : session.Grants petition event) :
    Writes session event (session.node.entryOf event.now (petition.write resolver))
  -- The node writes on its own behalf, or deals with the request of a client at once.
  | atOnce {now : Millis} {write : Write} (passed : session.node.verdict write = .ok ()) :
    Writes session (.act (.write now write)) (session.node.entryOf now write)

/-- What is written is built at the clock reading of the event. -/
theorem Writes.issues {event : Event} {entry : Entry} (writes : session.Writes event entry) :
    ∃ now ∈ event.time?, session.node.Issues now entry := by
  -- Whether at once or after waiting, the entry is built at the event's own time from the node as
  -- it is then.
  cases writes with
  | @client petition event resolver passed =>
    refine ⟨event.now, ?_, session.node.issues_entryOf _ _⟩
    cases event with
    | arrive now arrived => rfl
    | answer now number resolver => rfl
    | act action => exact passed.elim
  | @atOnce now write passed => exact ⟨now, rfl, session.node.issues_entryOf _ _⟩

/-- What is written is put into the store. -/
theorem Writes.store_step {event : Event} {entry : Entry} (writes : session.Writes event entry) :
    (session.step event).node.store = session.node.store.put entry := by
  cases writes with
  | @client petition event resolver passed =>
    -- A client's write is entered on arrival, when nothing has to be looked up, or at the answer
    -- that settles it.
    have entered : (session.step event).node = (session.node.enter event.now petition).node := by
      cases event with
      | arrive now arrived =>
        obtain ⟨rfl, settled⟩ := passed
        simp only [step, settled]
        rfl
      | answer now number asked =>
        obtain ⟨host, next, waiting, settled⟩ := passed
        rw [step_answer waiting, settled]
        rfl
      | act action => exact passed.elim
    rw [entered, Node.enter_eq _ _ _ resolver, Node.store_write]
  | @atOnce now write passed =>
    exact Node.store_perform_of_accepted ((Node.answer_perform _ now write).trans passed)

/-- An event keeps a version that is reached, or it is an eviction after the instant of it. -/
theorem reaches_step (positive : session.node.store.AgesPositive)
    (reached : session.node.store.Reaches nodeId version) (event : Event) :
    (session.step event).node.store.Reaches nodeId version ∨
      ∃ now, event = .act (.evict now) ∧ version < now := by
  rcases session.node_step_cases event with same | ⟨petition, -, written⟩ | ⟨action, rfl⟩
  · exact .inl (same ▸ reached)
  · rw [written, Node.enter_eq _ _ _ .literals, Node.store_write]
    exact .inl (reached.put _)
  · rcases Node.reaches_act reached action with still | ⟨now, resident, rfl, found, late, expired⟩
    · exact .inl still
    · -- What has expired has a positive age, so its version has passed, and so has the other.
      have listed : resident ∈ session.node.store.items :=
        Store.mem_items_iff_get?.2 (Store.nodeId_of_get? found ▸ found)
      have passed := Entry.timestamp_lt_of_isExpired expired
        (positive resident listed (Entry.isTombstone_of_isExpired expired))
      exact .inr ⟨now, rfl, lt_of_le_of_lt late passed⟩

/-- A run keeps a version that is reached, or it has an eviction after the instant of it. -/
theorem reaches_run {events : List Event}
    (positive : ∀ before after, events = before ++ after →
      (session.run before).node.store.AgesPositive)
    (reached : session.node.store.Reaches nodeId version) :
    (session.run events).node.store.Reaches nodeId version ∨
      ∃ now, .act (.evict now) ∈ events ∧ version < now := by
  -- Induction on the events. The first eviction that takes the version away is past it, and what
  -- happens later no longer matters.
  induction events generalizing session with
  | nil => exact .inl reached
  | cons event rest ih =>
    rcases reaches_step (positive [] (event :: rest) rfl) reached event with
      still | ⟨now, rfl, passed⟩
    · have later : ∀ before after, rest = before ++ after →
          ((session.step event).run before).node.store.AgesPositive := by
        rintro before after rfl
        exact positive (event :: before) after rfl
      refine (ih later still).imp_right ?_
      rintro ⟨now, member, passed⟩
      exact ⟨now, List.mem_cons_of_mem _ member, passed⟩
    · exact .inr ⟨now, List.mem_cons_self, passed⟩

/-- Of two writes for one node id the second has a later version, short of the last instant. -/
theorem Writes.later {first second : Event} {between : List Event} {a b : Entry}
    (writesA : session.Writes first a)
    (writesB : ((session.step first).run between).Writes second b) (same : a.nodeId = b.nodeId)
    (ordered : InOrder (between ++ [second]))
    (positive : ∀ before after, between = before ++ after →
      ((session.step first).run before).node.store.AgesPositive) :
    a.timestamp < b.timestamp ∨ b.timestamp = .latest := by
  obtain ⟨now, reading, issues⟩ := writesB.issues
  -- Whether or not the first entry was taken in, its version is reached right after it.
  have reached : (session.step first).node.store.Reaches b.nodeId a.timestamp := by
    rw [writesA.store_step, ← same]
    exact Store.reaches_put _ a
  rcases reaches_run positive reached with still | ⟨evicted, member, passed⟩
  · exact issues.later still
  · -- The eviction was not later than the second write, which is built at its time or past it.
    have following := (List.pairwise_append.1 ordered).2.2 _ member second List.mem_cons_self
    have before : evicted ≤ now := following evicted rfl now reading
    refine .inl (lt_of_lt_of_le passed (le_trans before ?_))
    rw [issues.version]
    exact Node.le_nextTimestamp _ now b.nodeId

/--
An accepted write takes effect, and what a node writes for one node id only grows in version.

The entry of an accepted request becomes the resident of its node id, and no other node id is
touched. Its version is the time, or one past the resident's version if that is later. At the last
instant there is no later version, so the node stays as it was, but whether a request is accepted
does not depend on the resident's version.

Along a run in which the clock does not go back and all live entries have positive ages, of any two
accepted writes for one node id the second has the later version, until the last instant is reached.
-/
theorem own_writes_only_grow :
    (∀ (node : Node) (now : Millis) (write : Write),
      (node.perform now write).answer = .ok () →
      let entry := node.entryOf now write
      let after := (node.perform now write).node
      (∀ other, other ≠ entry.nodeId → after.store.get? other = node.store.get? other) ∧
      (node.store.get? entry.nodeId = none →
        after.store.get? entry.nodeId = some entry ∧ entry.timestamp = now) ∧
      (∀ resident, node.store.get? entry.nodeId = some resident →
        (resident.timestamp < .latest →
          after.store.get? entry.nodeId = some entry ∧
            entry.timestamp.val = max now.val (resident.timestamp.val + 1)) ∧
        (resident.timestamp = .latest → after = node)) ∧
      ∀ other : Node, other.profile = node.profile →
        (other.store.get? entry.nodeId).bind Entry.announcer =
          (node.store.get? entry.nodeId).bind Entry.announcer →
        (other.perform now write).answer = .ok ()) ∧
    ∀ (session : Session) (events : List Event), InOrder events →
      (∀ before after, events = before ++ after →
        (session.run before).node.store.AgesPositive) →
      ∀ earlier first between second rest a b,
        events = earlier ++ first :: (between ++ second :: rest) →
        (session.run earlier).Writes first a →
        (session.run (earlier ++ first :: between)).Writes second b →
        a.nodeId = b.nodeId → a.timestamp < b.timestamp ∨ b.timestamp = .latest := by
  constructor
  · intro node now write accepted entry after
    have version : entry.timestamp = node.nextTimestamp now entry.nodeId :=
      (node.issues_entryOf now write).version
    refine ⟨fun other differs => Node.get?_perform_of_ne accepted differs, fun absent => ⟨?_, ?_⟩,
      fun resident found => ⟨fun early => ⟨?_, ?_⟩, ?_⟩, ?_⟩
    · exact Node.get?_perform accepted fun resident found => absurd (absent ▸ found) (by simp)
    · -- Without a resident the version is the time.
      rw [version, Node.nextTimestamp, absent]
    · exact Node.get?_perform accepted fun other held => by
        rw [found] at held
        exact Option.some.inj held ▸ early
    · rw [version]
      exact Node.val_nextTimestamp found early
    · intro last
      show (node.perform now write).node = node
      rw [Node.perform_of_accepted accepted]
      exact Node.write_of_latest found last now
    · intro other profile announcer
      rw [Node.answer_perform] at accepted ⊢
      rw [Node.verdict_congr profile announcer, accepted]
  · rintro session events ordered positive earlier first between second rest a b rfl writesA
      writesB same
    rw [run_append, run_cons] at writesB
    refine writesA.later writesB same ?_ ?_
    · -- The writes and what is between them are part of the run.
      have tail := (List.pairwise_append.1 ordered).2.1
      refine tail.sublist (.cons _ ?_)
      exact (List.Sublist.refl between).append (List.singleton_sublist.2 List.mem_cons_self)
    · rintro before after rfl
      have here := positive (earlier ++ first :: before) (after ++ second :: rest) (by simp)
      rwa [run_append, run_cons] at here

/-- A node writes a later version after one from the future has been merged and evicted. -/
theorem own_writes_only_grow_after_eviction :
    let announcement : Announcement :=
      ⟨"test", "general", "here", [⟨some "s", some "web", some ∅⟩], none⟩
    let write : Write := .announceTrusted "n" announcement
    let session : Session := ⟨.start Profile.checking, []⟩
    let first : Event := .act (.write 5 write)
    let between : List Event := [.act (.merge (.live "n" [] 50 3 none)), .act (.evict 60)]
    let second : Event := .act (.write 60 write)
    let entry (version : Millis) : Entry :=
      .live "n" [⟨"s", "n", "web", "general", "here", ∅⟩] version 100 none
    let ahead := (session.node.put (.live "n" [] 9 100 none)).node
    let final := (session.node.put (.live "n" [] .latest 100 none)).node
    (session.Writes first (entry 5) ∧
      (session.run (first :: between)).Writes second (entry 60) ∧
      (session.run (first :: between)).node.store.get? "n" = none ∧
      (entry 5).timestamp < (entry 60).timestamp) ∧
    ((ahead.perform 5 write).answer = .ok () ∧
      (ahead.perform 5 write).node.store.get? "n" = some (entry 10)) ∧
    (final.perform 5 write).answer = .ok () ∧ (final.perform 5 write).node = final := by
  intro announcement write session first between second entry ahead final
  obtain ⟨takesEffect, grows⟩ := own_writes_only_grow
  have writesA : session.Writes first (entry 5) := @Writes.atOnce session 5 write (by decide)
  have built : (session.run (first :: between)).node.entryOf 60 write = entry 60 := by
    decide +kernel
  have writesB : (session.run (first :: between)).Writes second (entry 60) :=
    built ▸ @Writes.atOnce (session.run (first :: between)) 60 write (by decide)
  have ordered : InOrder (first :: between ++ [second]) := by decide
  -- The evicted entry carries an age of its own, so the ages are checked after every event.
  have prefixes : ∀ count < 5,
      (session.run ((first :: between ++ [second]).take count)).node.store.AgesPositive := by
    decide +kernel
  have positive : ∀ before after, first :: between ++ [second] = before ++ after →
      (session.run before).node.store.AgesPositive := by
    intro before after split
    have lengths := congrArg List.length split
    simp only [between, List.length_append, List.length_cons, List.length_nil] at lengths
    have part := prefixes before.length (by omega)
    rwa [split, List.take_left] at part
  have later := grows session _ ordered positive [] first between second [] (entry 5) (entry 60)
    rfl writesA writesB rfl
  have accepted : (ahead.perform 5 write).answer = .ok () := by decide
  have passes : (final.perform 5 write).answer = .ok () := by decide
  obtain ⟨-, -, found, -⟩ := takesEffect ahead 5 write accepted
  obtain ⟨-, -, held, -⟩ := takesEffect final 5 write passes
  refine ⟨⟨writesA, writesB, by decide +kernel, later.resolve_right (by decide)⟩,
    ⟨accepted, ?_⟩, passes, (held (.live "n" [] .latest 100 none) (by decide +kernel)).2 rfl⟩
  -- A resident ahead of the clock is passed by one.
  have taken := ((found (.live "n" [] 9 100 none) (by decide +kernel)).1 (by decide)).1
  exact taken.trans (by decide +kernel)

end Session

end Roster
