import Mathlib.Data.List.Induction
import Roster.Proofs.Fleet.Traffic
import Roster.Proofs.Store.Outdated

/-!
Expired versions after evictions. Answers list expired entries too and what arrives is merged
whatever its age, so an eviction at one node competes with what others still hold. A version that is
not written any more can come back to a node that has evicted it, but only from a message that its
sender sent before evicting it in turn.
-/

namespace Roster

/-- A version of a live entry. -/
structure Edition where
  nodeId : String
  timestamp : Millis
  maxAge : Millis
  deriving DecidableEq

namespace Edition

/-- Whether an entry is live and of a version. -/
def Of (edition : Edition) (entry : Entry) : Prop :=
  entry.services.isSome = true ∧ entry.nodeId = edition.nodeId ∧
    entry.timestamp = edition.timestamp ∧ entry.maxAge = some edition.maxAge

instance (edition : Edition) (entry : Entry) : Decidable (edition.Of entry) :=
  inferInstanceAs (Decidable (_ ∧ _))

/-- Whether a version has outlasted its age. -/
def isExpired (edition : Edition) (now : Millis) : Bool :=
  edition.timestamp.later edition.maxAge < now

/-- An entry of a version is expired when the version is. -/
theorem Of.isExpired_eq {edition : Edition} {entry : Entry} (same : edition.Of entry)
    (now : Millis) : entry.isExpired now = edition.isExpired now := by
  -- Expiry looks at what makes the version, and at whether the entry is live.
  obtain ⟨live, -, time, age⟩ := same
  obtain ⟨services, live⟩ := Option.isSome_iff_exists.1 live
  simp only [Entry.isExpired, live, age, time, isExpired]

/-- Another spelling of its pools leaves an entry of its version. -/
theorem of_translate_iff {edition : Edition} {entry : Entry} (migration : Migration) :
    edition.Of (migration.translate entry) ↔ edition.Of entry := by
  -- Translation renames pools, which no edition looks at.
  simp only [Of, Migration.translate, Option.isSome_map]

/-- Whether a store holds a version. -/
def In (edition : Edition) (store : Store) : Prop :=
  ∃ entry, store.get? edition.nodeId = some entry ∧ edition.Of entry

variable {edition : Edition} {store : Store}

/-- What is listed of a version is held. -/
theorem in_of_mem {entry : Entry} (same : edition.Of entry) (listed : entry ∈ store.items) :
    edition.In store :=
  -- A listed entry is the resident of its own node id.
  ⟨entry, same.2.1 ▸ Store.mem_items_iff_get?.1 listed, same⟩

/-- A version that is held after an offer was held before or is that of the offered entry. -/
theorem In.of_put {entry : Entry} (held : edition.In (store.put entry)) :
    edition.In store ∨ edition.Of entry := by
  -- What resides is the offer or was there before.
  obtain ⟨found, resides, same⟩ := held
  rcases Store.get?_put_cases resides with rfl | before
  · exact .inr same
  · exact .inl ⟨found, before, same⟩

/-- A version that is held after offers by a peer was held before or is that of one of them. -/
theorem In.of_mergeAll {migration : Migration} {entries : List Entry}
    (held : edition.In (store.mergeAll migration entries)) :
    edition.In store ∨ ∃ entry ∈ entries, edition.Of entry := by
  obtain ⟨found, resides, same⟩ := held
  rcases Store.get?_mergeAll_cases resides with before | ⟨entry, member, rfl⟩
  · exact .inl ⟨found, before, same⟩
  · -- The version is not a matter of spelling.
    exact .inr ⟨entry, member, (of_translate_iff migration).1 same⟩

/-- A version that is held after an eviction was held before and is not expired. -/
theorem In.of_evict {now : Millis} (held : edition.In (store.evict now)) :
    edition.In store ∧ edition.isExpired now = false := by
  -- An eviction keeps what is not expired, and nothing else.
  obtain ⟨found, resides, same⟩ := held
  obtain ⟨before, current⟩ := Store.get?_evict_eq_some.1 resides
  exact ⟨⟨found, before, same⟩, same.isExpired_eq now ▸ current⟩

/-- An expired version stays expired. -/
theorem isExpired_of_le {now later : Millis} (expired : edition.isExpired now = true)
    (ordered : now ≤ later) : edition.isExpired later = true := by
  -- The end of the age stays where it is while the clock goes on.
  unfold isExpired at *
  have past : edition.timestamp.later edition.maxAge < now := by simpa using expired
  simpa using lt_of_lt_of_le past ordered

end Edition

/-- Whether an entry of a version can be read from a message. -/
def Parcel.Carries {Place : Type} (parcel : Parcel Place) (edition : Edition) : Prop :=
  ∃ entry ∈ parcel.message.entries, edition.Of entry

namespace Traffic

variable {Place : Type} {traffic : Traffic Place} {edition : Edition} {instant : Millis}

/-- Whether a node has removed its expired entries at an instant or later. -/
def Swept (instant : Millis) (events : List (Event Place)) (place : Place) : Prop :=
  ∃ now, instant ≤ now ∧ .evict place now ∈ events

theorem Swept.append {events : List (Event Place)} {place : Place}
    (swept : Swept instant events place) (more : List (Event Place)) :
    Swept instant (events ++ more) place := by
  -- The eviction is still among the events.
  obtain ⟨now, late, member⟩ := swept
  exact ⟨now, late, List.mem_append_left _ member⟩

/-- The last event has swept a node only if it is its eviction. -/
theorem Swept.of_concat {events : List (Event Place)} {event : Event Place} {place : Place}
    (swept : Swept instant (events ++ [event]) place) :
    Swept instant events place ∨ ∃ now, instant ≤ now ∧ event = .evict place now := by
  -- The eviction is one of the earlier events or the last one.
  obtain ⟨now, late, member⟩ := swept
  rcases List.mem_append.1 member with before | last
  · exact .inl ⟨now, late, before⟩
  · exact .inr ⟨now, late, (List.mem_singleton.1 last).symm⟩

variable [DecidableEq Place]

/-- Whether a message was on its way at some time before its sender had removed what is expired. -/
def SentUnswept (traffic : Traffic Place) (instant : Millis) (events : List (Event Place))
    (number : Nat) : Prop :=
  ∃ earlier parcel, earlier <+: events ∧ (traffic.run earlier).sent[number]? = some parcel ∧
    ¬Swept instant earlier parcel.sender

/--
Whether a version was brought back in a run: a node that had removed what is expired got a message
with the version, which had been sent before the sender removed what is expired.
-/
def BroughtBack (traffic : Traffic Place) (edition : Edition) (instant : Millis)
    (events : List (Event Place)) : Prop :=
  ∃ earlier place number occasion later parcel,
    events = earlier ++ .receive place number occasion :: later ∧
      Swept instant earlier place ∧
      (traffic.run earlier).sent[number]? = some parcel ∧ parcel.Carries edition ∧
      traffic.SentUnswept instant earlier number

theorem SentUnswept.append {events : List (Event Place)} {number : Nat}
    (sent : traffic.SentUnswept instant events number) (more : List (Event Place)) :
    traffic.SentUnswept instant (events ++ more) number := by
  -- The time of the sending stays in front of all that comes later.
  obtain ⟨earlier, parcel, front, found, unswept⟩ := sent
  exact ⟨earlier, parcel, front.trans (List.prefix_append events more), found, unswept⟩

theorem BroughtBack.append {events : List (Event Place)}
    (back : traffic.BroughtBack edition instant events) (more : List (Event Place)) :
    traffic.BroughtBack edition instant (events ++ more) := by
  -- What came behind the message has only become longer.
  obtain ⟨earlier, place, number, occasion, later, parcel, rfl, rest⟩ := back
  exact ⟨earlier, place, number, occasion, later ++ more, parcel, by simp, rest⟩

/-- What holds of an expired version as long as it is not brought back. -/
structure Gone (traffic : Traffic Place) (edition : Edition) (instant : Millis)
    (events : List (Event Place)) : Prop where
  stores : ∀ place, Swept instant events place →
    ¬edition.In ((traffic.run events).fleet.store place)
  sent : ∀ number parcel, (traffic.run events).sent[number]? = some parcel →
    parcel.Carries edition → traffic.SentUnswept instant events number

/-- Before anything happens no node has evicted. -/
theorem gone_nil (traffic : Traffic Place) (edition : Edition) (instant : Millis) :
    Gone traffic edition instant [] where
  -- Without events nothing was swept, at the nodes or at the sender of a message.
  stores place swept := by
    obtain ⟨now, -, member⟩ := swept
    cases member
  sent number parcel found _ := by
    refine ⟨[], parcel, List.prefix_rfl, found, fun swept => ?_⟩
    obtain ⟨now, -, member⟩ := swept
    cases member

/-- A message under a number was sent before or is among those sent last. -/
theorem getElem?_append_cases {α : Type} {before after : List α} {number : Nat} {item : α}
    (found : (before ++ after)[number]? = some item) :
    before[number]? = some item ∨ item ∈ after := by
  -- A number beyond the earlier messages is that of a new one.
  rw [List.getElem?_append] at found
  split at found
  · exact .inl found
  · exact .inr (List.mem_of_getElem? found)

namespace Gone

variable {events : List (Event Place)}

/-- An event that is no eviction, brings the version to no node that has swept, and lets no such
node send it leaves the version gone. -/
theorem concat (gone : Gone traffic edition instant events) {event : Event Place}
    (kept : ∀ place now, event ≠ .evict place now)
    (stores : ∀ place, Swept instant events place →
      edition.In ((traffic.run (events ++ [event])).fleet.store place) →
      edition.In ((traffic.run events).fleet.store place))
    (sent : ∀ (number : Nat) (parcel : Parcel Place),
      (traffic.run (events ++ [event])).sent[number]? = some parcel →
      parcel.Carries edition → (traffic.run events).sent[number]? = some parcel ∨
        ¬Swept instant events parcel.sender) :
    Gone traffic edition instant (events ++ [event]) := by
  -- No node has swept that had not done so before.
  have before : ∀ {place}, Swept instant (events ++ [event]) place →
      Swept instant events place := by
    intro place swept
    exact swept.of_concat.resolve_right fun ⟨now, _, same⟩ => kept place now same
  refine ⟨fun place swept held => ?_, fun number parcel found carries => ?_⟩
  · exact gone.stores place (before swept) (stores place (before swept) held)
  · -- A message that is new counts as sent before its sender swept, since that has not yet swept.
    rcases sent number parcel found carries with old | unswept
    · exact (gone.sent number parcel old carries).append [event]
    · exact ⟨_, parcel, List.prefix_rfl, found, fun swept => unswept (before swept)⟩

/-- A write of another version brings this one to no node and into no message. -/
theorem write (gone : Gone traffic edition instant events) {place : Place} {now : Millis}
    {write : Write}
    (unwritten : ∀ entry, traffic.Wrote (events ++ [.write place now write]) entry →
      ¬edition.Of entry) :
    Gone traffic edition instant (events ++ [.write place now write]) := by
  rcases (traffic.run events).step_write_cases place now write with same | ⟨passed, written⟩
  · -- A request that is turned down changes nothing.
    refine gone.concat (fun _ _ same => by cases same) ?_ ?_
    · intro other _ held
      rwa [run_concat, same] at held
    · intro number parcel found _
      rw [run_concat, same] at found
      exact .inl found
  · -- What is written is on record as written, so it is no entry of the version.
    have other := unwritten _ (wrote_concat passed now)
    refine gone.concat (fun _ _ same => by cases same) ?_ ?_
    · intro node _ held
      rw [run_concat, written, Fleet.store_writeEntry] at held
      split at held
      · -- The writer holds the version only if it did before.
        rename_i here
        exact here ▸ held.of_put.resolve_right other
      · exact held
    · rintro number parcel found ⟨entry, read, same⟩
      rw [run_concat, written] at found
      -- All that the new messages hold is the entry that was written.
      refine .inl ((getElem?_append_cases found).resolve_right fun new => other ?_)
      exact (mem_offersOf_perform new).2 entry read ▸ same

/-- A node that answers gives the version away only if it holds it, and so has not swept. -/
theorem answer (gone : Gone traffic edition instant events) (place : Place) (occasion : Occasion) :
    Gone traffic edition instant (events ++ [.answer place occasion]) := by
  refine gone.concat (fun _ _ same => by cases same) ?_ ?_
  · intro other _ held
    rwa [run_concat, step_answer] at held
  · rintro number parcel found ⟨entry, read, same⟩
    rw [run_concat, step_answer] at found
    rcases getElem?_append_cases found with old | new
    · exact .inl old
    · -- Whatever can be read from the answer is held where it was given.
      obtain rfl := List.mem_singleton.1 new
      refine .inr fun swept => gone.stores place swept ?_
      exact Edition.in_of_mem same (Node.mem_store_of_mem_list read)

/-- A message leaves the version gone, unless it carries the version to a node that has swept. -/
theorem receive (gone : Gone traffic edition instant events) (place : Place) (number : Nat)
    (occasion : Occasion) :
    Gone traffic edition instant (events ++ [.receive place number occasion]) ∨
      traffic.BroughtBack edition instant (events ++ [.receive place number occasion]) := by
  rcases (traffic.run events).step_receive_cases place number occasion with
    same | ⟨parcel, found, merged⟩
  · -- A message that does not exist or is ignored changes nothing.
    refine .inl (gone.concat (fun _ _ same => by cases same) ?_ ?_)
    · intro other _ held
      rwa [run_concat, same] at held
    · intro number parcel found _
      rw [run_concat, same] at found
      exact .inl found
  · by_cases back : Swept instant events place ∧ parcel.Carries edition
    · -- The message is old, or the version would not have been in it.
      obtain ⟨swept, carries⟩ := back
      exact .inr ⟨events, place, number, occasion, [], parcel, rfl, swept, found, carries,
        gone.sent number parcel found carries⟩
    · refine .inl (gone.concat (fun _ _ same => by cases same) ?_ ?_)
      · intro other swept held
        rw [run_concat, merged, Fleet.store_merge] at held
        split at held
        · -- A receiver that has swept gets nothing of the version.
          rename_i here
          subst here
          exact held.of_mergeAll.resolve_right fun carries => back ⟨swept, carries⟩
        · exact held
      · intro other parcel sent _
        rw [run_concat, merged] at sent
        exact .inl sent

/-- An eviction leaves no node that has swept with the version, since that is expired. -/
theorem evict (gone : Gone traffic edition instant events)
    (expired : edition.isExpired instant = true) (place : Place) (now : Millis) :
    Gone traffic edition instant (events ++ [.evict place now]) := by
  refine ⟨fun other swept held => ?_, fun number parcel found carries => ?_⟩
  · rw [run_concat, fleet_step_evict, Fleet.store_step_evict] at held
    rcases swept.of_concat with before | ⟨time, late, same⟩
    · -- Nothing comes to a node by an eviction.
      refine gone.stores other before ?_
      split at held
      · rename_i here
        exact here ▸ held.of_evict.1
      · exact held
    · -- The node that sweeps now keeps nothing that was expired at the instant.
      cases same
      rw [if_pos rfl] at held
      have current := held.of_evict.2
      rw [Edition.isExpired_of_le expired late] at current
      cases current
  · -- No message is sent.
    rw [run_concat, sent_step_evict] at found
    exact (gone.sent number parcel found carries).append _

/-- A look-up of whom to trust brings the version to no node and into no message. -/
theorem refresh (gone : Gone traffic edition instant events) (place : Place) (resolver : Resolver)
    (now : Millis) : Gone traffic edition instant (events ++ [.refresh place resolver now]) := by
  -- Stores and messages are the same as before the look-up.
  refine gone.concat (fun _ _ same => by cases same) ?_ ?_
  · intro other _ held
    rwa [run_concat, store_step_refresh] at held
  · intro number parcel found _
    rw [run_concat, sent_step_refresh] at found
    exact .inl found

end Gone

/-- A version that is expired and not written stays gone, or is brought back. -/
theorem gone_run (expired : edition.isExpired instant = true) {events : List (Event Place)}
    (unwritten : ∀ entry, traffic.Wrote events entry → ¬edition.Of entry) :
    Gone traffic edition instant events ∨ traffic.BroughtBack edition instant events := by
  -- The induction takes the events from the last one back.
  induction events using List.reverseRecOn with
  | nil => exact .inl (gone_nil traffic edition instant)
  | append_singleton events event ih =>
    rcases ih fun entry wrote => unwritten entry (wrote.append [event]) with gone | back
    · -- Only a message that gets through can bring the version back.
      cases event with
      | write place now write => exact .inl (gone.write unwritten)
      | answer place occasion => exact .inl (gone.answer place occasion)
      | receive place number occasion => exact gone.receive place number occasion
      | evict place now => exact .inl (gone.evict expired place now)
      | refresh place resolver now => exact .inl (gone.refresh place resolver now)
    · exact .inr (back.append [event])

/--
A node that has evicted an expired version holds it only if the version was brought back.

Let no accepted request of a run write the version. If at the end it is held by a node that removed
its expired entries at an instant or later, and the version is expired at that instant, then at some
time in the run a node that had removed its expired entries got a message with the version, an
answer or an offer that had been sent before the sender removed its own.
-/
theorem expired_version_returns_in_old_message (expired : edition.isExpired instant = true)
    {events : List (Event Place)}
    (unwritten : ∀ entry, traffic.Wrote events entry → ¬edition.Of entry) {place : Place}
    (swept : Swept instant events place)
    (held : edition.In ((traffic.run events).fleet.store place)) :
    traffic.BroughtBack edition instant events := by
  -- As long as nothing is brought back, no node that has swept holds the version.
  rcases gone_run expired unwritten with gone | back
  · exact absurd held (gone.stores place swept)
  · exact back

/-- A short-lived entry is written at the first of two nodes. -/
def brief : List (Event Bool) :=
  [.write false 5 (.announceTrusted "a"
    ⟨"test", "general", "here", [⟨some "s", some "web", some ∅⟩], some 1⟩)]

/-- The second node reads the first; the first evicts and reads the second; the second evicts. -/
def bounce : List (Event Bool) :=
  [.answer false (.usual 6), .receive true 0 (.usual 6), .evict false 10, .answer true (.usual 10),
    .receive false 1 (.usual 10), .evict true 10]

/-- What the first node evicted it holds again at the end. -/
theorem in_store_run_bounce :
    (Edition.mk "a" 5 1).In
      ((((start Plan.pair).run brief).run bounce).fleet.store false) := by
  let written := (start Plan.pair).run brief
  have silent : written.sent.length = 0 := by decide
  -- The second node reads the first.
  obtain ⟨first, read⟩ := @run_answer_receive Bool _ written true false (.usual 6) rfl rfl
    (.usual 6) (bounce.drop 2)
  rw [silent] at read
  have joined : written.run bounce = _ := read
  -- The first node evicts and reads the second.
  let fleet := (written.fleet.step (.pull true false)).step (.evict false 10)
  obtain ⟨second, again⟩ := @run_answer_receive Bool _ ⟨fleet, written.sent ++ [first]⟩ false true
    (.usual 10) rfl rfl (.usual 10) [.evict true 10]
  have number : (written.sent ++ [first]).length = 1 := by
    rw [List.length_append, silent]
    rfl
  rw [number] at again
  have rejoined : run ⟨written.fleet.step (.pull true false), written.sent ++ [first]⟩
      (bounce.drop 2) = run ⟨fleet, written.sent ++ [first]⟩ (bounce.drop 3) := run_cons _ _ _
  rw [joined, rejoined.trans again]
  show (Edition.mk "a" 5 1).In
    (((fleet.step (.pull false true)).step (.evict true 10)).store false)
  exact ⟨.live "a" [⟨"s", "a", "web", "general", "here", ∅⟩] 5 1 none, by decide, by decide⟩

/-- Nothing is written while the version goes to and fro. -/
theorem not_wrote_bounce (traffic : Traffic Bool) (entry : Entry) :
    ¬traffic.Wrote bounce entry := by
  -- None of the events is a request to write.
  rintro ⟨earlier, place, now, write, later, same, -⟩
  have member : Event.write place now write ∈ bounce := by simp [same]
  simp [bounce] at member

/-- Both nodes remove what is expired while the version goes to and fro. -/
theorem swept_bounce (place : Bool) : Swept 7 bounce place := by
  -- Each of the two nodes has its eviction at the same instant.
  refine ⟨10, by decide, ?_⟩
  cases place <;> simp [bounce]

/-- That every node has evicted an expired version does not keep it away. -/
theorem expired_version_can_return :
    ¬ ∀ (before after : List (Event Bool)) (edition : Edition) (instant : Millis),
      ((before ++ after).map Event.now).Pairwise (· ≤ ·) →
      edition.isExpired instant = true →
      (∀ entry, ((start Plan.pair).run before).Wrote after entry → ¬edition.Of entry) →
      (∀ place, Swept instant after place) →
      ∀ place, ¬edition.In ((((start Plan.pair).run before).run after).fleet.store place) := by
  -- In the run both nodes evict, and the first one holds the version at the end.
  intro never
  have away := never brief bounce ⟨"a", 5, 1⟩ 7 (by decide) (by decide)
    (fun entry wrote => absurd wrote (not_wrote_bounce _ entry)) swept_bounce false
  exact away in_store_run_bounce

/-- The message that brings an expired version back, in a run in which that happens. -/
theorem expired_version_returns_in_old_message_bounce :
    let traffic := (start Plan.pair).run brief
    let edition : Edition := ⟨"a", 5, 1⟩
    edition.isExpired 7 = true ∧ (∀ entry, traffic.Wrote bounce entry → ¬edition.Of entry) ∧
      Swept 7 bounce false ∧ edition.In ((traffic.run bounce).fleet.store false) ∧
      traffic.BroughtBack edition 7 bounce := by
  -- The version is expired at the instant of the evictions, and nothing is written after it.
  intro traffic edition
  have expired : edition.isExpired 7 = true := by decide
  have unwritten : ∀ entry, traffic.Wrote bounce entry → ¬edition.Of entry :=
    fun entry wrote => absurd wrote (not_wrote_bounce traffic entry)
  exact ⟨expired, unwritten, swept_bounce false, in_store_run_bounce,
    expired_version_returns_in_old_message expired unwritten (swept_bounce false)
      in_store_run_bounce⟩

end Traffic

end Roster
