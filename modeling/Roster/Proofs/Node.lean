import Roster.Proofs.Spelling
import Roster.Round

/-!
What the operations of a node do to its store, and requests to write as one kind of value: each is
turned down and changes nothing, or writes one entry and offers it to peers.
-/

namespace Roster

/-- A request to write, by a client or by the node itself. -/
inductive Write
  | announce (resolver : Resolver) (nodeId : String) (announcement : Announcement)
    (requester : Address)
  | delete (resolver : Resolver) (nodeId : String) (requester : Address)
  | announceTrusted (nodeId : String) (announcement : Announcement)
  | deleteTrusted (nodeId : String)

namespace Store

/-- The store after a peer has offered entries one after the other. -/
def mergeAll (store : Store) (migration : Migration) (entries : List Entry) : Store :=
  entries.foldl (·.merge migration ·) store

/-- Whatever is held after offers by a peer is one of them translated or was held before. -/
theorem get?_mergeAll_cases {store : Store} {migration : Migration} {entries : List Entry}
    {nodeId : String} {found : Entry}
    (held : (store.mergeAll migration entries).get? nodeId = some found) :
    store.get? nodeId = some found ∨ ∃ entry ∈ entries, found = migration.translate entry := by
  -- The induction goes along the offers, each of which meets the store left by those before.
  induction entries generalizing store with
  | nil => exact .inl held
  | cons entry rest ih =>
    rcases ih held with before | ⟨other, member, same⟩
    · -- What the first offer leaves is that offer or was there.
      rcases get?_merge_cases before with ⟨-, same⟩ | before
      · exact .inr ⟨entry, List.mem_cons_self, same⟩
      · exact .inl before
    · exact .inr ⟨other, List.mem_cons_of_mem _ member, same⟩

/-- A version that is reached stays reached when a peer offers entries. -/
theorem Reaches.mergeAll {store : Store} {nodeId : String} {version : Millis}
    (reached : store.Reaches nodeId version) (migration : Migration) (entries : List Entry) :
    (store.mergeAll migration entries).Reaches nodeId version := by
  -- The induction is on the entries; each offer leaves the store at a version no lower.
  induction entries generalizing store with
  | nil => exact reached
  | cons entry rest ih => exact ih (reached.merge migration entry)

/-- Offers by a peer bring the store to the version of each that is not malformed. -/
theorem reaches_mergeAll (store : Store) (migration : Migration) {entries : List Entry}
    {entry : Entry} (member : entry ∈ entries) (wellFormed : entry.isWellFormed) :
    (store.mergeAll migration entries).Reaches entry.nodeId entry.timestamp := by
  induction entries generalizing store with
  | nil => simp at member
  | cons head rest ih =>
    rcases List.mem_cons.1 member with rfl | later
    · -- The version is reached at once and stays so for the rest.
      exact (reaches_merge store migration wellFormed).mergeAll migration rest
    · exact ih _ later

end Store

namespace Node

@[simp] theorem store_merge (node : Node) (entry : Entry) :
    (node.merge entry).node.store = node.store.merge node.profile.migration entry :=
  Ledger.store_merge node.ledger node.profile.migration entry

@[simp] theorem profile_merge (node : Node) (entry : Entry) :
    (node.merge entry).node.profile = node.profile := rfl

@[simp] theorem profile_mergeAll (node : Node) (entries : List Entry) :
    (node.mergeAll entries).node.profile = node.profile := by
  -- No single merge touches the profile.
  induction entries generalizing node with
  | nil => rfl
  | cons entry rest ih => exact ih (node.merge entry).node

@[simp] theorem store_mergeAll (node : Node) (entries : List Entry) :
    (node.mergeAll entries).node.store = node.store.mergeAll node.profile.migration entries := by
  induction entries generalizing node with
  | nil => rfl
  | cons entry rest ih =>
    -- The profile does not change, so every entry is translated alike.
    have later := ih (node.merge entry).node
    rw [store_merge, profile_merge] at later
    exact later

@[simp] theorem store_evict (node : Node) (now : Millis) :
    (node.evict now).node.store = node.store.evict now := rfl

@[simp] theorem store_write (node : Node) (now : Millis) (entry : Entry) :
    (node.write now entry).node.store = node.store.put entry :=
  Ledger.store_put node.ledger entry

/-- A write offers its entry to the peers that the node has with the entry, once to each. -/
theorem offers_write_eq (node : Node) (now : Millis) (entry : Entry) :
    (node.write now entry).offers =
      (node.profile.peers (node.store.put entry) now).map (·, entry) := by
  have after : (node.ledger.put entry).2.store = node.store.put entry :=
    Ledger.store_put node.ledger entry
  -- That the entry lost is no offer, and all other reports are.
  have offers (peers : List String) (others : List Report)
      (lost : others = [] ∨ others = [.superseded]) :
      (⟨(), node, others ++ peers.map (.offered · entry)⟩ : Outcome Unit).offers =
        peers.map (·, entry) := by
    rcases lost with rfl | rfl
    all_goals
      simp only [Outcome.offers, List.filterMap_append, List.filterMap_map]
      exact congrFun List.filterMap_eq_map' _
  rw [← after]
  refine offers _ _ ?_
  split
  · exact .inl rfl
  · exact .inr rfl

/-- A write offers its entry and no other. -/
theorem offers_write {node : Node} {now : Millis} {entry : Entry} {offer : String × Entry}
    (offered : offer ∈ (node.write now entry).offers) : offer.2 = entry := by
  -- Whichever peers are known afterwards, all of them are offered the same.
  rw [offers_write_eq] at offered
  obtain ⟨peer, -, rfl⟩ := List.mem_map.1 offered
  rfl

/-- A request that is turned down offers nothing. -/
@[simp] theorem offers_reject {α : Type} (node : Node) (rejection : Rejection) :
    (node.reject rejection : Outcome (Except Rejection α)).offers = [] := by
  cases rejection <;> rfl

/-- Lets a node deal with a request to write. -/
def perform (node : Node) (now : Millis) : Write → Outcome (Except Rejection Unit)
  | .announce resolver nodeId announcement requester =>
    node.announce resolver now nodeId announcement requester
  | .delete resolver nodeId requester => node.delete resolver now nodeId requester
  | .announceTrusted nodeId announcement => node.announceTrusted now nodeId announcement
  | .deleteTrusted nodeId => (node.deleteTrusted now nodeId).map .ok

/-- The entry that a node writes for a request that it accepts. -/
def entryOf (node : Node) (now : Millis) : Write → Entry
  | .announce _ nodeId announcement requester =>
    node.entryFor now nodeId announcement (some requester.canonical.text)
  | .delete _ nodeId _ => node.tombstoneFor now nodeId
  | .announceTrusted nodeId announcement => node.entryFor now nodeId announcement none
  | .deleteTrusted nodeId => node.tombstoneFor now nodeId

/-- All that has to hold before the entry of a request is written. -/
def verdict (node : Node) : Write → Except Rejection Unit
  | .announce resolver nodeId announcement requester =>
    if !node.profile.dynamic then .error .disabled
    else node.admitAnnounce resolver nodeId announcement requester
  | .delete resolver nodeId requester =>
    if !node.profile.dynamic then .error .disabled
    else node.checkDelete resolver nodeId requester
  | .announceTrusted _ announcement => node.checkValid announcement
  | .deleteTrusted _ => .ok ()

/-- A request to write is turned down if something does not hold, or else its entry is written. -/
theorem perform_eq (node : Node) (now : Millis) (write : Write) :
    node.perform now write =
      match node.verdict write with
      | .error rejection => node.reject rejection
      | .ok () => (node.write now (node.entryOf now write)).map .ok := by
  -- The kinds of writes differ in what they check, and go on alike.
  cases write with
  | announce resolver nodeId announcement requester =>
    simp only [perform, announce, verdict]
    split <;> rfl
  | delete resolver nodeId requester =>
    simp only [perform, delete, verdict]
    split <;> rfl
  | announceTrusted nodeId announcement => rfl
  | deleteTrusted nodeId => rfl

/-- All that has to hold before entries are given to a requester or taken from it. -/
def admitReplication (node : Node) (requester : Address) : Except Rejection Unit :=
  if !node.profile.dynamic then .error .disabled else node.checkReplicate requester

/-- A requester is turned down if something does not hold, or else it gets all entries. -/
theorem snapshot_eq (node : Node) (requester : Address) :
    node.snapshot requester =
      match node.admitReplication requester with
      | .error rejection => node.reject rejection
      | .ok () => node.unchanged (.ok node.store.items) := by
  -- Both checks stand in front of the listing.
  simp only [snapshot, admitReplication]
  split <;> rfl

/-- A requester is turned down if something does not hold, or else its entry is merged. -/
theorem acceptOffer_eq (node : Node) (entry : Entry) (requester : Address) :
    node.acceptOffer entry requester =
      match node.admitReplication requester with
      | .error rejection => node.reject rejection
      | .ok () => (node.merge entry).map .ok := by
  -- Both checks stand in front of the merge.
  simp only [acceptOffer, admitReplication]
  split <;> rfl

/-- What has to hold before entries are given to a requester or taken from it. -/
theorem admitReplication_eq_ok_iff {node : Node} {requester : Address} :
    node.admitReplication requester = .ok () ↔
      node.profile.dynamic = true ∧ node.checkReplicate requester = .ok () := by
  -- Where nothing is dynamic the peer is not even looked at.
  unfold admitReplication
  cases node.profile.dynamic <;> simp

/-- The answer to a request to write says whether all that has to hold does. -/
@[simp] theorem answer_perform (node : Node) (now : Millis) (write : Write) :
    (node.perform now write).answer = node.verdict write := by
  -- Writing itself never fails.
  rw [perform_eq]
  cases node.verdict write <;> rfl

/-- The entry of an accepted request is written. -/
theorem perform_of_accepted {node : Node} {now : Millis} {write : Write}
    (accepted : (node.perform now write).answer = .ok ()) :
    node.perform now write = (node.write now (node.entryOf now write)).map .ok := by
  -- Whatever was accepted has passed its verdict.
  rw [answer_perform] at accepted
  rw [perform_eq, accepted]

/-- A request for which something does not hold is turned down. -/
theorem perform_of_verdict_error {node : Node} {write : Write} {rejection : Rejection}
    (refused : node.verdict write = .error rejection) (now : Millis) :
    node.perform now write = node.reject rejection := by
  rw [perform_eq, refused]

/-- An accepted request puts its entry into the store. -/
theorem store_perform_of_accepted {node : Node} {now : Millis} {write : Write}
    (accepted : (node.perform now write).answer = .ok ()) :
    (node.perform now write).node.store = node.store.put (node.entryOf now write) := by
  -- The offers that go out beside it leave the store alone.
  rw [perform_of_accepted accepted]
  exact node.store_write now _

/-- A valid announcement to a node that checks requesters is turned down only for its requester. -/
theorem verdict_announce {node : Node} (active : node.profile.dynamic = true)
    (guarded : node.profile.guarded = true) {announcement : Announcement}
    (valid : node.checkValid announcement = .ok ()) (resolver : Resolver) (nodeId : String)
    (requester : Address) :
    node.verdict (.announce resolver nodeId announcement requester) =
      (Trust.checkAnnounce node.store resolver nodeId announcement requester).mapError
        .forbidden := by
  -- With the contents valid, all that is left is the guard's own check.
  simp [verdict, active, admitAnnounce, valid, checkAnnounce, guard, guarded]

/-- A deletion at a node that checks requesters is turned down only for its requester. -/
theorem verdict_delete {node : Node} (active : node.profile.dynamic = true)
    (guarded : node.profile.guarded = true) (resolver : Resolver) (nodeId : String)
    (requester : Address) :
    node.verdict (.delete resolver nodeId requester) =
      (Trust.checkDelete node.store resolver nodeId requester).mapError .forbidden := by
  -- A deletion has no contents to be checked, so the guard's own check is all there is.
  simp [verdict, active, checkDelete, guard, guarded]

/-- A client's announcement is written only if it is valid. -/
theorem checkValid_of_verdict {node : Node} {resolver : Resolver} {nodeId : String}
    {announcement : Announcement} {requester : Address}
    (accepted : node.verdict (.announce resolver nodeId announcement requester) = .ok ()) :
    node.checkValid announcement = .ok () := by
  -- The requester is looked at only after the announcement has passed.
  cases valid : node.checkValid announcement with
  | ok => rfl
  | error rejection =>
    simp only [verdict, admitAnnounce, valid] at accepted
    split at accepted <;> cases accepted

/-- What has to hold before a node that checks requesters writes an announcement. -/
theorem verdict_announce_eq_ok_iff {node : Node} (guarded : node.profile.guarded = true)
    {resolver : Resolver} {nodeId : String} {announcement : Announcement} {requester : Address} :
    node.verdict (.announce resolver nodeId announcement requester) = .ok () ↔
      node.profile.dynamic = true ∧ node.checkValid announcement = .ok () ∧
        Trust.checkOwner node.store resolver .announce nodeId requester.canonical = .ok () ∧
        Trust.checkContacts resolver nodeId requester.canonical
          (Trust.contacts announcement) = .ok () := by
  simp only [verdict, admitAnnounce, checkAnnounce, guard, guarded, if_true, Trust.checkAnnounce]
  -- Each check is made only after those before it have passed.
  cases node.profile.dynamic with
  | false => simp
  | true =>
    cases node.checkValid announcement with
    | error rejection => simp
    | ok =>
      cases Trust.checkOwner node.store resolver .announce nodeId requester.canonical with
      | error refusal => simp [Except.mapError]
      | ok =>
        cases Trust.checkContacts resolver nodeId requester.canonical
          (Trust.contacts announcement) <;> simp [Except.mapError]

/-- What has to hold before a node that checks requesters writes a deletion. -/
theorem verdict_delete_eq_ok_iff {node : Node} (guarded : node.profile.guarded = true)
    {resolver : Resolver} {nodeId : String} {requester : Address} :
    node.verdict (.delete resolver nodeId requester) = .ok () ↔
      node.profile.dynamic = true ∧
        Trust.checkOwner node.store resolver .delete nodeId requester.canonical = .ok () := by
  -- Where requesters are checked, a deletion asks for the owner and for nothing else.
  simp only [verdict, checkDelete, guard, guarded, if_true, Trust.checkDelete]
  cases node.profile.dynamic with
  | false => simp
  | true =>
    cases Trust.checkOwner node.store resolver .delete nodeId requester.canonical <;>
      simp [Except.mapError]

/-- A request to write is turned down, or its entry is written. -/
theorem perform_cases (node : Node) (now : Millis) (write : Write) :
    (∃ rejection, node.perform now write = node.reject rejection) ∨
      node.perform now write = (node.write now (node.entryOf now write)).map .ok := by
  -- The verdict is all that tells the two apart.
  rw [perform_eq]
  cases node.verdict write with
  | error rejection => exact .inl ⟨rejection, rfl⟩
  | ok => exact .inr rfl

/-- What holds of every entry that a node writes at a clock reading. -/
structure Issues (node : Node) (now : Millis) (entry : Entry) : Prop where
  wellFormed : entry.isWellFormed = true
  version : entry.timestamp = node.nextTimestamp now entry.nodeId

/-- The entry of a request is one that a node writes. -/
theorem issues_entryOf (node : Node) (now : Millis) (write : Write) :
    node.Issues now (node.entryOf now write) := by
  -- Every write takes its timestamp from the same place.
  cases write <;> exact ⟨rfl, rfl⟩

/-- A node writes a later version than any it has reached, short of the last instant. -/
theorem Issues.later {node : Node} {now : Millis} {entry : Entry} (issues : node.Issues now entry)
    {version : Millis} (reached : node.store.Reaches entry.nodeId version) :
    version < entry.timestamp ∨ entry.timestamp = .latest := by
  obtain ⟨resident, found, late⟩ := reached
  have stated := issues.version
  simp only [nextTimestamp, found] at stated
  split at stated
  · -- The clock is behind, so the version is the one after the resident's.
    by_cases early : resident.timestamp < .latest
    · refine .inl ?_
      have next := Millis.val_next early
      rw [Millis.le_def] at late
      rw [stated, Millis.lt_def]
      omega
    · -- There is no instant after the last, so the version stays there.
      refine .inr ?_
      have bounds := resident.timestamp.inRange
      rw [Millis.lt_def] at early
      rw [stated]
      ext
      simp only [Millis.latest, Millis.next, Millis.val_clamp] at early ⊢
      omega
  · -- The clock is past the resident's version.
    rename_i ahead
    refine .inl ?_
    rw [Millis.le_def] at ahead late
    rw [stated, Millis.lt_def]
    omega

/-- An entry that a node writes is stored where no resident has the last instant for its version. -/
theorem Issues.get?_put {node : Node} {now : Millis} {entry : Entry}
    (issues : node.Issues now entry)
    (early : ∀ resident, node.store.get? entry.nodeId = some resident →
      resident.timestamp < .latest) :
    (node.store.put entry).get? entry.nodeId = some entry := by
  have admitted : node.store.admits entry := by
    refine Store.admits_iff.2 fun resident found => ?_
    -- The entry is later than the resident, or at the last instant, which is later too.
    rcases issues.later ⟨resident, found, le_refl _⟩ with later | last
    · exact later
    · exact last ▸ early resident found
  rw [Store.get?_put, if_pos ⟨admitted, rfl⟩]

end Node

end Roster
