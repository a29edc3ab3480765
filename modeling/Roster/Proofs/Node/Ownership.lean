import Roster.Proofs.Net.Address
import Roster.Proofs.Node.Run

/-!
A node id belongs to the address that announced it. Until the owner deletes its entry or the entry
is evicted, nobody else can announce or delete the node id, and the owner always can.
-/

namespace Roster

/-- Whether a look-up gives for every text of an address that address in canonical form. -/
def Resolver.KnowsLiterals (resolver : Resolver) : Prop :=
  ∀ host address, Address.parse? host = some address → resolver host = .ok [address.canonical]

namespace Resolver

/-- The look-up that knows nothing but addresses knows them all. -/
theorem knowsLiterals_literals : literals.KnowsLiterals := by
  -- A host that reads as an address is looked up to be that address.
  intro host address read
  simp [literals, read]

/-- The text of an address in canonical form leads back to it. -/
theorem KnowsLiterals.canonical {resolver : Resolver} (knows : resolver.KnowsLiterals)
    (address : Address) : resolver address.canonical.text = .ok [address.canonical] := by
  -- The owner was noted in canonical spelling, which reads back as itself.
  rw [knows _ _ (Address.parse?_text address.canonical), Address.canonical_canonical]

end Resolver

/-- A node that checks requesters and has no seeds. -/
def Profile.checking : Profile where
  nodeId := "own"
  environment := "test"
  pool := generalPool
  location := "here"
  migration := ⟨"fleet", .one⟩
  seeds := []
  dynamic := true
  guarded := true
  maxAge := 100

namespace Node

/-- Whether the entry of a node id was announced from an address, in any form of it. -/
def Owns (node : Node) (nodeId : String) (owner : Address) : Prop :=
  ∃ resident, node.store.get? nodeId = some resident ∧
    resident.announcer = some owner.canonical.text

/-- Whether an action is one of clients or of the node for other node ids: nothing is let in from
peers, and look-ups for requests know the texts of addresses. -/
def Spares (nodeId : String) (node : Node) : Action → Prop
  | .write _ (.announce resolver _ _ _) => resolver.KnowsLiterals
  | .write _ (.delete resolver _ _) => resolver.KnowsLiterals
  | .write _ (.announceTrusted target _) => target ≠ nodeId
  | .write _ (.deleteTrusted target) => target ≠ nodeId
  | .merge _ => False
  | .accept _ requester => node.checkReplicate requester ≠ .ok ()
  | _ => True

/-- Whether an action ends the ownership of a node id: the owner deletes its entry, or the entry is
evicted. -/
def Releases (nodeId : String) (owner : Address) (node : Node) : Action → Prop
  | .write _ (.delete resolver target requester) =>
    target = nodeId ∧ requester.canonical = owner.canonical ∧
      node.verdict (.delete resolver target requester) = .ok ()
  | .evict now => (node.store.get? nodeId).any (·.isExpired now) = true
  | _ => False

variable {node : Node} {nodeId : String} {owner : Address}

/-- Only the owner of a node id passes. -/
theorem Owns.checkOwner (owns : node.Owns nodeId owner) {resolver : Resolver}
    (knows : resolver.KnowsLiterals) (deed : Deed) (requester : Address) :
    Trust.checkOwner node.store resolver deed nodeId requester =
      if requester = owner.canonical then .ok ()
      else .error ⟨requester, some nodeId, .otherOwner deed nodeId owner.canonical.text⟩ := by
  obtain ⟨resident, found, announced⟩ := owns
  -- The text in the entry leads back to the one address that it was made from.
  simp only [Trust.checkOwner, found, Option.bind_some, announced, knows.canonical owner,
    List.mem_singleton]

/-- Whoever passes is the owner. -/
theorem Owns.eq_of_checkOwner (owns : node.Owns nodeId owner) {resolver : Resolver}
    (knows : resolver.KnowsLiterals) {deed : Deed} {requester : Address}
    (passed : Trust.checkOwner node.store resolver deed nodeId requester = .ok ()) :
    requester = owner.canonical := by
  -- An owner's check passes for one address only.
  rw [owns.checkOwner knows] at passed
  by_contra other
  rw [if_neg other] at passed
  cases passed

/-- A node id keeps its owner when an entry is put that is of another one or by the owner. -/
theorem Owns.put (owns : node.Owns nodeId owner) {entry : Entry}
    (own : entry.nodeId = nodeId → entry.announcer = some owner.canonical.text) :
    (node.put entry).node.Owns nodeId owner := by
  obtain ⟨resident, found, announced⟩ := owns
  simp only [Owns, Node.put, store, Ledger.store_put, Store.get?_put]
  split
  · -- The entry takes the place of the resident, so it is of this node id.
    rename_i taken
    exact ⟨entry, rfl, own taken.2⟩
  · exact ⟨resident, found, announced⟩

/-- A node id keeps its owner in every action that does not end the ownership. -/
theorem Owns.act (owns : node.Owns nodeId owner) (guarded : node.profile.guarded = true)
    {action : Action} (spares : Spares nodeId node action)
    (holds : ¬Releases nodeId owner node action) : (node.act action).node.Owns nodeId owner := by
  have effect := node.effect_act action
  generalize (node.act action).node = after at effect ⊢
  -- Only what puts an entry or evicts one can touch the resident.
  cases effect with
  | none => exact owns
  | put brings =>
    refine owns.put fun target => ?_
    cases brings with
    | @write now write accepted =>
      rw [answer_perform] at accepted
      cases write with
      | announce resolver other announcement requester =>
        -- The entry is announced by whoever passed, and only the owner does.
        obtain rfl : other = nodeId := target
        obtain ⟨-, -, passed, -⟩ := (verdict_announce_eq_ok_iff guarded).1 accepted
        have same := owns.eq_of_checkOwner spares passed
        simp only [entryOf, entryFor, Entry.live, same]
      | delete resolver other requester =>
        -- Only the owner passes, and its deletion would end the ownership.
        obtain rfl : other = nodeId := target
        obtain ⟨-, passed⟩ := (verdict_delete_eq_ok_iff guarded).1 accepted
        exact absurd ⟨rfl, owns.eq_of_checkOwner spares passed, accepted⟩ holds
      | announceTrusted other announcement => exact absurd target spares
      | deleteTrusted other => exact absurd target spares
    | merge => exact spares.elim
    | accept wellFormed trusted => exact absurd trusted spares
  | refresh => exact owns
  | evict now =>
    obtain ⟨resident, found, announced⟩ := owns
    have current : resident.isExpired now = false := by
      simpa [Releases, found] using holds
    exact ⟨resident, Store.get?_evict_eq_some.2 ⟨found, current⟩, announced⟩
  | digest =>
    rw [Owns, store, Node.digest, Ledger.store_digest]
    exact owns

/-- An accepted announcement makes the announcer the owner. -/
theorem owns_announce {resolver : Resolver} {now : Millis} {announcement : Announcement}
    (accepted : (node.announce resolver now nodeId announcement owner).answer = .ok ())
    (early : ∀ resident, node.store.get? nodeId = some resident → resident.timestamp < .latest) :
    (node.announce resolver now nodeId announcement owner).node.Owns nodeId owner := by
  let write := Write.announce resolver nodeId announcement owner
  have written : (node.perform now write).node.store = node.store.put (node.entryOf now write) :=
    store_perform_of_accepted accepted
  -- The entry names the announcer, and nothing in the store is late enough to keep it out.
  have stored := (node.issues_entryOf now write).get?_put early
  rw [← written] at stored
  exact ⟨node.entryOf now write, stored, rfl⟩

/-- Everyone else is forbidden to delete and to announce an owned node id. -/
theorem Owns.forbids (owns : node.Owns nodeId owner) (active : node.profile.dynamic = true)
    (guarded : node.profile.guarded = true) {resolver : Resolver} (knows : resolver.KnowsLiterals)
    {requester : Address} (stranger : requester.canonical ≠ owner.canonical) (now : Millis) :
    let forbidden (deed : Deed) : Rejection :=
      .forbidden ⟨requester.canonical, some nodeId, .otherOwner deed nodeId owner.canonical.text⟩
    node.delete resolver now nodeId requester = node.reject (forbidden .delete) ∧
      ∀ again, node.checkValid again = .ok () →
        node.announce resolver now nodeId again requester = node.reject (forbidden .announce) := by
  intro forbidden
  -- Deleting and announcing ask the same question of the owner, so one answer serves both.
  have check (deed : Deed) := owns.checkOwner knows deed requester.canonical
  simp only [if_neg stranger] at check
  constructor
  · have refused : node.verdict (.delete resolver nodeId requester) =
        .error (forbidden .delete) := by
      rw [verdict_delete active guarded, Trust.checkDelete, check]
      rfl
    exact perform_of_verdict_error refused now
  · intro again valid
    have refused : node.verdict (.announce resolver nodeId again requester) =
        .error (forbidden .announce) := by
      rw [verdict_announce active guarded valid, Trust.checkAnnounce, check]
      rfl
    exact perform_of_verdict_error refused now

/-- The owner can delete the node id, and announce it anew for hosts of its own. -/
theorem Owns.admits (owns : node.Owns nodeId owner) (active : node.profile.dynamic = true)
    (guarded : node.profile.guarded = true) {resolver : Resolver} (knows : resolver.KnowsLiterals)
    {requester : Address} (same : requester.canonical = owner.canonical) (now : Millis) :
    (∀ deed, Trust.checkOwner node.store resolver deed nodeId requester.canonical = .ok ()) ∧
      (node.delete resolver now nodeId requester).answer = .ok () ∧
      ∀ again, node.checkValid again = .ok () →
        Trust.checkContacts resolver nodeId requester.canonical (Trust.contacts again) = .ok () →
        (node.announce resolver now nodeId again requester).answer = .ok () := by
  -- The owner's check comes first for both, and passes whatever is done.
  have check (deed : Deed) := owns.checkOwner knows deed requester.canonical
  simp only [if_pos same] at check
  refine ⟨check, ?_, fun again valid contacts => ?_⟩
  · change (node.perform now (.delete resolver nodeId requester)).answer = .ok ()
    rw [answer_perform]
    exact (verdict_delete_eq_ok_iff guarded).2 ⟨active, check .delete⟩
  · change (node.perform now (.announce resolver nodeId again requester)).answer = .ok ()
    rw [answer_perform]
    exact (verdict_announce_eq_ok_iff guarded).2 ⟨active, valid, check .announce, contacts⟩

/--
A node id belongs to the address that announced it.

Let a node that checks requesters accept an announcement, and let nothing that follows come from
peers or be written for the node id without a check. As long as the owner does not delete its entry
and the entry is not evicted, the entry names the owner's address in canonical form. Everyone else
is forbidden to announce or delete the node id, whatever form their address has. The owner passes
every check of ownership, so that it can delete the entry, and announce it anew as long as the
contacts are its own.
-/
theorem identity_belongs_to_announcer (guarded : node.profile.guarded = true)
    {resolver : Resolver} {now : Millis} {announcement : Announcement}
    (accepted : (node.announce resolver now nodeId announcement owner).answer = .ok ())
    (early : ∀ resident, node.store.get? nodeId = some resident → resident.timestamp < .latest)
    {following : List Action}
    (along : Along (fun node action =>
        Spares nodeId node action ∧ ¬Releases nodeId owner node action)
      (node.announce resolver now nodeId announcement owner).node following) :
    let final := (node.announce resolver now nodeId announcement owner).node.run following
    final.Owns nodeId owner ∧
    ∀ (resolver : Resolver) (now : Millis) (requester : Address), resolver.KnowsLiterals →
      (requester.canonical ≠ owner.canonical →
        let forbidden (deed : Deed) : Rejection :=
          .forbidden ⟨requester.canonical, some nodeId,
            .otherOwner deed nodeId owner.canonical.text⟩
        final.delete resolver now nodeId requester = final.reject (forbidden .delete) ∧
        ∀ again, final.checkValid again = .ok () →
          final.announce resolver now nodeId again requester =
            final.reject (forbidden .announce)) ∧
      (requester.canonical = owner.canonical →
        (∀ deed, Trust.checkOwner final.store resolver deed nodeId requester.canonical = .ok ()) ∧
        (final.delete resolver now nodeId requester).answer = .ok () ∧
        ∀ again, final.checkValid again = .ok () →
          Trust.checkContacts resolver nodeId requester.canonical (Trust.contacts again) = .ok () →
          (final.announce resolver now nodeId again requester).answer = .ok ()) := by
  intro final
  have profile : final.profile = node.profile := by
    rw [profile_run]
    exact node.profile_act (.write now (.announce resolver nodeId announcement owner))
  have active : final.profile.dynamic = true := by
    let write := Write.announce resolver nodeId announcement owner
    have stated : (node.perform now write).answer = .ok () := accepted
    rw [answer_perform] at stated
    exact profile ▸ ((verdict_announce_eq_ok_iff guarded).1 stated).1
  have checked : final.profile.guarded = true := profile ▸ guarded
  have owns : final.Owns nodeId owner := by
    -- Every action keeps the owner as long as the node checks requesters, which it always does.
    let kept (after : Node) : Prop := after.profile.guarded = true ∧ after.Owns nodeId owner
    have first : kept (node.announce resolver now nodeId announcement owner).node := by
      refine ⟨?_, owns_announce accepted early⟩
      exact (congrArg Profile.guarded (node.profile_act (.write now (.announce ..)))).trans guarded
    have step : ∀ before action,
        Spares nodeId before action ∧ ¬Releases nodeId owner before action →
        kept before → kept (before.act action).node := by
      rintro before action ⟨spares, holds⟩ ⟨guarded, owns⟩
      exact ⟨before.profile_act action ▸ guarded, owns.act guarded spares holds⟩
    exact (run_keeps step first along).2
  exact ⟨owns, fun resolver now requester knows =>
    ⟨fun stranger => owns.forbids active checked knows stranger now,
      fun same => owns.admits active checked knows same now⟩⟩

/-- An address of version 6 owns what it announced in its form of version 4 as well. -/
theorem identity_belongs_to_announcer_mapped :
    let node := start Profile.checking
    let mapped : Address := .v6 #v[0, 0, 0, 0, 0, 0xffff, 0x0a00, 0x0001]
    let plain : Address := .v4 #v[10, 0, 0, 1]
    let stranger : Address := .v4 #v[10, 0, 0, 2]
    let announcement : Announcement :=
      ⟨"test", "general", "here", [⟨some "s", some "web", some ∅⟩], none⟩
    let outcome := node.announce .literals 5 "n" announcement mapped
    let following : List Action :=
      [.write 6 (.announce .literals "n" announcement stranger), .evict 50, .refresh .literals 60,
        .write 7 (.announce .literals "n" announcement plain)]
    let final := outcome.node.run following
    outcome.answer = .ok () ∧ final.Owns "n" plain ∧
      final.delete .literals 70 "n" stranger =
        final.reject (.forbidden ⟨stranger, some "n", .otherOwner .delete "n" "10.0.0.1"⟩) ∧
      (final.delete .literals 70 "n" plain).answer = .ok () := by
  intro node mapped plain stranger announcement outcome following final
  have accepted : outcome.answer = .ok () := by decide +kernel
  have early : ∀ resident, node.store.get? "n" = some resident → resident.timestamp < .latest :=
    fun resident found => nomatch found
  have knows := Resolver.knowsLiterals_literals
  -- The eviction at fifty comes before the entry expires, so it releases nothing.
  have current :
      ((outcome.node.run (following.take 1)).store.get? "n").any (·.isExpired 50) = false := by
    decide +kernel
  -- The stranger's attempt and the owner's own write may both happen: neither releases the node id.
  have along : Along (fun node action =>
      Spares "n" node action ∧ ¬Releases "n" mapped node action) outcome.node following :=
    ⟨⟨knows, id⟩, ⟨trivial, Bool.eq_false_iff.1 current⟩, ⟨trivial, id⟩, ⟨knows, id⟩, trivial⟩
  obtain ⟨owns, settled⟩ := identity_belongs_to_announcer rfl accepted early along
  have refused := (settled .literals 70 stranger knows).1 (by decide)
  have granted := (settled .literals 70 plain knows).2 (by decide)
  exact ⟨accepted, owns, refused.1, granted.2.1⟩

end Node

end Roster
