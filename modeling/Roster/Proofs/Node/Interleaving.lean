import Mathlib.Data.List.Induction
import Roster.Proofs.Node.Ownership

/-!
Requests of clients whose checks wait. A check reads the resident entry when the request arrives and
then waits for one look-up after the other, and only after the last one the entry is built and
written; in between the node deals with anything else. So the ownership of a node id holds against
the entries that were there when a request arrived, but not against those that come while it waits.
-/

namespace Roster

/-- A request to write by a client. -/
inductive Petition
  | announce (nodeId : String) (announcement : Announcement) (requester : Address)
  | delete (nodeId : String) (requester : Address)

namespace Petition

/-- The node id that a client wants to write. -/
def nodeId : Petition → String
  | announce nodeId _ _ => nodeId
  | delete nodeId _ => nodeId

/-- The address of the client. -/
def requester : Petition → Address
  | announce _ _ requester => requester
  | delete _ requester => requester

/-- The request with the look-up that is used for all of its check. -/
def write (resolver : Resolver) : Petition → Write
  | announce nodeId announcement requester => .announce resolver nodeId announcement requester
  | delete nodeId requester => .delete resolver nodeId requester

end Petition

/-- A check on its way: settled, or waiting for a look-up to go on with what that finds. -/
inductive Check
  | settled (verdict : Except Rejection Unit)
  | lookup (host : String) (next : Except Unresolved (List Address) → Check)

namespace Check

/-- What a check comes to if every look-up is done by one resolver. -/
def run (resolver : Resolver) : Check → Except Rejection Unit
  | settled verdict => verdict
  | lookup host next => (next (resolver host)).run resolver

/-- How many look-ups a check makes if one resolver does them all. -/
def waits (resolver : Resolver) : Check → Nat
  | settled _ => 0
  | lookup host next => (next (resolver host)).waits resolver + 1

/-- The check of contacts, which makes a look-up for each until one is refused. -/
def contacts (nodeId : String) (requester : Address) : List String → Check
  | [] => settled (.ok ())
  | uri :: rest =>
    match Uri.hostOf? uri with
    | none => settled (.error (.forbidden ⟨requester, some nodeId, .contactUnparseable uri⟩))
    | some host => lookup host fun found =>
      match Trust.checkContact (fun _ => found) nodeId requester uri with
      | .error refusal => settled (.error (.forbidden refusal))
      | .ok () => contacts nodeId requester rest

/-- The check of the owner, which makes a look-up for the announcer of the resident entry if there
is one, and what is checked next. -/
def owner (store : Store) (deed : Deed) (nodeId : String) (requester : Address) (next : Check) :
    Check :=
  match (store.get? nodeId).bind Entry.announcer with
  | none => next
  | some announcer => lookup announcer fun found =>
    match Trust.checkOwner store (fun _ => found) deed nodeId requester with
    | .error refusal => settled (.error (.forbidden refusal))
    | .ok () => next

/-- The check of contacts comes to what the contacts come to. -/
theorem run_contacts (resolver : Resolver) (nodeId : String) (requester : Address)
    (uris : List String) :
    (contacts nodeId requester uris).run resolver =
      (Trust.checkContacts resolver nodeId requester uris).mapError .forbidden := by
  induction uris with
  | nil => rfl
  | cons uri rest ih =>
    unfold contacts Trust.checkContacts
    cases parsed : Uri.hostOf? uri with
    | none =>
      simp only [Trust.checkContact, parsed]
      rfl
    | some host =>
      -- The look-up that is waited for is the only one that the contact needs.
      have same : Trust.checkContact (fun _ => resolver host) nodeId requester uri =
          Trust.checkContact resolver nodeId requester uri := by
        simp only [Trust.checkContact, parsed]
      simp only [run, same]
      cases Trust.checkContact resolver nodeId requester uri with
      | error refusal => rfl
      | ok => exact ih

/-- The check of the owner comes to a refusal of the requester or to what is checked next. -/
theorem run_owner (resolver : Resolver) (store : Store) (deed : Deed) (nodeId : String)
    (requester : Address) (next : Check) :
    (owner store deed nodeId requester next).run resolver =
      match Trust.checkOwner store resolver deed nodeId requester with
      | .error refusal => .error (.forbidden refusal)
      | .ok () => next.run resolver := by
  unfold owner
  cases announced : (store.get? nodeId).bind Entry.announcer with
  -- Without an announcer nobody is refused.
  | none => simp only [Trust.checkOwner, announced]
  | some announcer =>
    -- The look-up that is waited for is that of the announcer.
    have same : Trust.checkOwner store (fun _ => resolver announcer) deed nodeId requester =
        Trust.checkOwner store resolver deed nodeId requester := by
      simp only [Trust.checkOwner, announced]
    simp only [run, same]
    cases Trust.checkOwner store resolver deed nodeId requester <;> rfl

end Check

namespace Node

/-- The check of a client's request, as it is when the request arrives at a node. -/
def checkOf (node : Node) : Petition → Check
  | .announce nodeId announcement requester =>
    if !node.profile.dynamic then .settled (.error .disabled)
    else match node.checkValid announcement with
      | .error rejection => .settled (.error rejection)
      | .ok () =>
        if node.profile.guarded then
          .owner node.store .announce nodeId requester.canonical
            (.contacts nodeId requester.canonical (Trust.contacts announcement))
        else .settled (.ok ())
  | .delete nodeId requester =>
    if !node.profile.dynamic then .settled (.error .disabled)
    else if node.profile.guarded then
      .owner node.store .delete nodeId requester.canonical (.settled (.ok ()))
    else .settled (.ok ())

/-- A check that nothing interrupts comes to the verdict on the request. -/
theorem run_checkOf (node : Node) (petition : Petition) (resolver : Resolver) :
    (node.checkOf petition).run resolver = node.verdict (petition.write resolver) := by
  cases petition with
  | announce nodeId announcement requester =>
    simp only [checkOf, Petition.write, verdict, admitAnnounce, checkAnnounce, guard]
    -- The same conditions are tested in the same order.
    cases node.profile.dynamic with
    | false => rfl
    | true =>
      cases node.checkValid announcement with
      | error rejection => rfl
      | ok =>
        cases node.profile.guarded with
        | false => rfl
        | true =>
          simp only [Bool.not_true, Bool.false_eq_true, if_false, if_true, Check.run_owner,
            Check.run_contacts, Trust.checkAnnounce]
          cases Trust.checkOwner node.store resolver .announce nodeId requester.canonical <;> rfl
  | delete nodeId requester =>
    simp only [checkOf, Petition.write, verdict, checkDelete, guard]
    cases node.profile.dynamic with
    | false => rfl
    | true =>
      cases node.profile.guarded with
      | false => rfl
      | true =>
        simp only [Bool.not_true, Bool.false_eq_true, if_false, if_true, Check.run_owner,
          Trust.checkDelete]
        cases Trust.checkOwner node.store resolver .delete nodeId requester.canonical <;> rfl

/-- Builds the entry of a client's request that has passed its check, and writes it. -/
def enter (node : Node) (now : Millis) : Petition → Outcome Unit
  | .announce nodeId announcement requester =>
    node.writeAnnounced now nodeId announcement requester
  | .delete nodeId _ => node.writeDeleted now nodeId

/-- What is written is the entry of the request. -/
theorem enter_eq (node : Node) (now : Millis) (petition : Petition) (resolver : Resolver) :
    node.enter now petition = node.write now (node.entryOf now (petition.write resolver)) := by
  cases petition <;> rfl

/-- A node after a check: a request that has passed is written, and otherwise nothing is done. -/
def conclude (node : Node) (now : Millis) (petition : Petition) : Check → Node
  | .settled (.ok ()) => (node.enter now petition).node
  | _ => node

/-- A check leaves the node as it is, or it has passed and the request is written. -/
theorem conclude_cases (node : Node) (now : Millis) (petition : Petition) (check : Check) :
    node.conclude now petition check = node ∨
      check = .settled (.ok ()) ∧
        node.conclude now petition check = (node.enter now petition).node := by
  -- A check that still waits or has refused changes nothing.
  cases check with
  | lookup host next => exact .inl rfl
  | settled verdict =>
    cases verdict with
    | error rejection => exact .inl rfl
    | ok => exact .inr ⟨rfl, rfl⟩

end Node

/-- A client's request and how far its check has come. -/
structure Inquiry where
  petition : Petition
  check : Check

/-- A node and the requests of clients that have arrived at it. -/
structure Session where
  node : Node
  -- In the order of their arrival; a settled one stays on the list.
  inquiries : List Inquiry

namespace Session

/-- What happens at a node. -/
inductive Event
  -- A request arrives and is checked up to its first look-up.
  | arrive (now : Millis) (petition : Petition)
  -- The look-up of a request, by its number, is done, and the request is checked up to the next.
  | answer (now : Millis) (number : Nat) (resolver : Resolver)
  -- The node does something else.
  | act (action : Node.Action)

/-- A session after an event. -/
def step (session : Session) : Event → Session
  | .arrive now petition =>
    let check := session.node.checkOf petition
    ⟨session.node.conclude now petition check, session.inquiries ++ [⟨petition, check⟩]⟩
  | .answer now number resolver =>
    match session.inquiries[number]? with
    | some ⟨petition, .lookup host next⟩ =>
      let check := next (resolver host)
      ⟨session.node.conclude now petition check, session.inquiries.set number ⟨petition, check⟩⟩
    -- Nobody waits for the look-up.
    | _ => session
  | .act action => { session with node := (session.node.act action).node }

/-- A session after events. -/
def run (session : Session) (events : List Event) : Session := events.foldl step session

@[simp] theorem run_nil (session : Session) : session.run [] = session := rfl

@[simp] theorem run_cons (session : Session) (event : Event) (events : List Event) :
    session.run (event :: events) = (session.step event).run events := rfl

/-- The last event of a run comes upon what the events before it have led to. -/
theorem run_concat (session : Session) (events : List Event) (event : Event) :
    session.run (events ++ [event]) = (session.run events).step event :=
  List.foldl_concat step session event events

/-- An answer to a look-up that a request waits for takes its check on. -/
theorem step_answer {session : Session} {number : Nat} {petition : Petition} {host : String}
    {next : Except Unresolved (List Address) → Check}
    (found : session.inquiries[number]? = some ⟨petition, .lookup host next⟩) (now : Millis)
    (resolver : Resolver) :
    session.step (.answer now number resolver) =
      ⟨session.node.conclude now petition (next (resolver host)),
        session.inquiries.set number ⟨petition, next (resolver host)⟩⟩ := by
  simp only [step, found]

/-- Under its number the request stands with what its check has come to. -/
theorem getElem?_step_answer {session : Session} {number : Nat} {petition : Petition}
    {host : String} {next : Except Unresolved (List Address) → Check}
    (found : session.inquiries[number]? = some ⟨petition, .lookup host next⟩) (now : Millis)
    (resolver : Resolver) :
    (session.step (.answer now number resolver)).inquiries[number]? =
      some ⟨petition, next (resolver host)⟩ := by
  -- The answer replaces the inquiry's check by what comes next, at its own number.
  rw [step_answer found]
  obtain ⟨within, -⟩ := List.getElem?_eq_some_iff.1 found
  exact List.getElem?_set_self within

/-- The look-ups of a request that nothing interrupts take its check to the end. -/
theorem node_run_answers {node : Node} {now : Millis} {petition : Petition} {number : Nat}
    (resolver : Resolver) (check : Check) {session : Session}
    (found : session.inquiries[number]? = some ⟨petition, check⟩)
    (reached : session.node = node.conclude now petition check) :
    (session.run (List.replicate (check.waits resolver) (.answer now number resolver))).node =
      node.conclude now petition (.settled (check.run resolver)) := by
  induction check generalizing session with
  | settled verdict => exact reached
  | lookup host next ih =>
    -- Until the check is settled the node stays as it was.
    refine ih (resolver host) (getElem?_step_answer found now resolver) ?_
    rw [step_answer found, reached]
    rfl

/-- A request that nothing interrupts does what it does when it is dealt with at once. -/
theorem node_run_arrive (session : Session) (now : Millis) (petition : Petition)
    (resolver : Resolver) :
    (session.run (.arrive now petition ::
        List.replicate ((session.node.checkOf petition).waits resolver)
          (.answer now session.inquiries.length resolver))).node =
      (session.node.perform now (petition.write resolver)).node := by
  have arrived : (session.step (.arrive now petition)).inquiries[session.inquiries.length]? =
      some ⟨petition, session.node.checkOf petition⟩ :=
    List.getElem?_concat_length
  rw [run_cons, node_run_answers resolver _ arrived rfl, Node.run_checkOf, Node.perform_eq]
  -- What the check comes to decides whether the entry is written.
  cases session.node.verdict (petition.write resolver) with
  | error rejection => rfl
  | ok => exact congrArg Outcome.node (session.node.enter_eq now petition resolver)

end Session

/-- Whether a check that has not passed is settled by the next look-up at the latest, if that knows
the texts of addresses. -/
def Check.IsDoomed : Check → Prop
  | .settled verdict => verdict ≠ .ok ()
  | .lookup host next => ∀ resolver : Resolver, resolver.KnowsLiterals →
    ∃ rejection, next (resolver host) = .settled (.error rejection)

/-- The check of a stranger's request for an owned node id is doomed when the request arrives. -/
theorem Node.Owns.isDoomed_checkOf {node : Node} {petition : Petition} {owner : Address}
    (owns : node.Owns petition.nodeId owner) (guarded : node.profile.guarded = true)
    (stranger : petition.requester.canonical ≠ owner.canonical) :
    (node.checkOf petition).IsDoomed := by
  -- The look-up for the announcer leads back to the owner and not to the stranger.
  have doomed : ∀ deed next, (Check.owner node.store deed petition.nodeId
      petition.requester.canonical next).IsDoomed := by
    intro deed next
    obtain ⟨resident, found, announced⟩ := owns
    have announcer : (node.store.get? petition.nodeId).bind Entry.announcer =
        some owner.canonical.text := by
      rw [found, Option.bind_some, announced]
    simp only [Check.owner, announcer]
    intro resolver knows
    refine ⟨.forbidden ⟨petition.requester.canonical, some petition.nodeId,
      .otherOwner deed petition.nodeId owner.canonical.text⟩, ?_⟩
    simp only [Trust.checkOwner, announcer, knows.canonical owner, List.mem_singleton, stranger,
      if_false]
  -- What is turned down at once is settled.
  have settled : ∀ rejection, (Check.settled (.error rejection)).IsDoomed :=
    fun rejection passed => by cases passed
  cases petition with
  | announce nodeId announcement requester =>
    simp only [checkOf, guarded, if_true]
    cases node.profile.dynamic with
    | false => exact settled .disabled
    | true =>
      cases node.checkValid announcement with
      | error rejection => exact settled rejection
      | ok => exact doomed .announce _
  | delete nodeId requester =>
    simp only [checkOf, guarded, if_true]
    cases node.profile.dynamic with
    | false => exact settled .disabled
    | true => exact doomed .delete _

namespace Session

/-- Whether an event lets a request of a client pass. -/
def Grants (session : Session) (petition : Petition) : Event → Prop
  | .arrive _ arrived => arrived = petition ∧ session.node.checkOf petition = .settled (.ok ())
  | .answer _ number resolver => ∃ host next,
    session.inquiries[number]? = some ⟨petition, .lookup host next⟩ ∧
      next (resolver host) = .settled (.ok ())
  | .act _ => False

/-- The clock reading at an event, if it matters. -/
def Event.now : Event → Millis
  | .arrive now _ => now
  | .answer now _ _ => now
  | .act _ => Millis.zero

/-- An event leaves the node as it is, lets a request pass whose entry is written, or is something
else that the node does. -/
theorem node_step_cases (session : Session) (event : Event) :
    (session.step event).node = session.node ∨
      (∃ petition, session.Grants petition event ∧
        (session.step event).node = (session.node.enter event.now petition).node) ∨
      ∃ action, event = .act action := by
  cases event with
  | arrive now petition =>
    rcases session.node.conclude_cases now petition (session.node.checkOf petition) with
      same | ⟨passed, written⟩
    · exact .inl same
    · exact .inr (.inl ⟨petition, ⟨rfl, passed⟩, written⟩)
  | answer now number resolver =>
    -- Somebody waits for the look-up, or nothing happens.
    by_cases waiting : ∃ petition host next,
        session.inquiries[number]? = some ⟨petition, .lookup host next⟩
    · obtain ⟨petition, host, next, found⟩ := waiting
      rw [step_answer found]
      rcases session.node.conclude_cases now petition (next (resolver host)) with
        same | ⟨passed, written⟩
      · exact .inl same
      · exact .inr (.inl ⟨petition, ⟨host, next, found, passed⟩, written⟩)
    · refine .inl (congrArg Session.node ?_)
      simp only [step]
      split
      · rename_i found
        exact absurd ⟨_, _, _, found⟩ waiting
      · rfl
  | act action => exact .inr (.inr ⟨action, rfl⟩)

/-- A request whose check is doomed stays on the list, and its check stays doomed. -/
theorem isDoomed_step {session : Session} {number : Nat} {petition : Petition} {check : Check}
    (found : session.inquiries[number]? = some ⟨petition, check⟩) (doomed : check.IsDoomed)
    {event : Event}
    (knows : ∀ now resolver, event = .answer now number resolver → resolver.KnowsLiterals) :
    ∃ check : Check, (session.step event).inquiries[number]? = some ⟨petition, check⟩ ∧
      check.IsDoomed := by
  cases event with
  | arrive now other =>
    obtain ⟨within, -⟩ := List.getElem?_eq_some_iff.1 found
    exact ⟨check, (List.getElem?_append_left within).trans found, doomed⟩
  | answer now other resolver =>
    by_cases own : other = number
    · subst own
      cases check with
      | settled verdict => exact ⟨_, by simp only [step, found], doomed⟩
      | lookup host next =>
        -- The look-up settles the check.
        obtain ⟨rejection, settled⟩ := doomed resolver (knows now resolver rfl)
        refine ⟨next (resolver host), getElem?_step_answer found now resolver, ?_⟩
        rw [settled]
        intro passed
        cases passed
    · -- The check of another request goes on.
      refine ⟨check, ?_, doomed⟩
      simp only [step]
      split
      · exact (List.getElem?_set_ne own).trans found
      · exact found
  | act action => exact ⟨check, found, doomed⟩

/-- Through a run a request whose check is doomed stays on the list, and its check stays doomed. -/
theorem isDoomed_run {session : Session} {number : Nat} {petition : Petition} {check : Check}
    (found : session.inquiries[number]? = some ⟨petition, check⟩) (doomed : check.IsDoomed)
    {events : List Event}
    (knows : ∀ now resolver, .answer now number resolver ∈ events → resolver.KnowsLiterals) :
    ∃ check : Check, (session.run events).inquiries[number]? = some ⟨petition, check⟩ ∧
      check.IsDoomed := by
  -- Induction on the events. Each leaves the inquiry where it is, doomed as it was, because answers
  -- tell the truth about literal hosts.
  induction events generalizing session check with
  | nil => exact ⟨check, found, doomed⟩
  | cons event rest ih =>
    obtain ⟨check, found, doomed⟩ := isDoomed_step found doomed
      fun now resolver same => knows now resolver (same ▸ List.mem_cons_self)
    exact ih found doomed fun now resolver later =>
      knows now resolver (List.mem_cons_of_mem _ later)

/-- A request whose check is doomed does not pass. -/
theorem not_grants_of_isDoomed {session : Session} {number : Nat} {petition : Petition}
    {check : Check} (found : session.inquiries[number]? = some ⟨petition, check⟩)
    (doomed : check.IsDoomed) {now : Millis} {resolver : Resolver}
    (knows : resolver.KnowsLiterals) : ¬session.Grants petition (.answer now number resolver) := by
  rintro ⟨host, next, waiting, passed⟩
  -- The request that passes is the doomed one, and its look-up has settled it already.
  rw [found] at waiting
  cases waiting
  obtain ⟨rejection, settled⟩ := doomed resolver knows
  rw [passed] at settled
  cases settled

/--
Whether an event of a run brought an entry to the node: an announcement by the entry's announcer
passed, or the node did something else than to deal with a client's request.
-/
def Brought (session : Session) (events : List Event) (entry : Entry) : Prop :=
  ∃ earlier event later, events = earlier ++ event :: later ∧
    (session.run earlier).node.store.get? entry.nodeId ≠ some entry ∧
    ((session.run earlier).step event).node.store.get? entry.nodeId = some entry ∧
    ((∃ announcement client, entry.announcer = some client.canonical.text ∧
        (session.run earlier).Grants (.announce entry.nodeId announcement client) event) ∨
      ∃ action, event = .act action)

/-- What a client announced and is held after a run was held before or brought by the run. -/
theorem brought_of_held {session : Session} {events : List Event} {entry : Entry}
    (announced : entry.announcer.isSome = true)
    (new : session.node.store.get? entry.nodeId ≠ some entry)
    (held : (session.run events).node.store.get? entry.nodeId = some entry) :
    session.Brought events entry := by
  -- The induction looks for the last event before which the entry was not held.
  induction events using List.reverseRecOn with
  | nil => exact absurd held new
  | append_singleton events event ih =>
    by_cases before : (session.run events).node.store.get? entry.nodeId = some entry
    · obtain ⟨earlier, brings, later, rfl, rest⟩ := ih before
      exact ⟨earlier, brings, later ++ [event], by simp, rest⟩
    · -- It is the last event itself that brings the entry.
      rw [run_concat] at held
      refine ⟨events, event, [], rfl, before, held, ?_⟩
      rcases (session.run events).node_step_cases event with
        same | ⟨petition, passed, written⟩ | action
      · rw [same] at held
        exact absurd held before
      · -- The entry is that of the request, so its announcer is the client.
        rw [written, Node.enter_eq _ _ _ .literals, Node.store_write] at held
        rcases Store.get?_put_cases held with made | old
        · refine .inl ?_
          cases petition with
          | announce nodeId announcement client =>
            rw [made]
            exact ⟨announcement, client, rfl, passed⟩
          | delete nodeId client =>
            -- A tombstone has no announcer.
            rw [made] at announced
            cases announced
        · exact absurd old before
      · exact .inr action

/-- A request that passes when it arrives finds no entry that a client announced. -/
theorem announcer_eq_none_of_grants {session : Session}
    (guarded : session.node.profile.guarded = true) {petition : Petition} {now : Millis}
    (passed : session.Grants petition (.arrive now petition)) {resident : Entry}
    (found : session.node.store.get? petition.nodeId = some resident) :
    resident.announcer = none := by
  have settled := passed.2
  cases announced : resident.announcer with
  | none => rfl
  | some announcer =>
    -- With an announcer to look up, no check of the owner is settled at once.
    have owner : ∀ nodeId deed next, session.node.store.get? nodeId = some resident →
        Check.owner session.node.store deed nodeId petition.requester.canonical next ≠
          .settled (.ok ()) := by
      intro nodeId deed next here same
      simp only [Check.owner, here, Option.bind_some, announced] at same
      cases same
    cases petition with
    | announce nodeId announcement requester =>
      -- What is turned down at once does not pass, and the owner is asked about next.
      simp only [Node.checkOf, guarded, if_true] at settled
      split at settled
      · cases settled
      · split at settled
        · cases settled
        · exact absurd settled (owner nodeId .announce _ found)
    | delete nodeId requester =>
      simp only [Node.checkOf, guarded, if_true] at settled
      split at settled
      · cases settled
      · exact absurd settled (owner nodeId .delete _ found)

/-- The entry of a client's request names the client or nobody. -/
theorem announcer_entryOf_write {node : Node} {now : Millis} {resolver : Resolver}
    {petition : Petition} {announcer : String}
    (announced : (node.entryOf now (petition.write resolver)).announcer = some announcer) :
    petition.requester.canonical.text = announcer := by
  -- A deletion leaves a tombstone, which nobody announced.
  cases petition with
  | announce nodeId announcement requester => exact Option.some.inj announced
  | delete nodeId requester => cases announced

/-- A stranger's request that arrives while an address owns the node id does not pass. -/
theorem not_owns_of_grants {session : Session} (guarded : session.node.profile.guarded = true)
    {time : Millis} {petition : Petition} {owner : Address}
    (stranger : petition.requester.canonical ≠ owner.canonical) {between : List Event}
    (knowsBetween : ∀ now resolver,
      .answer now session.inquiries.length resolver ∈ between → resolver.KnowsLiterals)
    {now : Millis} {resolver : Resolver} (knows : resolver.KnowsLiterals)
    (passed : ((session.step (.arrive time petition)).run between).Grants petition
      (.answer now session.inquiries.length resolver)) :
    ¬session.node.Owns petition.nodeId owner := by
  intro owns
  have listed : (session.step (.arrive time petition)).inquiries[session.inquiries.length]? =
      some ⟨petition, session.node.checkOf petition⟩ :=
    List.getElem?_concat_length
  -- The first look-up would have turned the request down, whatever happened before it.
  obtain ⟨check, found, doomed⟩ :=
    isDoomed_run listed (owns.isDoomed_checkOf guarded stranger) knowsBetween
  exact not_grants_of_isDoomed found doomed knows passed

/-- No entry of another client is there after an arrival that was not there before. -/
theorem owns_of_get?_step_arrive {session : Session} {time : Millis} {petition : Petition}
    {resident : Entry} {owner : Address}
    (held : (session.step (.arrive time petition)).node.store.get? petition.nodeId =
      some resident)
    (announced : resident.announcer = some owner.canonical.text)
    (stranger : petition.requester.canonical ≠ owner.canonical) :
    session.node.Owns petition.nodeId owner := by
  rcases session.node.conclude_cases time petition (session.node.checkOf petition) with
    same | ⟨-, written⟩
  · exact ⟨resident, same ▸ held, announced⟩
  · -- The request itself does not write an entry of another client.
    rw [show (session.step (.arrive time petition)).node = _ from written,
      Node.enter_eq _ _ _ .literals, Node.store_write] at held
    rcases Store.get?_put_cases held with rfl | before
    · exact absurd (Address.text_injective (announcer_entryOf_write announced)) stranger
    · exact ⟨resident, before, announced⟩

/-- The entry of a request that passes after look-ups takes the place of the resident entry, unless
that has the last instant for its version. -/
theorem get?_step_answer_of_grants {session : Session} {number : Nat} {petition : Petition}
    {now : Millis} {resolver : Resolver}
    (passed : session.Grants petition (.answer now number resolver)) {resident : Entry}
    (held : session.node.store.get? petition.nodeId = some resident)
    (early : resident.timestamp < .latest) :
    (session.step (.answer now number resolver)).node.store.get? petition.nodeId =
      some (session.node.entryOf now (petition.write resolver)) := by
  obtain ⟨host, next, waiting, settled⟩ := passed
  have target : (session.node.entryOf now (petition.write resolver)).nodeId =
      petition.nodeId := by
    cases petition <;> rfl
  -- Neither building the entry nor writing it looks at the announcer of the resident one.
  have stored := (session.node.issues_entryOf now (petition.write resolver)).get?_put
    fun other found => by
      rw [target, held] at found
      exact Option.some.inj found ▸ early
  rw [step_answer waiting, settled]
  show (session.node.enter now petition).node.store.get? petition.nodeId = _
  rw [Node.enter_eq _ _ _ resolver, Node.store_write]
  rwa [target] at stored

/--
A client's request replaces an entry of another client only if that came while the request waited.

Let a request arrive at a node that checks requesters. If it passes at once, no client had announced
the resident entry. If it passes after look-ups that know the texts of addresses, and the resident
entry then is one that another address announced, then that address did not own the node id when
the request arrived, and the entry was brought while the request waited. The entry of the request
takes its place all the same, unless it has the last instant for its version.
-/
theorem replaces_only_what_came_while_waiting {session : Session}
    (guarded : session.node.profile.guarded = true) (time : Millis) (petition : Petition) :
    let number := session.inquiries.length
    let arrived := session.step (.arrive time petition)
    (session.Grants petition (.arrive time petition) →
      ∀ resident, session.node.store.get? petition.nodeId = some resident →
        resident.announcer = none) ∧
    ∀ (between : List Event) (now : Millis) (resolver : Resolver) (resident : Entry)
        (owner : Address),
      (∀ now resolver, .answer now number resolver ∈ between → resolver.KnowsLiterals) →
      resolver.KnowsLiterals →
      (arrived.run between).Grants petition (.answer now number resolver) →
      (arrived.run between).node.store.get? petition.nodeId = some resident →
      resident.announcer = some owner.canonical.text →
      petition.requester.canonical ≠ owner.canonical →
      ¬session.node.Owns petition.nodeId owner ∧ arrived.Brought between resident ∧
        (resident.timestamp < .latest →
          ((arrived.run between).step (.answer now number resolver)).node.store.get?
              petition.nodeId =
            some ((arrived.run between).node.entryOf now (petition.write resolver))) := by
  intro number arrived
  refine ⟨fun passed resident => announcer_eq_none_of_grants guarded passed, ?_⟩
  intro between now resolver resident owner knowsBetween knows passed held announced stranger
  have node : resident.nodeId = petition.nodeId := Store.nodeId_of_get? held
  have unowned : ¬session.node.Owns petition.nodeId owner :=
    not_owns_of_grants guarded stranger knowsBetween knows passed
  -- So the entry was not there after the arrival either, and something brought it since.
  have new : arrived.node.store.get? resident.nodeId ≠ some resident := by
    rw [node]
    exact fun there => unowned (owns_of_get?_step_arrive there announced stranger)
  refine ⟨unowned, ?_, get?_step_answer_of_grants passed held⟩
  exact brought_of_held (by rw [announced]; rfl) new (node.symm ▸ held)

/-- A request passes with the last look-up that its check makes, if it passes at all. -/
theorem grants_of_waits {session : Session} {number : Nat} {petition : Petition} {check : Check}
    (found : session.inquiries[number]? = some ⟨petition, check⟩) {resolver : Resolver}
    (last : check.waits resolver = 1) (passes : check.run resolver = .ok ()) (now : Millis) :
    session.Grants petition (.answer now number resolver) := by
  cases check with
  | settled verdict => cases last
  | lookup host next =>
    -- Behind the last look-up the check waits for nothing more.
    have settled : (next (resolver host)).waits resolver = 0 := Nat.succ.inj last
    cases after : next (resolver host) with
    | lookup other more =>
      rw [after] at settled
      cases settled
    | settled verdict =>
      refine ⟨host, next, found, ?_⟩
      simp only [Check.run, after] at passes
      rw [after, passes]

/-- An announcement is replaced that was accepted while another client's request waited. -/
theorem replaces_only_what_came_while_waiting_pair :
    let owner : Address := .v4 #v[10, 0, 0, 1]
    let other : Address := .v4 #v[10, 0, 0, 2]
    let submitted (properties : Properties) : Announcement :=
      ⟨"test", "general", "here", [⟨some "s", some "web", some properties⟩], none⟩
    let petition : Petition :=
      .announce "n" (submitted (Index.ofList [("http", "http://10.0.0.2")])) other
    let session : Session := ⟨.start Profile.checking, []⟩
    let arrived := session.step (.arrive 5 petition)
    let between : List Event := [.arrive 6 (.announce "n" (submitted ∅) owner)]
    let resident : Entry :=
      .live "n" [⟨"s", "n", "web", "general", "here", ∅⟩] 6 100 (some "10.0.0.1")
    (arrived.run between).Grants petition (.answer 7 0 .literals) ∧
      (arrived.run between).node.store.get? "n" = some resident ∧
      resident.isExpired 7 = false ∧ arrived.Brought between resident ∧
      ((arrived.run between).step (.answer 7 0 .literals)).node.store.get? "n" =
        some ((arrived.run between).node.entryOf 7 (petition.write .literals)) := by
  intro owner other submitted petition session arrived between resident
  have listed : (arrived.run between).inquiries[0]? =
      some ⟨petition, session.node.checkOf petition⟩ := rfl
  -- The check asks for one host, so the one answer settles it.
  have last : (session.node.checkOf petition).waits .literals = 1 := by decide +kernel
  have passes : (session.node.checkOf petition).run .literals = .ok () := by decide +kernel
  have passed : (arrived.run between).Grants petition (.answer 7 0 .literals) :=
    grants_of_waits listed last passes 7
  -- The owner's announcement came while the other one waited and is what is replaced.
  have held : (arrived.run between).node.store.get? "n" = some resident := by decide +kernel
  have knows := Resolver.knowsLiterals_literals
  obtain ⟨-, brought, replaced⟩ := (@replaces_only_what_came_while_waiting session rfl 5 petition).2
    between 7 .literals resident owner (fun now resolver member => by simp [between] at member)
    knows passed held rfl (by decide)
  exact ⟨passed, held, by decide, brought, replaced (by decide)⟩

end Session

end Roster
