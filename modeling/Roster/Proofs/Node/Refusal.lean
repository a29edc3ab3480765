import Roster.Proofs.Api
import Roster.Proofs.Node.Admission

/-!
Requests that are turned down. Such a request leaves the node as it was and sends nothing to peers.
A refusal of the requester goes to the audit record, with the requester's canonical address and the
node that the request is about, and nothing else does. So a run without the request goes on alike.
-/

namespace Roster

/-- Whether a refusal is of a requester, and about a node if it names one. -/
structure Refusal.IsOf (refusal : Refusal) (requester : Address) (nodeId : Option String) :
    Prop where
  requester : refusal.requester = requester
  nodeId : refusal.nodeId = nodeId

/-- The refusal that a rejection is about, if the requester is why. -/
def Rejection.refusal? : Rejection → Option Refusal
  | .forbidden refusal => some refusal
  | _ => none

namespace Trust

variable {store : Store} {resolver : Resolver} {nodeId : String} {requester : Address}
  {refusal : Refusal}

/-- Whoever is refused as the owner is named with the node. -/
theorem isOf_of_checkOwner {deed : Deed}
    (refused : checkOwner store resolver deed nodeId requester = .error refusal) :
    refusal.IsOf requester (some nodeId) := by
  unfold checkOwner at refused
  -- The look-up fails, or it does not lead to the requester.
  split at refused
  · cases refused
  · split at refused
    · cases refused
      exact ⟨rfl, rfl⟩
    · split at refused
      · cases refused
      · cases refused
        exact ⟨rfl, rfl⟩

/-- Whoever is refused for a contact is named with the node. -/
theorem isOf_of_checkContact {uri : String}
    (refused : checkContact resolver nodeId requester uri = .error refusal) :
    refusal.IsOf requester (some nodeId) := by
  unfold checkContact at refused
  -- There is no host, or the look-up fails, or it does not lead to the requester.
  split at refused
  · cases refused
    exact ⟨rfl, rfl⟩
  · split at refused
    · cases refused
      exact ⟨rfl, rfl⟩
    · split at refused
      · cases refused
      · cases refused
        exact ⟨rfl, rfl⟩

/-- Whoever is refused for one of several contacts is named with the node. -/
theorem isOf_of_checkContacts {uris : List String}
    (refused : checkContacts resolver nodeId requester uris = .error refusal) :
    refusal.IsOf requester (some nodeId) := by
  -- The refusal is that of the first contact that does not pass.
  induction uris with
  | nil => cases refused
  | cons uri rest ih =>
    rw [checkContacts] at refused
    split at refused
    · rename_i first
      cases refused
      exact isOf_of_checkContact first
    · exact ih refused

/-- Whoever is refused to announce is named with the canonical address and the node. -/
theorem isOf_of_checkAnnounce {announcement : Announcement}
    (refused : checkAnnounce store resolver nodeId announcement requester = .error refusal) :
    refusal.IsOf requester.canonical (some nodeId) := by
  -- The refusal is the owner check's or that of the contacts, and both name the client and the node
  -- id.
  unfold checkAnnounce at refused
  split at refused
  · rename_i owner
    cases refused
    exact isOf_of_checkOwner owner
  · exact isOf_of_checkContacts refused

/-- Whoever is refused to replicate is named with the canonical address and no node. -/
theorem isOf_of_checkReplicate {trusted : List Address}
    (refused : checkReplicate trusted requester = .error refusal) :
    refusal.IsOf requester.canonical none := by
  -- A stranger is refused for no node id.
  unfold checkReplicate at refused
  split at refused
  · cases refused
  · cases refused
    exact ⟨rfl, rfl⟩

end Trust

namespace Node

variable {node : Node} {rejection : Rejection} {refusal : Refusal}

/-- A guarded check forbids only what the check refuses. -/
theorem guard_eq_error {check : Except Refusal Unit}
    (refused : node.guard check = .error rejection) :
    ∃ refusal, check = .error refusal ∧ rejection = .forbidden refusal := by
  unfold guard at refused
  split at refused
  · cases check with
    | error refusal =>
      cases refused
      exact ⟨refusal, rfl, rfl⟩
    | ok => cases refused
  · -- Without a guard everyone passes.
    cases refused

/-- The node whose entry is to be written, if a client asks for an action that writes one. -/
def Action.target? : Action → Option String
  | .write _ (.announce _ nodeId _ _) => some nodeId
  | .write _ (.delete _ nodeId _) => some nodeId
  | _ => none

/-- All that has to hold before a node does what an action asks for. -/
def ruling (node : Node) : Action → Except Rejection Unit
  | .write _ write => node.verdict write
  | .accept _ requester => node.admitReplication requester
  | .snapshot requester => node.admitReplication requester
  | _ => .ok ()

/-- Whoever is forbidden to replicate is named with the canonical address and no node. -/
theorem isOf_of_admitReplication {requester : Address}
    (refused : node.admitReplication requester = .error (.forbidden refusal)) :
    refusal.IsOf requester.canonical none := by
  -- Where discovery is off the rejection is no refusal.
  unfold admitReplication at refused
  split at refused
  · cases refused
  · obtain ⟨_, checked, same⟩ := guard_eq_error refused
    cases same
    exact Trust.isOf_of_checkReplicate checked

/-- Whoever is forbidden to announce is named with the canonical address and the node. -/
theorem isOf_of_admitAnnounce {resolver : Resolver} {nodeId : String}
    {announcement : Announcement} {requester : Address}
    (refused :
      node.admitAnnounce resolver nodeId announcement requester = .error (.forbidden refusal)) :
    refusal.IsOf requester.canonical (some nodeId) := by
  unfold admitAnnounce at refused
  split at refused
  · -- What is found invalid is not forbidden.
    rename_i invalid
    cases refused
    unfold checkValid at invalid
    split at invalid <;> cases invalid
  · obtain ⟨_, checked, same⟩ := guard_eq_error refused
    cases same
    exact Trust.isOf_of_checkAnnounce checked

/-- Whoever is forbidden a request is named with the canonical address and the node, if any. -/
theorem isOf_of_ruling {action : Action} {requester : Address}
    (asks : action.requester? = some requester)
    (refused : node.ruling action = .error (.forbidden refusal)) :
    refusal.IsOf requester.canonical action.target? := by
  -- Each kind of request is checked on its own; what is no request has no requester.
  cases action with
  | write now write =>
    cases write with
    | announce resolver nodeId announcement client =>
      cases asks
      simp only [ruling, verdict] at refused
      split at refused
      · cases refused
      · exact isOf_of_admitAnnounce refused
    | delete resolver nodeId client =>
      cases asks
      simp only [ruling, verdict] at refused
      split at refused
      · cases refused
      · obtain ⟨_, checked, same⟩ := guard_eq_error refused
        cases same
        exact Trust.isOf_of_checkOwner checked
    | announceTrusted => cases asks
    | deleteTrusted => cases asks
  | accept entry client =>
    cases asks
    exact isOf_of_admitReplication refused
  | snapshot client =>
    cases asks
    exact isOf_of_admitReplication refused
  | _ => cases asks

/-- An action that is turned down changes nothing and leaves no more than its record. -/
theorem act_of_ruling_error {action : Action} (refused : node.ruling action = .error rejection) :
    (node.act action).answer.rejection? = some rejection ∧ (node.act action).node = node ∧
      (node.act action).reports = rejection.reports := by
  -- Only writes and replication can be turned down, and both by a rejection alone.
  cases action with
  | write now write =>
    have turnedDown : node.perform now write = node.reject rejection :=
      perform_of_verdict_error refused now
    rw [act, turnedDown]
    exact ⟨rfl, rfl, rfl⟩
  | accept entry requester =>
    have turnedDown : node.admitReplication requester = .error rejection := refused
    rw [act, acceptOffer_eq, turnedDown]
    exact ⟨rfl, rfl, rfl⟩
  | snapshot requester =>
    have turnedDown : node.admitReplication requester = .error rejection := refused
    rw [act, snapshot_eq, turnedDown]
    exact ⟨rfl, rfl, rfl⟩
  | _ => cases refused

/-- A write puts no refusal on record. -/
@[simp] theorem audits_write (node : Node) (now : Millis) (entry : Entry) :
    (node.write now entry).audits = [] := by
  refine List.filterMap_eq_nil_iff.2 fun report reported => ?_
  -- The entry was superseded, or it is offered to peers.
  rcases List.mem_append.1 reported with outdone | pushed
  · split at outdone
    · cases outdone
    · cases List.mem_singleton.1 outdone
      rfl
  · obtain ⟨peer, -, rfl⟩ := List.mem_map.1 pushed
    rfl

/-- A merge puts no refusal on record. -/
@[simp] theorem audits_merge (node : Node) (entry : Entry) : (node.merge entry).audits = [] := by
  -- What a merge reports is for the log.
  unfold Outcome.audits merge
  cases entry.isWellFormed <;> rfl

/-- An action that is not turned down puts no refusal on record. -/
theorem act_of_ruling_ok {action : Action} (passed : node.ruling action = .ok ()) :
    (node.act action).answer.rejection? = none ∧ (node.act action).audits = [] := by
  -- What is written or merged is at most reported as superseded, offered or malformed.
  cases action with
  | write now write =>
    have accepted : (node.perform now write).answer = .ok () := by
      rw [answer_perform]
      exact passed
    rw [act, perform_of_accepted accepted]
    exact ⟨rfl, audits_write node now _⟩
  | accept entry requester =>
    have admitted : node.admitReplication requester = .ok () := passed
    rw [act, acceptOffer_eq, admitted]
    exact ⟨rfl, audits_merge node entry⟩
  | snapshot requester =>
    have admitted : node.admitReplication requester = .ok () := passed
    rw [act, snapshot_eq, admitted]
    exact ⟨rfl, rfl⟩
  | merge entry => exact ⟨rfl, audits_merge node entry⟩
  | _ => exact ⟨rfl, rfl⟩

/-- Only what is forbidden goes to the audit record, and it goes there once. -/
theorem audits_act (node : Node) (action : Action) :
    (node.act action).audits =
      ((node.act action).answer.rejection?.bind Rejection.refusal?).toList := by
  -- A rejection is reported by its own audit, and what is carried out reports none.
  cases ruled : node.ruling action with
  | error rejection =>
    obtain ⟨answer, -, reports⟩ := act_of_ruling_error ruled
    rw [Outcome.audits, reports, answer]
    cases rejection <;> rfl
  | ok =>
    obtain ⟨answer, audits⟩ := act_of_ruling_ok ruled
    rw [audits, answer]
    rfl

/-- An action that is turned down changes nothing and offers nothing. -/
theorem act_of_rejection {action : Action}
    (turnedDown : (node.act action).answer.rejection? = some rejection) :
    node.ruling action = .error rejection ∧ (node.act action).node = node ∧
      (node.act action).offers = [] := by
  cases ruled : node.ruling action with
  | error other =>
    obtain ⟨answer, after, reports⟩ := act_of_ruling_error ruled
    rw [answer] at turnedDown
    cases turnedDown
    refine ⟨rfl, after, ?_⟩
    rw [Outcome.offers, reports]
    cases rejection <;> rfl
  | ok =>
    -- What passes is not turned down.
    rw [(act_of_ruling_ok ruled).1] at turnedDown
    cases turnedDown

/-- What each action of a run comes to. -/
def outcomes (node : Node) : List Action → List (Outcome Reply)
  | [] => []
  | action :: rest => node.act action :: (node.act action).node.outcomes rest

/-- Each action of a run comes to something. -/
@[simp] theorem length_outcomes (node : Node) (actions : List Action) :
    (node.outcomes actions).length = actions.length := by
  -- One outcome for each action.
  induction actions generalizing node with
  | nil => rfl
  | cons action rest ih => exact congrArg (· + 1) (ih _)

/-- What comes of a run of two parts, where the second starts with the node that the first left. -/
theorem outcomes_append (node : Node) (before after : List Action) :
    node.outcomes (before ++ after) = node.outcomes before ++ (node.run before).outcomes after := by
  -- The later actions start from the node the earlier ones leave.
  induction before generalizing node with
  | nil => rfl
  | cons action rest ih => exact congrArg (List.cons _) (ih _)

/-- Without an action that changes nothing, a run comes to what it otherwise comes to beside it. -/
theorem outcomes_without {before : List Action} {action : Action}
    (unchanged : ((node.run before).act action).node = node.run before) (after : List Action) :
    node.outcomes (before ++ after) =
      (node.outcomes (before ++ action :: after)).eraseIdx before.length := by
  have place : (node.outcomes before).length = before.length := length_outcomes node before
  -- What comes after starts with the same node, whether the action is there or not.
  rw [outcomes_append, outcomes_append, List.eraseIdx_append_of_length_le place.le, place,
    Nat.sub_self, outcomes, unchanged, List.eraseIdx_cons_zero]

/-- Over HTTP a refusal goes to the audit record exactly if the answer says forbidden. -/
theorem audits_respond_cases (node : Node) (resolver : Resolver) (now : Millis)
    (requester : Address) (request : Http.Request) :
    let answered := node.respond resolver now requester request
    (answered.answer.status = .forbidden ∧ ∃ refusal, answered.audits = [refusal]) ∨
      (answered.answer.status ≠ .forbidden ∧ answered.audits = []) := by
  intro answered
  rcases Api.asks_or_unreported node resolver now requester request with
    ⟨action, asks⟩ | ⟨reports, status⟩
  · obtain ⟨-, reports, status⟩ := Api.respond_of_asks asks node
    have audits : answered.audits = (node.act action).audits := congrArg (List.filterMap _) reports
    rw [ne_eq, audits, audits_act, status, Api.outcomeStatus_eq_forbidden_iff]
    -- What the answer says and what is on record depend on the rejection alone.
    cases (node.act action).answer.rejection? with
    | none => exact .inr ⟨by simp, rfl⟩
    | some rejection =>
      cases rejection with
      | forbidden refusal => exact .inl ⟨⟨refusal, rfl⟩, refusal, rfl⟩
      | invalid fault => exact .inr ⟨by simp, rfl⟩
      | disabled => exact .inr ⟨by simp, rfl⟩
  · have audits : answered.audits = [] := by rw [Outcome.audits, reports, List.filterMap_nil]
    exact .inr ⟨status, audits⟩

/--
A request that is turned down is inert, and a refusal of the requester is audited exactly once.

Whatever the node went through before, such a request leaves it as it was and offers nothing, and
the run goes on as without the request. The audit record gets a line exactly if the request is
forbidden, with the canonical address of the requester and the node it is about. Over HTTP the same
comes of a request that asks for an action, and nothing else is ever forbidden or audited.
-/
theorem turned_down_inert_and_audited_once (node : Node) (before : List Action) :
    let reached := node.run before
    (∀ action requester, action.requester? = some requester →
      let outcome := reached.act action
      (outcome.answer.rejection? ≠ none →
        outcome.node = reached ∧ outcome.offers = [] ∧
          ∀ after, node.outcomes (before ++ after) =
            (node.outcomes (before ++ action :: after)).eraseIdx before.length) ∧
      ((∃ refusal, outcome.answer.rejection? = some (.forbidden refusal)) ↔
        outcome.audits.length = 1) ∧
      (∀ refusal, outcome.answer.rejection? = some (.forbidden refusal) →
        outcome.audits = [refusal] ∧ refusal.IsOf requester.canonical action.target? ∧
          refusal.line =
            ⟨requester.canonical.text, action.target?.getD "-", refusal.reason⟩) ∧
      ((∀ refusal, outcome.answer.rejection? ≠ some (.forbidden refusal)) →
        outcome.audits = [])) ∧
    ∀ resolver now requester request,
      let answered := reached.respond resolver now requester request
      (answered.answer.status = .forbidden ↔ answered.audits.length = 1) ∧
      (answered.answer.status ≠ .forbidden → answered.audits = []) ∧
      ∀ action, Api.Asks resolver now requester request action →
        let outcome := reached.act action
        answered.node = outcome.node ∧ answered.reports = outcome.reports ∧
          answered.answer.status =
            Api.outcomeStatus request.method outcome.answer.rejection? := by
  intro reached
  refine ⟨fun action requester asks => ?_, fun resolver now requester request => ?_⟩
  · intro outcome
    have audits : outcome.audits = (outcome.answer.rejection?.bind Rejection.refusal?).toList :=
      audits_act reached action
    refine ⟨fun turnedDown => ?_, ?_, fun refusal forbidden => ?_, fun other => ?_⟩
    · obtain ⟨rejection, because⟩ := Option.ne_none_iff_exists'.1 turnedDown
      obtain ⟨-, unchanged, offers⟩ := act_of_rejection because
      exact ⟨unchanged, offers, outcomes_without unchanged⟩
    · rw [audits]
      cases outcome.answer.rejection? with
      | none => simp
      | some rejection => cases rejection <;> simp [Rejection.refusal?]
    · -- The checks name whom they refuse.
      have named := isOf_of_ruling asks (act_of_rejection forbidden).1
      refine ⟨by rw [audits, forbidden]; rfl, named, ?_⟩
      rw [Refusal.line, named.requester, named.nodeId]
    · rw [audits]
      cases because : outcome.answer.rejection? with
      | none => rfl
      | some rejection =>
        cases rejection with
        | forbidden refusal => exact absurd because (other refusal)
        | invalid fault => rfl
        | disabled => rfl
  · intro answered
    refine ⟨?_, ?_, fun action asks => Api.respond_of_asks asks reached⟩
    · rcases audits_respond_cases reached resolver now requester request with
        ⟨status, refusal, audits⟩ | ⟨status, audits⟩
      · exact iff_of_true status (congrArg List.length audits)
      · refine iff_of_false status ?_
        rw [audits]
        decide
    · intro status
      rcases audits_respond_cases reached resolver now requester request with
        ⟨forbidden, -⟩ | ⟨-, audits⟩
      · exact absurd forbidden status
      · exact audits

/-- A deletion by another address than the owner's is forbidden, audited and without effect. -/
theorem turned_down_inert_and_audited_once_other_owner :
    let owner : Address := .v4 #v[10, 0, 0, 1]
    let mapped : Address := .v6 #v[0, 0, 0, 0, 0, 0xffff, 0x0a00, 0x0002]
    let announcement : Announcement :=
      ⟨"test", "general", "here", [⟨some "s", some "web", some ∅⟩], none⟩
    let before : List Action := [.write 5 (.announce .literals "n" announcement owner)]
    let deletion : Action := .write 6 (.delete .literals "n" mapped)
    let request : Http.Request := ⟨"DELETE", "/v1/announcement/n", none, .empty⟩
    let reached := (start Profile.checking).run before
    let outcome := reached.act deletion
    (outcome.node = reached ∧ outcome.offers = [] ∧
      ∀ after, (start Profile.checking).outcomes (before ++ after) =
        ((start Profile.checking).outcomes (before ++ deletion :: after)).eraseIdx 1) ∧
    outcome.audits.map Refusal.line =
      [⟨"10.0.0.2", "n", "IP 10.0.0.2 tried to delete node n owned by IP 10.0.0.1"⟩] ∧
    (reached.respond .literals 6 mapped request).answer.status = .forbidden := by
  intro owner mapped announcement before deletion request reached outcome
  let refusal : Refusal := ⟨mapped.canonical, some "n", .otherOwner .delete "n" "10.0.0.1"⟩
  -- The mapped address is another than the owner's, once both are spelled alike.
  have forbidden : outcome.answer.rejection? = some (.forbidden refusal) := by decide +kernel
  have turnedDown : outcome.answer.rejection? ≠ none := by
    rw [forbidden]
    exact nofun
  obtain ⟨ofActions, ofRequests⟩ :=
    turned_down_inert_and_audited_once (start Profile.checking) before
  obtain ⟨inert, -, audited, -⟩ := ofActions deletion mapped rfl
  obtain ⟨-, -, answered⟩ := ofRequests .literals 6 mapped request
  refine ⟨inert turnedDown, ?_, ?_⟩
  · obtain ⟨audits, -, line⟩ := audited refusal forbidden
    rw [audits, List.map_singleton, line]
    decide +kernel
  · have leads : Api.routeOf? request = some (.announcement "n") := by decide +kernel
    rw [(answered deletion (.delete leads rfl)).2.2]
    exact Api.outcomeStatus_eq_forbidden_iff.2 ⟨refusal, forbidden⟩

end Node

end Roster
