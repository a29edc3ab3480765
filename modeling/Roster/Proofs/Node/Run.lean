import Roster.Proofs.Node

/-!
Runs of one node. What a node holds was brought by an action of its run, and it trusts whom the last
look-up found.
-/

namespace Roster

namespace Node

/-- What a node is asked to do or does by itself. -/
inductive Action
  -- A request to write, by a client or by the node itself.
  | write (now : Millis) (write : Write)
  -- An entry that was read from a peer is merged; a round of replication is many of these.
  | merge (entry : Entry)
  -- Someone offers an entry.
  | accept (entry : Entry) (requester : Address)
  -- Someone asks for all entries.
  | snapshot (requester : Address)
  | query (now : Millis) (kind pool : Option String)
  -- The node lists its peers for a round of replication.
  | peers (now : Millis)
  -- The node looks up whom it trusts.
  | refresh (resolver : Resolver) (now : Millis)
  | evict (now : Millis)
  | digest

/-- What an action comes to. -/
inductive Reply
  | written (answer : Except Rejection Unit)
  | merged (taken : Bool)
  | accepted (answer : Except Rejection Bool)
  | entries (answer : Except Rejection (List Entry))
  | services (found : List Service)
  | peers (found : List String)
  | trusted (addresses : List Address)
  | removed (count : Nat)
  | digest (text : String)

/-- Why an action was turned down, if it was. -/
def Reply.rejection? : Reply → Option Rejection
  | .written (.error rejection) => some rejection
  | .accepted (.error rejection) => some rejection
  | .entries (.error rejection) => some rejection
  | _ => none

/-- Lets a node act. -/
def act (node : Node) : Action → Outcome Reply
  | .write now write => (node.perform now write).map .written
  | .merge entry => (node.merge entry).map .merged
  | .accept entry requester => (node.acceptOffer entry requester).map .accepted
  | .snapshot requester => (node.snapshot requester).map .entries
  | .query now kind pool => node.unchanged (.services (node.query now kind pool))
  | .peers now => node.unchanged (.peers (node.profile.peers node.store now))
  | .refresh resolver now =>
    let after := node.refresh resolver now
    after.unchanged (.trusted after.trusted)
  | .evict now => (node.evict now).map .removed
  | .digest => node.digest.map .digest

/-- A node after actions. -/
def run (node : Node) (actions : List Action) : Node :=
  actions.foldl (fun node action => (node.act action).node) node

@[simp] theorem run_nil (node : Node) : node.run [] = node := rfl

@[simp] theorem run_cons (node : Node) (action : Action) (rest : List Action) :
    node.run (action :: rest) = (node.act action).node.run rest := rfl

/-- A run of two parts is a run of the second after one of the first. -/
theorem run_append (node : Node) (before after : List Action) :
    node.run (before ++ after) = (node.run before).run after := by
  simp only [run, List.foldl_append]

/-- The entries that an action brings to a node, which takes in only those later than its own. -/
inductive Brings (node : Node) : Action → Entry → Prop
  | write {now : Millis} {write : Write} (accepted : (node.perform now write).answer = .ok ()) :
    Brings node (.write now write) (node.entryOf now write)
  | merge {entry : Entry} (wellFormed : entry.isWellFormed = true) :
    Brings node (.merge entry) (node.profile.migration.translate entry)
  | accept {entry : Entry} {requester : Address} (wellFormed : entry.isWellFormed = true)
    (trusted : node.checkReplicate requester = .ok ()) :
    Brings node (.accept entry requester) (node.profile.migration.translate entry)

/-- What an action can do to a node. -/
inductive Effect (node : Node) : Action → Node → Prop
  | none (action : Action) : Effect node action node
  | put {action : Action} {entry : Entry} (brings : node.Brings action entry) :
    Effect node action (node.put entry).node
  | refresh (resolver : Resolver) (now : Millis) :
    Effect node (.refresh resolver now) (node.refresh resolver now)
  | evict (now : Millis) : Effect node (.evict now) (node.evict now).node
  | digest : Effect node .digest node.digest.node

/-- Merging puts the translated entry, or drops it when it is malformed. -/
theorem merge_cases (node : Node) (entry : Entry) :
    (entry.isWellFormed = true ∧
      (node.merge entry).node = (node.put (node.profile.migration.translate entry)).node) ∨
      (node.merge entry).node = node := by
  -- An ill-formed entry is turned away, and any other is put in the node's own spelling.
  cases wellFormed : entry.isWellFormed with
  | true => exact .inl ⟨rfl, by simp [merge, put, Ledger.merge, wellFormed]⟩
  | false => exact .inr (by simp [merge, Ledger.merge, wellFormed])

/-- An action has one of the effects. -/
theorem effect_act (node : Node) (action : Action) :
    node.Effect action (node.act action).node := by
  cases action with
  | write now write =>
    rw [act]
    -- A request that is turned down changes nothing, and any other puts its entry.
    rcases node.perform_cases now write with ⟨rejection, turnedDown⟩ | written
    · rw [turnedDown]
      exact .none _
    · have accepted : (node.perform now write).answer = .ok () := by rw [written]; rfl
      rw [written]
      exact .put (.write accepted)
  | merge entry =>
    rw [act, Outcome.map]
    rcases node.merge_cases entry with ⟨wellFormed, after⟩ | same
    · exact after ▸ .put (.merge wellFormed)
    · exact same.symm ▸ .none _
  | accept entry requester =>
    rw [act, acceptOffer_eq]
    cases admitted : node.admitReplication requester with
    | error rejection => exact .none _
    | ok =>
      have trusted := (admitReplication_eq_ok_iff.1 admitted).2
      rcases node.merge_cases entry with ⟨wellFormed, after⟩ | same
      · exact after ▸ .put (.accept wellFormed trusted)
      · exact same.symm ▸ .none _
  | snapshot requester =>
    -- Whether the entries are given or not, the node stays as it is.
    rw [act, snapshot_eq]
    cases node.admitReplication requester <;> exact .none _
  | query now kind pool => exact .none _
  | peers now => exact .none _
  | refresh resolver now => exact .refresh resolver now
  | evict now => exact .evict now
  | digest => exact .digest

/-- No action changes what a node is. -/
@[simp] theorem profile_act (node : Node) (action : Action) :
    (node.act action).node.profile = node.profile := by
  -- An effect is said in terms of the ledger and the trusted addresses.
  have effect := node.effect_act action
  generalize (node.act action).node = after at effect ⊢
  cases effect <;> rfl

/-- Whom a node trusts changes only when it looks that up. -/
theorem trusted_act (node : Node) {action : Action}
    (other : ∀ resolver now, action ≠ .refresh resolver now) :
    (node.act action).node.trusted = node.trusted := by
  -- Of all effects a refresh alone touches the trusted addresses.
  have effect := node.effect_act action
  generalize (node.act action).node = after at effect ⊢
  cases effect with
  | refresh resolver now => exact absurd rfl (other resolver now)
  | _ => rfl

/-- Whatever is held after an action was brought by it or held before. -/
theorem get?_act_cases {node : Node} {action : Action} {nodeId : String} {found : Entry}
    (held : (node.act action).node.store.get? nodeId = some found) :
    node.store.get? nodeId = some found ∨ node.Brings action found := by
  have effect := node.effect_act action
  generalize (node.act action).node = after at effect held
  cases effect with
  | none => exact .inl held
  | put brings =>
    -- Under the node id stands the entry that was put, or what stood there.
    rw [store, put, Ledger.store_put] at held
    rcases Store.get?_put_cases held with rfl | before
    · exact .inr brings
    · exact .inl before
  | refresh => exact .inl held
  | evict now => exact .inl (Store.get?_evict_eq_some.1 held).1
  | digest =>
    rw [store, digest, Ledger.store_digest] at held
    exact .inl held

/-- No run changes what a node is. -/
@[simp] theorem profile_run (node : Node) (actions : List Action) :
    (node.run actions).profile = node.profile := by
  -- Induction on the actions.
  induction actions generalizing node with
  | nil => rfl
  | cons action rest ih => rw [run_cons, ih, profile_act]

/-- Whether something holds of every action of a run and the node that it happens to. -/
def Along (holds : Node → Action → Prop) : Node → List Action → Prop
  | _, [] => True
  | node, action :: rest => holds node action ∧ Along holds (node.act action).node rest

/-- What every action of a run keeps is kept by the run. -/
theorem run_keeps {holds : Node → Action → Prop} {kept : Node → Prop}
    (step : ∀ node action, holds node action → kept node → kept (node.act action).node)
    {node : Node} (first : kept node) {actions : List Action} (along : Along holds node actions) :
    kept (node.run actions) := by
  -- Induction on the actions, each of which meets the condition at the node it finds.
  induction actions generalizing node with
  | nil => exact first
  | cons action rest ih => exact ih (step node action along.1 first) along.2

/-- What holds along a run holds of each of its actions. -/
theorem Along.at {holds : Node → Action → Prop} {node : Node} {before : List Action}
    {action : Action} {after : List Action}
    (along : Along holds node (before ++ action :: after)) : holds (node.run before) action := by
  -- Induction on the actions before, which move the condition on to the node they lead to.
  induction before generalizing node with
  | nil => exact along.1
  | cons first rest ih => exact ih along.2

/-- Whatever is held after a run was brought by one of its actions or held before. -/
theorem get?_run_cases {node : Node} {actions : List Action} {nodeId : String} {found : Entry}
    (held : (node.run actions).store.get? nodeId = some found) :
    node.store.get? nodeId = some found ∨
      ∃ before action after, actions = before ++ action :: after ∧
        (node.run before).Brings action found := by
  -- The induction peels off the first action, so the node before the rest changes.
  induction actions generalizing node with
  | nil => exact .inl held
  | cons action rest ih =>
    rcases ih held with early | ⟨before, later, after, rfl, brings⟩
    · -- What the first action leaves was brought by it or was there.
      refine (get?_act_cases early).imp_right fun brings => ?_
      exact ⟨[], action, rest, rfl, brings⟩
    · exact .inr ⟨action :: before, later, after, rfl, brings⟩

/-- Without a look-up in a run a node trusts whom it did, and otherwise whom the last one found. -/
theorem trusted_run_cases (node : Node) (actions : List Action) :
    ((∀ resolver now, .refresh resolver now ∉ actions) ∧
      (node.run actions).trusted = node.trusted) ∨
      ∃ before resolver now after, actions = before ++ .refresh resolver now :: after ∧
        (∀ resolver now, .refresh resolver now ∉ after) ∧
        (node.run actions).trusted = ((node.run before).refresh resolver now).trusted := by
  induction actions generalizing node with
  | nil => exact .inl ⟨by simp, rfl⟩
  | cons action rest ih =>
    rcases ih (node.act action).node with ⟨none, kept⟩ | ⟨before, resolver, now, after, rfl, found⟩
    · -- No look-up follows, so the last one is the first action or there is none.
      by_cases first : ∃ resolver now, action = .refresh resolver now
      · obtain ⟨resolver, now, rfl⟩ := first
        exact .inr ⟨[], resolver, now, rest, rfl, none, kept⟩
      · have other : ∀ resolver now, action ≠ .refresh resolver now :=
          fun resolver now same => first ⟨resolver, now, same⟩
        refine .inl ⟨fun resolver now member => ?_, kept.trans (node.trusted_act other)⟩
        rcases List.mem_cons.1 member with same | later
        · exact other resolver now same.symm
        · exact none resolver now later
    · exact .inr ⟨action :: before, resolver, now, after, rfl, found⟩

/-- A run without a look-up leaves whom the node trusts. -/
theorem trusted_run {node : Node} {actions : List Action}
    (none : ∀ resolver now, .refresh resolver now ∉ actions) :
    (node.run actions).trusted = node.trusted := by
  rcases node.trusted_run_cases actions with ⟨-, kept⟩ | ⟨before, resolver, now, after, rfl, -, -⟩
  · exact kept
  · -- There would be a last look-up.
    exact absurd (by simp) (none resolver now)

end Node

end Roster
