import Mathlib.Data.List.Induction
import Roster.Proofs.Cluster
import Roster.Proofs.Round

/-!
Starts and stops of a background loop whose calls overlap. A start looks whether a loop is kept,
goes through its first round, and only then begins a loop; a stop gives the kept loop up at once and
waits for its end. So there is never more than one loop that goes on, but a stop reaches only the
loop that is kept when it is called: a start that is in its first round then begins a loop later.
-/

namespace Roster

namespace Slot

/-- What a slot can hold: its latest loop goes on if it is kept, and no other loop does. -/
inductive IsSound : Slot → Prop
  | vacant {loops : List Loop} (ended : ∀ loop ∈ loops, loop.cancelled = true) :
    IsSound ⟨loops, false⟩
  | taken {latest : Loop} {others : List Loop} (goesOn : latest.cancelled = false)
    (ended : ∀ loop ∈ others, loop.cancelled = true) : IsSound ⟨latest :: others, true⟩

/-- The slot of a component that has begun no loop is sound. -/
theorem isSound_empty : empty.IsSound := .vacant (by simp)

variable {slot : Slot}

/-- A start begins a loop only when all others are cancelled. -/
theorem IsSound.start (sound : slot.IsSound) : slot.start.IsSound := by
  -- A slot that keeps a loop is left alone.
  cases sound with
  | vacant ended => exact .taken rfl ended
  | taken goesOn ended => exact .taken goesOn ended

/-- A stop cancels the only loop that goes on. -/
theorem IsSound.stop (sound : slot.IsSound) : slot.stop.IsSound := by
  -- Only the kept loop had not been cancelled.
  cases sound with
  | vacant ended => exact .vacant ended
  | taken goesOn ended => exact .vacant (List.forall_mem_cons.2 ⟨rfl, ended⟩)

/-- Loops that are cancelled do not go on. -/
theorem filter_eq_nil_of_cancelled {loops : List Loop}
    (ended : ∀ loop ∈ loops, loop.cancelled = true) : loops.filter (!·.cancelled) = [] := by
  -- A loop passes the filter only if it is not cancelled.
  rw [List.filter_eq_nil_iff]
  intro loop listed
  simp [ended loop listed]

/-- The loop that is kept is the one that goes on. -/
theorem IsSound.length_alive (sound : slot.IsSound) :
    slot.alive.length = if slot.isRunning then 1 else 0 := by
  -- Of the loops in the slot only the kept one, if there is one, passes the filter.
  cases sound with
  | vacant ended => simp [alive, isRunning, filter_eq_nil_of_cancelled ended]
  | taken goesOn ended => simp [alive, isRunning, goesOn, filter_eq_nil_of_cancelled ended]

/-- Something goes on exactly while a loop is kept. -/
theorem IsSound.isRunning_iff (sound : slot.IsSound) : slot.isRunning = true ↔ slot.alive ≠ [] := by
  -- There are as many loops that go on as the slot keeps, which is one or none.
  rw [← List.length_pos_iff, sound.length_alive]
  cases slot.isRunning <;> simp

end Slot

/-- A call to start or to stop a loop, and how far it has come. -/
inductive Switch.Call
  -- A start that has found no loop and is in its first round.
  | starting
  -- A stop that has cancelled a loop and waits for its end.
  | stopping
  | returned
  deriving DecidableEq

/-- A slot and the calls that have been made to start and to stop its loop. -/
structure Switch where
  slot : Slot
  -- In the order in which they were made; one that has returned stays on the list.
  calls : List Switch.Call

namespace Switch

/-- The switch of a component that nobody has called yet. -/
def idle : Switch := ⟨.empty, []⟩

/-- Whether a call, by its number, is a start in its first round. -/
def Starts (switch : Switch) (number : Nat) : Prop := switch.calls[number]? = some .starting

instance (switch : Switch) (number : Nat) : Decidable (switch.Starts number) :=
  inferInstanceAs (Decidable (switch.calls[number]? = some .starting))

/-- What happens at a switch. -/
inductive Event
  -- A start is called: it returns if a loop is kept, and else goes into its first round.
  | start
  -- The first round of a start, by the number of the call, is over: a loop is begun unless one is
  -- kept by now, and the start returns.
  | enter (number : Nat)
  -- A stop is called: it cancels the loop that is kept and waits for its end, or returns.
  | stop
  -- The loop that a stop, by the number of the call, waits for has come to its end.
  | leave (number : Nat)
  deriving DecidableEq

/-- A switch after an event. -/
def step (switch : Switch) : Event → Switch
  | .start =>
    { switch with
      calls := switch.calls ++ [if switch.slot.isRunning then .returned else .starting] }
  | .enter number =>
    if switch.Starts number then ⟨switch.slot.start, switch.calls.set number .returned⟩
    -- No start is in its first round under that number.
    else switch
  | .stop =>
    ⟨switch.slot.stop,
      switch.calls ++ [if switch.slot.isRunning then .stopping else .returned]⟩
  | .leave number =>
    if switch.calls[number]? = some .stopping then
      { switch with calls := switch.calls.set number .returned }
    -- No stop waits under that number.
    else switch

/-- A switch after events. -/
def run (switch : Switch) (events : List Event) : Switch := events.foldl step switch

/-- The last event of a run comes upon what the events before it have led to. -/
theorem run_concat (switch : Switch) (events : List Event) (event : Event) :
    switch.run (events ++ [event]) = (switch.run events).step event :=
  List.foldl_concat step switch event events

/-- A run goes on where the run before it has ended. -/
theorem run_append (switch : Switch) (before after : List Event) :
    switch.run (before ++ after) = (switch.run before).run after :=
  List.foldl_append

variable {switch : Switch} {number : Nat}

/-- What an event makes of the slot: a start begins a loop, a stop gives it up, and nothing else
touches it. -/
theorem slot_step_cases (switch : Switch) (event : Event) :
    (∃ number, event = .enter number ∧ switch.Starts number ∧
        (switch.step event).slot = switch.slot.start) ∨
      (event = .stop ∧ (switch.step event).slot = switch.slot.stop) ∨
      (event ≠ .stop ∧ (∀ number, event = .enter number → ¬switch.Starts number) ∧
        (switch.step event).slot = switch.slot) := by
  -- The cases are those of the event; one that names no waiting call changes nothing.
  cases event with
  | start => exact .inr (.inr ⟨nofun, nofun, rfl⟩)
  | enter number =>
    by_cases starts : switch.Starts number
    · exact .inl ⟨number, rfl, starts, by rw [step, if_pos starts]⟩
    · refine .inr (.inr ⟨nofun, fun other same => ?_, by rw [step, if_neg starts]⟩)
      cases same
      exact starts
  | stop => exact .inr (.inl ⟨rfl, rfl⟩)
  | leave number =>
    refine .inr (.inr ⟨nofun, nofun, ?_⟩)
    rw [step]
    split <;> rfl

/-- An event leaves a sound slot sound. -/
theorem isSound_step (sound : switch.slot.IsSound) (event : Event) :
    (switch.step event).slot.IsSound := by
  -- What an event makes of the slot is all that counts.
  rcases switch.slot_step_cases event with ⟨_, -, -, same⟩ | ⟨-, same⟩ | ⟨-, -, same⟩
  · exact same ▸ sound.start
  · exact same ▸ sound.stop
  · exact same ▸ sound

/-- Through a run the slot stays sound. -/
theorem isSound_run (events : List Event) : (idle.run events).slot.IsSound := by
  -- The induction takes the events from the last one back.
  induction events using List.reverseRecOn with
  | nil => exact Slot.isSound_empty
  | append_singleton events event ih =>
    rw [run_concat]
    exact isSound_step ih event

/-- A further call that goes into no first round changes nothing about who is in one. -/
theorem getElem?_concat_eq_starting_iff {calls : List Call} {call : Call}
    (other : call ≠ .starting) :
    (calls ++ [call])[number]? = some .starting ↔ calls[number]? = some .starting := by
  -- A number is that of a call before, or else of the new one, which is in no first round.
  rw [List.getElem?_append]
  split
  · rfl
  · rename_i beyond
    rw [List.getElem?_eq_none (Nat.le_of_not_lt beyond), List.getElem?_singleton]
    split <;> simp [other]

/-- A start stays in its first round until that is over, and only a start goes into one. -/
theorem starts_step_iff {event : Event} (quiet : event ≠ .start) :
    (switch.step event).Starts number ↔ switch.Starts number ∧ event ≠ .enter number := by
  -- The cases are those of the event. A call that is set aside as returned starts no longer, and
  -- all others stay as they are.
  cases event with
  | start => exact absurd rfl quiet
  | enter other =>
    by_cases starts : switch.Starts other
    · rw [step, if_pos starts]
      show (switch.calls.set other .returned)[number]? = _ ↔ _
      by_cases same : other = number
      · subst same
        simp [List.getElem?_set]
      · rw [List.getElem?_set_ne same]
        simp [same, Starts]
    · rw [step, if_neg starts]
      refine ⟨fun waits => ⟨waits, ?_⟩, And.left⟩
      intro same
      cases same
      exact starts waits
  | stop =>
    refine (getElem?_concat_eq_starting_iff ?_).trans (by simp [Starts])
    split <;> decide
  | leave other =>
    rw [step]
    split
    · rename_i waits
      show (switch.calls.set other .returned)[number]? = _ ↔ _
      by_cases same : other = number
      · subst same
        simp [List.getElem?_set, Starts, waits]
      · rw [List.getElem?_set_ne same]
        simp [Starts]
    · simp

/-- A start is in its first round after a run without starts if it was so before and its first round
has not come to an end. -/
theorem starts_run_iff {events : List Event} (quiet : .start ∉ events) :
    (switch.run events).Starts number ↔ switch.Starts number ∧ .enter number ∉ events := by
  -- The induction takes the events from the last one back; none of them lets another start begin.
  induction events using List.reverseRecOn with
  | nil => simp [run]
  | append_singleton events event ih =>
    simp only [List.mem_append, List.mem_singleton, not_or] at quiet ⊢
    rw [run_concat, starts_step_iff (Ne.symm quiet.2), ih quiet.1, and_assoc]
    exact and_congr_right fun _ => and_congr_right fun _ => ne_comm

/--
Whether a start that is in its first round now comes to begin its loop in the course of events, and
no stop is called after that.
-/
def StartsLater (switch : Switch) (events : List Event) : Prop :=
  ∃ earlier number later, events = earlier ++ .enter number :: later ∧
    switch.Starts number ∧ .enter number ∉ earlier ∧ .stop ∉ later

/-- With one more event, a start comes to its loop at that event, or has come to it before and the
event is no stop. -/
theorem startsLater_concat (events : List Event) (event : Event) :
    switch.StartsLater (events ++ [event]) ↔
      (∃ number, event = .enter number ∧ switch.Starts number ∧ .enter number ∉ events) ∨
        (switch.StartsLater events ∧ event ≠ .stop) := by
  constructor
  · rintro ⟨earlier, number, later, split, starts, first, quiet⟩
    -- The event in question is the last one of all, or there is one behind it, which is then the
    -- new one.
    rcases List.eq_nil_or_concat later with rfl | ⟨front, last, rfl⟩
    · obtain ⟨rfl, same⟩ := List.append_inj' split rfl
      cases same
      exact .inl ⟨number, rfl, starts, first⟩
    · have around : events ++ [event] = (earlier ++ .enter number :: front) ++ [last] := by
        simpa using split
      obtain ⟨rfl, same⟩ := List.append_inj' around rfl
      cases same
      rw [List.concat_eq_append, List.mem_append, List.mem_singleton, not_or] at quiet
      exact .inr ⟨⟨earlier, number, front, rfl, starts, first, quiet.1⟩, Ne.symm quiet.2⟩
  -- A start that has come to its loop before has done so still if no stop is behind it.
  · rintro (⟨number, rfl, starts, first⟩ | ⟨come, other⟩)
    · exact ⟨events, number, [], rfl, starts, first, nofun⟩
    · obtain ⟨earlier, number, later, rfl, starts, first, quiet⟩ := come
      have further : .stop ∉ later ++ [event] := by simp [quiet, Ne.symm other]
      exact ⟨earlier, number, later ++ [event], by simp, starts, first, further⟩

/-- Once no loop is kept and no further start is called, a loop is kept exactly if a start that was
in its first round came to its loop, and no stop was called since. -/
theorem isRunning_run_iff {events : List Event} (vacant : switch.slot.isRunning = false)
    (quiet : .start ∉ events) :
    (switch.run events).slot.isRunning = true ↔ switch.StartsLater events := by
  induction events using List.reverseRecOn with
  -- The induction takes the events from the last one back. Without any, no start has come to its
  -- loop.
  | nil =>
    have none : ¬switch.StartsLater [] := by
      rintro ⟨earlier, number, later, split, -⟩
      simp at split
    simp [run, vacant, none]
  | append_singleton events event ih =>
    simp only [List.mem_append, List.mem_singleton, not_or] at quiet
    rw [run_concat, startsLater_concat, ← ih quiet.1]
    rcases (switch.run events).slot_step_cases event with
      ⟨number, rfl, starts, same⟩ | ⟨rfl, same⟩ | ⟨other, none, same⟩
    -- A start comes to its loop, so that one is kept from now on.
    · rw [starts_run_iff quiet.1] at starts
      simp [same, starts]
    · simp [same]
    · rw [same]
      -- Nothing happens to the slot, so the event is none that brings a start to its loop.
      constructor
      · exact fun running => .inr ⟨running, other⟩
      · rintro (⟨number, rfl, starts, first⟩ | ⟨running, -⟩)
        · exact absurd ((starts_run_iff quiet.1).2 ⟨starts, first⟩) (none number rfl)
        · exact running

/-- A start in its first round is not touched by a stop. -/
theorem startsLater_step_stop (events : List Event) :
    (switch.step .stop).StartsLater events ↔ switch.StartsLater events := by
  -- The calls that are in a first round are the same before and after the stop.
  simp only [StartsLater, starts_step_iff (show Event.stop ≠ .start by decide)]
  simp

/-- A start that nothing interrupts begins a loop unless one is kept. -/
theorem slot_run_start (switch : Switch) :
    (switch.run [.start, .enter switch.calls.length]).slot = switch.slot.start := by
  show ((switch.step .start).step (.enter switch.calls.length)).slot = _
  have own : (switch.step .start).calls[switch.calls.length]? =
      some (if switch.slot.isRunning then .returned else .starting) :=
    List.getElem?_concat_length
  cases running : switch.slot.isRunning with
  | true =>
    -- The call has returned already, and the loop is kept.
    have returned : ¬(switch.step .start).Starts switch.calls.length := by
      rw [Starts, own, running]
      decide
    exact (congrArg Switch.slot (if_neg returned)).trans (if_pos running).symm
  | false =>
    have starts : (switch.step .start).Starts switch.calls.length := by
      rw [Starts, own, running]
      rfl
    exact congrArg Switch.slot (if_pos starts)

/-- A stop that nothing interrupts gives up the loop that is kept. -/
theorem slot_run_stop (switch : Switch) :
    (switch.run [.stop, .leave switch.calls.length]).slot = switch.slot.stop := by
  -- Whether the loop has come to its end does not show in the slot.
  show ((switch.step .stop).step (.leave switch.calls.length)).slot = _
  rcases (switch.step .stop).slot_step_cases (.leave switch.calls.length) with
    ⟨_, same, -⟩ | ⟨same, -⟩ | ⟨-, -, same⟩
  · cases same
  · cases same
  · exact same

/--
Of all the loops that starts and stops of one component begin, however their calls overlap, one at
most goes on at a time, and that is the one that is kept.

Once a stop is called and no start after it, a loop goes on exactly if a start that was in its first
round when the stop was called has come to its loop since then, and no other stop was called after
that; this is so whether the stop has returned or not.
-/
theorem stop_holds_unless_start_was_under_way (events : List Event) :
    (idle.run events).slot.alive.length ≤ 1 ∧
      ((idle.run events).slot.isRunning = true ↔ (idle.run events).slot.alive ≠ []) ∧
      ∀ before after : List Event, events = before ++ .stop :: after → .start ∉ after →
        ((idle.run events).slot.alive ≠ [] ↔ (idle.run before).StartsLater after) := by
  have sound := isSound_run events
  refine ⟨?_, sound.isRunning_iff, fun before after split quiet => ?_⟩
  · rw [sound.length_alive]
    split <;> decide
  -- The stop itself leaves the slot empty, and what comes after it begins there.
  · have stopped : ((idle.run before).step .stop).slot.isRunning = false :=
      (idle.run before).slot.isRunning_stop
    have whole : idle.run events = ((idle.run before).step .stop).run after := by
      rw [split, run_append]
      rfl
    rw [← sound.isRunning_iff, whole, isRunning_run_iff stopped quiet, startsLater_step_stop]

/-- A start is called, a stop is called and returns, and then the first round of the start is over:
its loop goes on from then on. -/
theorem stop_holds_unless_start_was_under_way_overtaken :
    Event.start ∉ [Event.enter 0] ∧ (idle.run [.start, .stop]).calls[1]? = some .returned ∧
      (idle.run ([.start] ++ .stop :: [.enter 0])).slot.alive ≠ [] :=
  -- The start has the number zero, and its first round ends after the stop.
  ⟨by decide, by decide,
    ((stop_holds_unless_start_was_under_way ([.start] ++ .stop :: [.enter 0])).2.2 [.start]
      [.enter 0] rfl (by decide)).2 ⟨[], 0, [], rfl, rfl, by decide, by decide⟩⟩

end Switch

namespace Cluster

/-- The slots of all members' replication. -/
def slots (cluster : Cluster) : List Slot := cluster.members.map Member.replication

/-- A node that takes a member's place starts and stops nothing. -/
theorem slots_setNode (cluster : Cluster) (place : Nat) (node : Node) :
    (cluster.setNode place node).slots = cluster.slots := by
  -- A node is no part of the slots of its member.
  refine List.ext_getElem? fun other => ?_
  simp only [slots, setNode, List.getElem?_map, List.getElem?_modify]
  split
  · cases cluster.members[other]? <;> rfl
  · simp

/-- No call over the network starts or stops anything. -/
theorem overlooks_slots : Overlooks slots := by
  -- A member that answers a call replaces its node and nothing else.
  intro call _ cluster place caller
  unfold serve
  cases cluster.members[place]? with
  | none => rfl
  | some member => exact slots_setNode cluster place _

/-- An act of a member that offers nothing starts and stops nothing. -/
theorem slots_act {α : Type} {cluster after : Cluster} {place : Nat} {deed : Node → Outcome α}
    {answer : α} (silent : ∀ node, (deed node).offers = [])
    (done : cluster.act place deed = some (answer, after)) : after.slots = cluster.slots := by
  unfold act at done
  split at done
  · cases done
  · rename_i member _
    -- Without offers nothing is delivered.
    simp only [silent] at done
    cases done
    exact slots_setNode cluster place _

/-- A round of a member starts and stops nothing. -/
theorem slots_replicate {cluster after : Cluster} {place : Nat} {summary : Summary}
    (done : cluster.replicate place = some (summary, after)) : after.slots = cluster.slots := by
  -- The peers are read first, and then the node takes what they gave, without an offer.
  unfold replicate at done
  split at done
  · cases done
  · rename_i member _
    have kept := overlooks_slots.view_pull cluster member.address
      (member.node.profile.peers member.node.store cluster.clock)
    simp only at done
    split at done
    · cases done
    · rename_i pulls taken acted
      cases done
      have same : taken.slots = _ := slots_act (fun node => node.offers_takeAll _) acted
      exact same.trans kept

/-- A change to the slot of one member's replication. -/
theorem slots_setMember (cluster : Cluster) (place : Nat) (change : Slot → Slot) :
    (cluster.setMember place fun member =>
      { member with replication := change member.replication }).slots =
        cluster.slots.modify place change := by
  refine List.ext_getElem? fun other => ?_
  simp only [slots, setMember, List.getElem?_map, List.getElem?_modify]
  -- A change to one member shows at its own place, where there is one.
  cases cluster.members[other]? with
  | none => simp
  | some member =>
    by_cases here : place = other
    · simp [here]
    · simp [here]

/-- Replication of a member is started as by a call that nothing interrupts. -/
theorem slots_startReplication {cluster after : Cluster} {place : Nat}
    (done : cluster.startReplication place = some after) :
    after.slots = cluster.slots.modify place fun slot =>
      (Switch.run ⟨slot, []⟩ [.start, .enter 0]).slot := by
  have uninterrupted : (fun slot => (Switch.run ⟨slot, []⟩ [.start, .enter 0]).slot) =
      Slot.start := funext fun slot => Switch.slot_run_start ⟨slot, []⟩
  rw [uninterrupted]
  unfold startReplication at done
  cases found : cluster.members[place]? with
  | none => simp [found] at done
  | some member =>
    simp only [found, Option.bind_eq_bind, Option.bind_some] at done
    cases running : member.replication.isRunning with
    | true =>
      rw [if_pos running] at done
      cases done
      -- A start leaves the slot of a loop that is kept as it is.
      have same : member.replication.start = member.replication := if_pos running
      refine List.ext_getElem? fun other => ?_
      rw [List.getElem?_modify]
      split
      · rename_i here
        subst here
        simp [slots, found, same]
      · simp
    | false =>
      simp only [running, Bool.false_eq_true, if_false, Option.bind_eq_some_iff] at done
      obtain ⟨⟨summary, replicated⟩, round, started⟩ := done
      cases started
      rw [slots_setMember, slots_replicate round]

/-- Replication of a member is stopped as by a call that nothing interrupts. -/
theorem slots_stopReplication (cluster : Cluster) (place : Nat) :
    (cluster.stopReplication place).slots = cluster.slots.modify place fun slot =>
      (Switch.run ⟨slot, []⟩ [.stop, .leave 0]).slot := by
  -- Of a stop that nothing interrupts only the slot is left to look at.
  have uninterrupted : (fun slot => (Switch.run ⟨slot, []⟩ [.stop, .leave 0]).slot) =
      Slot.stop := funext fun slot => Switch.slot_run_stop ⟨slot, []⟩
  rw [uninterrupted]
  exact slots_setMember cluster place Slot.stop

end Cluster

end Roster
