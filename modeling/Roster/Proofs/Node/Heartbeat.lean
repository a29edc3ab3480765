import Roster.Proofs.Node.Announcing
import Roster.Proofs.Node.Configured

/-!
A node that keeps itself announced: it announces itself at a steady pace until it is stopped, and
then deletes its entry. The entry lasts until the next announcement, so that no eviction takes it in
between, and once it is deleted only copies of its service in entries of other nodes are left.
-/

namespace Roster

namespace Millis

/-- The clock reading at an instant, which is counted in nanoseconds since the epoch: the whole
milliseconds, held at the end of the range. -/
def reading (instant : Nat) : Millis := clamp (instant / 1000000 : Nat)

/-- Short of the end of the range, a millisecond or more makes a difference in the reading. -/
theorem reading_lt_reading {instant later : Nat} (apart : instant + 1000000 ≤ later)
    (early : reading instant < latest) : reading instant < reading later := by
  -- A millisecond apart, the two instants read differently, unless the clock has come to its end.
  simp only [lt_def, latest, reading, val_clamp] at early ⊢
  omega

/-- A span that begins at a reading does not end within the span itself. -/
theorem reading_le_later {instant later : Nat} {span : Millis}
    (within : (later : Int) ≤ instant + span.val * 1000000) (forward : zero ≤ span) :
    ¬(reading instant).later span < reading later := by
  -- Rounding down to milliseconds only helps: the earlier reading loses less than a millisecond.
  simp only [le_def, zero] at forward
  simp only [lt_def, Millis.later, reading, val_clamp]
  omega

end Millis

namespace Profile

/-- The discovery service that a node announces of itself, reached under some address. -/
def selfService (profile : Profile) (uri : String) : Service where
  id := profile.nodeId ++ "-discovery"
  nodeId := profile.nodeId
  kind := discoveryKind
  pool := profile.pool
  location := profile.location
  properties := Index.ofList [(contactKey, uri)]

/-- The entry that a node makes of itself in a version. -/
def selfEntry (profile : Profile) (uri : String) (version : Millis) : Entry :=
  .live profile.nodeId [profile.selfService uri] version profile.maxAge none

end Profile

namespace Node

variable {node : Node} {now : Millis} {nodeId uri : String}

/-- Whether an action brings nothing for a node id that would be taken in. -/
def LeavesAlone (nodeId : String) (node : Node) (action : Action) : Prop :=
  ∀ entry, node.Brings action entry → entry.nodeId = nodeId → node.store.admits entry = false

/-- An action that leaves a node id alone changes what is held for it only by evicting it. -/
theorem get?_act_of_leavesAlone {action : Action} (alone : node.LeavesAlone nodeId action) :
    (node.act action).node.store.get? nodeId = node.store.get? nodeId ∨
      ∃ now, action = .evict now ∧ (node.act action).node.store.get? nodeId =
        (node.store.get? nodeId).filter (!·.isExpired now) := by
  have effect := node.effect_act action
  generalize (node.act action).node = after at effect ⊢
  cases effect with
  | none => exact .inl rfl
  | @put _ entry brings =>
    -- The entry is for another node id, or it is outdated.
    have other : ¬(node.store.admits entry = true ∧ entry.nodeId = nodeId) := by
      rintro ⟨admitted, same⟩
      rw [alone entry brings same] at admitted
      cases admitted
    refine .inl ?_
    rw [store, put, Ledger.store_put, Store.get?_put]
    exact if_neg other
  | refresh => exact .inl rfl
  | evict now => exact .inr ⟨now, rfl, Store.get?_evict node.store now nodeId⟩
  | digest =>
    refine .inl ?_
    rw [store, digest, Ledger.store_digest]
    rfl

/-- A node announces itself as it announces anything else of its own. -/
theorem node_announceSelf (node : Node) (now : Millis) (uri : String) :
    (node.announceSelf now uri).node =
      (node.perform now
        (.announceTrusted node.profile.nodeId (node.profile.selfAnnouncement uri))).node := by
  -- Announcing itself is a trusted announcement whose failure is reported instead of answered.
  unfold announceSelf
  simp only [perform]
  split <;> rfl

/-- Announcing itself does not change what a node is. -/
@[simp] theorem profile_announceSelf (node : Node) (now : Millis) (uri : String) :
    (node.announceSelf now uri).node.profile = node.profile := by
  -- A write changes no profile.
  rw [node_announceSelf]
  exact profile_act node (.write now _)

/-- A node whose announcement of itself is sound holds its own entry afterwards, in the version of
the time if what it held before is older. -/
theorem get?_announceSelf (sound : (node.profile.selfAnnouncement uri).IsSound)
    (old : ∀ resident ∈ node.store.get? node.profile.nodeId, resident.timestamp < now) :
    (node.announceSelf now uri).node.store.get? node.profile.nodeId =
      some (node.profile.selfEntry uri now) := by
  let write := Write.announceTrusted node.profile.nodeId (node.profile.selfAnnouncement uri)
  have accepted : (node.perform now write).answer = .ok () :=
    (node.answer_perform now write).trans (checkValid_eq_ok_iff_sound.2 ⟨sound, rfl⟩)
  -- Whatever is older than some time has not come to the last version.
  have stored := get?_perform accepted fun resident found =>
    lt_of_lt_of_le (old resident found) (Millis.le_latest now)
  have made : node.entryOf now write = node.profile.selfEntry uri now := by
    simp only [write, entryOf, entryFor, nextTimestamp_of_old old]
    rfl
  rw [node_announceSelf]
  rw [made] at stored
  exact stored

/-- A node that deletes an entry holds a tombstone afterwards, short of the last version. -/
theorem get?_deleteTrusted
    (early : ∀ resident ∈ node.store.get? nodeId, resident.timestamp < .latest) :
    (node.deleteTrusted now nodeId).node.store.get? nodeId =
      some (node.tombstoneFor now nodeId) := by
  -- A deletion by the node itself is never refused.
  have accepted : (node.perform now (.deleteTrusted nodeId)).answer = .ok () := rfl
  exact get?_perform accepted early

end Node

/-- When a node announces itself: at a first instant and then again and again after some period. -/
structure Pace where
  first : Nat
  period : Nat

/-- The instant of an announcement, by the number of those before it. -/
def Pace.instant (pace : Pace) (beat : Nat) : Nat := pace.first + beat * pace.period

/-- One period lies between an announcement and the next. -/
theorem Pace.instant_succ (pace : Pace) (beat : Nat) :
    pace.instant (beat + 1) = pace.instant beat + pace.period := by
  simp only [instant, Nat.succ_mul, Nat.add_assoc]

/-- A node that announces itself under an address: how often it has, and whether it has stopped. -/
structure Herald where
  node : Node
  uri : String
  beats : Nat
  stopped : Bool

namespace Herald

/-- What happens at a node that announces itself. -/
inductive Event
  -- The node announces itself.
  | beat
  -- The node is stopped and deletes its entry.
  | stop
  -- Anything else.
  | act (action : Node.Action)

/-- A node that has just started and not announced itself yet. -/
def start (profile : Profile) (uri : String) : Herald := ⟨.start profile, uri, 0, false⟩

/-- Lets something happen at an instant. -/
def step (herald : Herald) (instant : Nat) : Event → Herald
  | .beat =>
    { herald with
      node := (herald.node.announceSelf (.reading instant) herald.uri).node
      beats := herald.beats + 1 }
  | .stop =>
    { herald with
      node := (herald.node.deleteTrusted (.reading instant) herald.node.profile.nodeId).node
      stopped := true }
  | .act action => { herald with node := (herald.node.act action).node }

/-- A node that announces itself after events, each at its instant. -/
def run (herald : Herald) (events : List (Nat × Event)) : Herald :=
  events.foldl (fun herald event => herald.step event.1 event.2) herald

/-- Whether an event can happen at an instant where the pace is kept: announcements come when they
are due, nothing else comes later than one that is due, and nobody else writes for the node. -/
def Admits (herald : Herald) (pace : Pace) (instant : Nat) : Event → Prop
  | .beat => herald.stopped = false ∧ instant = pace.instant herald.beats ∧
    Millis.reading instant < .latest
  | .stop => herald.stopped = false
  | .act action => (herald.stopped = false → instant ≤ pace.instant herald.beats) ∧
    (∀ time ∈ action.time?, time = .reading instant) ∧
    herald.node.LeavesAlone herald.node.profile.nodeId action

/-- Whether events can happen one after the other where the pace is kept. -/
def Timely (pace : Pace) : Herald → List (Nat × Event) → Prop
  | _, [] => True
  | herald, (instant, event) :: rest =>
    herald.Admits pace instant event ∧ Timely pace (herald.step instant event) rest

/-- Whether a node is able to announce itself, often enough for an entry to last until the next, and
not twice in a millisecond. -/
structure Steady (herald : Herald) (pace : Pace) : Prop where
  sound : (herald.node.profile.selfAnnouncement herald.uri).IsSound
  apart : 1000000 ≤ pace.period
  lasts : (pace.period : Int) ≤ herald.node.profile.maxAge.val * 1000000

/-- What a node holds for its own node id. -/
def held (herald : Herald) : Option Entry := herald.node.store.get? herald.node.profile.nodeId

/-- What a node holds of itself at its stages: nothing before it announces itself, then its entry in
the version of the last announcement, and a tombstone once it has stopped. -/
inductive Stage (herald : Herald) (pace : Pace) : Prop
  | silent (going : herald.stopped = false) (unannounced : herald.beats = 0)
    (nothing : herald.held = none)
  | announced (going : herald.stopped = false) (beat : Nat) (last : herald.beats = beat + 1)
    (early : Millis.reading (pace.instant beat) < .latest)
    (itself : herald.held =
      some (herald.node.profile.selfEntry herald.uri (.reading (pace.instant beat))))
  | removed (stopped : herald.stopped = true) (version : Millis)
    (nobody : herald.held = some (.tombstone herald.node.profile.nodeId version none))

variable {herald : Herald} {pace : Pace} {instant : Nat} {event : Event}
  {events : List (Nat × Event)}

/-- Nothing that happens changes what the node is. -/
@[simp] theorem profile_step (herald : Herald) (instant : Nat) (event : Event) :
    (herald.step instant event).node.profile = herald.node.profile := by
  -- Every event is one of the node's own actions.
  cases event with
  | beat => exact Node.profile_announceSelf _ _ _
  | stop => exact Node.profile_act _ (.write _ (.deleteTrusted _))
  | act action => exact Node.profile_act _ action

/-- Nothing that happens changes the address. -/
@[simp] theorem uri_step (herald : Herald) (instant : Nat) (event : Event) :
    (herald.step instant event).uri = herald.uri := by
  cases event <;> rfl

/-- A node stays able to announce itself whatever happens. -/
theorem Steady.step (steady : herald.Steady pace) (instant : Nat) (event : Event) :
    (herald.step instant event).Steady pace := by
  -- What is steady is said of the profile and the address alone, and no event changes them.
  refine ⟨?_, steady.apart, ?_⟩
  · rw [profile_step, uri_step]
    exact steady.sound
  · rw [profile_step]
    exact steady.lasts

/-- The entry of an announcement is current until the next one is due, and at its very instant. -/
theorem Steady.isExpired_selfEntry (steady : herald.Steady pace) {beat : Nat}
    (due : instant ≤ pace.instant (beat + 1)) :
    (herald.node.profile.selfEntry herald.uri (.reading (pace.instant beat))).isExpired
      (.reading instant) = false := by
  have positive : Millis.zero ≤ herald.node.profile.maxAge := by
    have apart := steady.apart
    have lasts := steady.lasts
    simp only [Millis.le_def, Millis.zero]
    omega
  -- The next beat comes before the announced age has passed, so at any instant up to it the entry
  -- stands.
  have within : (instant : Int) ≤ pace.instant beat + herald.node.profile.maxAge.val * 1000000 := by
    have lasts := steady.lasts
    rw [pace.instant_succ] at due
    omega
  exact decide_eq_false (Millis.reading_le_later within positive)

/-- What is held before the node is stopped is older than the next announcement, which does not come
to the last version. -/
theorem Stage.old (stage : herald.Stage pace) (steady : herald.Steady pace)
    (going : herald.stopped = false) :
    ∀ resident ∈ herald.held, resident.timestamp < .latest ∧
      resident.timestamp < .reading (pace.instant herald.beats) := by
  intro resident found
  cases stage with
  | silent _ _ nothing => rw [nothing] at found; cases found
  | announced _ beat last early itself =>
    rw [itself] at found
    cases found
    -- A period ago was another millisecond.
    have apart : pace.instant beat + 1000000 ≤ pace.instant herald.beats := by
      rw [last, pace.instant_succ]
      exact Nat.add_le_add_left steady.apart _
    exact ⟨early, Millis.reading_lt_reading apart early⟩
  | removed stopped => rw [stopped] at going; cases going

/-- Whatever is held of the node itself is current until the next announcement is due. -/
theorem Stage.current (stage : herald.Stage pace) (steady : herald.Steady pace)
    (due : herald.stopped = false → instant ≤ pace.instant herald.beats) :
    ∀ resident ∈ herald.held, resident.isExpired (.reading instant) = false := by
  intro resident found
  cases stage with
  | silent _ _ nothing => rw [nothing] at found; cases found
  | announced going beat last _ itself =>
    rw [itself] at found
    cases found
    exact steady.isExpired_selfEntry (last ▸ due going)
  | removed _ version nobody =>
    -- A tombstone never expires.
    rw [nobody] at found
    cases found
    rfl

/-- What is held of the node itself is kept where nobody else writes for it, as long as it is
current. -/
theorem held_step_act {action : Node.Action}
    (alone : herald.node.LeavesAlone herald.node.profile.nodeId action)
    (timed : ∀ time ∈ action.time?, time = .reading instant)
    (current : ∀ resident ∈ herald.held, resident.isExpired (.reading instant) = false) :
    (herald.step instant (.act action)).held = herald.held := by
  rw [held, profile_step]
  rcases Node.get?_act_of_leavesAlone alone with same | ⟨now, rfl, left⟩
  · exact same
  · -- Only what has expired is evicted.
    obtain rfl := timed now rfl
    refine left.trans ?_
    change herald.held.filter _ = herald.held
    cases found : herald.held with
    | none => rfl
    | some resident => simp [current resident found]

/-- What happens where the pace is kept leaves the node at one of the stages. -/
theorem Stage.step (stage : herald.Stage pace) (steady : herald.Steady pace)
    (admits : herald.Admits pace instant event) : (herald.step instant event).Stage pace := by
  cases event with
  | beat =>
    -- What is held is older, so the announcement takes its place in the version of the time.
    obtain ⟨going, rfl, early⟩ := admits
    refine .announced going herald.beats rfl early ?_
    rw [held, profile_step, uri_step]
    exact Node.get?_announceSelf steady.sound
      fun resident found => (stage.old steady going resident found).2
  | stop =>
    -- The version of the tombstone comes after that of the entry.
    let version := herald.node.nextTimestamp (.reading instant) herald.node.profile.nodeId
    refine .removed rfl version ?_
    rw [held, profile_step]
    exact Node.get?_deleteTrusted
      fun resident found => (stage.old steady admits resident found).1
  | act action =>
    -- What is held of the node itself stays, and so does the stage.
    obtain ⟨due, timed, alone⟩ := admits
    have kept := held_step_act alone timed (stage.current steady due)
    cases stage with
    | silent going unannounced nothing =>
      exact .silent going unannounced (kept.trans nothing)
    | announced going beat last early itself =>
      refine .announced going beat last early ?_
      rw [profile_step, uri_step]
      exact kept.trans itself
    | removed stopped version nobody =>
      refine .removed stopped version ?_
      rw [profile_step]
      exact kept.trans nobody

/-- A node is at one of the stages after any events where the pace is kept, and able to announce
itself as it was. -/
theorem Stage.run (stage : herald.Stage pace) (steady : herald.Steady pace)
    (timely : Timely pace herald events) :
    (herald.run events).Stage pace ∧ (herald.run events).Steady pace := by
  -- Induction on the events: each keeps the stage, and nothing shakes what is steady.
  induction events generalizing herald with
  | nil => exact ⟨stage, steady⟩
  | cons event rest ih =>
    obtain ⟨admits, later⟩ := timely
    exact ih (stage.step steady admits) (steady.step _ _) later

/-- No run changes what the node is, nor the address. -/
theorem profile_run (herald : Herald) (events : List (Nat × Event)) :
    (herald.run events).node.profile = herald.node.profile ∧
      (herald.run events).uri = herald.uri := by
  -- Induction on the events.
  induction events generalizing herald with
  | nil => exact ⟨rfl, rfl⟩
  | cons event rest ih =>
    obtain ⟨profile, uri⟩ := ih (herald.step event.1 event.2)
    exact ⟨profile.trans (profile_step herald _ _), uri.trans (uri_step herald _ _)⟩

end Herald

/-- The age of announcements that state none, where it fits into 64 bits. -/
theorem Config.val_maxAge {config : Config} (fits : config.maxAgeMillis < 9223372036854775808)
    (own : String) : (Profile.ofConfig config own).maxAge.val = config.maxAgeMillis := by
  -- An age that fits is its own representative, so wrapping leaves it as it is.
  simp only [Profile.ofConfig, Millis.wrap]
  exact Int.bmod_eq_of_le (by omega) (by omega)

/-- A node of settings that pass their check announces itself often enough for its entry to last, if
its announcement of itself is sound and its age fits into 64 bits. -/
theorem Herald.steady_start {config : Config} (passed : config.IsSound) {own uri : String}
    (sound : (config.node.selfAnnouncement own uri).IsSound)
    (fits : config.maxAgeMillis < 9223372036854775808) (first : Nat) :
    (start (Profile.ofConfig config own) uri).Steady ⟨first, config.announcePeriodNanos⟩ where
  sound := sound
  apart := by
    -- The period is a second at least.
    have floor := Nat.le_max_right (config.discovery.maxAgeSeconds * 1000000000 / 3) 1000000000
    exact le_trans (by decide) floor
  lasts := by
    have age := Config.val_maxAge fits own
    have positive := passed.maxAge
    change ((max (config.discovery.maxAgeSeconds * 1000000000 / 3) 1000000000 : Nat) : Int) ≤
      (Profile.ofConfig config own).maxAge.val * 1000000
    -- Neither a third of the age nor a second is longer than an age of some seconds.
    rw [age, Config.maxAgeMillis]
    omega

namespace Node

/--
A node that keeps to its pace never drops out of its own registry until it is stopped, and comes
back afterwards only as a copy.

Let a node be made from settings that pass their check, with announcements enabled, an announcement
of itself that is sound and an age that fits into 64 bits. It announces itself at a first instant
and then after each period of the settings, where no time read comes to the last version. Meanwhile
it acts in any way and merges anything, but nothing for its own node id that would be taken in. From
the first announcement until it is stopped, also at the instant at which the next one is due, its
service is in the answer to every query that asks for it, be it by its kind and either name of its
pool. Once it has stopped, queries answer only what entries of other node ids list.
-/
theorem shows_itself_until_stopped_then_copies {text : String} {config : Config}
    (parsed : Config.parse text = .ok config) (active : config.discovery.dynamicEnabled = true)
    {own uri : String} (sound : (config.node.selfAnnouncement own uri).IsSound)
    (fits : config.maxAgeMillis < 9223372036854775808) {first : Nat}
    {events : List (Nat × Herald.Event)}
    (timely : Herald.Timely ⟨first, config.announcePeriodNanos⟩
      (.start (Profile.ofConfig config own) uri) events) :
    let profile := Profile.ofConfig config own
    let pace : Pace := ⟨first, config.announcePeriodNanos⟩
    let herald := (Herald.start profile uri).run events
    (herald.beats ≠ 0 → herald.stopped = false →
      ∀ instant ≤ pace.instant herald.beats, ∀ kind pool,
        (profile.selfService uri).Answers profile.migration.mapTarget kind pool →
        profile.selfService uri ∈ herald.node.query (.reading instant) kind pool) ∧
    (herald.stopped = true → ∀ now kind pool service,
      service ∈ herald.node.query now kind pool ↔
        service.Answers profile.migration.mapTarget kind pool ∧
          ∃ entry, herald.node.store.get? entry.nodeId = some entry ∧ entry.nodeId ≠ own ∧
            entry.isExpired now = false ∧ service ∈ entry.allServices) := by
  intro profile pace herald
  have passed := (Config.parse_eq_ok_iff.1 parsed).2
  have silent : (Herald.start profile uri).Stage pace := .silent rfl rfl rfl
  obtain ⟨stage, steady⟩ := silent.run (Herald.steady_start passed sound fits first) timely
  obtain ⟨same, address⟩ := (Herald.start profile uri).profile_run events
  have dynamic : herald.node.profile.dynamic = true := (congrArg Profile.dynamic same).trans active
  refine ⟨fun announced going instant due kind pool answers => ?_,
    fun stopped now kind pool service => ?_⟩
  · -- It has announced itself and is not stopped, so it holds its entry of the last time.
    cases stage with
    | silent _ unannounced => exact absurd unannounced announced
    | removed stopped => rw [stopped] at going; cases going
    | announced _ beat last _ itself =>
      have current := steady.isExpired_selfEntry (last ▸ due)
      rw [Herald.held] at itself
      rw [same, address] at itself current
      rw [Node.mem_query_iff dynamic, same]
      exact ⟨answers, _, itself, current, List.mem_singleton_self _⟩
  · -- It is stopped, so what it holds of itself is a tombstone.
    cases stage with
    | silent going | announced going => rw [stopped] at going; cases going
    | removed _ version nobody =>
      rw [Herald.held, same] at nobody
      rw [Node.mem_query_iff dynamic, same]
      refine and_congr_right fun _ => exists_congr fun entry => and_congr_right fun found => ?_
      constructor
      · rintro ⟨current, listed⟩
        refine ⟨fun mine => ?_, current, listed⟩
        -- A tombstone lists nothing.
        have stone : herald.node.store.get? own = some (.tombstone own version none) := nobody
        rw [mine, stone] at found
        cases found
        cases listed
      · rintro ⟨-, current, listed⟩
        exact ⟨current, listed⟩

/-- Settings under which an entry lasts for just as long as it takes to the next announcement. -/
def brief : Config :=
  { Config.bare with discovery := { Config.bare.discovery with maxAgeSeconds := 1 } }

/-- A text spells these settings, and they pass their check. -/
theorem parse_brief :
    Config.parse "[node]\nenvironment = \"t\"\n[discovery]\nmax_age_secs = 1" = .ok brief :=
  -- The text is read field by field, and every field passes its check.
  Config.parse_eq_ok_iff.2
    ⟨by decide +kernel, Config.fault?_eq_none_iff.1 (by decide +kernel)⟩

/-- An eviction at the instant of the next announcement leaves the entry of the one before, and a
node that is stopped in the same millisecond is gone. -/
theorem shows_itself_until_stopped_then_copies_at_the_boundary :
    let profile := Profile.ofConfig brief "own"
    let uri := "http://own:4111"
    let start := Herald.start profile uri
    let due := 2000700000
    let going : List (Nat × Herald.Event) :=
      [(1000700000, .beat), (due, .act (.evict (.reading due)))]
    let stopped := going ++ [(due, .beat), (due, .stop)]
    profile.selfService uri ∈
        (start.run going).node.query (.reading due) (some discoveryKind) (some generalPool) ∧
      profile.selfService uri ∉ (start.run stopped).node.query (.reading due) none none := by
  intro profile uri start due going stopped
  have sound : (brief.node.selfAnnouncement "own" uri).IsSound := by decide
  let pace : Pace := ⟨1000700000, brief.announcePeriodNanos⟩
  have first : start.Admits pace 1000700000 .beat := ⟨rfl, by decide, by decide⟩
  have eviction : (start.run [(1000700000, .beat)]).Admits pace due
      (.act (.evict (.reading due))) := by
    refine ⟨fun _ => by decide, fun time timed => (Option.some.inj timed).symm, ?_⟩
    intro entry brings
    cases brings
  constructor
  · have timely : Herald.Timely pace start going := ⟨first, eviction, trivial⟩
    obtain ⟨shown, -⟩ :=
      shows_itself_until_stopped_then_copies parse_brief rfl sound (by decide) timely
    exact shown (by decide) rfl due (by decide) _ _ (by decide)
  · have timely : Herald.Timely pace start stopped :=
      ⟨first, eviction, ⟨rfl, by decide, by decide⟩, rfl, trivial⟩
    obtain ⟨-, gone⟩ :=
      shows_itself_until_stopped_then_copies parse_brief rfl sound (by decide) timely
    intro shown
    obtain ⟨-, entry, found, other, -, -⟩ := (gone rfl _ _ _ _).1 shown
    -- There is no other node id.
    have alone : ∀ entry ∈ (start.run stopped).node.store.items, entry.nodeId = "own" := by
      decide +kernel
    exact other (alone entry (Store.mem_items_iff_get?.2 found))

/-- A node that has stopped shows its service again once an entry of another node id brings a copy
of it, which is no entry for its own node id. -/
theorem shows_itself_until_stopped_then_copies_again :
    let profile := Profile.ofConfig brief "own"
    let uri := "http://own:4111"
    let start := Herald.start profile uri
    let now := 1000700000
    let copy : Entry := .live "x" [profile.selfService uri] (.reading now) 90000 none
    let events : List (Nat × Herald.Event) :=
      [(now, .beat), (now, .stop), (now, .act (.merge copy))]
    Config.parse "[node]\nenvironment = \"t\"\n[discovery]\nmax_age_secs = 1" = .ok brief ∧
      Herald.Timely ⟨now, brief.announcePeriodNanos⟩ start events ∧
      (start.run events).stopped = true ∧ (start.run events).node.query (.reading now)
        (some discoveryKind) (some generalPool) = [profile.selfService uri] := by
  intro profile uri start now copy events
  refine ⟨parse_brief, ⟨⟨rfl, by decide, by decide⟩, rfl, ⟨?_, ?_, ?_⟩, trivial⟩, ?_⟩
  · intro going
    cases going
  · intro time timed
    cases timed
  · intro entry brings same
    -- The copy is for the node id of its entry, and not for that of its service.
    cases brings
    exact absurd (show "x" = "own" from same) (by decide)
  · decide +kernel

end Node

end Roster
