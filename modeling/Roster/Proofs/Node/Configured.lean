import Roster.Proofs.Config
import Roster.Proofs.Node.Admission
import Roster.Proofs.Node.Query
import Roster.Proofs.Node.Versions

/-!
What settings that pass their check promise of the node made from them. Neither does it show every
announcement that it accepts, for the age of those that state none is cut to 64 bits, nor can it
always announce itself, for its pool and its place may be empty.
-/

namespace Roster

namespace Millis

/-- A natural number cut to 64 bits is not negative exactly if the highest of them is zero. -/
theorem zero_le_wrap_iff {n : Nat} :
    zero ≤ wrap n ↔ n % 18446744073709551616 < 9223372036854775808 := by
  simp only [le_def, zero, wrap, Int.bmod]
  -- A remainder below the middle of the range stays as it is, and any other becomes negative.
  split <;> omega

end Millis

/-- Whether the age of announcements that state none is not negative once it is cut to 64 bits. -/
def Config.AgeFits (config : Config) : Prop :=
  config.maxAgeMillis % 18446744073709551616 < 9223372036854775808

instance (config : Config) : Decidable config.AgeFits := inferInstanceAs (Decidable (_ < _))

/-- The node id and the announcement of a request, if it announces. -/
def Write.announced? : Write → Option (String × Announcement)
  | .announce _ nodeId announcement _ => some (nodeId, announcement)
  | .announceTrusted nodeId announcement => some (nodeId, announcement)
  | _ => none

namespace Node

/-- Whether a node accepts an announcement for a node id that has not come to the last version. A
node that takes none from clients makes none of its own either. -/
structure Takes (node : Node) (now : Millis) (write : Write) (nodeId : String)
    (announcement : Announcement) : Prop where
  active : node.profile.dynamic = true
  announces : write.announced? = some (nodeId, announcement)
  accepted : (node.perform now write).answer = .ok ()
  early : ∀ resident ∈ node.store.get? nodeId, resident.timestamp < .latest

variable {node : Node} {now : Millis} {write : Write} {nodeId : String}
  {announcement : Announcement}

/-- A query for everything answers the services of all entries that have not expired. -/
theorem query_all (active : node.profile.dynamic = true) :
    node.query now none none = node.store.items.flatMap fun entry =>
      if entry.isExpired now then [] else entry.allServices := by
  -- A query without a kind and a pool wants every service, so filtering leaves what is not expired.
  have everything (services : List Service) : services.filter (Store.wants none []) = services :=
    List.filter_eq_self.2 fun _ _ => rfl
  rw [query, active]
  simp only [Bool.not_true, Bool.false_eq_true, if_false, Option.map_none, Option.getD_none,
    Store.services_filtered, everything]

/-- An entry that is held and has not expired shows its services, in a row and in their order. -/
theorem infix_query {entry : Entry} (active : node.profile.dynamic = true)
    (held : node.store.get? nodeId = some entry) (current : entry.isExpired now = false) :
    entry.allServices <:+: node.query now none none := by
  -- The answer is put together entry by entry, each giving its services in one piece.
  have listed : entry ∈ node.store.items :=
    Store.mem_items_iff_get?.2 (Store.nodeId_of_get? held ▸ held)
  rw [query_all active, List.flatMap_def]
  refine List.infix_of_mem_flatten (List.mem_map.2 ⟨entry, listed, ?_⟩)
  rw [current]
  rfl

/-- Whatever a query shows belongs to an entry that is held and has not expired. -/
theorem exists_of_mem_query {service : Service} (active : node.profile.dynamic = true)
    (shown : service ∈ node.query now none none) :
    ∃ entry, node.store.get? entry.nodeId = some entry ∧ entry.isExpired now = false ∧
      service ∈ entry.allServices := by
  exact ((mem_query_iff active).1 shown).2

/-- The entry that an announcing request makes. -/
theorem entryOf_of_announced (node : Node) (now : Millis)
    (announces : write.announced? = some (nodeId, announcement)) :
    ∃ announcer, node.entryOf now write = node.entryFor now nodeId announcement announcer := by
  -- The two announcements differ in the announcer only, and deletions announce nothing.
  cases write with
  | announce => cases announces; exact ⟨_, rfl⟩
  | announceTrusted => cases announces; exact ⟨_, rfl⟩
  | delete => cases announces
  | deleteTrusted => cases announces

/-- An announcement is accepted only if it is valid, whoever makes it. -/
theorem checkValid_of_accepted (announces : write.announced? = some (nodeId, announcement))
    (accepted : node.verdict write = .ok ()) : node.checkValid announcement = .ok () := by
  -- A node checks its own announcement as it checks a client's.
  cases write with
  | announce => cases announces; exact checkValid_of_verdict accepted
  | announceTrusted => cases announces; exact accepted
  | delete => cases announces
  | deleteTrusted => cases announces

namespace Takes

/-- An announcement that is taken is sound. -/
theorem isSound (takes : node.Takes now write nodeId announcement) : announcement.IsSound := by
  -- Only a sound announcement passes the check for faults.
  have accepted := takes.accepted
  rw [answer_perform] at accepted
  have valid := checkValid_of_accepted takes.announces accepted
  exact (Announcement.faultIn?_eq_none_iff.1 (checkValid_eq_ok_iff.1 valid)).1

/-- A node that takes an announcement still takes announcements afterwards. -/
theorem active_after (takes : node.Takes now write nodeId announcement) :
    (node.perform now write).node.profile.dynamic = true := by
  -- No action changes a profile.
  have same := profile_act node (.write now write)
  exact (congrArg Profile.dynamic same).trans takes.active

/-- What is held for the node id once an announcement is taken. -/
theorem held (takes : node.Takes now write nodeId announcement) :
    ∃ announcer, (node.perform now write).node.store.get? nodeId =
      some (node.entryFor now nodeId announcement announcer) := by
  -- An accepted write takes its place, and the entry of an announcement is made by one function.
  have stored := get?_perform takes.accepted
  obtain ⟨announcer, entry⟩ := node.entryOf_of_announced now takes.announces
  rw [entry] at stored
  exact ⟨announcer, stored takes.early⟩

end Takes

/-- An announced entry expires with the age that is stated, or else with the default one. -/
theorem isExpired_entryFor (announcer : Option String) (time : Millis) :
    (node.entryFor now nodeId announcement announcer).isExpired time =
      decide ((node.nextTimestamp now nodeId).later
        (announcement.maxAge.getD node.profile.maxAge) < time) := rfl

/-- A taken announcement is shown at once if it states an age or the default lasts that long. -/
theorem Takes.infix_query (takes : node.Takes now write nodeId announcement)
    (lasts : announcement.maxAge.isSome ∨
      now ≤ (node.nextTimestamp now nodeId).later node.profile.maxAge) :
    announcement.servicesFor nodeId <:+: (node.perform now write).node.query now none none := by
  obtain ⟨announcer, held⟩ := takes.held
  refine Node.infix_query takes.active_after held ?_
  -- Either age ends at the time of the request or later.
  have ends : now ≤ (node.nextTimestamp now nodeId).later
      (announcement.maxAge.getD node.profile.maxAge) := by
    cases stated : announcement.maxAge with
    | none => simpa [stated] using lasts
    | some age =>
      have positive := takes.isSound.age age stated
      exact le_trans (node.le_nextTimestamp now nodeId) (Millis.le_later (le_of_lt positive))
  rw [isExpired_entryFor, decide_eq_false_iff_not]
  exact not_lt_of_ge ends

/-- A taken announcement without an age is not shown at once if the default ends before. -/
theorem Takes.exists_other_of_mem_query (takes : node.Takes now write nodeId announcement)
    (ageless : announcement.maxAge = none)
    (past : (node.nextTimestamp now nodeId).later node.profile.maxAge < now) {service : Service}
    (shown : service ∈ (node.perform now write).node.query now none none) :
    ∃ entry, (node.perform now write).node.store.get? entry.nodeId = some entry ∧
      entry.nodeId ≠ nodeId ∧ service ∈ entry.allServices := by
  obtain ⟨entry, found, current, member⟩ := exists_of_mem_query takes.active_after shown
  refine ⟨entry, found, ?_, member⟩
  intro itself
  -- What is held for the node id is the announced entry, which has expired.
  obtain ⟨announcer, held⟩ := takes.held
  rw [itself, held] at found
  rw [← Option.some.inj found, isExpired_entryFor, ageless, Option.getD_none,
    decide_eq_false_iff_not] at current
  exact current past

/-- An announcement for an environment, of one service and without an age. -/
def agelessFor (environment : String) : Announcement where
  environment
  pool := generalPool
  location := "/"
  services := [{ id := some "s", kind := some discoveryKind, properties := some ∅ }]
  maxAge := none

/-- The announcement is sound if the environment has a name. -/
theorem isSound_agelessFor {environment : String} (named : environment ≠ "") :
    (agelessFor environment).IsSound where
  -- The environment is the only part that is not fixed.
  environment := named
  pool := (by decide : generalPool ≠ "")
  location := (by decide : "/" ≠ "")
  age := by simp [agelessFor]
  services := by
    intro service listed
    obtain rfl := List.mem_singleton.1 listed
    exact ⟨⟨"s", rfl, by decide⟩, ⟨discoveryKind, rfl, by decide⟩, rfl⟩

/-- A node of sound settings takes an announcement of its own that it does not show at once, if the
age that it adds comes to a negative number. -/
theorem exists_taken_unshown {config : Config} (sound : config.IsSound)
    (active : config.discovery.dynamicEnabled = true) (unfit : ¬config.AgeFits) (own : String) :
    ∃ announcement, let node := start (Profile.ofConfig config own)
      let write := Write.announceTrusted own announcement
      node.Takes .zero write own announcement ∧
        ∃ service ∈ announcement.servicesFor own,
          service ∉ (node.perform .zero write).node.query .zero none none := by
  let announcement := agelessFor config.node.environment
  have valid : announcement.faultIn? config.node.environment = none :=
    Announcement.faultIn?_eq_none_iff.2 ⟨isSound_agelessFor sound.environment, rfl⟩
  have takes : (start (Profile.ofConfig config own)).Takes .zero
      (.announceTrusted own announcement) own announcement := by
    refine ⟨active, rfl, ?_, fun resident held => ?_⟩
    · rw [answer_perform]
      exact checkValid_eq_ok_iff.2 valid
    · -- A node that has just started holds nothing.
      cases held
  refine ⟨announcement, takes, _, List.mem_singleton_self _, fun shown => ?_⟩
  -- At the start of the clock, a negative age ends before.
  have past : Millis.zero.later (Millis.wrap config.maxAgeMillis) < .zero := by
    rw [Config.AgeFits, ← Millis.zero_le_wrap_iff, Millis.le_def] at unfit
    simp only [Millis.zero, Millis.lt_def, Millis.later, Millis.val_clamp] at unfit ⊢
    omega
  obtain ⟨entry, found, other, -⟩ := takes.exists_other_of_mem_query rfl past shown
  -- Nothing else is held, for the node has just started.
  rw [get?_perform_of_ne takes.accepted other] at found
  cases found

/--
An accepted announcement is shown at once, unless it states no age and the default is cut short.

Let a node be made from settings that pass their check. Once it has accepted an announcement for a
node id short of the last version, a query for everything at the same clock reading answers the
announced services in a row, if the announcement states an age or the default one, counted from the
version of the entry, has not ended by then. Otherwise no service that is answered belongs to the
node id's entry. All accepted announcements are shown at any reading from zero on exactly if the
default age in milliseconds is not negative when cut to 64 bits, as up to 9223372036854775 seconds.
-/
theorem accepted_shown_at_once_iff_age_fits {text : String} {config : Config}
    (parsed : Config.parse text = .ok config) (own : String) :
    let profile := Profile.ofConfig config own
    (∀ (node : Node) now write nodeId announcement, node.profile = profile →
      node.Takes now write nodeId announcement →
      let after := (node.perform now write).node
      let lasts := announcement.maxAge.isSome ∨
        now ≤ (node.nextTimestamp now nodeId).later profile.maxAge
      (lasts → announcement.servicesFor nodeId <:+: after.query now none none) ∧
      (¬lasts → ∀ service ∈ after.query now none none,
        ∃ entry, after.store.get? entry.nodeId = some entry ∧ entry.nodeId ≠ nodeId ∧
          service ∈ entry.allServices)) ∧
    (config.discovery.dynamicEnabled = true →
      ((∀ (node : Node) now write nodeId announcement, node.profile = profile →
        Millis.zero ≤ now → node.Takes now write nodeId announcement →
        ∀ service ∈ announcement.servicesFor nodeId,
          service ∈ (node.perform now write).node.query now none none) ↔ config.AgeFits)) ∧
    (config.discovery.maxAgeSeconds ≤ 9223372036854775 → config.AgeFits) := by
  intro profile
  obtain ⟨-, sound⟩ := Config.parse_eq_ok_iff.1 parsed
  refine ⟨?_, fun active => ⟨fun shown => ?_, fun fits => ?_⟩, fun small => ?_⟩
  · intro node now write nodeId announcement same takes after lasts
    refine ⟨fun long => takes.infix_query (same ▸ long), fun short => ?_⟩
    obtain ⟨ageless, past⟩ := not_or.1 short
    exact fun service => takes.exists_other_of_mem_query
      (Option.not_isSome_iff_eq_none.1 ageless) (same ▸ not_le.1 past)
  · -- If it did not fit, a node that has just started would not show what it announces.
    by_contra unfit
    obtain ⟨announcement, takes, service, listed, unshown⟩ :=
      exists_taken_unshown sound active unfit own
    exact unshown (shown _ _ _ _ _ rfl (le_refl _) takes service listed)
  · intro node now write nodeId announcement same started takes service listed
    have forward : Millis.zero ≤ profile.maxAge := Millis.zero_le_wrap_iff.2 fits
    have lasts := le_trans (node.le_nextTimestamp now nodeId) (Millis.le_later forward)
    exact (takes.infix_query (.inr (same ▸ lasts))).subset listed
  · have below : config.maxAgeMillis < 9223372036854775808 := by
      rw [Config.maxAgeMillis]
      omega
    rw [Config.AgeFits, Nat.mod_eq_of_lt (by omega)]
    exact below

/-- Of two announcements that a node accepts, the one without an age is not shown. -/
theorem accepted_shown_at_once_iff_age_fits_not :
    let text := "[node]\nenvironment = \"t\"\n[discovery]\nmax_age_secs = 9223372036854776"
    let config := { Config.bare with
      discovery := { Config.bare.discovery with maxAgeSeconds := 9223372036854776 } }
    let node := start (Profile.ofConfig config "own")
    let aged := { agelessFor "t" with maxAge := some 1 }
    Config.parse text = .ok config ∧
      ((node.announceTrusted 5 "n" (agelessFor "t")).answer = .ok () ∧
        (node.announceTrusted 5 "n" (agelessFor "t")).node.query 5 none none = []) ∧
      aged.servicesFor "n" <:+: (node.announceTrusted 5 "n" aged).node.query 5 none none := by
  intro text config node aged
  have parsed : Config.parse text = .ok config := Config.parse_eq_ok_iff.2
    ⟨by decide +kernel, Config.fault?_eq_none_iff.1 (by decide +kernel)⟩
  obtain ⟨settled, -, -⟩ := accepted_shown_at_once_iff_age_fits parsed "own"
  have takes (announcement : Announcement)
      (accepted : (node.announceTrusted 5 "n" announcement).answer = .ok ()) :
      node.Takes 5 (.announceTrusted "n" announcement) "n" announcement :=
    ⟨rfl, rfl, accepted, fun _ held => by cases held⟩
  have accepted : (node.announceTrusted 5 "n" (agelessFor "t")).answer = .ok () := by
    decide +kernel
  refine ⟨parsed, ⟨accepted, List.eq_nil_iff_forall_not_mem.2 fun service shown => ?_⟩, ?_⟩
  · obtain ⟨entry, found, other, -⟩ :=
      (settled node 5 _ "n" _ rfl (takes _ accepted)).2 (by decide +kernel) service shown
    -- There is no other node id.
    have alone : ∀ entry ∈ (node.announceTrusted 5 "n" (agelessFor "t")).node.store.items,
        entry.nodeId = "n" := by decide +kernel
    exact other (alone entry (Store.mem_items_iff_get?.2 found))
  · exact (settled node 5 _ "n" _ rfl (takes aged (by decide +kernel))).1 (.inl rfl)

/-- A node that cannot announce itself reports it and stays as it is. -/
theorem announceSelf_of_fault {node : Node} {uri : String} {fault : Announcement.Fault}
    (faulty : (node.profile.selfAnnouncement uri).faultIn? node.profile.environment = some fault)
    (now : Millis) :
    node.announceSelf now uri = ⟨(), node, [.unannounced (.invalid fault)]⟩ := by
  -- The node reports the fault and does nothing else.
  simp only [announceSelf, announceTrusted, checkValid, faulty]
  rfl

/--
A node of settings that pass their check can announce itself if they name a pool and a place, and
otherwise never.

The announcement that it makes of itself is sound exactly then, and it is for its environment in any
case. Written for any node id, it is accepted unless the pool or else the place is empty, and then
turned down for that. A node that fails to announce itself for this reason reports it each time and
stays as it is, so that nobody gets to know it.
-/
theorem self_announcement_passes_iff_pool_and_place {text : String} {config : Config}
    (parsed : Config.parse text = .ok config) (own uri : String) :
    let announcement := config.node.selfAnnouncement own uri
    (announcement.IsSound ↔ config.node.pool ≠ "" ∧ config.node.location ≠ "") ∧
    announcement.environment = config.node.environment ∧
    ∀ (node : Node) now, node.profile = Profile.ofConfig config own →
      (∀ nodeId, (node.announceTrusted now nodeId announcement).answer =
        match config.node.selfFault? with
        | none => .ok ()
        | some fault => .error (.invalid fault)) ∧
      ∀ fault ∈ config.node.selfFault?,
        node.announceSelf now uri = ⟨(), node, [.unannounced (.invalid fault)]⟩ := by
  intro announcement
  obtain ⟨-, sound⟩ := Config.parse_eq_ok_iff.1 parsed
  have checked : announcement.faultIn? config.node.environment = config.node.selfFault? :=
    NodeConfig.faultIn?_selfAnnouncement sound.environment own uri
  refine ⟨NodeConfig.isSound_selfAnnouncement_iff sound.environment own uri, rfl,
    fun node now same => ?_⟩
  have environment : node.profile.environment = config.node.environment := by rw [same]; rfl
  refine ⟨fun nodeId => ?_, fun fault faulty => ?_⟩
  · have answer := node.answer_perform now (.announceTrusted nodeId announcement)
    rw [perform, verdict, checkValid, environment, checked] at answer
    rw [answer]
    cases config.node.selfFault? <;> rfl
  · -- The node makes the announcement of its profile, which is that of the settings.
    refine announceSelf_of_fault ?_ now
    rw [environment, same]
    exact checked.trans faulty

/-- Settings with an empty pool pass their check, but the node made from them cannot announce
itself. -/
theorem self_announcement_passes_iff_pool_and_place_not :
    let text := "[node]\nenvironment = \"t\"\npool = \"\""
    let config := { Config.bare with node := { Config.bare.node with pool := "" } }
    let node := start (Profile.ofConfig config "own")
    let uri := "http://localhost:4111"
    Config.parse text = .ok config ∧
      (node.announceTrusted 5 "own" (config.node.selfAnnouncement "own" uri)).answer =
        .error (.invalid .poolEmpty) ∧
      node.announceSelf 5 uri = ⟨(), node, [.unannounced (.invalid .poolEmpty)]⟩ := by
  -- Parsing accepts an empty pool, and announcing refuses it.
  intro text config node uri
  have parsed : Config.parse text = .ok config := Config.parse_eq_ok_iff.2
    ⟨by decide +kernel, Config.fault?_eq_none_iff.1 (by decide +kernel)⟩
  obtain ⟨-, -, settled⟩ := self_announcement_passes_iff_pool_and_place parsed "own" uri
  obtain ⟨answers, fails⟩ := settled node 5 rfl
  exact ⟨parsed, answers "own", fails .poolEmpty rfl⟩

end Node

end Roster
