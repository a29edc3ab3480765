import Roster.Proofs.Node.Run
import Roster.Proofs.Store.Outdated

/-!
What a query answers: the services of the entries that live, in the order and number in which they
stand there, as far as they are of the kind and in the pool that is asked for.
-/

namespace Roster

/-- The first representable instant. -/
def Millis.earliest : Millis := Millis.clamp (-9223372036854775808)

/-- Whether an entry has services and, if it has an age, this ends no earlier than an instant. The
end is counted in whole numbers, so that there is none that would be out of range. -/
structure Entry.LivesAt (entry : Entry) (now : Millis) : Prop where
  services : entry.isTombstone = false
  lasts : ∀ age ∈ entry.maxAge, now.val ≤ entry.timestamp.val + age.val

/-- Whether a service is of a kind and in a pool, each if it is given. The fleet-wide pool has two
names, and either of them stands for both. -/
structure Service.Answers (mapTarget : String) (kind pool : Option String) (service : Service) :
    Prop where
  kind : ∀ wanted ∈ kind, service.kind = wanted
  pool : ∀ wanted ∈ pool, service.pool = wanted ∨
    (service.pool ∈ [generalPool, mapTarget] ∧ wanted ∈ [generalPool, mapTarget])

instance (entry : Entry) (now : Millis) : Decidable (entry.LivesAt now) :=
  decidable_of_iff (entry.isTombstone = false ∧
      ∀ age ∈ entry.maxAge, now.val ≤ entry.timestamp.val + age.val)
    ⟨fun both => ⟨both.1, both.2⟩, fun lives => ⟨lives.services, lives.lasts⟩⟩

instance (mapTarget : String) (kind pool : Option String) (service : Service) :
    Decidable (service.Answers mapTarget kind pool) :=
  decidable_of_iff ((∀ wanted ∈ kind, service.kind = wanted) ∧
      ∀ wanted ∈ pool, service.pool = wanted ∨
        (service.pool ∈ [generalPool, mapTarget] ∧ wanted ∈ [generalPool, mapTarget]))
    ⟨fun both => ⟨both.1, both.2⟩, fun answers => ⟨answers.kind, answers.pool⟩⟩

/-- After the first instant, the end of the range does not show in what has passed. -/
theorem Millis.later_lt_iff {start span now : Millis} (started : earliest < now) :
    start.later span < now ↔ start.val + span.val < now.val := by
  -- A sum that saturates at the top is not below any time, and one that saturates at the bottom is
  -- the earliest time, below all that have started.
  have bounds := now.inRange
  simp only [lt_def, earliest, later, val_clamp] at started ⊢
  omega

/-- After the first instant, an entry with services has expired exactly if it does not live. -/
theorem Entry.isExpired_eq_false_iff {entry : Entry} {now : Millis}
    (started : Millis.earliest < now) (live : entry.isTombstone = false) :
    entry.isExpired now = false ↔ entry.LivesAt now := by
  have lives : entry.LivesAt now ↔
      ∀ age ∈ entry.maxAge, now.val ≤ entry.timestamp.val + age.val :=
    ⟨fun lives => lives.lasts, fun lasts => ⟨live, lasts⟩⟩
  rw [lives]
  unfold isExpired
  unfold isTombstone at live
  -- A live entry has services; without an age it never expires.
  cases found : entry.services with
  | none => simp [found] at live
  | some services =>
    cases entry.maxAge with
    | none => simp
    | some age => simp [Millis.later_lt_iff started]

/-- What is picked of the services of an entry that has not expired is picked of one that lives. -/
theorem Entry.pick_of_isExpired {now : Millis} (started : Millis.earliest < now) (entry : Entry)
    (picks : Service → Bool) :
    (if entry.isExpired now then [] else entry.allServices.filter picks) =
      if entry.LivesAt now then entry.allServices.filter picks else [] := by
  cases dead : entry.isTombstone with
  | true =>
    -- A tombstone never expires and does not live, but it has no services either.
    have none : entry.allServices = [] := by
      rw [allServices, Option.isNone_iff_eq_none.1 dead, Option.getD_none]
    simp [none]
  | false =>
    have current := isExpired_eq_false_iff started dead
    by_cases lives : entry.LivesAt now
    · rw [current.2 lives, if_pos lives]
      rfl
    · have expired : entry.isExpired now = true := by
        rw [← Bool.not_eq_false]
        exact fun stays => lives (current.1 stays)
      rw [expired, if_neg lives]
      rfl

/-- A query for a pool matches that pool, and either name of the fleet-wide pool if it is one. -/
theorem Migration.mem_aliases_iff {migration : Migration} {pool named : String} :
    named ∈ migration.aliases pool ↔ named = pool ∨
      (named ∈ [generalPool, migration.mapTarget] ∧ pool ∈ [generalPool, migration.mapTarget]) := by
  unfold aliases
  by_cases ordinary : pool ≠ migration.mapTarget ∧ pool ≠ generalPool
  · simp [ordinary]
  · have isName : pool = generalPool ∨ pool = migration.mapTarget := by
      by_contra neither
      exact ordinary ⟨fun new => neither (.inr new), fun old => neither (.inl old)⟩
    rw [if_neg ordinary]
    -- Where the pool keeps its name, the two names are one.
    by_cases same : migration.mapTarget = generalPool
    · rcases isName with rfl | rfl <;> simp [same]
    · rcases isName with rfl | rfl <;> grind

namespace Store

/-- The services that a reading shows of an entry are the wanted ones, unless it has expired. -/
theorem services_visible? (now : Millis) (kind : Option String) (pools : List String)
    (entry : Entry) :
    ((visible? now kind pools entry).map Entry.allServices).getD [] =
      if entry.isExpired now then [] else entry.allServices.filter (wants kind pools) := by
  unfold visible? Entry.allServices
  split
  · rfl
  · cases entry.services with
    | none => rfl
    | some services =>
      simp only [Option.getD_some]
      split
      · -- Nothing is shown because no service is wanted.
        rename_i empty
        have none : services.filter (wants kind pools) = [] := by
          simpa using (Bool.and_eq_true_iff.1 empty).1
        simp [none]
      · rfl

/-- A filtered reading shows the wanted services of one entry after the other. -/
theorem services_filtered (store : Store) (now : Millis) (kind : Option String)
    (pools : List String) :
    (store.filtered now kind pools).flatMap Entry.allServices =
      store.items.flatMap fun entry =>
        if entry.isExpired now then [] else entry.allServices.filter (wants kind pools) := by
  -- Induction on the entries: an entry filtered out gives no services, and so does one none of
  -- whose services is wanted.
  unfold filtered
  induction store.items with
  | nil => rfl
  | cons entry rest ih =>
    rw [List.flatMap_cons, ← ih, ← services_visible?, List.filterMap_cons]
    cases visible? now kind pools entry <;> rfl

end Store

namespace Node

/-- A query wants just the services that answer it. -/
theorem wants_query_iff {migration : Migration} {kind pool : Option String} {service : Service} :
    Store.wants kind ((pool.map migration.aliases).getD []) service = true ↔
      service.Answers migration.mapTarget kind pool := by
  have kinds : kind.all (fun wanted => service.kind == wanted) = true ↔
      ∀ wanted ∈ kind, service.kind = wanted := by
    cases kind <;> simp
  have pools : (((pool.map migration.aliases).getD []).isEmpty ||
        ((pool.map migration.aliases).getD []).contains service.pool) = true ↔
      ∀ wanted ∈ pool, service.pool = wanted ∨
        (service.pool ∈ [generalPool, migration.mapTarget] ∧
          wanted ∈ [generalPool, migration.mapTarget]) := by
    cases pool with
    | none => simp
    | some pool =>
      -- A pool is always matched by itself, so there is no query for no pool at all.
      have some : (migration.aliases pool).isEmpty = false := by
        rw [List.isEmpty_eq_false_iff]
        exact List.ne_nil_of_mem (Migration.mem_aliases_iff.2 (.inl rfl))
      simp [some, Migration.mem_aliases_iff]
  rw [Store.wants, Bool.and_eq_true_iff, kinds, pools]
  exact ⟨fun both => ⟨both.1, both.2⟩, fun answers => ⟨answers.kind, answers.pool⟩⟩

/-- A query answers the services that it asks for, of entries that are held and have not expired. -/
theorem mem_query_iff {node : Node} (active : node.profile.dynamic = true) {now : Millis}
    {kind pool : Option String} {service : Service} :
    service ∈ node.query now kind pool ↔
      service.Answers node.profile.migration.mapTarget kind pool ∧
        ∃ entry, node.store.get? entry.nodeId = some entry ∧ entry.isExpired now = false ∧
          service ∈ entry.allServices := by
  -- The filter asks for the same conditions, in another order.
  rw [query, active]
  simp only [Bool.not_true, Bool.false_eq_true, if_false, Store.mem_filtered_services,
    wants_query_iff]
  constructor
  · rintro ⟨entry, held, current, listed, answers⟩
    exact ⟨answers, entry, held, current, listed⟩
  · rintro ⟨answers, entry, held, current, listed⟩
    exact ⟨entry, held, current, listed, answers⟩

/--
A query answers exactly what lives, and the fleet-wide pool answers to both its names.

After the first instant, an active node lists for one resident entry after the other the services
of the kind and in the pool that are asked for, in their order and with their repetitions, if the
entry lives. It gives the same list for both names of the fleet-wide pool.
-/
theorem query_lists_what_lives {node : Node} (active : node.profile.dynamic = true) {now : Millis}
    (started : Millis.earliest < now) (kind : Option String) :
    let mapTarget := node.profile.migration.mapTarget
    (∀ pool, node.query now kind pool = node.store.items.flatMap fun entry =>
      if entry.LivesAt now then
        entry.allServices.filter fun service => service.Answers mapTarget kind pool
      else []) ∧
    node.query now kind (some generalPool) = node.query now kind (some mapTarget) := by
  intro mapTarget
  refine ⟨fun pool => ?_, ?_⟩
  · -- Entry by entry, the services that are wanted and not expired are those that are listed.
    rw [query, active]
    show (node.store.filtered now kind
      ((pool.map node.profile.migration.aliases).getD [])).flatMap Entry.allServices = _
    rw [Store.services_filtered]
    congr 1
    funext entry
    rw [Entry.pick_of_isExpired started]
    congr 1
    refine List.filter_congr fun service _ => ?_
    rw [Bool.eq_iff_iff, wants_query_iff, decide_eq_true_iff]
  · -- Both names are asked for together, whichever of them a query gives.
    have same : node.profile.migration.aliases generalPool =
        node.profile.migration.aliases mapTarget := by
      simp [Migration.aliases, mapTarget]
    simp only [query, Option.map_some, same]

/-- Of four entries two live, and both names of the pool lead to the service that comes twice. -/
theorem query_lists_what_lives_twice :
    let node := Node.start { (default : Profile) with
      dynamic := true, migration := ⟨"fleet", .two⟩ }
    let service (pool : String) : Service := ⟨"s", "a", "api", pool, "x", ∅⟩
    let entries : List Entry := [
      .live "a" [service "fleet", service "other", service "general", service "fleet"] 1 9 none,
      .live "b" [service "fleet"] 1 8 none,
      ⟨"c", some [service "general"], .latest, some .latest, none⟩,
      .tombstone "d" 5 none]
    let filled := entries.foldl (fun node entry => (node.put entry).node) node
    filled.query 10 (some "api") (some "general") =
        [service "fleet", service "general", service "fleet", service "general"] ∧
      filled.query 10 (some "api") (some "fleet") =
        [service "fleet", service "general", service "fleet", service "general"] := by
  intro node service entries filled
  have active : filled.profile.dynamic = true := by decide
  have started : Millis.earliest < 10 := by decide
  obtain ⟨listed, same⟩ := query_lists_what_lives active started (some "api")
  -- The second entry has expired, and the one that ends past all time lives on. Services come in
  -- the order they are stored, repetitions included.
  have answer : filled.query 10 (some "api") (some "general") =
      [service "fleet", service "general", service "fleet", service "general"] :=
    (listed (some "general")).trans (by decide)
  exact ⟨answer, same.symm.trans answer⟩

-- At the first instant, an entry whose end lies before the range is still shown.
example :
    let service : Service := ⟨"s", "a", "api", "general", "x", ∅⟩
    let entry := Entry.live "a" [service] .earliest (.clamp (-1)) none
    entry.isExpired .earliest = false ∧ ¬entry.LivesAt .earliest := by
  decide

end Node

end Roster
