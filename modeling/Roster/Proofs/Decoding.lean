import Roster.Proofs.Json.Content
import Roster.Wire

/-!
What is decoded from a text depends on its content alone: services, entries and announcements are
read from every text that spells them, however it is arranged, at every level of nesting.
-/

namespace Roster

open Json (ByContent ByField ByItems Form Letter Meanings Member Tree)

/-- What the fields of a service mean. -/
def Service.meanings :=
  Meanings.field "id" Tree.text? .refused <|
  .field "nodeId" Tree.text? .refused <|
  .field "type" Tree.text? .refused <|
  .field "pool" Tree.text? .refused <|
  .field "location" Tree.text? .refused <|
  .field "properties" Tree.properties? .refused <|
  .done

/-- The service that a tree tells of. -/
def Service.ofTree? (tree : Tree) : Option Service :=
  (Service.meanings.ofTree? tree).map fun (id, nodeId, kind, pool, location, properties, ()) =>
    { id, nodeId, kind, pool, location, properties }

/-- What the fields of an entry mean. -/
def Entry.meanings :=
  Meanings.field "nodeId" Tree.text? .refused <|
  .field "services" (Tree.optional? (Tree.list? Service.ofTree?)) (.inObject none) <|
  .field "timestamp" Tree.millis? .refused <|
  .field "maxAgeInMs" (Tree.optional? Tree.millis?) (.inObject none) <|
  .field "announcer" (Tree.optional? Tree.text?) (.inObject none) <|
  .done

/-- The entry that a tree tells of. -/
def Entry.ofTree? (tree : Tree) : Option Entry :=
  (Entry.meanings.ofTree? tree).map fun (nodeId, services, timestamp, maxAge, announcer, ()) =>
    { nodeId, services, timestamp, maxAge, announcer }

/-- What the fields of a submitted service mean. -/
def ServiceAnnouncement.meanings :=
  Meanings.field "id" (Tree.optional? Tree.text?) (.inObject none) <|
  .field "type" (Tree.optional? Tree.text?) (.inObject none) <|
  .field "properties" (Tree.optional? Tree.properties?) (.inObject none) <|
  .done

/-- The submitted service that a tree tells of. -/
def ServiceAnnouncement.ofTree? (tree : Tree) : Option ServiceAnnouncement :=
  (ServiceAnnouncement.meanings.ofTree? tree).map fun (id, kind, properties, ()) =>
    { id, kind, properties }

/-- What the fields of an announcement mean. -/
def Announcement.meanings :=
  Meanings.field "environment" Tree.text? .refused <|
  .field "pool" Tree.text? .refused <|
  .field "location" Tree.text? .refused <|
  .field "services" (Tree.list? ServiceAnnouncement.ofTree?) .refused <|
  .field "maxAgeInMs" (Tree.optional? Tree.millis?) (.anywhere none) <|
  .done

/-- The announcement that a tree tells of. -/
def Announcement.ofTree? (tree : Tree) : Option Announcement :=
  (Announcement.meanings.ofTree? tree).map
    fun (environment, pool, location, services, maxAge, ()) =>
      { environment, pool, location, services, maxAge }

namespace Service

theorem interprets_form : form.Interprets ofTree? := by
  -- The six fields are read in the order in which they are declared.
  have fields : fields.Means meanings :=
    .field Form.interprets_text <| .field Form.interprets_text <| .field Form.interprets_text <|
      .field Form.interprets_text <| .field Form.interprets_text <|
      .field Form.interprets_properties .done
  exact (fields.record (by decide)).convert _ _

theorem regular_meanings : meanings.Regular :=
  -- None of the fields may be missing, and none takes a null.
  ⟨Json.regular_text, rfl, Json.regular_text, rfl, Json.regular_text, rfl, Json.regular_text, rfl,
    Json.regular_text, rfl, Json.regular_properties, rfl, trivial⟩

theorem regular_ofTree? : Json.Regular ofTree? :=
  -- A service is what its fields say, all of them.
  regular_meanings.record.convert fun service =>
    ⟨(service.id, service.nodeId, service.kind, service.pool, service.location,
      service.properties, ()), rfl⟩

/-- The properties of a service show by what they tell. -/
theorem byProperties : ByField "properties" Tree.properties? ofTree? := by
  -- All fields but the properties are told alike, since they are the same.
  refine Meanings.byField (fun same => ?_) (fun refused => ?_) _
  · simp [meanings, Meanings.Alike, same]
  · simp [meanings, Meanings.Refuses, refused]

end Service

namespace Entry

theorem interprets_form : form.Interprets ofTree? := by
  -- Services are read one by one by the form before.
  have fields : fields.Means meanings :=
    .field Form.interprets_text <| .field Service.interprets_form.list.optional <|
      .field Form.interprets_millis <| .field Form.interprets_millis.optional <|
      .field Form.interprets_text.optional .done
  exact (fields.record (by decide)).convert _ _

theorem regular_meanings : meanings.Regular :=
  -- A null for the services, the age or the announcer is the same as none at all.
  ⟨Json.regular_text, rfl, Service.regular_ofTree?.list.optional rfl, rfl, Json.regular_millis, rfl,
    Json.regular_millis.optional rfl, rfl, Json.regular_text.optional rfl, rfl, trivial⟩

theorem regular_ofTree? : Json.Regular ofTree? :=
  -- An entry is what its fields say, all of them.
  regular_meanings.record.convert fun entry =>
    ⟨(entry.nodeId, entry.services, entry.timestamp, entry.maxAge, entry.announcer, ()), rfl⟩

/-- The services of an entry show by what they tell. -/
theorem byServices : ByField "services" (Tree.optional? (Tree.list? Service.ofTree?)) ofTree? := by
  -- All fields but the services are told alike, since they are the same.
  refine Meanings.byField (fun same => ?_) (fun refused => ?_) _
  · simp [meanings, Meanings.Alike, same]
  · simp [meanings, Meanings.Refuses, refused]

end Entry

namespace ServiceAnnouncement

theorem interprets_form : form.Interprets ofTree? := by
  -- Each of the three fields may be missing.
  have fields : fields.Means meanings :=
    .field Form.interprets_text.optional <| .field Form.interprets_text.optional <|
      .field Form.interprets_properties.optional .done
  exact (fields.record (by decide)).convert _ _

theorem regular_meanings : meanings.Regular :=
  -- A null is the same as no field at all, in each of the three.
  ⟨Json.regular_text.optional rfl, rfl, Json.regular_text.optional rfl, rfl,
    Json.regular_properties.optional rfl, rfl, trivial⟩

theorem regular_ofTree? : Json.Regular ofTree? :=
  -- A submitted service is what its fields say, all of them.
  regular_meanings.record.convert fun service =>
    ⟨(service.id, service.kind, service.properties, ()), rfl⟩

/-- The properties of a submitted service show by what they tell. -/
theorem byProperties : ByField "properties" (Tree.optional? Tree.properties?) ofTree? := by
  -- The two other fields are told alike, since they are the same.
  refine Meanings.byField (fun same => ?_) (fun refused => ?_) _
  · simp [meanings, Meanings.Alike, same]
  · simp [meanings, Meanings.Refuses, refused]

end ServiceAnnouncement

namespace Announcement

theorem interprets_form : form.Interprets ofTree? := by
  -- Submitted services are read one by one by the form before.
  have fields : fields.Means meanings :=
    .field Form.interprets_text <| .field Form.interprets_text <| .field Form.interprets_text <|
      .field ServiceAnnouncement.interprets_form.list <|
      .field Form.interprets_millis.optional .done
  exact (fields.record (by decide)).convert _ _

theorem regular_meanings : meanings.Regular :=
  -- Only the age may be missing or null.
  ⟨Json.regular_text, rfl, Json.regular_text, rfl, Json.regular_text, rfl,
    ServiceAnnouncement.regular_ofTree?.list, rfl, Json.regular_millis.optional rfl, rfl, trivial⟩

theorem regular_ofTree? : Json.Regular ofTree? :=
  -- An announcement is what its fields say, all of them.
  regular_meanings.record.convert fun announcement =>
    ⟨(announcement.environment, announcement.pool, announcement.location, announcement.services,
      announcement.maxAge, ()), rfl⟩

/-- The services of an announcement show by what they tell. -/
theorem byServices : ByField "services" (Tree.list? ServiceAnnouncement.ofTree?) ofTree? := by
  -- All fields but the services are told alike, since they are the same.
  refine Meanings.byField (fun same => ?_) (fun refused => ?_) _
  · simp [meanings, Meanings.Alike, same]
  · simp [meanings, Meanings.Refuses, refused]

end Announcement

/-- Services, entries, submitted services and announcements are read from exactly the texts that
tell of them, by their content alone, at every level of nesting. -/
theorem decoded_by_content :
    Service.form.ReadsContent ["id", "nodeId", "type", "pool", "location", "properties"]
      Service.ofTree? ∧
    Entry.form.ReadsContent ["nodeId", "services", "timestamp", "maxAgeInMs", "announcer"]
      Entry.ofTree? ∧
    ServiceAnnouncement.form.ReadsContent ["id", "type", "properties"]
      ServiceAnnouncement.ofTree? ∧
    Announcement.form.ReadsContent ["environment", "pool", "location", "services", "maxAgeInMs"]
      Announcement.ofTree? ∧
    ByItems "services" Service.ofTree? Entry.ofTree? ∧
    ByItems "services" ServiceAnnouncement.ofTree? Announcement.ofTree? ∧
    ByField "properties" Tree.properties? Service.ofTree? ∧
    ByField "properties" (Tree.optional? Tree.properties?) ServiceAnnouncement.ofTree? ∧
    Json.LastCounts Tree.properties? := by
  -- For each type the form reads what the tree means, and the meaning looks at the content alone.
  refine ⟨?_, ?_, ?_, ?_, Entry.byServices.byItems_optional, Announcement.byServices.byItems,
    Service.byProperties, ServiceAnnouncement.byProperties, Json.lastCounts_properties⟩
  · exact Service.interprets_form.readsContent
      ((Service.regular_meanings.byContent (by decide)).map _) Service.regular_ofTree?
  · exact Entry.interprets_form.readsContent
      ((Entry.regular_meanings.byContent (by decide)).map _) Entry.regular_ofTree?
  · exact ServiceAnnouncement.interprets_form.readsContent
      ((ServiceAnnouncement.regular_meanings.byContent (by decide)).map _)
      ServiceAnnouncement.regular_ofTree?
  · exact Announcement.interprets_form.readsContent
      ((Announcement.regular_meanings.byContent (by decide)).map _) Announcement.regular_ofTree?

/-- A submitted service with blanks and escapes, a null, and a member that is passed over. -/
theorem decoded_by_content_arranged :
    ServiceAnnouncement.form.parse
        " \x7b\"x\": [ \x7b \x7d,1],\n\"\\u0069d\" :\"\\/\" ,\"type\":null\x7d " =
      .ok ⟨some "/", none, none⟩ := by
  -- The tree has a member that nobody asks for, an escaped name, an escaped text and a null.
  let x : List Letter := [.plain 'x' (by decide)]
  let id : List Letter := [.unit '0' '0' '6' '9' 0x69 (by decide), .plain 'd' (by decide)]
  let kind : List Letter := [.plain 't' (by decide), .plain 'y' (by decide),
    .plain 'p' (by decide), .plain 'e' (by decide)]
  let one : Json.Figure := ⟨false, ⟨['1'], by simp⟩, none, none, by simp⟩
  let tree : Tree := .object [(x, .array [.object [], .number one]),
    (id, .string [.short '/' '/' rfl]), (kind, .null)]
  have spells : tree.Spells
      " \x7b\"x\": [ \x7b \x7d,1],\n\"\\u0069d\" :\"\\/\" ,\"type\":null\x7d " :=
    Json.spaced_flatMap
      [([' '], ['\x7b']), ([], ['"', 'x', '"']), ([], [':']), ([' '], ['[']), ([' '], ['\x7b']),
        ([' '], ['\x7d']), ([], [',']), ([], ['1']), ([], [']']), ([], [',']),
        (['\n'], ['"', '\\', 'u', '0', '0', '6', '9', 'd', '"']), ([' '], [':']),
        ([], ['"', '\\', '/', '"']), ([' '], [',']), ([], ['"', 't', 'y', 'p', 'e', '"']),
        ([], [':']), ([], ['n', 'u', 'l', 'l']), ([], ['\x7d'])]
      [' '] (by simp [Json.isBlank]) (by simp [Json.isBlank])
  have told : ServiceAnnouncement.ofTree? tree = some ⟨some "/", none, none⟩ := by decide +kernel
  exact (decoded_by_content.2.2.1.parse spells _).2 told

end Roster
