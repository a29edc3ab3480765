import Roster.Api
import Roster.Peer
import Roster.Proofs.Json.Form

/-!
All that travels reads back: services, entries, announcements and phases. Entries arrive as they
were sent, as the content of an answer that lists them and as that of a request that offers one.
-/

namespace Roster

open Json (Form Fields)

/-- Each field of a service reads back, and no two of the six share a name. -/
theorem Service.faithful_fields : Service.fields.Faithful :=
  -- Six fields of different names, five texts and a list of pairs.
  ⟨Form.faithful_text, by decide, Form.faithful_text, by decide, Form.faithful_text, by decide,
    Form.faithful_text, by decide, Form.faithful_text, by decide, Form.faithful_properties,
    by decide, trivial⟩

/-- Services read back. -/
theorem Service.faithful_form : Service.form.Faithful :=
  -- A service is its fields, in a structure.
  Service.faithful_fields.record.convert fun _ => rfl

theorem Service.opens_form : Service.form.Opens := (Fields.opens_record Service.fields).convert _ _

/-- Each field of an entry reads back, and no two of the five share a name. -/
theorem Entry.faithful_fields : Entry.fields.Faithful := by
  -- Three of the fields may be null, and nothing else starts like a null.
  have services := (Service.faithful_form.list Service.opens_form).optional (Form.opens_list _)
  have age := Form.faithful_millis.optional Form.opens_millis
  have announcer := Form.faithful_text.optional Form.opens_text
  exact ⟨Form.faithful_text, by decide, services, by decide, Form.faithful_millis, by decide, age,
    by decide, announcer, by decide, trivial⟩

/-- Entries read back. -/
theorem Entry.faithful_form : Entry.form.Faithful :=
  -- An entry is its fields, in a structure.
  Entry.faithful_fields.record.convert fun _ => rfl

theorem Entry.opens_form : Entry.form.Opens := (Fields.opens_record Entry.fields).convert _ _

/-- Submitted services read back. -/
theorem ServiceAnnouncement.faithful_form : ServiceAnnouncement.form.Faithful := by
  have word := Form.faithful_text.optional Form.opens_text
  have properties := Form.faithful_properties.optional Form.opens_properties
  -- No two of the three fields share a name.
  have fields : ServiceAnnouncement.fields.Faithful :=
    ⟨word, by decide, word, by decide, properties, by decide, trivial⟩
  exact fields.record.convert fun _ => rfl

theorem ServiceAnnouncement.opens_form : ServiceAnnouncement.form.Opens :=
  (Fields.opens_record ServiceAnnouncement.fields).convert _ _

/-- Announcements read back. -/
theorem Announcement.faithful_form : Announcement.form.Faithful := by
  have services := ServiceAnnouncement.faithful_form.list ServiceAnnouncement.opens_form
  have age := Form.faithful_millis.optional Form.opens_millis
  -- No two of the five fields share a name.
  have fields : Announcement.fields.Faithful :=
    ⟨Form.faithful_text, by decide, Form.faithful_text, by decide, Form.faithful_text, by decide,
      services, by decide, age, by decide, trivial⟩
  exact fields.record.convert fun _ => rfl

/-- Each phase has a name of its own. -/
theorem Phase.ofName?_name (phase : Phase) : Phase.ofName? phase.name = some phase := by
  cases phase <;> decide

/-- Phases read back by their names. -/
theorem Phase.faithful_form : Phase.form.Faithful := by
  intro phase json written rest follows
  rw [written.eq_str]
  have name : Form.readText ((Json.str phase.name).chars ++ rest) = .ok (phase.name, rest) :=
    Form.faithful_text phase.name (.refl _) follows
  -- The quote sends the reader to names and not to objects.
  show Phase.readName ((Json.str phase.name).chars ++ rest) = _
  simp only [Phase.readName, name, Phase.ofName?_name]

/-- The text that some bytes encode is what they were encoded from. -/
theorem fromUTF8?_toUTF8 (text : String) : String.fromUTF8? text.toUTF8 = some text := by
  unfold String.fromUTF8?
  -- The bytes of a text are valid, so they are taken for that text.
  rw [String.toUTF8_eq_toByteArray, dif_pos text.isValidUTF8]
  rfl

/-- The entries in the content of an answer are those that the content was written for. -/
theorem Peer.entriesIn?_of_writes {entries : List Entry} {text : String}
    (written : Entry.form.list.Writes entries text) :
    Peer.entriesIn? text.toUTF8 = some entries := by
  -- The bytes are those of a text, and the text was written as a list of entries.
  have parsed := (Entry.faithful_form.list Entry.opens_form).parse written
  rw [Peer.entriesIn?, fromUTF8?_toUTF8]
  show (Entry.form.list.parse text).toOption = _
  rw [parsed]
  rfl

/-- A peer that answers with a text gives the entries that the text was written for. -/
theorem Peer.fetched_of_writes {entries : List Entry} {text : String}
    (written : Entry.form.list.Writes entries text) (uri : String) :
    Peer.fetched uri (.ok ⟨.ok, none, text.toUTF8⟩) = .ok entries := by
  have read := Peer.entriesIn?_of_writes written
  -- The answer is a success, and its kind has content.
  simp only [Peer.fetched, Http.Answer.content, show Http.Status.ok.isSuccess = true from rfl,
    show ¬(Http.Status.ok.code = 204 ∨ Http.Status.ok.code = 304) by decide, if_false]
  simp only [read]
  rfl

/-- The content of a JSON request is the value it was written for, unless it is too long. -/
theorem Api.readBody_of_writes {α : Type} {form : Form α} (faithful : form.Faithful)
    (method target : String) {value : α} {text : String} (written : form.Writes value text) :
    Api.readBody form ⟨method, target, some "application/json", text.toUTF8⟩ =
      if Api.bodyLimit < text.toUTF8.size then .error .payloadTooLarge else .ok value := by
  have isJson : ((some "application/json").bind Http.MediaType.parse?).any
      Http.MediaType.isJson = true := by
    decide +kernel
  unfold Api.readBody
  rw [isJson]
  show (if Api.bodyLimit < text.toUTF8.size then _ else _) = _
  -- Content within the limit is a text, and the text reads back.
  rw [fromUTF8?_toUTF8]
  simp only [faithful.parseFront written]

end Roster
