import Roster.Announcement
import Roster.Json.Any
import Roster.Migration

/-! The forms in which entries and announcements travel between nodes and clients. -/

namespace Roster

open Json (Form Fields)

/-- Services travel as records. -/
def Service.fields :=
  Fields.field "id" Form.text .refused <|
  .field "nodeId" Form.text .refused <|
  .field "type" Form.text .refused <|
  .field "pool" Form.text .refused <|
  .field "location" Form.text .refused <|
  .field "properties" Form.properties .refused <|
  .done

/-- Services. -/
def Service.form : Form Service :=
  Service.fields.record.convert
    (fun (id, nodeId, kind, pool, location, properties, ()) =>
      { id, nodeId, kind, pool, location, properties })
    (fun service =>
      (service.id, service.nodeId, service.kind, service.pool, service.location,
        service.properties, ()))

/-- Entries travel as records, in which the services, the age and the announcer may be left out. -/
def Entry.fields :=
  Fields.field "nodeId" Form.text .refused <|
  .field "services" Service.form.list.optional (.inObject none) <|
  .field "timestamp" Form.millis .refused <|
  .field "maxAgeInMs" Form.millis.optional (.inObject none) <|
  .field "announcer" Form.text.optional (.inObject none) <|
  .done

/-- Entries. -/
def Entry.form : Form Entry :=
  Entry.fields.record.convert
    (fun (nodeId, services, timestamp, maxAge, announcer, ()) =>
      { nodeId, services, timestamp, maxAge, announcer })
    (fun entry =>
      (entry.nodeId, entry.services, entry.timestamp, entry.maxAge, entry.announcer, ()))

/-- Submitted services travel as records in which everything may be left out. -/
def ServiceAnnouncement.fields :=
  Fields.field "id" Form.text.optional (.inObject none) <|
  .field "type" Form.text.optional (.inObject none) <|
  .field "properties" Form.properties.optional (.inObject none) <|
  .done

/-- Submitted services. -/
def ServiceAnnouncement.form : Form ServiceAnnouncement :=
  ServiceAnnouncement.fields.record.convert
    (fun (id, kind, properties, ()) => { id, kind, properties })
    (fun service => (service.id, service.kind, service.properties, ()))

/-- Announcements travel as records whose age may be left out, of an array too. -/
def Announcement.fields :=
  Fields.field "environment" Form.text .refused <|
  .field "pool" Form.text .refused <|
  .field "location" Form.text .refused <|
  .field "services" ServiceAnnouncement.form.list .refused <|
  .field "maxAgeInMs" Form.millis.optional (.anywhere none) <|
  .done

/-- Announcements. -/
def Announcement.form : Form Announcement :=
  Announcement.fields.record.convert
    (fun (environment, pool, location, services, maxAge, ()) =>
      { environment, pool, location, services, maxAge })
    (fun announcement =>
      (announcement.environment, announcement.pool, announcement.location,
        announcement.services, announcement.maxAge, ()))

namespace Phase

open Json

/-- Reads the name of a phase. -/
def readName (text : List Char) : Reading Phase :=
  match Form.readText text with
  | .error fault => .error fault
  | .ok (name, rest) =>
    match ofName? name with
    | some phase => .ok (phase, rest)
    | none => .error .mismatched

theorem readName_shorter {text rest : List Char} {phase : Phase}
    (done : readName text = .ok (phase, rest)) : rest.length < text.length := by
  -- The name is a text, which takes up characters, and nothing is read behind it.
  simp only [readName] at done
  split at done
  · simp at done
  · rename_i found
    have := Form.readText_shorter found
    split at done
    · simp only [Except.ok.injEq, Prod.mk.injEq] at done
      exact done.2 ▸ this
    · simp at done

/-- Reads the null that stands for having nothing to say. -/
def readNothing (text : List Char) : Except Fault (List Char) :=
  match trim text with
  | 'n' :: rest => word ['u', 'l', 'l'] rest
  | other => .error (mismatch other)

theorem readNothing_shorter {text rest : List Char} (done : readNothing text = .ok rest) :
    rest.length < text.length := by
  -- One character is gone before the rest of the word is read.
  simp only [readNothing] at done
  split at done
  · rename_i front
    have := length_lt_of_trim front
    have := word_shorter done
    omega
  · simp at done

/-- Reads the rest of an object with a phase for its only member and null for the value. -/
def readSole (text : List Char) : Reading Phase :=
  match readName text with
  | .error fault => .error fault
  | .ok (phase, afterName) =>
    match colon afterName >>= readNothing with
    | .error fault => .error fault
    | .ok afterValue =>
      match trim afterValue with
      | [] => .error .truncated
      | '\x7d' :: rest => .ok (phase, rest)
      | _ => .error .malformed

theorem readSole_shorter {text rest : List Char} {phase : Phase}
    (done : readSole text = .ok (phase, rest)) : rest.length < text.length := by
  -- Every one of the five parts takes something away or leaves the text as it is.
  simp only [readSole] at done
  split at done
  · simp at done
  · rename_i name
    have := readName_shorter name
    split at done
    · simp at done
    · rename_i nothing
      simp only [bind, Except.bind] at nothing
      split at nothing
      · simp at nothing
      · rename_i separator
        have := colon_shorter separator
        have := readNothing_shorter nothing
        split at done
        · simp at done
        · rename_i close
          have := length_lt_of_trim close
          simp only [Except.ok.injEq, Prod.mk.injEq] at done
          rw [← done.2]
          omega
        · simp at done

/-- Reads a phase, from its name or from an object with that one member. -/
def readPhase (text : List Char) : Reading Phase :=
  match trim text with
  | [] => .error .truncated
  | '"' :: _ => readName text
  | '\x7b' :: rest => readSole rest
  | _ => .error .malformed

theorem readPhase_shorter {text rest : List Char} {phase : Phase}
    (done : readPhase text = .ok (phase, rest)) : rest.length < text.length := by
  -- Either form of a phase takes up characters.
  simp only [readPhase] at done
  split at done
  · simp at done
  · exact readName_shorter done
  · rename_i front
    have := length_lt_of_trim front
    have := readSole_shorter done
    omega
  · simp at done

/-- Phases. -/
def form : Form Phase where
  read := readPhase
  shorter := readPhase_shorter
  accept
    | .str name => ofName? name
    | .obj [(name, .null)] => ofName? name
    | _ => none
  write phase := .str phase.name

end Phase

end Roster
