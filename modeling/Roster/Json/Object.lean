import Roster.Json.Form

/-! Forms of JSON objects: dictionaries, and records with named fields. -/

namespace Roster.Json

/-- What is done with each member of an object, from the text after its name on. -/
structure MemberStep (σ : Type) where
  run : σ → String → List Char → Reading σ
  shorter : ∀ {state name text next rest},
    run state name text = .ok (next, rest) → rest.length < text.length

/-- Reads members up to the closing brace, after the opening brace or a comma. -/
def readMembers {σ : Type} (step : MemberStep σ) (state : σ) (text : List Char) : Reading σ :=
  match _ : trim text with
  | [] => .error .truncated
  | '"' :: rest =>
    match _ : stringFrom [] rest with
    | .error fault => .error fault
    | .ok (name, afterName) =>
      match _ : step.run state name afterName with
      | .error fault => .error fault
      | .ok (next, afterValue) =>
        match _ : trim afterValue with
        | [] => .error .truncated
        | ',' :: more => readMembers step next more
        | '\x7d' :: more => .ok (next, more)
        | _ => .error .malformed
  | _ => .error .malformed
termination_by text.length
decreasing_by
  have := length_lt_of_trim ‹trim text = _ :: _›
  have := stringFrom_shorter ‹stringFrom _ rest = _›
  have := step.shorter ‹step.run _ _ afterName = _›
  have := length_lt_of_trim ‹trim afterValue = _ :: _›
  omega

theorem readMembers_shorter {σ : Type} {step : MemberStep σ} {state final : σ}
    {text rest : List Char} (done : readMembers step state text = .ok (final, rest)) :
    rest.length < text.length := by
  -- The recursion is that of the reader: a member, and then a comma with more members or the end.
  rw [readMembers.eq_def] at done
  split at done
  · simp at done
  · rename_i front
    have := length_lt_of_trim front
    split at done
    · simp at done
    · rename_i name
      have := stringFrom_shorter name
      split at done
      · simp at done
      · rename_i value
        have := step.shorter value
        split at done
        · simp at done
        · rename_i more comma
          have shrunk : more.length < text.length := by
            have := length_lt_of_trim comma
            omega
          have := readMembers_shorter done
          omega
        · rename_i close
          have := length_lt_of_trim close
          simp only [Except.ok.injEq, Prod.mk.injEq] at done
          rw [← done.2]
          omega
        · simp at done
  · simp at done
termination_by text.length

/-- Reads an object. -/
def readObject {σ : Type} (step : MemberStep σ) (start : σ) (text : List Char) : Reading σ :=
  match trim text with
  | '\x7b' :: rest =>
    match trim rest with
    | '\x7d' :: more => .ok (start, more)
    | _ => readMembers step start rest
  | other => .error (mismatch other)

theorem readObject_shorter {σ : Type} {step : MemberStep σ} {start final : σ}
    {text rest : List Char} (done : readObject step start text = .ok (final, rest)) :
    rest.length < text.length := by
  -- The opening brace is gone, whether members follow it or the closing one does.
  simp only [readObject] at done
  split at done
  · rename_i front
    have := length_lt_of_trim front
    split at done
    · rename_i close
      have := length_lt_of_trim close
      simp only [Except.ok.injEq, Prod.mk.injEq] at done
      rw [← done.2]
      omega
    · have := readMembers_shorter done
      omega
  · simp at done

namespace Form

/-- Reads a colon and then a value. -/
def readAfterColon {α : Type} (form : Form α) (text : List Char) : Reading α :=
  match colon text with
  | .error fault => .error fault
  | .ok rest => form.read rest

theorem readAfterColon_shorter {α : Type} {form : Form α} {text rest : List Char} {value : α}
    (done : readAfterColon form text = .ok (value, rest)) : rest.length < text.length := by
  -- The colon and the value come off one after the other.
  simp only [readAfterColon] at done
  split at done
  · simp at done
  · rename_i separator
    have := colon_shorter separator
    have := form.shorter done
    omega

/-- Collects the values of all members with their names, the latest first. -/
def collect {α : Type} (form : Form α) : MemberStep (List (String × α)) where
  run state name text :=
    (readAfterColon form text).map fun (value, rest) => ((name, value) :: state, rest)
  shorter {state name text next rest} done := by
    cases found : readAfterColon form text with
    | error fault => simp [found, Except.map] at done
    | ok pair =>
      have := readAfterColon_shorter found
      simp only [found, Except.map, Except.ok.injEq, Prod.mk.injEq] at done
      rw [← done.2]
      exact this

/-- Objects with members of any names, in their order. -/
def members {α : Type} (form : Form α) : Form (List (String × α)) where
  read text := (readObject (collect form) [] text).map fun (found, rest) => (found.reverse, rest)
  shorter {text value rest} done := by
    cases found : readObject (collect form) [] text with
    | error fault => simp [found, Except.map] at done
    | ok pair =>
      have := readObject_shorter found
      simp only [found, Except.map, Except.ok.injEq, Prod.mk.injEq] at done
      rw [← done.2]
      exact this
  accept
    | .obj found => found.mapM fun (name, json) => (form.accept json).map fun value => (name, value)
    | _ => none
  write values := .obj (values.map fun (name, value) => (name, form.write value))

/-- The form of a type whose values stand for those of another. -/
def convert {α β : Type} (form : Form α) (toValue : α → β) (fromValue : β → α) : Form β where
  read text := (form.read text).map fun (value, rest) => (toValue value, rest)
  shorter {text value rest} done := by
    cases found : form.read text with
    | error fault => simp [found, Except.map] at done
    | ok pair =>
      have := form.shorter found
      simp only [found, Except.map, Except.ok.injEq, Prod.mk.injEq] at done
      rw [← done.2]
      exact this
  accept json := (form.accept json).map toValue
  write value := form.write (fromValue value)

/-- Text values by text key, where the last of several values of a key counts. -/
def properties : Form Properties := (members text).convert Index.ofList Index.items

end Form

/-- What a record's field is when it is not given. -/
inductive Lacking (α : Type) where
  -- The field has to be given.
  | refused
  -- An object may leave the field out, with this meaning.
  | inObject (value : α)
  -- An object and an array may leave the field out, with this meaning.
  | anywhere (value : α)

/-- The meaning of a field that an object leaves out. -/
def Lacking.inObject? {α : Type} : Lacking α → Option α
  | refused => none
  | inObject value => some value
  | anywhere value => some value

/-- The meaning of a field that an array leaves out. -/
def Lacking.inArray? {α : Type} : Lacking α → Option α
  | refused => none
  | inObject _ => none
  | anywhere value => some value

/-- The fields of a record in order, with the type of its values and that of its parts so far. -/
inductive Fields : Type → Type → Type 1
  | done : Fields Unit Unit
  | field {α β δ : Type} (name : String) (form : Form α) (lacking : Lacking α)
      (rest : Fields β δ) : Fields (α × β) (Option α × δ)

namespace Fields

/-- A record of which no field has been given. -/
def blank {α δ : Type} : Fields α δ → δ
  | done => ()
  | field _ _ _ rest => (none, rest.blank)

/-- Reads one member into a record; members of other names are passed over. -/
def assign {α δ : Type} : Fields α δ → δ → String → List Char → Reading δ
  | done, _, _, text =>
    match colon text with
    | .error fault => .error fault
    | .ok rest => (skip rest).map fun more => ((), more)
  | field name form _ rest, (given, others), key, text =>
    if key = name then
      -- A second value is refused before it is read.
      if given.isSome then .error .mismatched
      else (Form.readAfterColon form text).map fun (value, more) => ((some value, others), more)
    else (rest.assign others key text).map fun (others, more) => ((given, others), more)

theorem assign_shorter {α δ : Type} (fields : Fields α δ) {state next : δ} {key : String}
    {text rest : List Char} (done : fields.assign state key text = .ok (next, rest)) :
    rest.length < text.length := by
  -- The induction is on the fields, among which the name is looked for.
  induction fields generalizing rest with
  | done =>
    simp only [assign] at done
    split at done
    · simp at done
    · rename_i tail separator
      have := colon_shorter separator
      cases found : skip tail with
      | error fault => simp [found, Except.map] at done
      | ok more =>
        have := skip_shorter found
        simp only [found, Except.map, Except.ok.injEq, Prod.mk.injEq] at done
        rw [← done.2]
        omega
  | field name form lacking others ih =>
    obtain ⟨given, remaining⟩ := state
    simp only [assign] at done
    split at done
    · split at done
      · simp at done
      · cases found : Form.readAfterColon form text with
        | error fault => simp [found, Except.map] at done
        | ok pair =>
          have := Form.readAfterColon_shorter found
          simp only [found, Except.map, Except.ok.injEq, Prod.mk.injEq] at done
          rw [← done.2]
          exact this
    · cases found : others.assign remaining key text with
      | error fault => simp [found, Except.map] at done
      | ok pair =>
        have := ih found
        simp only [found, Except.map, Except.ok.injEq, Prod.mk.injEq] at done
        rw [← done.2]
        exact this

/-- The record of the given parts, if every part that is missing may be. -/
def finish {α δ : Type} : Fields α δ → δ → Option α
  | done, () => some ()
  | field _ _ lacking rest, (given, others) => do
    let value ← given.or lacking.inObject?
    let values ← rest.finish others
    return (value, values)

/-- Reads the fields of a record from the items of an array, up to the closing bracket. -/
def readItems {α δ : Type} : Fields α δ → Bool → List Char → Reading α
  | done, _, text =>
    match trim text with
    | [] => .error .truncated
    | ']' :: rest => .ok ((), rest)
    | _ => .error .malformed
  | field _ form lacking rest, first, text =>
    match trim text with
    | [] => .error .truncated
    | ']' :: more =>
      match lacking.inArray? with
      | none => .error .mismatched
      | some value =>
        (rest.readItems first (']' :: more)).map fun (values, last) => ((value, values), last)
    | c :: more =>
      if c = ',' ∨ first then
        -- The first item follows the bracket and each later one a comma.
        match form.read (if first then c :: more else more) with
        | .error fault => .error fault
        | .ok (value, afterValue) =>
          (rest.readItems false afterValue).map fun (values, last) => ((value, values), last)
      else .error .malformed

theorem readItems_shorter {α δ : Type} (fields : Fields α δ) {first : Bool} {value : α}
    {text rest : List Char} (done : fields.readItems first text = .ok (value, rest)) :
    rest.length < text.length := by
  -- The induction is on the fields, which take the items in order.
  induction fields generalizing first text rest with
  | done =>
    simp only [readItems] at done
    split at done
    · simp at done
    · rename_i front
      simp only [Except.ok.injEq, Prod.mk.injEq] at done
      exact done.2 ▸ length_lt_of_trim front
    · simp at done
  | field name form lacking others ih =>
    simp only [readItems] at done
    split at done
    · simp at done
    · rename_i more front
      have bound := length_trim_le text
      rw [front] at bound
      split at done
      · simp at done
      · cases found : others.readItems first (']' :: more) with
        | error fault => simp [found, Except.map] at done
        | ok pair =>
          have := ih found
          simp only [found, Except.map, Except.ok.injEq, Prod.mk.injEq] at done
          rw [← done.2]
          omega
    · rename_i front
      have bound := length_trim_le text
      rw [front, List.length_cons] at bound
      split at done
      · split at done
        · simp at done
        · rename_i afterValue read
          have taken := form.shorter read
          cases found : others.readItems false afterValue with
          | error fault => simp [found, Except.map] at done
          | ok pair =>
            have := ih found
            simp only [found, Except.map, Except.ok.injEq, Prod.mk.injEq] at done
            rw [← done.2]
            split at taken
            · simp only [List.length_cons] at taken
              omega
            · omega
      · simp at done

/-- The record whose fields are the items of an array. -/
def acceptItems {α δ : Type} : Fields α δ → List Json → Option α
  | done, items => if items.isEmpty then some () else none
  | field _ _ lacking rest, [] => do return (← lacking.inArray?, ← rest.acceptItems [])
  | field _ form _ rest, item :: items => do
    return (← form.accept item, ← rest.acceptItems items)

/-- The record whose fields are members of an object. -/
def acceptMembers {α δ : Type} : Fields α δ → List (String × Json) → Option α
  | done, _ => some ()
  | field name form lacking rest, members => do
    let value ← match member? members name with
      | some json => form.accept json
      | none => lacking.inObject?
    return (value, ← rest.acceptMembers members)

/-- All fields of a record by name. -/
def writeMembers {α δ : Type} : Fields α δ → α → List (String × Json)
  | done, _ => []
  | field name form _ rest, (value, values) => (name, form.write value) :: rest.writeMembers values

/-- The members of an object go to the fields of a record. -/
def step {α δ : Type} (fields : Fields α δ) : MemberStep δ where
  run := fields.assign
  shorter := fields.assign_shorter

/-- Reads a record, from an object or from an array. -/
def read {α δ : Type} (fields : Fields α δ) (text : List Char) : Reading α :=
  match trim text with
  | '[' :: rest => fields.readItems true rest
  | other =>
    match readObject fields.step fields.blank other with
    | .error fault => .error fault
    | .ok (given, rest) =>
      match fields.finish given with
      | some value => .ok (value, rest)
      | none => .error .mismatched

theorem read_shorter {α δ : Type} (fields : Fields α δ) {text rest : List Char} {value : α}
    (done : fields.read text = .ok (value, rest)) : rest.length < text.length := by
  -- A bracket means that the fields come as a list, and all else is read as an object.
  simp only [read] at done
  split at done
  · rename_i front
    have := length_lt_of_trim front
    have := fields.readItems_shorter done
    omega
  · have bound := length_trim_le text
    split at done
    · simp at done
    · rename_i object
      have := readObject_shorter object
      split at done
      · simp only [Except.ok.injEq, Prod.mk.injEq] at done
        rw [← done.2]
        omega
      · simp at done

/-- Records with the given fields, written as objects. -/
def record {α δ : Type} (fields : Fields α δ) : Form α where
  read := fields.read
  shorter := fields.read_shorter
  accept
    | .arr items => fields.acceptItems items
    | .obj members => fields.acceptMembers members
    | _ => none
  write value := .obj (fields.writeMembers value)

end Fields

end Roster.Json
