import Roster.Json.Any
import Roster.Proofs.Json.Numeral
import Roster.Proofs.Json.Order

/-!
What a form writes it reads back, in whichever order the members of objects are written and
whatever follows the text: forms of simple values do, and forms that are put together from such
forms do too.
-/

namespace Roster.Json

/-- Blanks are looked for in vain in front of another character. -/
theorem trim_cons {c : Char} (printed : isBlank c = false) (rest : List Char) :
    trim (c :: rest) = c :: rest :=
  List.dropWhile_cons_of_neg (by simp [printed])

/-- The first member stands in front of the others. -/
theorem memberChars_cons (name : String) (value : Json) (rest : List (String × Json)) :
    memberChars ((name, value) :: rest) =
      quote name ++
        ':' :: (value.chars ++ if rest.isEmpty then [] else ',' :: memberChars rest) := by
  cases rest <;> simp [memberChars]

/-- What stands behind a member of an object follows a value. -/
theorem follows_members (members : List (String × Json)) (rest : List Char) :
    Follows ((if members.isEmpty then [] else ',' :: memberChars members) ++ '\x7d' :: rest) := by
  -- What stands behind a member is the closing brace or the comma before the next one.
  cases members with
  | nil => exact follows_brace rest
  | cons member members => exact follows_comma _

namespace Form

/-- Whether a form reads what it writes, whatever follows the text of a value. -/
def Faithful {α : Type} (form : Form α) : Prop :=
  ∀ (value : α) {json : Json}, Reorders (form.write value) json →
    ∀ {rest : List Char}, Follows rest → form.read (json.chars ++ rest) = .ok (value, rest)

/-- Whether the texts of a form start with nothing that ends a list or stands for no value. -/
def Opens {α : Type} (form : Form α) : Prop :=
  ∀ value {json : Json}, Reorders (form.write value) json →
    ∃ c tail, json.chars = c :: tail ∧ isBlank c = false ∧ c ≠ ']' ∧ c ≠ 'n'

theorem opens_text : text.Opens := by
  -- Reordering changes no string, and every string is written with a quote in front.
  intro value json written
  rw [written.eq_str]
  exact ⟨'"', _, rfl, rfl, by decide, by decide⟩

/-- Texts read back. -/
theorem faithful_text : text.Faithful := by
  intro value json written rest _
  rw [written.eq_str]
  -- Behind the opening quote the text is read up to the closing one.
  have unquoted := stringFrom_quoted [] value.toList rest
  rw [List.reverse_nil, List.nil_append, String.ofList_toList] at unquoted
  show readText (quote value ++ rest) = _
  simpa [readText, quote, trim_cons (show isBlank '"' = false from rfl)] using unquoted

/-- An integer starts with a minus sign or a digit. -/
theorem intText_head (n : Int) :
    ∃ c tail, intText n = c :: tail ∧ (c = '-' ∨ c.isDigit = true) := by
  cases n with
  | ofNat m =>
    -- The decimal text of a number is not empty and holds digits only.
    cases spelled : Nat.toDigits 10 m with
    | nil => exact absurd spelled Nat.toDigits_ne_nil
    | cons c tail =>
      refine ⟨c, tail, spelled, .inr ?_⟩
      exact Nat.isDigit_of_mem_toDigits (by decide) (by decide) (spelled ▸ List.mem_cons_self)
  | negSucc m => exact ⟨'-', _, rfl, .inl rfl⟩

/-- A minus sign and digits are printed, end no list and start no word. -/
theorem head_cases {c : Char} (front : c = '-' ∨ c.isDigit = true) :
    isBlank c = false ∧ c ≠ ']' ∧ c ≠ 'n' := by
  -- Neither a digit nor a minus sign is a blank, a bracket or a letter.
  refine ⟨?_, ?_, ?_⟩
  · cases blank : isBlank c with
    | false => rfl
    | true =>
      simp only [isBlank, Bool.or_eq_true, beq_iff_eq] at blank
      rcases blank with ((rfl | rfl) | rfl) | rfl <;> simp at front
  · rintro rfl
    simp at front
  · rintro rfl
    simp at front

theorem opens_millis : millis.Opens := by
  -- Reordering changes no number, and a number starts with a digit or a minus sign.
  intro value json written
  obtain ⟨c, tail, spelled, front⟩ := intText_head value.val
  rw [written.eq_int]
  exact ⟨c, tail, by simpa [millis, chars] using spelled, head_cases front⟩

/-- Whole milliseconds read back, since they have 64 bits. -/
theorem faithful_millis : millis.Faithful := by
  intro value json written rest follows
  rw [written.eq_int]
  have read := number_intText value.inRange.1 value.inRange.2 follows
  -- The first letter sends the reader to numbers.
  obtain ⟨c, tail, spelled, front⟩ := intText_head value.val
  rw [spelled, List.cons_append] at read
  show readMillis (intText value.val ++ rest) = _
  rw [spelled, List.cons_append]
  simp [readMillis, trim_cons (head_cases front).1, front, read, Millis.ofInt?, value.inRange]

/-- A value that may be missing reads back, since no present one is taken for null. -/
theorem Faithful.optional {α : Type} {form : Form α} (faithful : form.Faithful)
    (opens : form.Opens) : form.optional.Faithful := by
  intro value json written rest follows
  cases value with
  | none =>
    rw [written.eq_null]
    rfl
  | some value =>
    have read := faithful value written follows
    obtain ⟨c, tail, spelled, printed, -, notNull⟩ := opens value written
    show readOptional form (json.chars ++ rest) = _
    -- The first letter of the text sends the reader to the form itself.
    have front : trim (json.chars ++ rest) = c :: (tail ++ rest) := by
      rw [spelled, List.cons_append, trim_cons printed]
    unfold readOptional
    split
    · rename_i other null
      rw [front] at null
      exact absurd (List.cons.inj null).1 notNull
    · rw [read]
      rfl

/-- Behind an item the reader goes by what stands there. -/
theorem readItems_eq {α : Type} (form : Form α) (text : List Char) :
    form.readItems text =
      match form.read text with
      | .error fault => .error fault
      | .ok (value, rest) =>
        match trim rest with
        | [] => .error .truncated
        | ',' :: more => (form.readItems more).map fun (values, last) => (value :: values, last)
        | ']' :: more => .ok ([value], more)
        | _ => .error .malformed := by
  -- The definition carries proofs that the text gets shorter; without them it is this equation.
  conv_lhs => rw [readItems.eq_def]
  split
  · simp_all
  · split
    · simp_all
    · split <;> simp_all [Except.map]
    · simp_all
    · simp_all

/-- An item in front of the closing bracket is the last one. -/
theorem readItems_last {α : Type} {form : Form α} {text rest : List Char} {value : α}
    (read : form.read text = .ok (value, ']' :: rest)) :
    form.readItems text = .ok ([value], rest) := by
  -- A bracket behind the item ends the list.
  rw [readItems_eq, read]
  rfl

/-- After an item in front of a comma the others are read. -/
theorem readItems_next {α : Type} {form : Form α} {text more rest : List Char} {value : α}
    {values : List α} (read : form.read text = .ok (value, ',' :: more))
    (others : form.readItems more = .ok (values, rest)) :
    form.readItems text = .ok (value :: values, rest) := by
  -- A comma behind the item leads to the others.
  rw [readItems_eq, read]
  show (form.readItems more).map _ = _
  rw [others]
  rfl

/-- The items of a list read back up to the closing bracket. -/
theorem Faithful.readItems {α : Type} {form : Form α} (faithful : form.Faithful) {value : α}
    {item : Json} (first : Reorders (form.write value) item) {values : List α} {items : List Json}
    (others : List.Forall₂ (fun value item => Reorders (form.write value) item) values items)
    (rest : List Char) :
    form.readItems (itemChars (item :: items) ++ ']' :: rest) = .ok (value :: values, rest) := by
  induction others generalizing value item with
  | nil =>
    -- The last item stands in front of the bracket.
    exact readItems_last (faithful value first (follows_bracket rest))
  | @cons _ second _ more next others ih =>
    -- A comma follows the first item, and the others come behind it.
    have read := faithful value first (follows_items (second :: more) rest)
    rw [itemChars_cons, List.append_assoc]
    exact readItems_next read (ih next)

/-- Behind the opening bracket items are read, unless the closing one stands there. -/
theorem readList_bracket {α : Type} {form : Form α} {c : Char} {text tail : List Char}
    (front : trim text = c :: tail) (notEnd : c ≠ ']') :
    form.readList ('[' :: text) = form.readItems text := by
  -- The bracket that opens the list is no blank, and the list does not end at once.
  simp [readList, trim_cons (show isBlank '[' = false from rfl), front, notEnd]

/-- A list of values that read back reads back, since no item is taken for its end. -/
theorem Faithful.list {α : Type} {form : Form α} (faithful : form.Faithful) (opens : form.Opens) :
    form.list.Faithful := by
  intro values json written rest _
  obtain ⟨items, rfl, each⟩ := written.items
  rw [List.forall₂_map_left_iff] at each
  show readList form ('[' :: itemChars items ++ [']'] ++ rest) = _
  rw [List.append_assoc, List.singleton_append, List.cons_append]
  cases each with
  | nil => rfl
  | @cons value item values items first others =>
    -- The first item does not start with the bracket that ends the list.
    obtain ⟨c, tail, spelled, printed, notEnd, -⟩ := opens value first
    have front : ∃ tail, trim (itemChars (item :: items) ++ ']' :: rest) = c :: tail := by
      rw [itemChars_cons, spelled, List.cons_append, List.cons_append, trim_cons printed]
      exact ⟨_, rfl⟩
    obtain ⟨tail, front⟩ := front
    rw [readList_bracket front notEnd]
    exact faithful.readItems first others rest

theorem opens_list {α : Type} (form : Form α) : form.list.Opens := by
  -- Reordering a list gives a list, and a list is written with a bracket in front.
  intro values json written
  obtain ⟨items, rfl, -⟩ := written.items
  exact ⟨'[', _, rfl, rfl, by decide, by decide⟩

/-- A form reads back if the values it stands for do and each is given back by its stand-in. -/
theorem Faithful.convert {α β : Type} {form : Form α} (faithful : form.Faithful)
    {toValue : α → β} {fromValue : β → α} (inverse : ∀ value, toValue (fromValue value) = value) :
    (form.convert toValue fromValue).Faithful := by
  intro value json written rest follows
  -- The stand-in is read first and then turned back.
  have read := faithful (fromValue value) written follows
  show (form.read (json.chars ++ rest)).map _ = _
  rw [read]
  exact congrArg (fun value => Except.ok (value, rest)) (inverse value)

theorem Opens.convert {α β : Type} {form : Form α} (opens : form.Opens) (toValue : α → β)
    (fromValue : β → α) : (form.convert toValue fromValue).Opens :=
  -- A converted value is written as the value it comes from.
  fun value => opens (fromValue value)

end Form

/-- Reading members leads from one state to another, whatever follows each member. -/
inductive Loads {σ : Type} (step : MemberStep σ) : σ → List (String × Json) → σ → Prop
  | done (state : σ) : Loads step state [] state
  | member {state next final : σ} {name : String} {value : Json} {rest : List (String × Json)}
      (taken : ∀ {after : List Char}, Follows after →
        step.run state name (':' :: (value.chars ++ after)) = .ok (next, after))
      (others : Loads step next rest final) : Loads step state ((name, value) :: rest) final

/-- The reader goes by the name of a member, and then by what stands behind the member. -/
theorem readMembers_eq {σ : Type} (step : MemberStep σ) (state : σ) (text : List Char) :
    readMembers step state text =
      match trim text with
      | [] => .error .truncated
      | '"' :: body =>
        match stringFrom [] body with
        | .error fault => .error fault
        | .ok (name, after) =>
          match step.run state name after with
          | .error fault => .error fault
          | .ok (next, rest) =>
            match trim rest with
            | [] => .error .truncated
            | ',' :: more => readMembers step next more
            | '\x7d' :: more => .ok (next, more)
            | _ => .error .malformed
      | _ => .error .malformed := by
  -- The definition carries proofs that the text gets shorter; without them it is this equation.
  conv_lhs => rw [readMembers.eq_def]
  split
  · simp_all
  · split
    · simp_all
    · split
      · simp_all
      · split <;> simp_all
  · simp_all

/-- Behind a name the step takes the member, and the reader goes by what stands behind that. -/
theorem readMembers_named {σ : Type} {step : MemberStep σ} {state : σ} {name : String}
    {text body after : List Char} (front : trim text = '"' :: body)
    (named : stringFrom [] body = .ok (name, after)) :
    readMembers step state text =
      match step.run state name after with
      | .error fault => .error fault
      | .ok (next, rest) =>
        match trim rest with
        | [] => .error .truncated
        | ',' :: more => readMembers step next more
        | '\x7d' :: more => .ok (next, more)
        | _ => .error .malformed := by
  -- The name has been read, so only the value and what stands behind it are left to decide.
  rw [readMembers_eq, front]
  simp only [named]

/-- A name in quotes is read as the name. -/
theorem stringFrom_quote (name : String) (rest : List Char) :
    ∃ body, quote name ++ rest = '"' :: body ∧ stringFrom [] body = .ok (name, rest) := by
  -- Quoting and reading back, from the character behind the opening quote on.
  have unquoted := stringFrom_quoted [] name.toList rest
  rw [List.reverse_nil, List.nil_append, String.ofList_toList] at unquoted
  exact ⟨_, by simp [quote], unquoted⟩

/-- After the member in front the reader goes by what stands behind it. -/
theorem readMembers_quote {σ : Type} {step : MemberStep σ} {state next : σ} {name : String}
    {text after : List Char} (taken : step.run state name text = .ok (next, after)) :
    readMembers step state (quote name ++ text) =
      match trim after with
      | [] => .error .truncated
      | ',' :: more => readMembers step next more
      | '\x7d' :: more => .ok (next, more)
      | _ => .error .malformed := by
  -- A quoted name is read back, and the value behind it is what was taken.
  obtain ⟨body, spelled, named⟩ := stringFrom_quote name text
  rw [spelled, readMembers_named (trim_cons rfl body) named, taken]

/-- Members that can be taken one by one can be read up to the closing brace. -/
theorem Loads.readMembers {σ : Type} {step : MemberStep σ} {state final : σ}
    {member : String × Json} {members : List (String × Json)}
    (loads : Loads step state (member :: members) final) (rest : List Char) :
    readMembers step state (memberChars (member :: members) ++ '\x7d' :: rest) =
      .ok (final, rest) := by
  induction members generalizing member state with
  | nil =>
    cases loads with
    | member taken others =>
      -- The last member stands in front of the brace.
      cases others
      rw [memberChars_cons, List.append_assoc, List.cons_append, List.append_assoc]
      exact readMembers_quote (taken (follows_brace rest))
  | cons next members ih =>
    cases loads with
    | member taken others =>
      rw [memberChars_cons, List.append_assoc, List.cons_append, List.append_assoc]
      exact (readMembers_quote (taken (follows_members (next :: members) rest))).trans (ih others)

/-- An object whose members can be taken one by one can be read. -/
theorem Loads.readObject {σ : Type} {step : MemberStep σ} {start final : σ}
    {members : List (String × Json)} (loads : Loads step start members final) (rest : List Char) :
    readObject step start ((Json.obj members).chars ++ rest) = .ok (final, rest) := by
  have spelled : (Json.obj members).chars ++ rest =
      '\x7b' :: (memberChars members ++ '\x7d' :: rest) := by
    simp [chars]
  unfold Json.readObject
  rw [spelled, trim_cons (show isBlank '\x7b' = false from rfl)]
  cases members with
  | nil =>
    cases loads
    rfl
  | cons member members =>
    obtain ⟨name, value⟩ := member
    -- The first member starts with the quote of its name and not with the closing brace.
    have front :
        ∃ tail, memberChars ((name, value) :: members) ++ '\x7d' :: rest = '"' :: tail := by
      rw [memberChars_cons]
      exact ⟨_, rfl⟩
    obtain ⟨tail, front⟩ := front
    have read := loads.readMembers rest
    rw [front] at read ⊢
    exact read

namespace Form

/-- Members with texts for values are collected one after the other. -/
theorem loads_collect (pairs state : List (String × String)) :
    Loads (collect text) state (pairs.map fun (name, value) => (name, .str value))
      (pairs.reverse ++ state) := by
  induction pairs generalizing state with
  | nil => exact .done state
  | cons pair pairs ih =>
    obtain ⟨name, value⟩ := pair
    -- What has been read is put in front, so it comes out in reverse.
    rw [List.reverse_cons, List.append_assoc]
    refine .member (fun {after} follows => ?_) (ih ((name, value) :: state))
    -- Behind the colon stands the value.
    have read : text.read ((Json.str value).chars ++ after) = .ok (value, after) :=
      faithful_text value (.refl _) follows
    show (text.read ((Json.str value).chars ++ after)).map _ = _
    rw [read]
    rfl

/-- Properties read back in whichever order they are written. -/
theorem faithful_properties : properties.Faithful := by
  intro value json written rest _
  obtain ⟨others, rfl, shuffles⟩ := written.members
  obtain ⟨pairs, perm, rfl⟩ := shuffles.pairs
  have read := (loads_collect pairs []).readObject rest
  rw [List.append_nil] at read
  -- The pairs come back in the order that they were written in.
  show ((readObject (collect text) [] _).map _).map _ = _
  simp only [read, Except.map, List.reverse_reverse, Index.ofList_of_perm perm]

theorem opens_properties : properties.Opens := by
  -- Reordering an object gives an object, and an object is written with a brace in front.
  intro value json written
  obtain ⟨others, rfl, -⟩ := written.members
  exact ⟨'\x7b', _, rfl, rfl, by decide, by decide⟩

end Form

namespace Fields

/-- The names of a record's fields. -/
def names {α δ : Type} : Fields α δ → List String
  | done => []
  | field name _ _ rest => name :: rest.names

/-- Whether each field of a record has a name of its own and a form that reads back. -/
def Faithful {α δ : Type} : Fields α δ → Prop
  | done => True
  | field name form _ rest => form.Faithful ∧ name ∉ rest.names ∧ rest.Faithful

/-- A record of which all fields have been given. -/
def full {α δ : Type} : Fields α δ → α → δ
  | done, () => ()
  | field _ _ _ rest, (value, values) => (some value, rest.full values)

/-- A record of which all fields are given is that record. -/
theorem finish_full {α δ : Type} (fields : Fields α δ) (value : α) :
    fields.finish (fields.full value) = some value := by
  -- Every field is given, so no default is asked for.
  induction fields with
  | done => rfl
  | field name form lacking rest ih =>
    obtain ⟨value, values⟩ := value
    simp [finish, full, ih]

/-- The members that a record is written as have the names of its fields. -/
theorem names_writeMembers {α δ : Type} (fields : Fields α δ) (value : α) :
    (fields.writeMembers value).map Prod.fst = fields.names := by
  -- One member for each field, in the fields' order.
  induction fields with
  | done => rfl
  | field name form lacking rest ih =>
    obtain ⟨value, values⟩ := value
    exact congrArg (List.cons name) (ih values)

/-- Members of other names pass a field and go to the fields behind it. -/
theorem loads_field {α β δ : Type} {name : String} (form : Form α) (lacking : Lacking α)
    {rest : Fields β δ} {state final : δ} {members : List (String × Json)} (given : Option α)
    (others : ∀ member ∈ members, member.1 ≠ name) (loads : Loads rest.step state members final) :
    Loads (field name form lacking rest).step (given, state) members (given, final) := by
  induction loads with
  | done state => exact .done _
  | member taken more ih =>
    refine .member (fun {after} follows => ?_) (ih fun member listed =>
      others member (List.mem_cons_of_mem _ listed))
    -- The field takes no member of another name.
    have passed := others _ List.mem_cons_self
    have assigned := taken follows
    simp only [step] at assigned ⊢
    rw [assign, if_neg passed, assigned]
    rfl

/-- The member of a field's own name is taken wherever it stands among the others. -/
theorem loads_insert {α β δ : Type} {name : String} {form : Form α} (lacking : Lacking α)
    {rest : Fields β δ} {state final : δ} {value : α} {json : Json}
    {before after : List (String × Json)}
    (reads : ∀ {text : List Char}, Follows text →
      form.read (json.chars ++ text) = .ok (value, text))
    (others : ∀ member ∈ before ++ after, member.1 ≠ name)
    (loads : Loads rest.step state (before ++ after) final) :
    Loads (field name form lacking rest).step (none, state) (before ++ (name, json) :: after)
      (some value, final) := by
  induction before generalizing state with
  | nil =>
    refine .member (fun {text} follows => ?_) (loads_field form lacking (some value) others loads)
    -- The field has not been given yet.
    show (if name = name then _ else _) = _
    rw [if_pos rfl]
    show (form.read (json.chars ++ text)).map _ = _
    rw [reads follows]
    rfl
  | cons member before ih =>
    cases loads with
    | @member _ next _ passed value _ taken more =>
      have behind := ih (fun member listed => others member (List.mem_cons_of_mem _ listed)) more
      refine .member (fun {text} follows => ?_) behind
      -- The member in front has another name.
      have differs : passed ≠ name := others _ List.mem_cons_self
      have assigned := taken follows
      simp only [step] at assigned ⊢
      rw [assign, if_neg differs, assigned]
      rfl

/-- A record with fields of different names is filled by its members in whichever order. -/
theorem Faithful.loads {α δ : Type} {fields : Fields α δ} (faithful : fields.Faithful) (value : α)
    {members : List (String × Json)} (written : Shuffles (fields.writeMembers value) members) :
    Loads fields.step fields.blank members (fields.full value) := by
  induction fields generalizing members with
  | done =>
    cases written
    exact .done ()
  | field name form lacking rest ih =>
    obtain ⟨value, values⟩ := value
    obtain ⟨reads, fresh, others⟩ := faithful
    cases written with
    | @cons _ _ json _ before after own more =>
      -- The members around the one of this field have names of other fields.
      refine loads_insert lacking (reads value own) (fun member listed same => fresh ?_)
        (ih others values more)
      rw [← rest.names_writeMembers values, ← more.names_perm.mem_iff, ← same]
      exact List.mem_map_of_mem listed

/-- A record reads back if its fields do and have different names. -/
theorem Faithful.record {α δ : Type} {fields : Fields α δ} (faithful : fields.Faithful) :
    fields.record.Faithful := by
  intro value json written rest _
  obtain ⟨members, rfl, shuffles⟩ := written.members
  have read := (faithful.loads value shuffles).readObject rest
  have spelled : (Json.obj members).chars ++ rest =
      '\x7b' :: (memberChars members ++ '\x7d' :: rest) := by
    simp [chars]
  show fields.read ((Json.obj members).chars ++ rest) = _
  rw [spelled] at read ⊢
  -- The brace sends the reader to objects and not to arrays.
  simp [Fields.read, trim_cons (show isBlank '\x7b' = false from rfl), read, finish_full]

theorem opens_record {α δ : Type} (fields : Fields α δ) : fields.record.Opens := by
  -- Reordering an object gives an object, and an object is written with a brace in front.
  intro value json written
  obtain ⟨members, rfl, -⟩ := written.members
  exact ⟨'\x7b', _, rfl, rfl, by decide, by decide⟩

end Fields

namespace Form

variable {α : Type} {form : Form α}

/-- Whether a text is written for a value, with the members of objects in some order. -/
def Writes (form : Form α) (value : α) (text : String) : Prop :=
  ∃ json, Reorders (form.write value) json ∧ json.compact = text

/-- The compact text of a value is written for it. -/
theorem writes_compact (form : Form α) (value : α) :
    form.Writes value (form.write value).compact :=
  ⟨form.write value, .refl _, rfl⟩

variable {value : α} {text : String}

/-- A text that is written for a value is read as that value, with nothing left. -/
theorem Faithful.read (faithful : form.Faithful) (written : form.Writes value text) :
    form.read text.toList = .ok (value, []) := by
  -- Nothing follows at the end of the text, and nothing is one of the things that may follow.
  obtain ⟨json, reorders, rfl⟩ := written
  have read := faithful value reorders (show Follows [] from trivial)
  rwa [List.append_nil, ← String.toList_ofList (l := json.chars)] at read

/-- A text that is written for a value is parsed as that value. -/
theorem Faithful.parse (faithful : form.Faithful) (written : form.Writes value text) :
    form.parse text = .ok value := by
  -- Nothing is left behind the value, so the check for what is left passes.
  unfold Form.parse
  rw [faithful.read written]
  rfl

/-- The front of a text that is written for a value is parsed as that value. -/
theorem Faithful.parseFront (faithful : form.Faithful) (written : form.Writes value text) :
    form.parseFront text = .ok value := by
  -- A reader of fronts ignores what is left, here nothing.
  unfold Form.parseFront
  rw [faithful.read written]
  rfl

/-- Whether texts that are written for values are parsed as these values, whichever the order of
members, so that no two values share a text. -/
structure Exact (form : Form α) : Prop where
  parse {value : α} {text : String} : form.Writes value text → form.parse text = .ok value
  unique {value other : α} {text : String} :
    form.Writes value text → form.Writes other text → value = other

/-- A form that reads back is exact. -/
theorem Faithful.exact (faithful : form.Faithful) : form.Exact where
  parse written := faithful.parse written
  unique written alsoWritten := by
    -- Parsing has one result, which is each of the two values.
    have parsed := faithful.parse written
    rw [faithful.parse alsoWritten] at parsed
    exact (Except.ok.inj parsed).symm

end Form

end Roster.Json
