import Roster.Proofs.Json.Interpretation

/-!
Records are read as what they mean: from an object each field takes what stands under its name,
once, and what no field takes is passed over; from an array the fields take the items in order.
-/

namespace Roster.Json

open Member (under allNamed)

variable {α β δ : Type} {more : List Token}

/-- Whether each field of a record reads what it means. -/
inductive Fields.Means : {α δ : Type} → Fields α δ → Meanings α δ → Prop
  | done : Means .done .done
  | field {α β δ : Type} {name : String} {form : Form α} {meaning : Tree → Option α}
      {lacking : Lacking α} {rest : Fields β δ} {others : Meanings β δ}
      (interprets : form.Interprets meaning) (means : Means rest others) :
      Means (.field name form lacking rest) (.field name meaning lacking others)

namespace Meanings

/-- What a member makes of the parts of a record. -/
def take : {α δ : Type} → Meanings α δ → δ → String → Tree → Option δ
  | _, _, done, _, _, _ => some ()
  | _, _, field name meaning _ rest, (given, others), key, tree =>
    if key = name then
      if given.isSome then none else (meaning tree).map fun value => (some value, others)
    else (rest.take others key tree).map fun others => (given, others)

/-- What a member makes of the part under a name. -/
def takeOne {α : Type} (name : String) (meaning : Tree → Option α) (given : Option α)
    (key : String) (tree : Tree) : Option (Option α) :=
  if key = name then if given.isSome then none else (meaning tree).map some else some given

/-- A member of no field's name changes nothing. -/
theorem take_other (meanings : Meanings α δ) {key : String} (other : key ∉ meanings.names)
    (state : δ) (tree : Tree) : meanings.take state key tree = some state := by
  -- Each field passes a member of another name on, and behind the last field nothing is left to
  -- take it.
  induction meanings with
  | done => rfl
  | field name meaning lacking rest ih =>
    obtain ⟨given, others⟩ := state
    obtain ⟨differs, other⟩ := not_or.1 (List.mem_cons.not.1 other)
    rw [take, if_neg differs, ih other]
    rfl

/-- Each field takes its members, whatever the others take. -/
theorem gather_field {name : String} {rest : Meanings β δ} (fresh : name ∉ rest.names)
    (meaning : Tree → Option α) (lacking : Lacking α) (members : List Member) (given : Option α)
    (others : δ) :
    gather (field name meaning lacking rest).take (given, others) members =
      (gather (takeOne name meaning) given members).bind fun given =>
        (gather rest.take others members).map fun others => (given, others) := by
  -- Induction on the members. A member goes to the first field or to the rest, never to both, since
  -- the first name is not among the others.
  induction members generalizing given others with
  | nil => rfl
  | cons member members ih =>
    rw [gather_cons, gather_cons, gather_cons]
    cases member.name? with
    | none => rfl
    | some key =>
      simp only [Option.bind_some]
      by_cases own : key = name
      · subst own
        -- A second member of the first field's name is refused here and there alike.
        rw [take, if_pos rfl, takeOne, if_pos rfl, rest.take_other fresh]
        cases given with
        | some value => rfl
        | none =>
          cases meaning member.2 with
          | none => rfl
          | some value => exact ih (some value) others
      · rw [take, if_neg own, takeOne, if_neg own]
        cases rest.take others key member.2 with
        | none => simp
        | some next => exact ih given next

/-- A part that has been given stays as it is unless it is given again. -/
theorem gather_takeOne_some (name : String) (meaning : Tree → Option α) (value : α)
    (members : List Member) :
    gather (takeOne name meaning) (some value) members =
      if allNamed members ∧ under name members = [] then some (some value) else none := by
  -- Once a value is taken, another member of the name is one too many and any other is passed by.
  induction members with
  | nil => rfl
  | cons member members ih =>
    rw [gather_cons]
    cases named : member.name? with
    | none => simp [allNamed, named]
    | some key =>
      rw [allNamed_cons named, under_cons]
      by_cases own : key = name
      · simp [takeOne, own, named]
      · simpa [takeOne, own, named] using ih

/-- A part is what the only member under its name means, or else what it is when it is missing. -/
theorem gather_takeOne_none (name : String) (meaning : Tree → Option α) (missing : Option α)
    (members : List Member) :
    ((gather (takeOne name meaning) none members).bind fun given => given.or missing) =
      if allNamed members then once? name meaning missing members else none := by
  induction members with
  | nil => rfl
  | cons member members ih =>
    rw [gather_cons]
    cases named : member.name? with
    | none => simp [allNamed, named]
    | some key =>
      rw [allNamed_cons named, once?, under_cons]
      by_cases own : key = name
      · -- No other member may stand under the name.
        obtain ⟨letters, tree⟩ := member
        simp only [takeOne, own, named, Option.bind_some, if_true, Option.isSome_none,
          Bool.false_eq_true, if_false]
        cases meant : meaning tree with
        | none => cases under name members <;> simp [meant]
        | some value =>
          simp only [Option.map_some, Option.bind_some, gather_takeOne_some]
          cases under name members <;> cases allNamed members <;> simp [meant]
      · simpa [takeOne, own, named, once?] using ih

end Meanings

namespace Fields.Means

variable {fields : Fields α δ} {meanings : Meanings α δ}

/-- A record's parts are what its members mean, if the fields have different names. -/
theorem gather_finish (means : fields.Means meanings) (distinct : meanings.names.Nodup)
    (members : List Member) :
    (gather meanings.take fields.blank members).bind fields.finish =
      if allNamed members then meanings.ofMembers? members else none := by
  induction means with
  | done =>
    induction members with
    | nil => rfl
    | cons member members ih =>
      rw [gather_cons]
      cases named : member.name? with
      | none => simp [allNamed, named]
      | some key =>
        rw [allNamed_cons named]
        exact ih
  | @field _ _ _ name form meaning lacking rest others interprets means ih =>
    obtain ⟨fresh, distinct⟩ := List.nodup_cons.1 distinct
    have own := Meanings.gather_takeOne_none name meaning lacking.inObject? members
    -- What is finished are the field's own part and those of the other fields.
    have apart (given : Option (Option _)) (parts : Option _) :
        ((given.bind fun given => parts.map fun parts => (given, parts)).bind
          (Fields.field name form lacking rest).finish) =
        (given.bind fun given => given.or lacking.inObject?).bind fun value =>
          (parts.bind rest.finish).bind fun values => some (value, values) := by
      cases given with
      | none => rfl
      | some given =>
        cases parts with
        | none => simp
        | some parts => rfl
    show (gather _ (none, rest.blank) members).bind _ = _
    rw [Meanings.gather_field fresh, apart, own, ih distinct]
    cases allNamed members <;> rfl

/-- A member is read as what it makes of the parts of a record. -/
theorem assign (means : fields.Means meanings) : fields.step.Interprets meanings.take := by
  -- Induction on the fields. A member of no field's name is skipped, which takes a whole tree and
  -- no more.
  intro state name tree more text spaced ends
  show Arrives more (fields.assign state name text) (meanings.take state name tree)
  induction means with
  | done =>
    obtain ⟨between, separator, others⟩ := spaced.colon
    obtain ⟨rest, passed, others⟩ := skip_tokens tree others ends
    simp only [Fields.assign, separator, passed]
    exact .reached others
  | @field _ _ _ key _ _ _ rest others interprets means ih =>
    obtain ⟨given, parts⟩ := state
    rw [Fields.assign, Meanings.take]
    by_cases own : name = key
    · rw [if_pos own, if_pos own]
      -- The field may have been given before, and then refuses without reading.
      cases given with
      | some value => exact .refused _
      | none => exact (interprets.readAfterColon spaced ends).map fun value => (some value, parts)
    · rw [if_neg own, if_neg own]
      exact (ih parts).map fun parts => (given, parts)

end Fields.Means

namespace Tree

/-- The tokens of items, the first of them right behind the bracket or not. -/
def itemTokens : Bool → List Tree → List Token
  | false, items => moreItems items
  | true, [] => []
  | true, item :: rest => item.tokens ++ moreItems rest

end Tree

namespace Fields

variable {name : String} {form : Form α} {lacking : Lacking α} {rest : Fields β δ} {c : Char}
  {text tail : List Char}

/-- Reads an item as a field, and the items behind it as the fields behind. -/
def readField (rest : Fields β δ) (form : Form α) (text : List Char) : Reading (α × β) :=
  match form.read text with
  | .error fault => .error fault
  | .ok (value, afterValue) =>
    (rest.readItems false afterValue).map fun (values, last) => ((value, values), last)

/-- Behind a comma the item of the next field is read. -/
theorem readItems_comma (front : trim text = ',' :: tail) :
    (field name form lacking rest).readItems false text = rest.readField form tail := by
  -- Behind the first item a comma leads to the next field.
  simp only [readItems, front]
  rfl

/-- Behind the bracket the item of the first field is read. -/
theorem readItems_front (front : trim text = c :: tail) (notEnd : c ≠ ']') :
    (field name form lacking rest).readItems true text = rest.readField form (c :: tail) := by
  -- The first item has no comma before it, so what stands in front is the item's own first
  -- character.
  rw [readItems, front]
  split
  · rename_i none
    cases none
  · rename_i close
    exact absurd (List.cons.inj close).1 notEnd
  · rename_i same
    cases same
    simp only [or_true, if_true]
    rfl

/-- Behind the items of all fields nothing but the bracket is expected. -/
theorem readItems_done {first : Bool} (front : trim text = c :: tail) (notEnd : c ≠ ']') :
    done.readItems first text = .error .malformed := by
  rw [readItems, front]
  -- With no field left only the bracket may follow, at the front or behind an item.
  split
  · rename_i none
    cases none
  · rename_i close
    exact absurd (List.cons.inj close).1 notEnd
  · rfl

/-- What does not start with a bracket is read as an object. -/
theorem read_object {fields : Fields α δ} (front : trim text = c :: tail) (noArray : c ≠ '[') :
    fields.read text =
      match readObject fields.step fields.blank (c :: tail) with
      | .error fault => .error fault
      | .ok (given, rest) =>
        match fields.finish given with
        | some value => .ok (value, rest)
        | none => .error .mismatched := by
  -- A record is read as an array only where a bracket opens it.
  rw [read, front]
  split
  · rename_i array
    exact absurd (List.cons.inj array).1 noArray
  · rfl

end Fields

namespace Fields.Means

variable {fields : Fields α δ} {meanings : Meanings α δ}

/-- A field and the fields behind it are read as what the items mean. -/
theorem readField {form : Form β} {meaning : Tree → Option β} {item : Tree} {items : List Tree}
    (interprets : form.Interprets meaning)
    (others : ∀ {text : List Char},
      Spaced (Tree.moreItems items ++ [']'] :: more) text →
        Arrives more (fields.readItems false text) (meanings.ofItems? items))
    (name : String) (lacking : Lacking β) {text : List Char}
    (spaced : Spaced (item.tokens ++ (Tree.moreItems items ++ [']'] :: more)) text) :
    Arrives more (fields.readField form text)
      ((Meanings.field name meaning lacking meanings).ofItems? (item :: items)) := by
  have first := interprets item spaced (ends_moreItems items more)
  rw [Meanings.ofItems?, Fields.readField]
  -- The first item is refused, or reading arrives behind it, where the others are.
  generalize form.read text = reading, meaning item = meant at first
  cases first with
  | refused fault => exact .refused fault
  | @reached value _ spaced => exact (others spaced).bind fun values => (value, values)

/-- The items of an array are read as the fields in order. -/
theorem readItems (means : fields.Means meanings) (first : Bool) (items : List Tree)
    {text : List Char} (spaced : Spaced (Tree.itemTokens first items ++ [']'] :: more) text) :
    Arrives more (fields.readItems first text) (meanings.ofItems? items) := by
  induction means generalizing first items text with
  | done =>
    cases items with
    | nil =>
      cases first <;>
      · obtain ⟨rest, front, others⟩ := Spaced.mark spaced rfl
        simp only [Fields.readItems, front]
        exact .reached others
    | cons item items =>
      -- No record has items behind those of its fields.
      cases first with
      | false =>
        obtain ⟨rest, front, -⟩ := Spaced.mark spaced rfl
        rw [readItems_done front (by decide)]
        exact .refused _
      | true =>
        rw [Tree.itemTokens, List.append_assoc] at spaced
        obtain ⟨c, rest, front, opens, -⟩ := spaced.opening
        rw [readItems_done front opens.ne_bracket]
        exact .refused _
  | @field _ _ _ key form meaning lacking rest others interprets means ih =>
    cases items with
    | nil =>
      have close : Spaced ([']'] :: more) text := by cases first <;> exact spaced
      obtain ⟨behind, front, others⟩ := close.mark rfl
      simp only [Fields.readItems, front, Meanings.ofItems?]
      cases lacking.inArray? with
      | none => exact .refused _
      | some value =>
        -- The bracket is looked at again for the fields behind.
        have bracket : Spaced ([']'] :: more) (']' :: behind) := Spaced.append others
        have again : Spaced (Tree.itemTokens first [] ++ [']'] :: more) (']' :: behind) := by
          cases first <;> exact bracket
        exact (ih first [] again).bind fun values => (value, values)
    | cons item items =>
      cases first with
      | false =>
        rw [Tree.itemTokens, Tree.moreItems, List.cons_append, List.append_assoc] at spaced
        obtain ⟨tail, front, spaced⟩ := spaced.mark rfl
        rw [readItems_comma front]
        exact readField interprets (ih false items) key lacking spaced
      | true =>
        rw [Tree.itemTokens, List.append_assoc] at spaced
        obtain ⟨c, tail, front, opens, spaced⟩ := spaced.opening
        rw [readItems_front front opens.ne_bracket]
        exact readField interprets (ih false items) key lacking spaced

/-- A record is read from an object or from an array as what that means. -/
theorem record (means : fields.Means meanings) (distinct : meanings.names.Nodup) :
    fields.record.Interprets meanings.ofTree? := by
  intro tree more text spaced ends
  show Arrives more (fields.read text) (meanings.ofTree? tree)
  -- What does not start with a bracket is read as an object.
  have object {c : Char} {rest : List Char} (front : trim text = c :: rest) (noArray : c ≠ '[')
      (spaced : Spaced (tree.tokens ++ more) (c :: rest)) :
      Arrives more (fields.read text)
        ((tree.gather? meanings.take fields.blank).bind fields.finish) := by
    have arrives := means.assign.readObject fields.blank tree spaced
    rw [read_object front noArray]
    generalize readObject fields.step fields.blank (c :: rest) = reading,
      tree.gather? meanings.take fields.blank = meant at arrives
    cases arrives with
    | refused fault => exact .refused fault
    | @reached given _ others =>
      simp only [Option.bind_some]
      cases fields.finish given with
      | none => exact .refused _
      | some value => exact .reached others
  cases tree with
  | array items =>
    have items : Spaced (['['] :: (Tree.itemTokens true items ++ [']'] :: more)) text := by
      cases items with
      | nil => exact spaced
      | cons item items =>
        rw [Tree.tokens, List.cons_append, List.append_assoc, List.append_assoc,
          List.singleton_append] at spaced
        rw [Tree.itemTokens, List.append_assoc]
        exact spaced
    obtain ⟨rest, front, others⟩ := items.mark rfl
    rw [Fields.read, front]
    exact means.readItems true _ others
  | object members =>
    obtain ⟨c, rest, front, opens, spaced⟩ := spaced.opening
    have arrives := object front (fun array => by simpa using opens.kind.2.2.2.1 array) spaced
    rwa [Tree.gather?, means.gather_finish distinct] at arrives
  | null | bool | number | string =>
    obtain ⟨c, rest, front, opens, spaced⟩ := spaced.opening
    exact object front (fun array => by simpa using opens.kind.2.2.2.1 array) spaced

end Fields.Means

end Roster.Json
