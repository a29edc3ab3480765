import Roster.Proofs.Json.Record

/-!
What is read from a text depends on the content that it spells: records are read whatever the order
of their members, the letters of names and texts and the members of other names, and every value
has texts that it is read from.
-/

namespace Roster.Json

open Member (under allNamed)

/-- The tokens of a tree one behind the other spell it. -/
theorem Tree.exists_spells (tree : Tree) : ∃ text, tree.Spells text := by
  -- The tokens written one behind the other, with no blanks between, are one of the tree's texts.
  have spaced := spaced_flatMap (tree.tokens.map fun token => ([], token)) [] (by simp) (by simp)
  rw [List.map_map, show Prod.snd ∘ (fun token : Token => (([] : List Char), token)) = id from rfl,
    List.map_id] at spaced
  exact ⟨String.ofList _, by rwa [Spells, String.toList_ofList]⟩

variable {α β δ σ : Type}

/-- Whether everything is the meaning of something. -/
def Tells (meaning : σ → Option α) : Prop := ∀ value, ∃ source, meaning source = some value

/-- Several values are told one by one. -/
theorem Tells.map_eq {meaning : σ → Option α} (tells : Tells meaning) (values : List α) :
    ∃ sources : List σ, sources.map meaning = values.map some := by
  -- A source for each value, one after the other.
  induction values with
  | nil => exact ⟨[], rfl⟩
  | cons value values ih =>
    obtain ⟨sources, meant⟩ := ih
    obtain ⟨source, first⟩ := tells value
    exact ⟨source :: sources, by rw [List.map_cons, List.map_cons, first, meant]⟩

/-- Whether every value is the meaning of a tree, and texts show by what their letters stand for. -/
structure Regular (meaning : Tree → Option α) : Prop where
  tells : Tells meaning
  worded {letters others : List Letter} (same : Letter.text? letters = Letter.text? others) :
    meaning (.string letters) = meaning (.string others)

variable {meaning : Tree → Option α}

theorem regular_text : Regular Tree.text? where
  -- Every text is spelled by some letters, and what a string means depends on the text alone.
  tells value :=
    have ⟨letters, stands⟩ := Letter.exists_letters value
    ⟨.string letters, stands⟩
  worded same := same

theorem regular_millis : Regular Tree.millis? where
  -- A figure without a fraction or an exponent spells any integer; those of a timestamp are within
  -- range.
  tells value := by
    obtain ⟨figure, spelled⟩ := Figure.exists_integer? value.val
    refine ⟨.number figure, ?_⟩
    rw [Tree.millis?, spelled]
    exact dif_pos value.inRange
  worded _ := rfl

/-- A value that may be null is told by null or by what tells the value. -/
theorem Regular.optional (regular : Regular meaning) (present : meaning .null = none) :
    Regular (Tree.optional? meaning) where
  tells value := by
    -- No value is told by null, and a tree that tells a value is not null, since null means nothing
    -- to the form within.
    cases value with
    | none => exact ⟨.null, rfl⟩
    | some value =>
      obtain ⟨tree, meant⟩ := regular.tells value
      refine ⟨tree, ?_⟩
      cases tree with
      | null =>
        rw [present] at meant
        cases meant
      | bool | number | string | array | object => exact congrArg (Option.map some) meant
  worded same := congrArg (Option.map some) (regular.worded same)

theorem Regular.list (regular : Regular meaning) : Regular (Tree.list? meaning) where
  -- One item for each value; a string is no list, however it is spelled.
  tells values :=
    have ⟨items, meant⟩ := regular.tells.map_eq values
    ⟨.array items, mapM_eq_some_iff.2 meant⟩
  worded _ := rfl

theorem regular_properties : Regular Tree.properties? where
  tells properties := by
    have pair : Tells (Tree.pair? Tree.text?) := fun (name, value) =>
      have ⟨letters, named⟩ := Letter.exists_letters name
      have ⟨tree, meant⟩ := regular_text.tells value
      ⟨(letters, tree), Tree.pair?_eq_some_iff.2 ⟨named, meant⟩⟩
    -- The pairs of the properties lead back to them in whichever order they stand.
    obtain ⟨members, meant⟩ := pair.map_eq properties.items
    exact ⟨.object members, Tree.properties?_eq_some_iff.2
      ⟨properties.items, meant, Index.ofList_of_perm (.refl _)⟩⟩
  worded _ := rfl

/-- What each value is made of tells the value. -/
theorem Regular.convert (regular : Regular meaning) {toValue : α → β}
    (surjective : Function.Surjective toValue) :
    Regular fun tree => (meaning tree).map toValue where
  tells value := by
    -- Only a value that some part becomes can be told.
    obtain ⟨part, rfl⟩ := surjective value
    obtain ⟨tree, meant⟩ := regular.tells part
    exact ⟨tree, congrArg (Option.map toValue) meant⟩
  worded same := congrArg (Option.map toValue) (regular.worded same)

namespace Meanings

/-- Whether the meanings of a record's fields are regular and null is as good as left out. -/
def Regular {α δ : Type} : Meanings α δ → Prop
  | done => True
  | field _ meaning lacking rest =>
    Json.Regular meaning ∧ meaning .null = lacking.inObject? ∧ rest.Regular

variable {meanings : Meanings α δ}

theorem Regular.nullable (regular : meanings.Regular) : meanings.Nullable := by
  -- The second half of regularity is this very property, field by field.
  induction meanings with
  | done => trivial
  | field name meaning lacking rest ih => exact ⟨regular.2.1, ih regular.2.2⟩

/-- Texts mean as much as others of the same letters. -/
theorem Regular.alike (regular : meanings.Regular) {letters others : List Letter}
    (same : Letter.text? letters = Letter.text? others) (name : String) :
    meanings.Alike name (.string letters) (.string others) := by
  -- No field can tell two spellings of one text apart.
  induction meanings with
  | done => trivial
  | field key meaning lacking rest ih => exact ⟨fun _ => regular.1.worded same, ih regular.2.2⟩

/-- The array of what tells the fields tells the record. -/
theorem Regular.record (regular : meanings.Regular) : Json.Regular meanings.ofTree? where
  tells := by
    -- As an array the record has one item per field, so no member names have to be found for it.
    suffices items : ∀ value, ∃ items, meanings.ofItems? items = some value from fun value =>
      have ⟨items, meant⟩ := items value
      ⟨.array items, meant⟩
    induction meanings with
    | done => exact fun _ => ⟨[], rfl⟩
    | field name meaning lacking rest ih =>
      rintro ⟨value, values⟩
      obtain ⟨item, first⟩ := regular.1.tells value
      obtain ⟨items, others⟩ := ih regular.2.2 values
      exact ⟨item :: items, by rw [ofItems?, first, others]; rfl⟩
  worded _ := rfl

end Meanings

/-- Whether what is told of a record with named fields does not depend on how it is told: neither
on the order of its members, nor on the letters of names and texts, nor on members of other names,
nor on whether a missing field is null, nor on whether the fields stand as members or as items. And
nothing is told of a record in which a field stands twice. -/
structure ByContent {α : Type} (names : List String) (meaning : Tree → Option α) : Prop where
  reordered {members others : List Member} (perm : members.Perm others) :
    meaning (.object members) = meaning (.object others)
  respelled {before after : List Member} {letters others : List Letter} (tree : Tree)
    (same : Letter.text? letters = Letter.text? others) :
    meaning (.object (before ++ (letters, tree) :: after)) =
      meaning (.object (before ++ (others, tree) :: after))
  worded {before after : List Member} {letters others : List Letter} (name : List Letter)
    (same : Letter.text? letters = Letter.text? others) :
    meaning (.object (before ++ (name, .string letters) :: after)) =
      meaning (.object (before ++ (name, .string others) :: after))
  unknown {before after : List Member} {letters : List Letter} {name : String} (tree : Tree)
    (named : Letter.text? letters = some name) (other : name ∉ names) :
    meaning (.object (before ++ (letters, tree) :: after)) = meaning (.object (before ++ after))
  null {before after : List Member} {letters : List Letter} {name : String}
    (named : Letter.text? letters = some name)
    (only : ∀ member ∈ before ++ after, member.name? ≠ some name) :
    meaning (.object (before ++ (letters, .null) :: after)) = meaning (.object (before ++ after))
  array {members : List Member} (named : members.map Member.name? = names.map some) :
    meaning (.array (members.map Prod.snd)) = meaning (.object members)
  twice {members : List Member} {name : String} (known : name ∈ names)
    (twice : 2 ≤ (under name members).length) : meaning (.object members) = none

/-- What is made of the meaning keeps to the content too. -/
theorem ByContent.map {α β : Type} {names : List String} {meaning : Tree → Option α}
    (byContent : ByContent names meaning) (f : α → β) :
    ByContent names fun tree => (meaning tree).map f where
  -- Each property speaks of when two readings agree or fail, and a function applied to the result
  -- keeps both.
  reordered perm := congrArg (Option.map f) (byContent.reordered perm)
  respelled tree same := congrArg (Option.map f) (byContent.respelled tree same)
  worded name same := congrArg (Option.map f) (byContent.worded name same)
  unknown tree named other := congrArg (Option.map f) (byContent.unknown tree named other)
  null named only := congrArg (Option.map f) (byContent.null named only)
  array named := congrArg (Option.map f) (byContent.array named)
  twice known twice := congrArg (Option.map f) (byContent.twice known twice)

namespace Meanings

variable {meanings : Meanings α δ}

/-- Records with regular fields of different names are read by their content. -/
theorem Regular.byContent (regular : meanings.Regular) (distinct : meanings.names.Nodup) :
    ByContent meanings.names meanings.ofTree? where
  reordered perm := by
    rw [ofTree?, ofTree?, allNamed, perm.all_eq, ← allNamed,
      meanings.ofMembers?_congr fun _ _ _ _ _ => once?_perm perm]
  respelled {before after letters others} tree same :=
    ofTree?_replace (letters, tree) (others, tree) same fun name _ =>
      Alike.refl meanings name tree
  worded {before after letters others} name same :=
    ofTree?_replace (name, .string letters) (name, .string others) rfl
      fun name _ => regular.alike same name
  unknown {before after letters name} tree named other :=
    ofTree?_insert (letters, tree) named
      (meanings.ofMembers?_congr fun key known _ _ _ =>
        once?_insert_other fun own => other (Option.some.inj (named.symm.trans own) ▸ known)) rfl
  null {before after letters name} named only :=
    ofTree?_insert (letters, .null) named
      (ofMembers?_null regular.nullable named only) rfl
  array {members} named := by
    -- All the names are given, so each of them stands for something.
    have all : allNamed members = true := by
      refine List.all_eq_true.2 fun member listed => ?_
      have known := List.mem_map_of_mem (f := Member.name?) listed
      rw [named] at known
      obtain ⟨name, -, called⟩ := List.mem_map.1 known
      rw [← called]
      rfl
    rw [ofTree?, ofTree?, if_pos all, ofItems?_eq_ofMembers? distinct named]
  twice {members name} known twice := by
    rw [ofTree?, ofMembers?_of_twice known twice]
    exact ite_self none

end Meanings

/-- Whether a form reads from each text what the tree that the text spells tells of a record, which
depends on its content only, and whether every value has a text that it is read from. -/
structure Form.ReadsContent (form : Form α) (names : List String) (meaning : Tree → Option α) : Prop
    extends ByContent names meaning where
  parse {tree : Tree} {text : String} (spells : tree.Spells text) (value : α) :
    form.parse text = .ok value ↔ meaning tree = some value
  told (value : α) : ∃ tree text, tree.Spells text ∧ meaning tree = some value

/-- A form that interprets records does so by their content. -/
theorem Form.Interprets.readsContent {form : Form α} {names : List String}
    (interprets : form.Interprets meaning) (byContent : ByContent names meaning)
    (regular : Regular meaning) : form.ReadsContent names meaning where
  -- The form reads what the tree means, so the tree's properties become the form's own.
  toByContent := byContent
  parse spells _ := interprets.parse_iff spells
  told value :=
    have ⟨tree, meant⟩ := regular.tells value
    have ⟨text, spells⟩ := tree.exists_spells
    ⟨tree, text, spells, meant⟩

/-- Whether what stands under a name in an object shows by what it tells, and leaves the object
without meaning if it tells nothing. -/
structure ByField (name : String) (part : Tree → Option β) (meaning : Tree → Option α) : Prop where
  alike {before after : List Member} {letters : List Letter} {tree other : Tree}
    (named : Letter.text? letters = some name) (alike : part tree = part other) :
    meaning (.object (before ++ (letters, tree) :: after)) =
      meaning (.object (before ++ (letters, other) :: after))
  refused {members : List Member} {letters : List Letter} {tree : Tree}
    (named : Letter.text? letters = some name) (listed : (letters, tree) ∈ members)
    (refused : part tree = none) : meaning (.object members) = none

/-- What is made of a record shows by its fields too. -/
theorem Meanings.byField {γ : Type} {meanings : Meanings α δ} {name : String}
    {part : Tree → Option β}
    (alike : ∀ {tree other : Tree}, part tree = part other → meanings.Alike name tree other)
    (refuses : ∀ {tree : Tree}, part tree = none → meanings.Refuses name tree) (f : α → γ) :
    ByField name part fun tree => (meanings.ofTree? tree).map f where
  -- The record asks each field for its members by name, so a tree under one name reaches that field
  -- only.
  alike {before after letters tree other} named same :=
    congrArg (Option.map f) <|
      ofTree?_replace (letters, tree) (letters, other) rfl fun key called => by
        rw [← Option.some.inj (named.symm.trans called)]
        exact alike same
  refused named listed refused :=
    congrArg (Option.map f) (ofTree?_refuses named (refuses refused) listed)

/-- Whether a list that stands under a name in an object shows by what its items tell, and leaves
the object without meaning if one of the items tells nothing. -/
structure ByItems (name : String) (item : Tree → Option β) (meaning : Tree → Option α) : Prop where
  alike {before after : List Member} {letters : List Letter} {items others : List Tree}
    (named : Letter.text? letters = some name) (alike : items.map item = others.map item) :
    meaning (.object (before ++ (letters, .array items) :: after)) =
      meaning (.object (before ++ (letters, .array others) :: after))
  refused {members : List Member} {letters : List Letter} {items : List Tree} {tree : Tree}
    (named : Letter.text? letters = some name) (listed : (letters, .array items) ∈ members)
    (inside : tree ∈ items) (refused : item tree = none) : meaning (.object members) = none

/-- A field that is a list shows by its items. -/
theorem ByField.byItems {name : String} {item : Tree → Option β}
    (byField : ByField name (Tree.list? item) meaning) : ByItems name item meaning where
  -- A list's meaning is fixed by its items' meanings, and one item without meaning takes it away.
  alike named same := byField.alike named (Tree.list?_alike same)
  refused named listed inside refused :=
    byField.refused named listed (Tree.list?_refused inside refused)

/-- A field that is a list or null shows by its items. -/
theorem ByField.byItems_optional {name : String} {item : Tree → Option β}
    (byField : ByField name (Tree.optional? (Tree.list? item)) meaning) :
    ByItems name item meaning where
  -- A list is never null, so the optional one means the same and is there.
  alike named same := byField.alike named (congrArg (Option.map some) (Tree.list?_alike same))
  refused named listed inside refused :=
    byField.refused named listed (congrArg (Option.map some) (Tree.list?_refused inside refused))

/-- Whether properties are read from the texts of all members, in any order unless a key is given
more than once, and then the last member of the key counts. -/
structure LastCounts (meaning : Tree → Option Properties) : Prop where
  reads {members : List Member} :
    (∃ properties, meaning (.object members) = some properties) ↔
      ∀ member ∈ members, ∃ name text, member.name? = some name ∧ member.2.text? = some text
  last {before after : List Member} {member : Member} {name : String} {properties : Properties}
    (own : member.name? = some name)
    (meant : meaning (.object (before ++ member :: after)) = some properties)
    (last : ∀ other ∈ after, other.name? ≠ some name) : properties.get? name = member.2.text?
  absent {members : List Member} {name : String} {properties : Properties}
    (meant : meaning (.object members) = some properties)
    (other : ∀ member ∈ members, member.name? ≠ some name) : properties.get? name = none
  reordered {members others : List Member} (perm : members.Perm others)
    (distinct : (members.map Member.name?).Nodup) :
    meaning (.object members) = meaning (.object others)

theorem lastCounts_properties : LastCounts Tree.properties? where
  -- The four parts are the lemmas on what properties mean.
  reads := Tree.exists_properties?_iff
  last := Tree.get?_properties?
  absent := Tree.get?_properties?_eq_none
  reordered := Tree.properties?_perm

end Roster.Json
