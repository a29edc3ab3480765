import Roster.Proofs.Json.Tree

/-!
What trees mean: a text what its letters stand for, a list its items one by one, and a record what
stands under the names of its fields, or else its items in the order of the fields. So a record's
meaning does not depend on how its members are arranged, which others stand among them and whether
a missing field is null, and it has none if a field stands in it twice.
-/

namespace Roster.Json

/-- A name as it is spelled, with the value that stands under it. -/
abbrev Member := List Letter × Tree

namespace Member

/-- The name that a member's letters stand for. -/
def name? (member : Member) : Option String := Letter.text? member.1

/-- The members under a name. -/
def under (name : String) (members : List Member) : List Member :=
  members.filter fun member => member.name? == some name

/-- Whether the name of every member stands for something. -/
def allNamed (members : List Member) : Bool := members.all fun member => member.name?.isSome

end Member

namespace Tree

variable {α : Type}

/-- The meaning of a text. -/
def text? : Tree → Option String
  | string letters => Letter.text? letters
  | _ => none

/-- The meaning of whole milliseconds of 64 bits. -/
def millis? : Tree → Option Millis
  | number figure => figure.integer?.bind Millis.ofInt?
  | _ => none

/-- The meaning of a value that may be null. -/
def optional? (meaning : Tree → Option α) : Tree → Option (Option α)
  | null => some none
  | tree => (meaning tree).map some

/-- The meaning of a list whose items have a meaning. -/
def list? (meaning : Tree → Option α) : Tree → Option (List α)
  | array items => items.mapM meaning
  | _ => none

/-- The meaning of a member of any name, with the name. -/
def pair? (meaning : Tree → Option α) (member : Member) : Option (String × α) := do
  return (← member.name?, ← meaning member.2)

/-- The meaning of an object with members of any names. -/
def members? (meaning : Tree → Option α) : Tree → Option (List (String × α))
  | object members => members.mapM (pair? meaning)
  | _ => none

/-- The meaning of text values by text key, where a later value replaces an earlier one. -/
def properties? (tree : Tree) : Option Properties := (tree.members? text?).map Index.ofList

end Tree

open Member (under allNamed)

/-- The meaning of the only member under a name, or else of there being none. -/
def once? {α : Type} (name : String) (meaning : Tree → Option α) (missing : Option α)
    (members : List Member) : Option α :=
  match under name members with
  | [] => missing
  | [(_, tree)] => meaning tree
  | _ => none

/-- A list is mapped to values if each of its items is mapped to the value at its place. -/
theorem mapM_eq_some_iff {α β : Type} {f : α → Option β} {items : List α} {values : List β} :
    items.mapM f = some values ↔ items.map f = values.map some := by
  -- Induction on the items; reading them all succeeds exactly when reading each does.
  induction items generalizing values with
  | nil => cases values <;> simp
  | cons item items ih =>
    simp only [List.mapM_cons, Option.bind_eq_bind, Option.bind_eq_some_iff, Option.pure_def,
      Option.some.injEq, ih, List.map_cons]
    constructor
    · rintro ⟨value, found, others, mapped, rfl⟩
      rw [found, mapped]
      rfl
    · intro same
      -- Equal lists are equally long, so an item has its value.
      cases values with
      | nil => cases same
      | cons value others =>
        obtain ⟨found, mapped⟩ := List.cons.inj same
        exact ⟨value, found, others, mapped, rfl⟩

namespace Tree

variable {α : Type} {meaning : Tree → Option α}

/-- A list means as much as another whose items mean as much. -/
theorem list?_alike {items others : List Tree} (alike : items.map meaning = others.map meaning) :
    list? meaning (array items) = list? meaning (array others) := by
  -- A list means its values exactly when its items mean them one by one.
  refine Option.ext fun values => ?_
  show items.mapM meaning = some values ↔ others.mapM meaning = some values
  rw [mapM_eq_some_iff, mapM_eq_some_iff, alike]

/-- A list with an item without meaning has none. -/
theorem list?_refused {items : List Tree} {item : Tree} (listed : item ∈ items)
    (refused : meaning item = none) : list? meaning (array items) = none := by
  -- Had the list a meaning, the refused item would have a value in it.
  refine Option.eq_none_iff_forall_ne_some.2 fun values meant => ?_
  have found := List.mem_map_of_mem (f := meaning) listed
  rw [mapM_eq_some_iff.1 meant, refused] at found
  simp at found

/-- A member has a meaning with its name if it has a name and its value has a meaning. -/
theorem pair?_eq_some_iff {member : Member} {name : String} {value : α} :
    pair? meaning member = some (name, value) ↔
      member.name? = some name ∧ meaning member.2 = some value := by
  simp [pair?, Option.bind_eq_some_iff]

/-- What properties mean is what their members mean with their names. -/
theorem properties?_eq_some_iff {members : List Member} {properties : Properties} :
    properties? (object members) = some properties ↔
      ∃ pairs, members.map (pair? text?) = pairs.map some ∧ Index.ofList pairs = properties := by
  -- All members have to be pairs of texts before they are sorted by name.
  simp only [properties?, members?, Option.map_eq_some_iff, mapM_eq_some_iff]

/-- Properties with a meaning are those of which every member has a name and a text. -/
theorem exists_properties?_iff {members : List Member} :
    (∃ properties, properties? (object members) = some properties) ↔
      ∀ member ∈ members, ∃ name text, member.name? = some name ∧ member.2.text? = some text := by
  -- From left to right a list of pairs is at hand and each member finds its own; from right to left
  -- the list is built by induction.
  simp only [properties?_eq_some_iff]
  constructor
  · rintro ⟨properties, pairs, meant, -⟩ member listed
    have found := List.mem_map_of_mem (f := pair? text?) listed
    rw [meant] at found
    obtain ⟨pair, -, paired⟩ := List.mem_map.1 found
    exact ⟨pair.1, pair.2, pair?_eq_some_iff.1 paired.symm⟩
  · intro each
    -- It is enough to pair the members: sorting them by key never fails.
    suffices paired : ∃ pairs : List (String × String),
        members.map (pair? text?) = pairs.map some by
      obtain ⟨pairs, paired⟩ := paired
      exact ⟨_, pairs, paired, rfl⟩
    induction members with
    | nil => exact ⟨[], rfl⟩
    | cons member members ih =>
      obtain ⟨pairs, paired⟩ := ih fun other listed => each other (List.mem_cons_of_mem _ listed)
      obtain ⟨name, text, first⟩ := each member List.mem_cons_self
      exact ⟨(name, text) :: pairs, by
        rw [List.map_cons, List.map_cons, paired, pair?_eq_some_iff.2 first]⟩

/-- A name under which no member stands is the key of no pair. -/
theorem key_ne_of_not_named {members : List Member} {pairs : List (String × α)} {name : String}
    (paired : pairs.map some = members.map (pair? meaning))
    (other : ∀ member ∈ members, member.name? ≠ some name) : ∀ pair ∈ pairs, pair.1 ≠ name := by
  -- A pair has the name of the member it was read from.
  rintro pair listed rfl
  have found := List.mem_map_of_mem (f := some) listed
  rw [paired] at found
  obtain ⟨member, known, meant⟩ := List.mem_map.1 found
  exact other member known (pair?_eq_some_iff.1 meant).1

/-- A look-up from the back passes pairs by among whose members none has the name. -/
theorem find?_reverse_of_not_named {members : List Member} {pairs : List (String × α)}
    {name : String} (paired : pairs.map some = members.map (pair? meaning))
    (other : ∀ member ∈ members, member.name? ≠ some name) :
    pairs.reverse.find? (fun pair => pair.1 == name) = none := by
  -- It would stop at a key, and a key is the name of some member.
  refine List.find?_eq_none.2 fun pair listed => ?_
  have differs := key_ne_of_not_named paired other pair (List.mem_reverse.1 listed)
  simpa using differs

/-- A key leads to the text of its last member. -/
theorem get?_properties? {before after : List Member} {member : Member} {name : String}
    {properties : Properties} (own : member.name? = some name)
    (meant : properties? (object (before ++ member :: after)) = some properties)
    (last : ∀ other ∈ after, other.name? ≠ some name) :
    properties.get? name = member.2.text? := by
  -- The pairs are split where the member stands. Those behind it have other keys, and the look-up
  -- goes from the back, so its own pair is found first.
  obtain ⟨pairs, paired, rfl⟩ := properties?_eq_some_iff.1 meant
  rw [List.map_append, List.map_cons] at paired
  obtain ⟨earlier, rest, rfl, -, paired⟩ := List.append_eq_map_iff.1 paired
  obtain ⟨pair, later, rfl, first, paired⟩ := List.map_eq_cons_iff.1 paired
  obtain ⟨called, value⟩ := pair?_eq_some_iff.1 first.symm
  have key : pair.1 = name := Option.some.inj (called.symm.trans own)
  rw [Properties.get?, Index.find?_ofList, List.reverse_append, List.reverse_cons,
    List.find?_append, List.find?_append, find?_reverse_of_not_named paired last, value]
  simp [key]

/-- A key without a member leads to nothing. -/
theorem get?_properties?_eq_none {members : List Member} {name : String} {properties : Properties}
    (meant : properties? (object members) = some properties)
    (other : ∀ member ∈ members, member.name? ≠ some name) : properties.get? name = none := by
  -- No member has the name, so no pair has the key.
  obtain ⟨pairs, paired, rfl⟩ := properties?_eq_some_iff.1 meant
  rw [Properties.get?, Index.find?_ofList, find?_reverse_of_not_named paired.symm other]
  rfl

/-- Pairs have the names of the members that they are the meanings of. -/
theorem map_fst_of_paired {members : List Member} {pairs : List (String × α)}
    (paired : pairs.map some = members.map (pair? meaning)) :
    (pairs.map Prod.fst).map some = members.map Member.name? := by
  -- A member that has a meaning has a name, which is its pair's key.
  induction pairs generalizing members with
  | nil => rw [List.map_eq_nil_iff.1 paired.symm]; rfl
  | cons pair pairs ih =>
    obtain ⟨member, members, rfl, first, paired⟩ := List.map_eq_cons_iff.1 paired.symm
    rw [List.map_cons, List.map_cons, List.map_cons, ih paired.symm, (pair?_eq_some_iff.1 first).1]

/-- Members of different names may come in any order. -/
theorem properties?_perm {members others : List Member} (perm : members.Perm others)
    (distinct : (members.map Member.name?).Nodup) :
    properties? (object members) = properties? (object others) := by
  refine Option.ext fun properties => ?_
  -- What one order means the other one means too, since the pairs may come in any order as well.
  have keeps {members others : List Member} (perm : members.Perm others)
      (distinct : (members.map Member.name?).Nodup)
      (meant : properties? (object members) = some properties) :
      properties? (object others) = some properties := by
    obtain ⟨pairs, paired, rfl⟩ := properties?_eq_some_iff.1 meant
    have keys : (pairs.map Prod.fst).Nodup := by
      rw [← map_fst_of_paired paired.symm] at distinct
      exact (List.pairwise_map.1 distinct).imp fun differs same => differs (congrArg some same)
    obtain ⟨_, otherMeant⟩ := exists_properties?_iff.2 fun member listed =>
      exists_properties?_iff.1 ⟨_, meant⟩ member (perm.mem_iff.2 listed)
    obtain ⟨otherPairs, otherPaired, -⟩ := properties?_eq_some_iff.1 otherMeant
    have arranged : pairs.Perm otherPairs := by
      have mapped := perm.map (pair? text?)
      rw [paired, otherPaired] at mapped
      simpa using mapped.filterMap id
    exact properties?_eq_some_iff.2
      ⟨otherPairs, otherPaired, (Index.ofList_eq_of_perm keys arranged).symm⟩
  exact ⟨keeps perm distinct, keeps perm.symm ((perm.map _).nodup_iff.1 distinct)⟩

end Tree

section Once

variable {α : Type} {name : String} {meaning : Tree → Option α} {missing : Option α}
  {before after members others : List Member} {letters : List Letter} {tree : Tree}

/-- A member stands under its own name in front of the others. -/
theorem under_cons (name : String) (member : Member) (members : List Member) :
    under name (member :: members) =
      if member.name? = some name then member :: under name members else under name members := by
  simp [under, List.filter_cons]

/-- A member with a name leaves it to the others whether all have one. -/
theorem allNamed_cons {member : Member} (named : member.name? = some name)
    (members : List Member) : allNamed (member :: members) = allNamed members := by
  simp [allNamed, named]

/-- What stands under a name among members stands there around each one of them. -/
theorem under_insert (name : String) (before after : List Member) (member : Member) :
    under name (before ++ member :: after) =
      under name before ++ ((if member.name? = some name then [member] else []) ++
        under name after) := by
  -- Filtering goes through the list, and the inserted member is kept or dropped by its own name.
  unfold under
  rw [List.filter_append, List.filter_cons]
  by_cases named : member.name? = some name <;> simp [named]

/-- The order of the members does not show. -/
theorem once?_perm (perm : members.Perm others) :
    once? name meaning missing members = once? name meaning missing others := by
  have found : (under name members).Perm (under name others) := perm.filter _
  unfold once?
  -- No list but one with two members or more can be arranged in another way.
  cases spelled : under name members with
  | nil =>
    rw [spelled] at found
    rw [found.nil_eq]
  | cons member more =>
    rw [spelled] at found
    cases more with
    | nil => rw [List.singleton_perm.1 found]
    | cons second more =>
      have count := found.length_eq
      cases otherSpelled : under name others with
      | nil => simp [otherSpelled] at count
      | cons first rest =>
        cases rest with
        | nil => simp [otherSpelled] at count
        | cons _ _ => rfl

/-- A member of another name does not show. -/
theorem once?_insert_other {member : Member} (other : member.name? ≠ some name) :
    once? name meaning missing (before ++ member :: after) =
      once? name meaning missing (before ++ after) := by
  -- What a field sees are the members of its name, and those stay the same.
  have same : under name (before ++ member :: after) = under name (before ++ after) := by
    rw [under_insert, if_neg other, List.nil_append]
    exact (List.filter_append before after).symm
  rw [once?, same, once?]

/-- A member shows by its name and its meaning only. -/
theorem once?_replace {member other : Member} (named : member.name? = other.name?)
    (alike : member.name? = some name → meaning member.2 = meaning other.2) :
    once? name meaning missing (before ++ member :: after) =
      once? name meaning missing (before ++ other :: after) := by
  by_cases own : member.name? = some name
  · unfold once?
    rw [under_insert, under_insert, if_pos own, if_pos (named ▸ own)]
    -- If no other member stands under the name, the two have the same meaning.
    cases under name before with
    | nil =>
      cases under name after with
      | nil => exact alike own
      | cons _ _ => rfl
    | cons _ more => cases more <;> rfl
  · rw [once?_insert_other own, once?_insert_other (named ▸ own)]

/-- The only member under a name has the meaning, and nothing is missing. -/
theorem once?_insert {member : Member} (own : member.name? = some name)
    (only : ∀ other ∈ before ++ after, other.name? ≠ some name) :
    once? name meaning missing (before ++ member :: after) = meaning member.2 ∧
      once? name meaning missing (before ++ after) = missing := by
  -- With no other member of the name, the field sees the inserted one alone, and without it none.
  have none {list : List Member} (others : ∀ other ∈ list, other.name? ≠ some name) :
      under name list = [] :=
    List.filter_eq_nil_iff.2 fun other listed => by simpa using others other listed
  have front := none fun other listed => only other (List.mem_append_left after listed)
  have back := none fun other listed => only other (List.mem_append_right before listed)
  constructor
  · rw [once?, under_insert, if_pos own, front, back]
    rfl
  · rw [once?, none only]

/-- Two members under a name have no meaning. -/
theorem once?_of_twice (twice : 2 ≤ (under name members).length) :
    once? name meaning missing members = none := by
  -- The two cases that give a value have fewer than two members.
  unfold once?
  split
  · rename_i spelled
    simp [spelled] at twice
  · rename_i spelled
    simp [spelled] at twice
  · rfl

/-- A member without meaning under a name leaves the name without one. -/
theorem once?_of_mem (listed : (letters, tree) ∈ members) (own : Letter.text? letters = some name)
    (refused : meaning tree = none) : once? name meaning missing members = none := by
  -- The field sees no member, one or several. The first cannot be, the second is this one, the
  -- third is refused anyway.
  have found : (letters, tree) ∈ under name members :=
    List.mem_filter.2 ⟨listed, by simpa [Member.name?] using own⟩
  unfold once?
  split
  · rename_i spelled
    simp [spelled] at found
  · rename_i spelled
    rw [spelled, List.mem_singleton] at found
    cases found
    exact refused
  · rfl

end Once

/-- What the fields of a record mean, in order. -/
inductive Meanings : Type → Type → Type 1
  | done : Meanings Unit Unit
  | field {α β δ : Type} (name : String) (meaning : Tree → Option α) (lacking : Lacking α)
      (rest : Meanings β δ) : Meanings (α × β) (Option α × δ)

namespace Meanings

/-- The names of a record's fields. -/
def names {α δ : Type} : Meanings α δ → List String
  | done => []
  | field name _ _ rest => name :: rest.names

/-- The meaning of items in the order of the fields. -/
def ofItems? {α δ : Type} : Meanings α δ → List Tree → Option α
  | done, [] => some ()
  | done, _ :: _ => none
  | field _ _ lacking rest, [] => do return (← lacking.inArray?, ← rest.ofItems? [])
  | field _ meaning _ rest, item :: items => do return (← meaning item, ← rest.ofItems? items)

/-- The meaning of members under the names of the fields. -/
def ofMembers? {α δ : Type} : Meanings α δ → List Member → Option α
  | done, _ => some ()
  | field name meaning lacking rest, members => do
    return (← once? name meaning lacking.inObject? members, ← rest.ofMembers? members)

/-- The meaning of a record, which is an object or an array. -/
def ofTree? {α δ : Type} (meanings : Meanings α δ) : Tree → Option α
  | .array items => meanings.ofItems? items
  | .object members =>
    -- A name that stands for nothing spoils the object, whether or not it is needed.
    if allNamed members then meanings.ofMembers? members else none
  | _ => none

/-- Whether no field tells null from being left out. -/
def Nullable {α δ : Type} : Meanings α δ → Prop
  | done => True
  | field _ meaning lacking rest => meaning .null = lacking.inObject? ∧ rest.Nullable

/-- Whether a tree means as much as another for the field of a name. -/
def Alike {α δ : Type} : Meanings α δ → String → Tree → Tree → Prop
  | done, _, _, _ => True
  | field name meaning _ rest, key, tree, other =>
    (key = name → meaning tree = meaning other) ∧ rest.Alike key tree other

/-- Whether a tree means nothing for the field of a name. -/
def Refuses {α δ : Type} : Meanings α δ → String → Tree → Prop
  | done, _, _ => False
  | field name meaning _ rest, key, tree =>
    (key = name ∧ meaning tree = none) ∨ rest.Refuses key tree

/-- Every tree means as much as itself. -/
theorem Alike.refl {α δ : Type} (meanings : Meanings α δ) (name : String) (tree : Tree) :
    meanings.Alike name tree tree := by
  -- A tree means to each field what it means.
  induction meanings with
  | done => trivial
  | field key meaning lacking rest ih => exact ⟨fun _ => rfl, ih⟩

section Laws

variable {α δ : Type} {before after members others : List Member} {letters : List Letter}
  {tree other : Tree} {name : String}

/-- Members that say the same under the name of each field have the same meaning. -/
theorem ofMembers?_congr (meanings : Meanings α δ)
    (same : ∀ name ∈ meanings.names, ∀ {β : Type} (meaning : Tree → Option β) (missing : Option β),
      once? name meaning missing members = once? name meaning missing others) :
    meanings.ofMembers? members = meanings.ofMembers? others := by
  -- A record is its fields, and a field looks at the members through its own name only.
  induction meanings with
  | done => rfl
  | field name meaning lacking rest ih =>
    rw [ofMembers?, ofMembers?, same name List.mem_cons_self,
      ih fun name listed => same name (List.mem_cons_of_mem _ listed)]

/-- Members show by their names and by what the fields of these names make of them. -/
theorem ofMembers?_replace (meanings : Meanings α δ) {member other : Member}
    (named : member.name? = other.name?)
    (alike : ∀ name, member.name? = some name → meanings.Alike name member.2 other.2) :
    meanings.ofMembers? (before ++ member :: after) =
      meanings.ofMembers? (before ++ other :: after) := by
  -- Each field either has the member's name, and then cannot tell the two apart, or sees neither of
  -- them.
  induction meanings with
  | done => rfl
  | field key meaning lacking rest ih =>
    have own : once? key meaning lacking.inObject? (before ++ member :: after) =
        once? key meaning lacking.inObject? (before ++ other :: after) :=
      once?_replace named fun own => (alike key own).1 rfl
    rw [ofMembers?, ofMembers?, own, ih fun name own => (alike name own).2]

/-- A field that is null may be left out. -/
theorem ofMembers?_null {meanings : Meanings α δ} (nullable : meanings.Nullable)
    (own : Letter.text? letters = some name)
    (only : ∀ other ∈ before ++ after, other.name? ≠ some name) :
    meanings.ofMembers? (before ++ (letters, .null) :: after) =
      meanings.ofMembers? (before ++ after) := by
  -- The field of that name reads null as it reads nothing; no other field sees the member.
  induction meanings with
  | done => rfl
  | field key meaning lacking rest ih =>
    have same : once? key meaning lacking.inObject? (before ++ (letters, .null) :: after) =
        once? key meaning lacking.inObject? (before ++ after) := by
      by_cases here : name = key
      · subst here
        have alone : Member.name? (letters, .null) = some name := own
        rw [(once?_insert alone only).1, (once?_insert alone only).2, nullable.1]
      · exact once?_insert_other fun named => here (Option.some.inj (own.symm.trans named))
    rw [ofMembers?, ofMembers?, same, ih nullable.2]

/-- A record has no meaning if its first field has none, or the others have none. -/
theorem ofMembers?_field_eq_none {β : Type} {rest : Meanings β δ} {meaning : Tree → Option α}
    {lacking : Lacking α}
    (missed : once? name meaning lacking.inObject? members = none ∨
      rest.ofMembers? members = none) :
    (field name meaning lacking rest).ofMembers? members = none := by
  -- The record takes a value from both.
  rw [ofMembers?]
  rcases missed with own | others
  · rw [own]
    rfl
  · rw [others]
    cases once? name meaning lacking.inObject? members <;> rfl

/-- A field that is given twice leaves a record without meaning. -/
theorem ofMembers?_of_twice {meanings : Meanings α δ} (known : name ∈ meanings.names)
    (twice : 2 ≤ (under name members).length) : meanings.ofMembers? members = none := by
  -- Induction down to the field of that name, which refuses.
  induction meanings with
  | done => cases known
  | field key meaning lacking rest ih =>
    rcases List.mem_cons.1 known with rfl | known
    · exact ofMembers?_field_eq_none (.inl (once?_of_twice twice))
    · exact ofMembers?_field_eq_none (.inr (ih known))

/-- A field without meaning leaves a record without one. -/
theorem ofMembers?_of_refuses {meanings : Meanings α δ} (refuses : meanings.Refuses name tree)
    (own : Letter.text? letters = some name) (listed : (letters, tree) ∈ members) :
    meanings.ofMembers? members = none := by
  -- Induction down to the field that refuses the tree.
  induction meanings with
  | done => cases refuses
  | field key meaning lacking rest ih =>
    rcases refuses with ⟨rfl, refused⟩ | refuses
    · exact ofMembers?_field_eq_none (.inl (once?_of_mem listed own refused))
    · exact ofMembers?_field_eq_none (.inr (ih refuses))

/-- The items of a record are its fields in order. -/
theorem ofItems?_eq_ofMembers? {meanings : Meanings α δ} (distinct : meanings.names.Nodup)
    (named : members.map Member.name? = meanings.names.map some) :
    meanings.ofItems? (members.map Prod.snd) = meanings.ofMembers? members := by
  induction meanings generalizing members with
  | done =>
    rw [List.map_eq_nil_iff.1 named]
    rfl
  | field name meaning lacking rest ih =>
    obtain ⟨fresh, distinct⟩ := List.nodup_cons.1 distinct
    obtain ⟨member, members, rfl, own, named⟩ := List.map_eq_cons_iff.1 named
    -- The members behind the first one have names of other fields, and so has it for them.
    have only : ∀ other ∈ [] ++ members, other.name? ≠ some name := by
      intro other listed same
      have known := List.mem_map_of_mem (f := Member.name?) listed
      rw [List.nil_append, named, same] at known
      obtain ⟨key, known, called⟩ := List.mem_map.1 known
      exact fresh (Option.some.inj called ▸ known)
    have first : once? name meaning lacking.inObject? (member :: members) = meaning member.2 :=
      (once?_insert own only).1
    have others : rest.ofMembers? (member :: members) = rest.ofMembers? members :=
      rest.ofMembers?_congr fun key known _ _ _ =>
        @once?_insert_other _ _ _ _ [] _ _ fun same =>
          fresh (Option.some.inj (own.symm.trans same) ▸ known)
    rw [List.map_cons, ofItems?, ofMembers?, first, others, ih distinct named]

variable {meanings : Meanings α δ}

/-- An object means what its members mean if the one added to them has a name. -/
theorem ofTree?_insert (member : Member) {name : String} (named : member.name? = some name)
    (same : meanings.ofMembers? (before ++ member :: after) = meanings.ofMembers? members)
    (around : allNamed (before ++ after) = allNamed members) :
    meanings.ofTree? (.object (before ++ member :: after)) =
      meanings.ofTree? (.object members) := by
  -- A record asks whether all members have names and what its fields make of them, and the
  -- insertion changes neither.
  have all : allNamed (before ++ member :: after) = allNamed members := by
    rw [← around]
    simp [allNamed, named]
  rw [ofTree?, ofTree?, all, same]

/-- A member shows by its name and by what the field of the name makes of it. -/
theorem ofTree?_replace (member other : Member) (named : member.name? = other.name?)
    (alike : ∀ name, member.name? = some name → meanings.Alike name member.2 other.2) :
    meanings.ofTree? (.object (before ++ member :: after)) =
      meanings.ofTree? (.object (before ++ other :: after)) := by
  -- The two members share a name, so they have one both or neither.
  have all : allNamed (before ++ member :: after) = allNamed (before ++ other :: after) := by
    simp [allNamed, named]
  rw [ofTree?, ofTree?, all, ofMembers?_replace meanings named alike]

/-- A record with a field without meaning has none. -/
theorem ofTree?_refuses (named : Letter.text? letters = some name)
    (refuses : meanings.Refuses name tree)
    (listed : (letters, tree) ∈ members) : meanings.ofTree? (.object members) = none := by
  -- Whether or not all members have names, there is no value.
  rw [ofTree?, ofMembers?_of_refuses refuses named listed]
  exact ite_self none

end Laws

end Meanings

end Roster.Json
