/-! Finite collections that hold at most one item per text key, listed in ascending key order. -/

namespace Roster

/-- A list of items with strictly ascending keys, so that equal collections are equal lists. -/
structure Index {α : Type} (key : α → String) where
  items : List α
  ascending : items.Pairwise (fun a b => key a < key b)

namespace Index

variable {α : Type} {key : α → String}

@[ext] theorem ext {a b : Index key} (same : a.items = b.items) : a = b := by
  cases a; cases b; cases same; rfl

instance [DecidableEq α] : DecidableEq (Index key) := fun a b =>
  decidable_of_iff (a.items = b.items) ⟨ext, fun same => same ▸ rfl⟩

/-- The collection without items. -/
def empty : Index key := ⟨[], .nil⟩

instance : EmptyCollection (Index key) := ⟨empty⟩
instance : Inhabited (Index key) := ⟨empty⟩

/-- The number of items. -/
def size (index : Index key) : Nat := index.items.length

/-- The item under a key. -/
def find? (index : Index key) (k : String) : Option α :=
  index.items.find? (fun item => key item == k)

/-- Places an item in a list by its key, in place of any item with the same key. -/
def place (key : α → String) (item : α) : List α → List α
  | [] => [item]
  | head :: rest =>
    if key item < key head then item :: head :: rest
    else if key item = key head then item :: rest
    else head :: place key item rest

/-- Everything in a list after placing an item is that item or was there before. -/
theorem mem_place {item other : α} {list : List α} (member : other ∈ place key item list) :
    other = item ∨ other ∈ list := by
  -- Each branch of the placement puts the item in front of a part of the old list.
  induction list with
  | nil => simpa [place] using member
  | cons head rest ih =>
    simp only [place] at member
    split at member
    · simpa using member
    · split at member
      · rcases List.mem_cons.1 member with same | old
        · exact .inl same
        · exact .inr (List.mem_cons_of_mem _ old)
      · rcases List.mem_cons.1 member with same | old
        · exact .inr (same ▸ List.mem_cons_self)
        · exact (ih old).imp_right (List.mem_cons_of_mem _)

/-- Placing an item keeps the keys strictly ascending. -/
theorem place_ascending {item : α} {list : List α}
    (ascending : list.Pairwise (fun a b => key a < key b)) :
    (place key item list).Pairwise (fun a b => key a < key b) := by
  -- The item goes before the first greater key, so both neighbours stay in order.
  induction list with
  | nil => simp [place]
  | cons head rest ih =>
    have ⟨below, tail⟩ := List.pairwise_cons.1 ascending
    simp only [place]
    split
    · rename_i before
      refine List.pairwise_cons.2 ⟨fun other member => ?_, ascending⟩
      rcases List.mem_cons.1 member with same | old
      · exact same ▸ before
      · exact String.lt_trans before (below other old)
    · rename_i notBefore
      split
      · rename_i same
        exact List.pairwise_cons.2 ⟨fun other member => same ▸ below other member, tail⟩
      · rename_i differs
        refine List.pairwise_cons.2 ⟨fun other member => ?_, ih tail⟩
        rcases mem_place member with same | old
        · rw [same]
          refine String.not_le.1 fun le => differs ?_
          exact String.le_antisymm le (String.not_lt.1 notBefore)
        · exact below other old

/-- Adds an item under its key, in place of any item there. -/
def insert (index : Index key) (item : α) : Index key :=
  ⟨place key item index.items, place_ascending index.ascending⟩

/-- The items that satisfy a test. -/
def filter (index : Index key) (keep : α → Bool) : Index key :=
  ⟨index.items.filter keep, index.ascending.filter _⟩

/-- The items changed by a function that keeps their keys. -/
def map (index : Index key) (change : α → α) (keeps : ∀ item, key (change item) = key item) :
    Index key where
  items := index.items.map change
  ascending := by
    -- The keys stand in the same order as before.
    rw [List.pairwise_map]
    simpa only [keeps] using index.ascending

/-- The collection of a list's items, where a later item replaces an earlier one of its key. -/
def ofList (items : List α) : Index key := items.foldl insert empty

/-- After placing an item, its key leads to it. -/
theorem find?_place_self (item : α) (list : List α) :
    (place key item list).find? (fun other => key other == key item) = some item := by
  -- Every item in front of the placed one has another key.
  induction list with
  | nil => simp [place]
  | cons head rest ih =>
    simp only [place]
    split
    · simp
    · split
      · simp
      · rename_i differs
        simpa [Ne.symm differs] using ih

/-- Placing an item leaves what other keys lead to. -/
theorem find?_place_other {item : α} {k : String} (other : key item ≠ k) (list : List α) :
    (place key item list).find? (fun entry => key entry == k) =
      list.find? (fun entry => key entry == k) := by
  -- Only an item of the same key can be dropped, and that one is not looked for.
  induction list with
  | nil => simp [place, other]
  | cons head rest ih =>
    simp only [place]
    split
    · simp [other]
    · split
      · rename_i same
        have differs : key head ≠ k := same ▸ other
        simp [other, differs]
      · by_cases hit : key head = k
        · simp [hit]
        · simpa [List.find?_cons, hit] using ih

@[simp] theorem find?_insert_self (index : Index key) (item : α) :
    (index.insert item).find? (key item) = some item :=
  find?_place_self item index.items

theorem find?_insert_other (index : Index key) {item : α} {k : String} (other : key item ≠ k) :
    (index.insert item).find? k = index.find? k :=
  find?_place_other other index.items

/-- An insertion is seen exactly under the key of the item. -/
theorem find?_insert (index : Index key) (item : α) (k : String) :
    (index.insert item).find? k = if key item = k then some item else index.find? k := by
  -- Whether the key is the new item's own decides which of the two lemmas before applies.
  split
  · rename_i same
    exact same ▸ find?_insert_self index item
  · rename_i other
    exact find?_insert_other index other

@[simp] theorem find?_empty (k : String) : (empty : Index key).find? k = none := rfl

/-- What a key leads to is an item of that key. -/
theorem find?_eq_some {index : Index key} {k : String} {item : α}
    (found : index.find? k = some item) : item ∈ index.items ∧ key item = k := by
  -- What a search finds is listed and passes the test of the search.
  refine ⟨List.mem_of_find?_eq_some found, ?_⟩
  simpa using List.find?_some found

/-- Each item is what its own key leads to. -/
theorem find?_of_mem {index : Index key} {item : α} (member : item ∈ index.items) :
    index.find? (key item) = some item := by
  -- Two items of one key would break the strict order of the keys.
  obtain ⟨items, ascending⟩ := index
  simp only [find?] at *
  induction items with
  | nil => simp at member
  | cons head rest ih =>
    have ⟨below, tail⟩ := List.pairwise_cons.1 ascending
    rcases List.mem_cons.1 member with same | old
    · subst same
      simp
    · have differs : key head ≠ key item := fun same =>
        String.lt_irrefl _ (same ▸ below item old)
      simpa [List.find?_cons, differs] using ih tail old

/-- An item is in a collection exactly if its own key leads to it. -/
theorem mem_items_iff {index : Index key} {item : α} :
    item ∈ index.items ↔ index.find? (key item) = some item :=
  ⟨find?_of_mem, fun found => (find?_eq_some found).1⟩

/-- No item is listed twice. -/
theorem nodup (index : Index key) : index.items.Nodup := by
  -- An item does not stand in front of itself.
  refine List.Pairwise.imp (fun {a b} below same => ?_) index.ascending
  subst same
  exact String.lt_irrefl _ below

/-- Collections in which every key leads to the same item are equal. -/
theorem ext_find? {a b : Index key} (same : ∀ k, a.find? k = b.find? k) : a = b := by
  -- Both lists are strictly ascending and have the same members.
  have members : ∀ item, item ∈ a.items ↔ item ∈ b.items := fun item => by
    rw [mem_items_iff, mem_items_iff, same]
  have same : a.items.Perm b.items := (List.perm_ext_iff_of_nodup a.nodup b.nodup).2 members
  refine ext (List.Perm.eq_of_pairwise (fun x y _ _ before after => ?_)
    a.ascending b.ascending same)
  exact absurd (String.lt_trans before after) (String.lt_irrefl _)

/-- After a filter, a key leads to what it led to if that satisfies the test. -/
@[simp] theorem find?_filter (index : Index key) (keep : α → Bool) (k : String) :
    (index.filter keep).find? k = (index.find? k).filter keep := by
  -- A key leads to at most one item, so no other one can take its place.
  cases found : index.find? k with
  | none =>
    refine Option.eq_none_iff_forall_ne_some.2 fun item hit => ?_
    obtain ⟨member, same⟩ := find?_eq_some hit
    have resident := find?_of_mem (List.mem_filter.1 member).1
    rw [same, found] at resident
    simp at resident
  | some item =>
    obtain ⟨member, same⟩ := find?_eq_some found
    by_cases kept : keep item
    · have stays : item ∈ (index.filter keep).items := List.mem_filter.2 ⟨member, kept⟩
      rw [← same, find?_of_mem stays, Option.filter_some, if_pos kept]
    · rw [Option.filter_some, if_neg kept]
      refine Option.eq_none_iff_forall_ne_some.2 fun other hit => ?_
      obtain ⟨otherMember, otherSame⟩ := find?_eq_some hit
      obtain ⟨wasThere, passes⟩ := List.mem_filter.1 otherMember
      have resident := find?_of_mem wasThere
      rw [otherSame, found, Option.some.injEq] at resident
      exact kept (resident ▸ passes)

/-- After a change of items, a key leads to the changed item. -/
@[simp] theorem find?_map (index : Index key) (change : α → α)
    (keeps : ∀ item, key (change item) = key item) (k : String) :
    (index.map change keeps).find? k = (index.find? k).map change := by
  -- The search compares keys alone, and those are kept.
  simp only [find?, map, List.find?_map]
  congr 2
  funext item
  simp only [Function.comp_apply, keeps]

/-- No two items have the same key. -/
theorem nodup_keys (index : Index key) : (index.items.map key).Nodup := by
  -- Keys that ascend are never equal.
  refine List.Pairwise.imp (fun {a b} below same => ?_) (List.pairwise_map.2 index.ascending)
  exact String.lt_irrefl _ (same ▸ below)

/-- Adding items of different keys leads to them, and otherwise to what was there before. -/
theorem find?_foldl_insert {items : List α} (distinct : (items.map key).Nodup)
    (index : Index key) (k : String) (item : α) :
    (items.foldl insert index).find? k = some item ↔
      (item ∈ items ∧ key item = k) ∨ (k ∉ items.map key ∧ index.find? k = some item) := by
  induction items generalizing index with
  | nil => simp
  | cons head rest ih =>
    have ⟨fresh, others⟩ := List.nodup_cons.1 distinct
    rw [List.foldl_cons, ih others, find?_insert, List.mem_cons, List.map_cons, List.mem_cons]
    by_cases same : key head = k
    · -- No later item has the key of the first one.
      subst same
      have later : item ∈ rest → key item ≠ key head := fun member equal =>
        fresh (List.mem_map.2 ⟨item, member, equal⟩)
      grind
    · grind

/-- After adding items, a key leads to the last one of them under it, or else to what was there. -/
theorem find?_foldl_insert_last (items : List α) (index : Index key) (k : String) :
    (items.foldl insert index).find? k =
      (items.reverse.find? fun item => key item == k).or (index.find? k) := by
  induction items generalizing index with
  | nil => rfl
  | cons head rest ih =>
    -- The first item counts only if no later one has its key.
    rw [List.foldl_cons, ih, find?_insert, List.reverse_cons, List.find?_append, Option.or_assoc]
    by_cases same : key head = k <;> simp [same]

/-- A key leads to the last item of a list under it. -/
theorem find?_ofList (items : List α) (k : String) :
    (ofList items : Index key).find? k = items.reverse.find? fun item => key item == k := by
  -- The item inserted last counts, which is the first from the back.
  rw [ofList, find?_foldl_insert_last, find?_empty, Option.or_none]

/-- Items of different keys make the same collection in whichever order they come. -/
theorem ofList_eq_of_perm {items others : List α} (distinct : (items.map key).Nodup)
    (perm : items.Perm others) : (ofList items : Index key) = ofList others := by
  -- A look-up depends on which items there are, not on their order.
  have otherDistinct : (others.map key).Nodup := (perm.map key).nodup_iff.1 distinct
  apply ext_find?
  intro k
  ext item
  simp only [ofList, find?_foldl_insert distinct, find?_foldl_insert otherDistinct, perm.mem_iff,
    (perm.map key).mem_iff]

/-- The collection of a collection's items is that collection. -/
theorem ofList_items (index : Index key) : ofList index.items = index := by
  -- No key is held twice, so the order in which the items come back does not matter.
  apply ext_find?
  intro k
  ext item
  rw [ofList, find?_foldl_insert index.nodup_keys, find?_empty]
  constructor
  · rintro (⟨member, rfl⟩ | ⟨-, held⟩)
    · exact find?_of_mem member
    · cases held
  · intro found
    have ⟨member, same⟩ := find?_eq_some found
    exact .inl ⟨member, same⟩

/-- The collection of a collection's items is that collection, in whichever order they come. -/
theorem ofList_of_perm {items : List α} {index : Index key} (perm : items.Perm index.items) :
    ofList items = index :=
  -- Of the keys of an index none occurs twice, so the order of insertion does not matter.
  (ofList_eq_of_perm ((perm.map key).nodup_iff.2 index.nodup_keys) perm).trans index.ofList_items

end Index

end Roster
