import Mathlib.Data.List.Basic
import Roster.Trust

/-!
The order of addresses. It is total, and two addresses of which neither comes later are one, so that
a list of addresses in order and without repetitions is settled by what is in it. What a look-up of
several hosts comes to is such a list.
-/

namespace Roster

namespace Address

/-- Of two lists of numbers one does not come after the other. -/
theorem inOrder_total (a b : List Nat) : (inOrder a b || inOrder b a) = true := by
  induction a generalizing b with
  | nil => rfl
  | cons m ms ih =>
    cases b with
    | nil => rfl
    | cons n ns =>
      have rest := ih ns
      simp only [inOrder, Bool.or_eq_true, Bool.and_eq_true, decide_eq_true_eq] at rest ⊢
      -- The first difference decides, and without one the rest does.
      rcases Nat.lt_trichotomy m n with below | same | above
      · exact .inl (.inl below)
      · exact rest.imp (fun order => .inr ⟨same, order⟩) fun order => .inr ⟨same.symm, order⟩
      · exact .inr (.inl above)

/-- Lists of numbers in order are in order with those that come after them. -/
theorem inOrder_trans (a b c : List Nat) (first : inOrder a b = true)
    (second : inOrder b c = true) : inOrder a c = true := by
  -- The order compares the first parts and, where they are equal, the rest; the cases say at which
  -- of the two steps each comparison was decided.
  induction a generalizing b c with
  | nil => rfl
  | cons l ls ih =>
    cases b with
    | nil => cases first
    | cons m ms =>
      cases c with
      | nil => cases second
      | cons n ns =>
        simp only [inOrder, Bool.or_eq_true, Bool.and_eq_true, decide_eq_true_eq]
          at first second ⊢
        rcases first with below | ⟨rfl, first⟩
        · rcases second with above | ⟨rfl, -⟩
          · exact .inl (Nat.lt_trans below above)
          · exact .inl below
        · rcases second with above | ⟨rfl, second⟩
          · exact .inl above
          · exact .inr ⟨rfl, ih ms ns first second⟩

/-- Lists of numbers of which neither comes after the other are equal. -/
theorem inOrder_antisymm {a b : List Nat} (first : inOrder a b = true)
    (second : inOrder b a = true) : a = b := by
  -- Both ways strictly below at one part is impossible, so every part is equal.
  induction a generalizing b with
  | nil =>
    cases b with
    | nil => rfl
    | cons n ns => cases second
  | cons m ms ih =>
    cases b with
    | nil => cases first
    | cons n ns =>
      simp only [inOrder, Bool.or_eq_true, Bool.and_eq_true, decide_eq_true_eq] at first second
      rcases first with below | ⟨rfl, first⟩
      · rcases second with above | ⟨rfl, -⟩
        · exact absurd above (Nat.lt_asymm below)
        · exact absurd below (Nat.lt_irrefl _)
      · rcases second with above | ⟨-, second⟩
        · exact absurd above (Nat.lt_irrefl _)
        · rw [ih first second]

/-- The numbers by which an address is ordered tell which one it is. -/
theorem rank_injective {a b : Address} (same : a.rank = b.rank) : a = b := by
  -- The first number tells the version, and the others are the parts of the address.
  cases a with
  | v4 octets =>
    cases b with
    | v4 others =>
      have parts := (List.map_inj_right fun _ _ => UInt8.toNat_inj.1).1 (List.cons.inj same).2
      rw [Vector.toList_inj.1 parts]
    | v6 groups => simp [rank] at same
  | v6 groups =>
    cases b with
    | v4 octets => simp [rank] at same
    | v6 others =>
      have parts := (List.map_inj_right fun _ _ => UInt16.toNat_inj.1).1 (List.cons.inj same).2
      rw [Vector.toList_inj.1 parts]

/-- Addresses of which neither comes after the other are equal. -/
theorem eq_of_inOrder {a b : Address} (first : inOrder a.rank b.rank = true)
    (second : inOrder b.rank a.rank = true) : a = b :=
  -- The rank tells an address, so the order is antisymmetric on addresses as it is on ranks.
  rank_injective (inOrder_antisymm first second)

end Address

namespace Trust

/-- What holds of no address, and of one and others if it holds of these without its repetitions,
holds of all lists. -/
theorem induction_without {holds : List Address → Prop} (nil : holds [])
    (cons : ∀ first rest, holds (rest.filter fun other => !other == first) → holds (first :: rest))
    (addresses : List Address) : holds addresses := by
  -- What is left of the rest is no longer than the rest, so the length decreases.
  induction length : addresses.length using Nat.strongRecOn generalizing addresses with
  | ind count ih =>
    cases addresses with
    | nil => exact nil
    | cons first rest =>
      have shorter := List.length_filter_le (fun other => !other == first) rest
      rw [List.length_cons] at length
      exact cons first rest (ih _ (by omega) _ rfl)

/-- Leaving repetitions out keeps the order of what is left. -/
theorem eraseDups_sublist (addresses : List Address) :
    addresses.eraseDups.Sublist addresses := by
  -- Erasing repetitions drops the first address from the rest, so the induction is on the rest
  -- without it and not on the rest.
  induction addresses using induction_without with
  | nil => exact .slnil
  | cons first rest ih =>
    rw [List.eraseDups_cons]
    exact (ih.trans List.filter_sublist).cons_cons first

/-- Nothing is left twice when repetitions are left out. -/
theorem nodup_eraseDups (addresses : List Address) : addresses.eraseDups.Nodup := by
  induction addresses using induction_without with
  | nil => exact .nil
  | cons first rest ih =>
    rw [List.eraseDups_cons, List.nodup_cons]
    -- The first address has been left out of the rest.
    refine ⟨fun again => ?_, ih⟩
    simpa using List.mem_eraseDups.1 again

/-- What is found comes in ascending order. -/
theorem pairwise_addresses (resolver : Resolver) (uris : List String) :
    (addresses resolver uris).Pairwise fun a b => Address.inOrder a.rank b.rank = true :=
  -- Erasing repetitions takes elements out of the sorted list and moves none.
  (List.pairwise_mergeSort (fun a b c => Address.inOrder_trans a.rank b.rank c.rank)
    (fun a b => Address.inOrder_total a.rank b.rank) _).sublist (eraseDups_sublist _)

/-- Look-ups that find the same addresses come to the same list of them. -/
theorem addresses_eq_of_mem_iff {resolver other : Resolver} {uris others : List String}
    (same : ∀ address, address ∈ addresses resolver uris ↔ address ∈ addresses other others) :
    addresses resolver uris = addresses other others := by
  -- Two lists without repetitions and with equal members are permutations of each other, and an
  -- order that is total up to equality leaves one arrangement.
  have perm : (addresses resolver uris).Perm (addresses other others) :=
    (List.perm_ext_iff_of_nodup (nodup_eraseDups _) (nodup_eraseDups _)).2 same
  exact perm.eq_of_pairwise (fun _ _ _ _ => Address.eq_of_inOrder)
    (pairwise_addresses resolver uris) (pairwise_addresses other others)

end Trust

end Roster
