import Roster.Proofs.Json.Text
import Roster.Proofs.Store.Version
import Mathlib.Data.List.Nodup

/-!
The text that is hashed for a digest tells all versions, however long or strange the node ids are,
and it does not tell in which order the entries were listed. So of entries of different nodes it
identifies just the set of versions. For stores with one text, each node id leads to entries of one
version or to none in both.
-/

namespace Roster

namespace Digest

open Json

/-- The members of a version one after the other, and what follows the record. -/
theorem Version.chars_append (version : Version) (rest : List Char) :
    version.toJson.chars ++ rest =
      '\x7b' :: (quote "node_id" ++ ':' :: (str version.nodeId).chars ++
        ',' :: (quote "timestamp" ++ ':' :: (int version.timestamp.val).chars ++
          ',' :: (quote "tombstone" ++ ':' :: (bool version.tombstone).chars ++
            '\x7d' :: rest))) := by
  simp only [toJson, chars, memberChars, List.cons_append, List.append_assoc, List.nil_append]

/-- The record of a version tells the version and where it ends. -/
theorem telling_version : Telling Version.toJson := by
  intro a b x y _ _ same
  rw [Version.chars_append, Version.chars_append] at same
  -- The members stand in one order, each followed by a comma or the closing brace.
  obtain ⟨node, afterNode⟩ :=
    telling_str.member "node_id" (follows_comma _) (follows_comma _) (List.cons.inj same).2
  obtain ⟨time, afterTime⟩ :=
    telling_int.member "timestamp" (follows_comma _) (follows_comma _) (List.cons.inj afterNode).2
  obtain ⟨gone, afterGone⟩ :=
    telling_bool.member "tombstone" (follows_brace _) (follows_brace _) (List.cons.inj afterTime).2
  refine ⟨?_, (List.cons.inj afterGone).2⟩
  -- The three members are all there is to a version.
  obtain ⟨nodeA, timeA, goneA⟩ := a
  obtain ⟨nodeB, timeB, goneB⟩ := b
  cases node
  cases Millis.ext time
  cases gone
  rfl

/-- The text that is hashed tells the versions in their order. -/
theorem versions_eq_of_text_eq {xs ys : List Entry} (same : text xs = text ys) :
    versions xs = versions ys := by
  refine telling_version.compact_list (fun version rest tail starts => ?_) same
  -- A record starts with a brace.
  rw [Version.chars_append] at starts
  cases starts

/-- The text depends on the versions of the entries alone. -/
theorem text_congr {xs ys : List Entry} (same : xs.map versionOf = ys.map versionOf) :
    text xs = text ys := by
  -- The text is made of the versions and of nothing else.
  unfold text versions
  rw [same]

/-- The versions are those of the entries. -/
theorem mem_versions {version : Version} {entries : List Entry} :
    version ∈ versions entries ↔ ∃ entry ∈ entries, versionOf entry = version := by
  -- Sorting keeps the members.
  rw [versions, List.mem_mergeSort, List.mem_map]

/-- The versions of entries stand in ascending order of node ids. -/
theorem versions_ascending (entries : List Entry) :
    (versions entries).Pairwise fun a b => a.nodeId ≤ b.nodeId := by
  -- Sorting needs an order that is transitive and total, as that of texts is.
  unfold versions
  refine (List.pairwise_mergeSort (fun a b c => ?_) (fun a b => ?_) _).imp of_decide_eq_true
  · simp only [decide_eq_true_eq]
    exact String.le_trans
  · simp only [Bool.or_eq_true, decide_eq_true_eq]
    exact String.le_total _ _

/-- Entries of different nodes with the same versions have one list of versions. -/
theorem versions_eq_of_perm {xs ys : List Entry}
    (perm : (xs.map versionOf).Perm (ys.map versionOf))
    (distinct : (ys.map Entry.nodeId).Nodup) : versions xs = versions ys := by
  have same : (versions xs).Perm (versions ys) :=
    (List.mergeSort_perm _ _).trans (perm.trans (List.mergeSort_perm _ _).symm)
  refine List.Perm.eq_of_pairwise (fun a b inA inB before after => ?_)
    (versions_ascending xs) (versions_ascending ys) same
  -- Two versions of one node are those of one entry, so there are no ties to be broken.
  obtain ⟨x, listedX, rfl⟩ := mem_versions.1 (same.mem_iff.1 inA)
  obtain ⟨y, listedY, rfl⟩ := mem_versions.1 inB
  have node : x.nodeId = y.nodeId := String.le_antisymm before after
  rw [List.inj_on_of_nodup_map distinct listedX listedY node]

/-- Entries of different nodes have one text, whichever order they are listed in. -/
theorem text_eq_of_perm {xs ys : List Entry} (perm : xs.Perm ys)
    (distinct : (ys.map Entry.nodeId).Nodup) : text xs = text ys := by
  -- Versions with different node ids come out of sorting in one order only.
  unfold text
  rw [versions_eq_of_perm (perm.map versionOf) distinct]

/-- Entries of different nodes have different versions. -/
theorem nodup_map_versionOf {entries : List Entry} (distinct : (entries.map Entry.nodeId).Nodup) :
    (entries.map versionOf).Nodup := by
  -- A version tells the node id, so one version twice would be one node id twice.
  refine List.Nodup.of_map Version.nodeId ?_
  rwa [List.map_map]

/--
The hashed text identifies the set of versions.

Of two lists of entries, each of different nodes, the hashed texts are the same exactly if the lists
have the same triples of a node id, a timestamp and whether there is a tombstone. Neither the order
of the entries nor any other part of them shows, and no characters in node ids let two sets of
versions share a text.
-/
theorem text_identifies_versions {xs ys : List Entry} (distinctX : (xs.map Entry.nodeId).Nodup)
    (distinctY : (ys.map Entry.nodeId).Nodup) :
    text xs = text ys ↔
      ∀ nodeId timestamp tombstone,
        (∃ x ∈ xs, x.nodeId = nodeId ∧ x.timestamp = timestamp ∧ x.isTombstone = tombstone) ↔
          ∃ y ∈ ys, y.nodeId = nodeId ∧ y.timestamp = timestamp ∧ y.isTombstone = tombstone := by
  -- A triple is in a list exactly if it is one of the versions.
  have triple (entries : List Entry) (nodeId : String) (timestamp : Millis) (tombstone : Bool) :
      (∃ entry ∈ entries, entry.nodeId = nodeId ∧ entry.timestamp = timestamp ∧
        entry.isTombstone = tombstone) ↔
        ⟨nodeId, timestamp, tombstone⟩ ∈ entries.map versionOf := by
    simp only [List.mem_map, versionOf, Version.mk.injEq]
  simp only [triple]
  constructor
  · intro same nodeId timestamp tombstone
    -- The text tells the sorted versions, and sorting neither adds nor drops any.
    have sorted := versions_eq_of_text_eq same
    simp only [versions] at sorted
    rw [← List.mem_mergeSort, sorted, List.mem_mergeSort]
  · intro same
    have perm : (xs.map versionOf).Perm (ys.map versionOf) := by
      refine (List.perm_ext_iff_of_nodup (nodup_map_versionOf distinctX)
        (nodup_map_versionOf distinctY)).2 ?_
      rintro ⟨nodeId, timestamp, tombstone⟩
      exact same nodeId timestamp tombstone
    -- Sorted by node id, which is in no two of them, the versions stand in one order.
    unfold text
    rw [versions_eq_of_perm perm distinctY]

/--
Two entries have the text of others with the same versions, in the other order and with other parts.

One entry whose node id spells the end of a record and the start of the next has another text.
-/
theorem text_identifies_versions_forged :
    let first : Entry := .live "a\\" [default] 1 10 (some "10.0.0.1")
    let second : Entry := .tombstone "b\x00\"" 2 none
    let forged : Entry :=
      .live "a\\\",\"timestamp\":1,\"tombstone\":false\x7d,\x7b\"node_id\":\"b\x00\"" [] 2 10 none
    ([first, second].map Entry.nodeId).Nodup ∧ ([forged].map Entry.nodeId).Nodup ∧
      text [first, second] = text [.tombstone "b\x00\"" 2 (some "x"), .live "a\\" [] 1 99 none] ∧
      text [first, second] ≠ text [forged] := by
  intro first second forged
  have distinct : ([first, second].map Entry.nodeId).Nodup := by decide
  have single : ([forged].map Entry.nodeId).Nodup := by decide
  refine ⟨distinct, single, (text_identifies_versions distinct (by decide)).2 ?_, ?_⟩
  · intro nodeId timestamp tombstone
    -- The same two triples are there, whichever stands in front.
    simp only [first, second, Entry.live, Entry.tombstone, Entry.isTombstone, List.mem_cons,
      List.not_mem_nil, or_false, exists_eq_or_imp, exists_eq_left, Option.isNone_some,
      Option.isNone_none]
    exact or_comm
  · intro same
    -- The forged list has one node id, which is not that of the first entry.
    have listed := ((text_identifies_versions distinct single).1 same first.nodeId 1 false).1
      ⟨first, by simp, rfl, rfl, rfl⟩
    simp [first, forged, Entry.live] at listed

end Digest

namespace Store

/-- Where the hashed texts of two stores are one, what a node id leads to has one version. -/
theorem version_eq_of_text_eq {a b : Store} (same : Digest.text a.items = Digest.text b.items)
    (nodeId : String) :
    (a.get? nodeId).map Digest.versionOf = (b.get? nodeId).map Digest.versionOf := by
  -- What one store holds of a node id, the other holds with its version.
  have carried : ∀ {first second : Store} {entry : Entry},
      Digest.versions first.items = Digest.versions second.items →
      first.get? nodeId = some entry →
      (second.get? nodeId).map Digest.versionOf = some (Digest.versionOf entry) := by
    intro first second entry versions found
    have node := nodeId_of_get? found
    have listed : entry ∈ first.items := mem_items_iff_get?.2 (node.symm ▸ found)
    have version := Digest.mem_versions.2 ⟨entry, listed, rfl⟩
    rw [versions] at version
    obtain ⟨other, member, matched⟩ := Digest.mem_versions.1 version
    have otherNode : other.nodeId = nodeId :=
      (congrArg Digest.Version.nodeId matched).trans node
    rw [← otherNode, mem_items_iff_get?.1 member, Option.map_some, matched]
  have versions := Digest.versions_eq_of_text_eq same
  -- So neither can hold something of a node of which the other holds nothing.
  cases foundA : a.get? nodeId with
  | some entry => exact (carried versions foundA).symm
  | none =>
    cases foundB : b.get? nodeId with
    | none => rfl
    | some entry =>
      have held := carried versions.symm foundB
      rw [foundA] at held
      cases held

end Store

end Roster
