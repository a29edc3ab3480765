import Mathlib.Data.List.Dedup
import Roster.Proofs.Cluster
import Roster.Proofs.Store.Merging
import Roster.Proofs.Store.Remembered

/-!
A round of replication against the answers of the peers. It comes to one merge of all that was
given, so a peer that fails leaves no trace, and a second round with the same answers does nothing.
-/

namespace Roster

namespace Profile

/-- The distinct texts are the texts. -/
theorem mem_distinct {texts : List String} {text : String} :
    text ∈ distinct texts ↔ text ∈ texts := by
  -- The induction goes along the texts, each of which is added to those before.
  have added : ∀ index : Index fun text : String => text,
      (texts.foldl Index.insert index).find? text = some text ↔
        text ∈ texts ∨ index.find? text = some text := by
    induction texts with
    | nil => simp
    | cons head rest ih =>
      intro index
      rw [List.foldl_cons, ih, Index.find?_insert, List.mem_cons]
      by_cases same : head = text
      · simp [same]
      · simp [same, Ne.symm same]
  have listed := @Index.mem_items_iff String (fun text => text) (Index.ofList texts) text
  exact listed.trans ((added ∅).trans (or_iff_left (by simp [EmptyCollection.emptyCollection])))

/-- There are as many distinct texts as are left when repetitions are dropped. -/
theorem length_distinct (texts : List String) :
    (distinct texts).length = texts.dedup.length := by
  -- Both lists have every text once, so each is an arrangement of the other.
  have listed : (distinct texts).Nodup := Index.nodup _
  refine List.Perm.length_eq ((List.perm_ext_iff_of_nodup listed texts.nodup_dedup).2 ?_)
  intro text
  rw [mem_distinct, List.mem_dedup]

end Profile

namespace Catch

/-- Whether a peer gave its entries. -/
def isGiven (found : Catch) : Bool := found.entries.toOption.isSome

/-- The entries that peers gave, one list for each peer that did not fail. -/
def snapshots (catches : List Catch) : List (List Entry) :=
  catches.filterMap fun found => found.entries.toOption

/-- Peers that fail give nothing. -/
theorem snapshots_filter_isGiven (catches : List Catch) :
    snapshots (catches.filter isGiven) = snapshots catches := by
  -- A peer that fails gives no snapshot anyway.
  unfold snapshots
  rw [List.filterMap_filter]
  congr 1
  funext found
  cases given : found.entries <;> simp [isGiven, given, Except.toOption]

/-- In another order, peers give the same entries. -/
theorem mem_flatten_snapshots_of_perm {catches others : List Catch} (perm : others.Perm catches)
    (entry : Entry) : entry ∈ (snapshots others).flatten ↔ entry ∈ (snapshots catches).flatten := by
  -- Peers that answer in another order give the same snapshots in another order.
  have lists : (snapshots others).Perm (snapshots catches) := perm.filterMap _
  simp only [List.mem_flatten, lists.mem_iff]

end Catch

open Catch (snapshots)

/-- Counting on from a number adds the entries that the readings brought. -/
theorem Summary.foldl_count (start : Nat) (pulls : List Pull) :
    pulls.foldl (fun total pull => total + pull.count) start =
      start + (Summary.ofPulls pulls).merged := by
  -- The sum starts somewhere in the statement, since it does so behind the first pull.
  induction pulls generalizing start with
  | nil => rfl
  | cons pull rest ih =>
    have alone : (Summary.ofPulls (pull :: rest)).merged =
        0 + pull.count + (Summary.ofPulls rest).merged := ih (0 + pull.count)
    rw [List.foldl_cons, ih, alone]
    omega

/-- A further reading adds the entries that it brought. -/
theorem Summary.merged_ofPulls_cons (pull : Pull) (rest : List Pull) :
    (Summary.ofPulls (pull :: rest)).merged = pull.count + (Summary.ofPulls rest).merged := by
  -- The count of the first pull is where the sum of the others starts.
  rw [← Summary.foldl_count]
  exact congrArg (rest.foldl _) (Nat.zero_add pull.count)

namespace Node

/-- Lets a node deal with what its peers gave, in the order of arrival. -/
def round (node : Node) (catches : List Catch) : Outcome Summary :=
  (node.takeAll catches).map Summary.ofPulls

/-- An entry is counted as taken in exactly if it changes the store. -/
theorem toNat_answer_merge (node : Node) (entry : Entry) :
    (node.merge entry).answer.toNat =
      if node.store.merge node.profile.migration entry = node.store then 0 else 1 := by
  -- An entry is taken in exactly if the store is another one afterwards.
  have answer : (node.merge entry).answer =
      node.store.admitsFromPeer node.profile.migration entry :=
    node.ledger.merge_answer node.profile.migration entry
  rw [answer]
  cases taken : node.store.admitsFromPeer node.profile.migration entry with
  | false => rw [if_pos (Store.admitsFromPeer_eq_false_iff.1 taken), Bool.toNat_false]
  | true =>
    have changed : node.store.merge node.profile.migration entry ≠ node.store := by
      intro same
      rw [Store.admitsFromPeer_eq_false_iff.2 same] at taken
      cases taken
    rw [if_neg changed, Bool.toNat_true]

/-- An entry that does not change the store changes nothing about a node. -/
theorem node_merge_of_same {node : Node} {entry : Entry}
    (same : node.store.merge node.profile.migration entry = node.store) :
    (node.merge entry).node = node := by
  have refused := Store.admitsFromPeer_eq_false_iff.2 same
  have ledger : (node.ledger.merge node.profile.migration entry).2 = node.ledger := by
    unfold Ledger.merge Ledger.put
    -- A well-formed entry is turned away, and any other is dropped.
    split
    · rename_i wellFormed
      rw [Store.admitsFromPeer, wellFormed, Bool.true_and] at refused
      have late : ¬ node.ledger.store.admits (node.profile.migration.translate entry) :=
        Bool.eq_false_iff.1 refused
      rw [if_neg late]
    · rfl
  exact congrArg (fun ledger => ({ node with ledger } : Node)) ledger

/-- The entries that are counted are those that change the store when their turn comes. -/
theorem answer_mergeAll (node : Node) (entries : List Entry) :
    (node.mergeAll entries).answer = node.store.changes node.profile.migration entries := by
  -- The induction is on the entries; what is left to merge meets the store that the first one
  -- leaves.
  induction entries generalizing node with
  | nil => rfl
  | cons entry rest ih =>
    show (node.merge entry).answer.toNat + ((node.merge entry).node.mergeAll rest).answer = _
    rw [ih, toNat_answer_merge, store_merge, profile_merge, Store.changes]

/-- Entries that are all reached change nothing about a node. -/
theorem node_mergeAll_of_covers {node : Node} {entries : List Entry}
    (covers : node.store.Covers entries) : (node.mergeAll entries).node = node := by
  -- Each of the entries changes nothing, so the next one meets the node as it was.
  induction entries with
  | nil => rfl
  | cons entry rest ih =>
    show ((node.merge entry).node.mergeAll rest).node = node
    rw [node_merge_of_same covers.merge_eq_self]
    exact ih fun other member => covers other (List.mem_cons_of_mem _ member)

/-- Entries in two parts are merged one part after the other. -/
theorem node_mergeAll_append (node : Node) (first second : List Entry) :
    (node.mergeAll (first ++ second)).node =
      ((node.mergeAll first).node.mergeAll second).node := by
  -- The induction is on the first entries, and the node goes along.
  induction first generalizing node with
  | nil => rfl
  | cons entry rest ih => exact ih (node.merge entry).node

/-- What peers gave is merged like one list of entries. -/
theorem node_takeAll (node : Node) (catches : List Catch) :
    (node.takeAll catches).node = (node.mergeAll (snapshots catches).flatten).node := by
  -- The induction is on the peers; one that fails has nothing that would be merged.
  induction catches generalizing node with
  | nil => rfl
  | cons found rest ih =>
    obtain ⟨peer, given⟩ := found
    cases given with
    | error fault => exact ih node
    | ok entries =>
      show ((node.mergeAll entries).node.takeAll rest).node =
        (node.mergeAll (entries ++ (snapshots rest).flatten)).node
      rw [ih, node_mergeAll_append]

/-- A round merges what peers gave like one list of entries. -/
theorem store_round (node : Node) (catches : List Catch) :
    (node.round catches).node.store =
      node.store.mergeAll node.profile.migration (snapshots catches).flatten := by
  -- A round only counts what the merging of all snapshots has done.
  show (node.takeAll catches).node.store = _
  rw [node_takeAll, store_mergeAll]

@[simp] theorem profile_round (node : Node) (catches : List Catch) :
    (node.round catches).node.profile = node.profile := by
  -- Merging is all that a round does to the node.
  show (node.takeAll catches).node.profile = _
  rw [node_takeAll, profile_mergeAll]

/-- There is one reading for each peer. -/
theorem length_answer_takeAll (node : Node) (catches : List Catch) :
    (node.takeAll catches).answer.length = catches.length := by
  -- Each peer makes one pull, whatever it gave.
  induction catches generalizing node with
  | nil => rfl
  | cons found rest ih => exact congrArg (· + 1) (ih (node.take found).node)

/-- The readings that failed are those of the peers that gave nothing. -/
theorem countP_isFailed_takeAll (node : Node) (catches : List Catch) :
    (node.takeAll catches).answer.countP Pull.isFailed = catches.countP (!·.isGiven) := by
  -- The induction is on the peers; whether a pull failed does not depend on the node.
  induction catches generalizing node with
  | nil => rfl
  | cons found rest ih =>
    have failed : (node.take found).answer.isFailed = !found.isGiven := by
      obtain ⟨peer, given⟩ := found
      cases given <;> rfl
    show ((node.take found).answer :: ((node.take found).node.takeAll rest).answer).countP
      Pull.isFailed = _
    rw [List.countP_cons, List.countP_cons, ih, failed]

/-- The counts of the readings come to the number of changes to the store. -/
theorem merged_takeAll (node : Node) (catches : List Catch) :
    (Summary.ofPulls (node.takeAll catches).answer).merged =
      node.store.changes node.profile.migration (snapshots catches).flatten := by
  induction catches generalizing node with
  | nil => rfl
  | cons found rest ih =>
    obtain ⟨peer, given⟩ := found
    cases given with
    | error fault =>
      refine (Summary.merged_ofPulls_cons _ _).trans ?_
      exact (Nat.zero_add _).trans (ih node)
    | ok entries =>
      refine (Summary.merged_ofPulls_cons _ _).trans ?_
      -- The rest meets the store that these entries leave.
      show (node.mergeAll entries).answer +
        (Summary.ofPulls ((node.mergeAll entries).node.takeAll rest).answer).merged =
          node.store.changes node.profile.migration (entries ++ (snapshots rest).flatten)
      rw [ih, answer_mergeAll, Store.changes_append, store_mergeAll, profile_mergeAll]

/-- The counts of a round are those of the peers, of the failures and of the changes. -/
theorem answer_round (node : Node) (catches : List Catch) :
    (node.round catches).answer =
      ⟨catches.length, catches.countP (!·.isGiven),
        node.store.changes node.profile.migration (snapshots catches).flatten⟩ := by
  -- The summary is put together from the three counts of the pulls.
  show Summary.ofPulls (node.takeAll catches).answer = _
  rw [← node.length_answer_takeAll catches, ← node.countP_isFailed_takeAll catches,
    ← node.merged_takeAll catches]
  rfl

/-- Without the peers that fail, a round leaves the same node. -/
theorem node_round_filter_isGiven (node : Node) (catches : List Catch) :
    (node.round (catches.filter Catch.isGiven)).node = (node.round catches).node := by
  -- The node depends on the snapshots alone.
  show (node.takeAll (catches.filter Catch.isGiven)).node = (node.takeAll catches).node
  rw [node_takeAll, node_takeAll, Catch.snapshots_filter_isGiven]

/-- A round counts no entries exactly if it leaves the store as it was. -/
theorem merged_round_eq_zero_iff {node : Node} {catches : List Catch} :
    (node.round catches).answer.merged = 0 ↔ (node.round catches).node.store = node.store := by
  -- Changes are counted one by one, and the store can never change back.
  rw [answer_round, store_round, Store.mergeAll_eq_self_iff]
  exact Store.changes_eq_zero_iff

/-- In whichever order peers answer, a round leaves the same versions. -/
theorem version?_round_of_perm {catches others : List Catch} (perm : others.Perm catches)
    (node : Node) (nodeId : String) :
    (node.round others).node.store.version? nodeId =
      (node.round catches).node.store.version? nodeId := by
  -- The versions that a store ends up with depend on which entries there are.
  rw [store_round, store_round]
  exact Store.version?_mergeAll_congr (Catch.mem_flatten_snapshots_of_perm perm)

/-- Where no two entries given share a version, a round leaves the same store in every order. -/
theorem store_round_of_perm {catches others : List Catch} (perm : others.Perm catches)
    (distinct : Entry.OnePerVersion (snapshots catches).flatten) (node : Node) :
    (node.round others).node.store = (node.round catches).node.store := by
  -- Where a version has one content, an entry may arrive before another or after it.
  rw [store_round, store_round]
  exact Store.mergeAll_congr distinct (Catch.mem_flatten_snapshots_of_perm perm) _

/-- A second round with the same answers, in whichever order, finds nothing to do. -/
theorem round_round_of_perm {catches others : List Catch} (perm : others.Perm catches)
    (node : Node) :
    ((node.round catches).node.round others).answer =
        ⟨catches.length, catches.countP (!·.isGiven), 0⟩ ∧
      ((node.round catches).node.round others).node = (node.round catches).node := by
  -- After the first round everything that was given is reached.
  have covers : (node.round catches).node.store.Covers (snapshots others).flatten := by
    intro entry member wellFormed
    rw [store_round]
    have given := (Catch.mem_flatten_snapshots_of_perm perm entry).1 member
    exact Store.reaches_mergeAll node.store _ given wellFormed
  constructor
  · rw [answer_round, Store.changes_eq_zero_iff.2 covers, perm.length_eq, perm.countP_eq]
  · exact (node_takeAll _ others).trans (node_mergeAll_of_covers covers)

/-- A node merges what peers give without offering anything. -/
theorem offers_mergeAll (node : Node) (entries : List Entry) :
    (node.mergeAll entries).offers = [] := by
  -- Merging may report a malformed entry, but never makes an offer.
  induction entries generalizing node with
  | nil => rfl
  | cons entry rest ih =>
    have here : (node.merge entry).offers = [] := by
      unfold Outcome.offers merge
      cases entry.isWellFormed <;> rfl
    show ((node.merge entry).reports ++ ((node.merge entry).node.mergeAll rest).reports).filterMap
      _ = []
    rw [List.filterMap_append]
    exact List.append_eq_nil_iff.2 ⟨here, ih (node.merge entry).node⟩

/-- A node deals with what its peers gave without offering anything. -/
theorem offers_takeAll (node : Node) (catches : List Catch) :
    (node.takeAll catches).offers = [] := by
  -- A pull that failed is reported too, and that is no offer either.
  induction catches generalizing node with
  | nil => rfl
  | cons found rest ih =>
    have here : (node.take found).offers = [] := by
      obtain ⟨peer, given⟩ := found
      cases given with
      | error fault => rfl
      | ok entries => exact node.offers_mergeAll entries
    show ((node.take found).reports ++ ((node.take found).node.takeAll rest).reports).filterMap
      _ = []
    rw [List.filterMap_append]
    exact List.append_eq_nil_iff.2 ⟨here, ih (node.take found).node⟩

end Node

namespace Cluster

variable {cluster : Cluster} {place : Nat} {member : Member}

/-- An act of a member that offers nothing shows in the holdings of that member alone. -/
theorem act_of_offers_eq_nil {α : Type} (found : cluster.members[place]? = some member)
    (deed : Node → Outcome α) (silent : (deed member.node).offers = []) :
    ∃ after, cluster.act place deed = some ((deed member.node).answer, after) ∧
      after.holdings = cluster.holdings.set place
        ((deed member.node).node.profile, (deed member.node).node.store) := by
  -- Nothing has to be delivered, so the cluster is the one with the new node.
  simp only [act, found, silent]
  exact ⟨_, rfl, holdings_setNode cluster place _⟩

/-- A round of a member over the network is a round with what its peers gave when they were read. -/
theorem replicate_eq (found : cluster.members[place]? = some member) {catches : List Catch}
    {pulled : Cluster}
    (read : cluster.pull member.address
      (member.node.profile.peers member.node.store cluster.clock) = (catches, pulled)) :
    ∃ after, cluster.replicate place = some ((member.node.round catches).answer, after) ∧
      after.holdings = cluster.holdings.set place
        (member.node.profile, (member.node.round catches).node.store) := by
  have kept := overlooks_holdings.view_pull cluster member.address
    (member.node.profile.peers member.node.store cluster.clock)
  rw [read] at kept
  -- The member may have remembered its digest meanwhile, but holds what it held.
  obtain ⟨reader, there, profile, store⟩ :=
    exists_of_holdings (kept.symm ▸ holdings_getElem? found)
  obtain ⟨after, acted, holdings⟩ :=
    act_of_offers_eq_nil there (·.takeAll catches) (reader.node.offers_takeAll catches)
  refine ⟨after.note ((reader.node.takeAll catches).answer.map .pulled), ?_, ?_⟩
  · have answer : Summary.ofPulls (reader.node.takeAll catches).answer =
        (member.node.round catches).answer := by
      rw [Node.answer_round, ← store, ← profile, ← Node.answer_round]
      rfl
    rw [← answer, replicate, found]
    simp only [read, acted]
  · have settings : (reader.node.takeAll catches).node.profile = member.node.profile :=
      (reader.node.profile_round catches).trans profile
    have entries : (reader.node.takeAll catches).node.store =
        (member.node.round catches).node.store := by
      rw [Node.store_round, ← profile, ← store]
      exact reader.node.store_round catches
    rw [holdings_note, holdings, kept, settings, entries]

end Cluster

/--
A round of replication merges what the peers gave, one whole answer after the other.

In whichever order they answer, those that fail leave no trace but in their count, and the entries
that are counted are those that changed the store. The order does not show in the versions, nor in
the entries if no two that were given share a version. A second round with the same answers changes
nothing. A member of a cluster goes through such a round when it replicates, with what its peers
gave when they were read, and no other member's entries change.
-/
theorem replication_merges_answers :
    (∀ (node : Node) (uris : List String) (catches : List Catch),
      (catches.map Catch.peer).Perm (Profile.distinct uris) →
      let after := (node.round catches).node
      let failed := catches.countP (!·.isGiven)
      after.store = (snapshots catches).foldl
          (fun store entries => store.mergeAll node.profile.migration entries) node.store ∧
        after = (node.round (catches.filter Catch.isGiven)).node ∧
        (node.round catches).answer = ⟨uris.dedup.length, failed,
          node.store.changes node.profile.migration (snapshots catches).flatten⟩ ∧
        ((node.round catches).answer.merged = 0 ↔ after.store = node.store) ∧
        ∀ others, others.Perm catches →
          (∀ nodeId,
            (node.round others).node.store.version? nodeId = after.store.version? nodeId) ∧
          (Entry.OnePerVersion (snapshots catches).flatten →
            (node.round others).node.store = after.store) ∧
          (after.round others).answer = ⟨uris.dedup.length, failed, 0⟩ ∧
          (after.round others).node = after) ∧
    ∀ (cluster : Cluster) (place : Nat) (member : Member),
      cluster.members[place]? = some member →
      let peers := member.node.profile.peers member.node.store cluster.clock
      let catches := (cluster.pull member.address peers).1
      catches.map Catch.peer = peers ∧
        ∃ after, cluster.replicate place = some ((member.node.round catches).answer, after) ∧
          after.holdings = cluster.holdings.set place
            (member.node.profile, (member.node.round catches).node.store) := by
  refine ⟨?_, ?_⟩
  · intro node uris catches answered after failed
    -- There is one answer for each of the distinct addresses.
    have peers : uris.dedup.length = catches.length := by
      rw [← Profile.length_distinct, ← answered.length_eq, List.length_map]
    rw [peers]
    have store := (node.store_round catches).trans (Store.mergeAll_flatten _ _ _)
    refine ⟨store, (node.node_round_filter_isGiven catches).symm,
      node.answer_round catches, Node.merged_round_eq_zero_iff, fun others perm => ?_⟩
    exact ⟨node.version?_round_of_perm perm, fun distinct => node.store_round_of_perm perm distinct,
      node.round_round_of_perm perm⟩
  · intro cluster place member found peers catches
    exact ⟨cluster.peers_pull member.address peers, Cluster.replicate_eq found rfl⟩

/--
Of three peers one fails, and of the copies that the others give the later one stands in each order.

Over the network, a member takes over the deletion that its one peer holds.
-/
theorem replication_merges_answers_conflicting :
    (let node := Node.start { (default : Profile) with migration := ⟨"fleet", .three⟩ }
    let copy (version : Millis) : Entry := .live "n" [] version 10 none
    let ageless : Entry := ⟨"m", some [], 1, none, none⟩
    let first : Catch := ⟨"http://a", .ok [copy 1]⟩
    let second : Catch := ⟨"http://b", .ok [copy 2, ageless]⟩
    let third : Catch := ⟨"http://c", .error (.timeout "http://c")⟩
    let after := (node.round [second, third, first]).node
    (node.round [second, third, first]).answer = ⟨3, 1, 1⟩ ∧
      (node.round [first, second, third]).answer = ⟨3, 1, 2⟩ ∧
      after = (node.round [second, first]).node ∧
      (node.round [first, second, third]).node.store = after.store ∧
      (after.round [first, second, third]).answer = ⟨3, 1, 0⟩) ∧
    let settings := { (default : Profile) with
      nodeId := "x", dynamic := true, seeds := ["http://10.0.0.2"] }
    let gone : Store := (∅ : Store).put (.tombstone "n" 5 none)
    let reader := Member.idle (.start settings) "http://10.0.0.1" (.v4 #v[10, 0, 0, 1])
    let giver := Member.idle ⟨settings, ⟨gone, none⟩, []⟩ "http://10.0.0.2" (.v4 #v[10, 0, 0, 2])
    let cluster := Cluster.start 0 .literals [reader, giver] true
    ∃ after, cluster.replicate 0 = some (⟨1, 0, 1⟩, after) ∧
      after.holdings = [(settings, gone), (settings, gone)] := by
  constructor
  · intro node copy ageless first second third after
    have answered : ([second, third, first].map Catch.peer).Perm
        (Profile.distinct ["http://b", "http://a", "http://c", "http://a"]) := by
      decide +kernel
    obtain ⟨-, same, -, -, orders⟩ :=
      replication_merges_answers.1 node _ [second, third, first] answered
    have perm : [first, second, third].Perm [second, third, first] :=
      (List.perm_append_comm : ([first] ++ [second, third]).Perm _)
    obtain ⟨-, stores, again, -⟩ := orders _ perm
    exact ⟨by decide, by decide, same, stores (by decide), again⟩
  · intro settings gone reader giver cluster
    obtain ⟨-, after, done, holdings⟩ := replication_merges_answers.2 cluster 0 reader rfl
    -- The one answer has the deletion in it.
    have counts : (reader.node.round (cluster.pull reader.address
        (reader.node.profile.peers reader.node.store cluster.clock)).1).answer = ⟨1, 0, 1⟩ := by
      decide +kernel
    have store : (reader.node.round (cluster.pull reader.address
        (reader.node.profile.peers reader.node.store cluster.clock)).1).node.store = gone := by
      decide +kernel
    rw [counts] at done
    rw [store] at holdings
    exact ⟨after, done, holdings⟩

end Roster
