import Roster.Proofs.Json.Cut
import Roster.Proofs.Round
import Roster.Proofs.Wire

/-!
Snapshots that are cut off. What a peer sends of the text for its entries is not taken for entries
unless the text is whole, so a round of replication goes as if the peer were not there, however many
entries are whole in what was sent.
-/

namespace Roster

open Http (Answer Call Reply)
open Json (CutOff Form)

/-- Services end with a brace. -/
theorem Service.closes_form : Service.form.Closes := by
  -- All fields are texts or a list of pairs, and each of them is closed by a mark of its own.
  have word := Form.closes_text.notices
  have notices : Service.fields.Notices :=
    ⟨word, word, word, word, word, Form.closes_properties.notices, trivial⟩
  exact (notices.record Service.faithful_fields).convert _ _

/-- Entries end with a brace. -/
theorem Entry.closes_form : Entry.form.Closes := by
  -- A number is not closed by a mark, but a comma or a brace has to follow it in an object.
  have services := Service.closes_form.notices.list Service.faithful_form Service.opens_form
  have word := Form.closes_text.notices
  have notices : Entry.fields.Notices :=
    ⟨word, services.notices.optional (Form.opens_list _), Form.notices_millis,
      Form.notices_millis.optional Form.opens_millis, word.optional Form.opens_text, trivial⟩
  exact (notices.record Entry.faithful_fields).convert _ _

/-- Lists of entries end with a bracket. -/
theorem Entry.closes_list : Entry.form.list.Closes :=
  -- A list notices that it ends early where its items notice.
  Entry.closes_form.notices.list Entry.faithful_form Entry.opens_form

/-- A text in bytes that others go on from to a longer text is the front of that. -/
theorem cutOff_of_fromUTF8? {text front : String} {bytes more : ByteArray}
    (whole : text.toUTF8 = bytes ++ more) (goesOn : more ≠ .empty)
    (read : String.fromUTF8? bytes = some front) : CutOff front.toList text.toList := by
  have own : front.toUTF8 = bytes := by
    unfold String.fromUTF8? at read
    split at read
    · cases read
      rfl
    · cases read
  have encoded : front.toList.utf8Encode ++ more = text.toList.utf8Encode := by
    rw [String.utf8Encode_toList, String.utf8Encode_toList, ← String.toUTF8_eq_toByteArray,
      ← String.toUTF8_eq_toByteArray, own, whole]
  obtain ⟨rest, split⟩ := List.isPrefix_of_utf8Encode_append_eq_utf8Encode more encoded
  cases rest with
  | nil =>
    -- The texts would be the same, with nothing behind the bytes.
    rw [← split, List.append_nil] at encoded
    have same : front.toList.utf8Encode ++ more = front.toList.utf8Encode ++ .empty := by
      rw [encoded, ByteArray.append_empty]
    exact absurd ((ByteArray.append_right_inj _).1 same) goesOn
  | cons c rest => exact ⟨c, rest, split.symm⟩

namespace Peer

variable {entries : List Entry} {text : String} {bytes more : ByteArray}

/-- No entries are in the front of the bytes for a list of entries. -/
theorem entriesIn?_cut (written : Entry.form.list.Writes entries text)
    (whole : text.toUTF8 = bytes ++ more) (goesOn : more ≠ .empty) :
    entriesIn? bytes = none := by
  unfold entriesIn?
  cases read : String.fromUTF8? bytes with
  | none => rfl
  | some front =>
    -- The bytes are a text if the cut does not fall into a character, and then it is truncated.
    have truncated := Entry.closes_list.parse written (cutOff_of_fromUTF8? whole goesOn read)
    show (Entry.form.list.parse front).toOption = none
    rw [truncated]
    rfl

/-- A peer that answers with the front of the bytes for its entries gives none. -/
theorem fetched_cut (written : Entry.form.list.Writes entries text)
    (whole : text.toUTF8 = bytes ++ more) (goesOn : more ≠ .empty) (uri : String)
    (location : Option String) :
    fetched uri (.ok ⟨.ok, location, bytes⟩) = .error (.malformed uri) := by
  -- The answer reports success, so its content is read.
  have content : Answer.content ⟨.ok, location, bytes⟩ = bytes := rfl
  simp only [fetched, show Http.Status.ok.isSuccess = true from rfl, content,
    entriesIn?_cut written whole goesOn]
  rfl

end Peer

/-- A peer that fails takes nothing from a round and gives nothing to it. -/
theorem Node.node_round_of_failing (node : Node) (before after : List Catch) (peer : String)
    (fault : Peer.Fault) :
    (node.round (before ++ ⟨peer, .error fault⟩ :: after)).node =
      (node.round (before ++ after)).node := by
  -- What fails is left out of a round anyway.
  rw [← node.node_round_filter_isGiven (before ++ _),
    ← node.node_round_filter_isGiven (before ++ _)]
  simp only [List.filter_append, List.filter_cons, Catch.isGiven, Except.toOption,
    Option.isSome_none, Bool.false_eq_true, if_false]

namespace Cluster

variable {cluster : Cluster} {peer : String} {reply : Reply} {answer : Answer}

/-- Whether a peer can be reached and is a server that does the same with every call. -/
structure Serves (cluster : Cluster) (peer : String) (reply : Reply) : Prop where
  connected : cluster.connected = true
  found : ∃ uri, Uri.parse? (Peer.entriesUri peer) = some uri ∧
    Call.isPossible ⟨"GET", uri, none⟩ = true ∧
      (Site.ofUri? uri).bind (List.lookup · cluster.servers) = some (.fixed reply)

@[simp] theorem members_place (cluster : Cluster) (uri : String) (reply : Reply) :
    (cluster.place uri reply).members = cluster.members := by
  -- Whether the address leads anywhere or not, only the list of servers grows.
  unfold place
  split <;> rfl

@[simp] theorem holdings_place (cluster : Cluster) (uri : String) (reply : Reply) :
    (cluster.place uri reply).holdings = cluster.holdings :=
  congrArg (List.map _) (members_place cluster uri reply)

/-- A server that is put where a peer is expected serves for the peer. -/
theorem serves_place (connected : cluster.connected = true) {uri : Uri} {site : Site}
    (parsed : Uri.parse? (Peer.entriesUri peer) = some uri)
    (possible : Call.isPossible ⟨"GET", uri, none⟩ = true) (leads : Site.ofUri? uri = some site)
    (expected : Site.ofText? peer = some site) (reply : Reply) :
    (cluster.place peer reply).Serves peer reply := by
  -- Of two servers at one site the first counts, and the new one comes first.
  unfold place
  rw [expected]
  refine ⟨connected, uri, parsed, possible, ?_⟩
  rw [leads, Option.bind_some, List.lookup_cons_self]

/-- A server that does the same with every call stands where it does while others are read. -/
theorem Serves.fetch (serves : cluster.Serves peer reply) (caller : Address) (other : String) :
    ((Peer.fetch (network caller) other).run cluster).2.Serves peer reply := by
  -- Neither what stands where nor the connection is touched by a reading.
  have connected := overlooks_connected.keeps_fetch caller other cluster
  have servers := overlooks_servers.keeps_fetch caller other cluster
  constructor
  · rw [connected, serves.connected]
  · rw [servers]
    exact serves.found

/-- Reading a server that answers without a redirection changes nothing at all. -/
theorem Serves.fetch_eq (serves : cluster.Serves peer (.answered answer))
    (final : answer.status.code ∉ [301, 302, 303, 307, 308]) (caller : Address) :
    ∃ exchanges, (Peer.fetch (network caller) peer).run cluster =
      (⟨Peer.fetched (Peer.entriesUri peer) (.ok answer), exchanges⟩, cluster) := by
  obtain ⟨uri, parsed, possible, stands⟩ := serves.found
  -- The answer is no redirection, so the first call is the only one.
  have stays : (Reply.answered answer).redirected? ⟨"GET", uri, none⟩ = none := by
    have codes : [301, 302, 303].contains answer.status.code = false ∧
        [307, 308].contains answer.status.code = false := by
      simp_all
    unfold Reply.redirected?
    simp only [codes, Bool.false_eq_true, if_false]
    cases answer.location <;> simp
  -- The server is found at its site and does with this call what it does with every one.
  have attempted : (Http.attempt (network caller) ⟨"GET", uri, none⟩).run cluster =
      (.answered answer, cluster) := by
    unfold Http.attempt
    rw [if_pos possible]
    show network caller _ cluster = _
    simp [network, serves.connected, stands]
  refine ⟨(Reply.answered answer).exchanges ⟨"GET", uri, none⟩, ?_⟩
  have delivered : (Http.deliver (network caller) Http.redirectionLimit
      ⟨"GET", uri, none⟩).run cluster =
      (⟨.ok answer, (Reply.answered answer).exchanges ⟨"GET", uri, none⟩⟩, cluster) := by
    rw [Http.redirectionLimit, Http.deliver, StateT.run_bind, attempted]
    simp only [bind, stays]
    rfl
  unfold Peer.fetch Http.send
  simp only [parsed]
  rw [StateT.run_bind, delivered]
  rfl

/-- What the other peers give does not depend on whether one that fails is read too. -/
theorem Serves.pull_filter (serves : cluster.Serves peer (.answered answer))
    (final : answer.status.code ∉ [301, 302, 303, 307, 308]) {fault : Peer.Fault}
    (fails : Peer.fetched (Peer.entriesUri peer) (.ok answer) = .error fault) (caller : Address)
    (peers : List String) :
    (cluster.pull caller peers).1.filter Catch.isGiven =
      (cluster.pull caller (peers.filter (· ≠ peer))).1.filter Catch.isGiven := by
  induction peers generalizing cluster with
  | nil => rfl
  | cons other rest ih =>
    by_cases same : other = peer
    · subst same
      -- The cluster is the same after the peer was read, and nothing was given.
      obtain ⟨exchanges, fetched⟩ := serves.fetch_eq final caller
      rw [fails] at fetched
      have skipped : (other :: rest).filter (· ≠ other) = rest.filter (· ≠ other) := by simp
      rw [skipped, ← ih serves, pull_cons, fetched]
      rfl
    · have kept : (other :: rest).filter (· ≠ peer) = other :: rest.filter (· ≠ peer) := by
        simp [same]
      rw [kept, pull_cons, pull_cons, List.filter_cons, List.filter_cons]
      simp only [ih (serves.fetch caller other)]

/-- A round of a member goes as if a peer that fails were not among its peers. -/
theorem Serves.replicate {place : Nat} {member : Member}
    (serves : cluster.Serves peer (.answered answer))
    (final : answer.status.code ∉ [301, 302, 303, 307, 308]) {fault : Peer.Fault}
    (fails : Peer.fetched (Peer.entriesUri peer) (.ok answer) = .error fault)
    (found : cluster.members[place]? = some member) :
    let peers := member.node.profile.peers member.node.store cluster.clock
    let catches := (cluster.pull member.address peers).1
    let others := (cluster.pull member.address (peers.filter (· ≠ peer))).1
    ∃ after, cluster.replicate place = some ((member.node.round catches).answer, after) ∧
      after.holdings = cluster.holdings.set place
        (member.node.profile, (member.node.round others).node.store) := by
  -- The node takes from a round what was given, and that is the same without the peer.
  intro peers catches others
  obtain ⟨after, done, holdings⟩ :=
    replicate_eq found (show cluster.pull member.address peers = (catches, _) from rfl)
  have given : catches.filter Catch.isGiven = others.filter Catch.isGiven :=
    serves.pull_filter final fails member.address peers
  have same : (member.node.round catches).node = (member.node.round others).node := by
    rw [← Node.node_round_filter_isGiven, given, Node.node_round_filter_isGiven]
  exact ⟨after, done, same ▸ holdings⟩

end Cluster

/--
A snapshot that is cut off is never taken for a snapshot.

Of the text for a list of entries, in whichever order the members of objects are written, every part
in front is truncated for the reader. A peer that answers with a part of the bytes gives no entries,
be the cut in the middle of a character or not, and a round of replication leaves the node as it
does without that peer. Over the network the peer makes no difference either to what the others give
when they are read, so a member comes to hold what it would with the others for its peers.
-/
theorem cut_off_snapshot_is_none {entries : List Entry} {text : String}
    (written : Entry.form.list.Writes entries text) :
    (∀ front back : String, text = front ++ back → back ≠ "" →
      Entry.form.list.parse front = .error .truncated) ∧
    ∀ bytes more : ByteArray, text.toUTF8 = bytes ++ more → more ≠ .empty →
      ∀ location, let answer : Answer := ⟨.ok, location, bytes⟩
        (∀ uri, Peer.fetched uri (.ok answer) = .error (.malformed uri)) ∧
        (∀ (node : Node) (before after : List Catch) peer uri,
          (node.round (before ++ ⟨peer, Peer.fetched uri (.ok answer)⟩ :: after)).node =
            (node.round (before ++ after)).node) ∧
        ∀ (cluster : Cluster) place member peer, cluster.members[place]? = some member →
          cluster.Serves peer (.answered answer) →
          let peers := member.node.profile.peers member.node.store cluster.clock
          let catches := (cluster.pull member.address peers).1
          let others := (cluster.pull member.address (peers.filter (· ≠ peer))).1
          ∃ after, cluster.replicate place = some ((member.node.round catches).answer, after) ∧
            after.holdings = cluster.holdings.set place
              (member.node.profile, (member.node.round others).node.store) := by
  refine ⟨?_, ?_⟩
  · intro front back split goesOn
    apply Entry.closes_list.parse written
    -- What is cut off is not empty, so the text in front is a proper part.
    cases rest : back.toList with
    | nil => exact absurd (String.toList_eq_nil_iff.1 rest) goesOn
    | cons c tail => exact ⟨c, tail, by rw [split, String.toList_append, rest]⟩
  · intro bytes more whole goesOn location answer
    -- Everything else follows from the failure of the reading.
    have fails : ∀ uri, Peer.fetched uri (.ok answer) = .error (.malformed uri) :=
      fun uri => Peer.fetched_cut written whole goesOn uri location
    refine ⟨fails, ?_, ?_⟩
    · intro node before after peer uri
      rw [show Peer.fetched uri (.ok answer) = _ from fails uri]
      exact node.node_round_of_failing before after peer _
    · intro cluster place member peer found serves
      -- A success is no redirection.
      have final : (200 : Nat) ∉ [301, 302, 303, 307, 308] := by decide
      exact serves.replicate final (fails (Peer.entriesUri peer)) found

/--
Of two deletions the first one is whole in what a peer sends, but neither gets to the reader.

What the other peer gives does.
-/
theorem cut_off_snapshot_is_none_behind_entry :
    let entries : List Entry := [.tombstone "n" 5 none, .tombstone "m" 6 none]
    let front := "[\x7b\"nodeId\":\"n\",\"services\":null,\"timestamp\":5,\"maxAgeInMs\":null," ++
      "\"announcer\":null\x7d,\x7b\"nodeId\":\"m\",\"serv"
    let back := "ices\":null,\"timestamp\":6,\"maxAgeInMs\":null,\"announcer\":null\x7d]"
    let settings := { (default : Profile) with
      nodeId := "x", dynamic := true, seeds := ["http://10.0.0.2", "http://10.0.0.3"] }
    let held : Store := (∅ : Store).put (.tombstone "o" 7 none)
    let reader := Member.idle (.start settings) "http://10.0.0.1" (.v4 #v[10, 0, 0, 1])
    let giver := Member.idle ⟨settings, ⟨held, none⟩, []⟩ "http://10.0.0.2" (.v4 #v[10, 0, 0, 2])
    let cluster := (Cluster.start 0 .literals [reader, giver] true).place "http://10.0.0.3"
      (.answered ⟨.ok, none, front.toUTF8⟩)
    (Entry.form.list.write entries).compact = front ++ back ∧
      Entry.form.list.parse front = .error .truncated ∧
      ∃ after, cluster.replicate 0 = some (⟨2, 1, 1⟩, after) ∧
        after.holdings = [(settings, held), (settings, held)] := by
  intro entries front back settings held reader giver cluster
  have text : (Entry.form.list.write entries).compact = front ++ back := by decide +kernel
  have written : Entry.form.list.Writes entries (front ++ back) :=
    text ▸ Form.writes_compact Entry.form.list entries
  obtain ⟨truncated, sent⟩ := cut_off_snapshot_is_none written
  have bytes : (front ++ back).toUTF8 = front.toUTF8 ++ back.toUTF8 := by decide +kernel
  have goesOn : back.toUTF8 ≠ .empty := by decide +kernel
  -- The peer cuts its answer off within the second entry, so the first one came whole.
  have serves : cluster.Serves "http://10.0.0.3" (.answered ⟨.ok, none, front.toUTF8⟩) := by
    let uri := (Uri.parse? "http://10.0.0.3/v1/store/dynamic").get (by decide +kernel)
    have leads : Site.ofUri? uri = some ⟨false, "10.0.0.3", 80⟩ := by decide +kernel
    exact Cluster.serves_place rfl (by decide +kernel) (by decide +kernel) leads
      (by decide +kernel) _
  obtain ⟨-, -, rounds⟩ := sent _ _ bytes goesOn none
  have found : cluster.members[0]? = some reader := by
    rw [Cluster.members_place]
    rfl
  obtain ⟨after, done, holdings⟩ := rounds cluster 0 reader "http://10.0.0.3" found serves
  -- Two peers are asked: one fails, and the other gives the one entry that is merged.
  have counts : (reader.node.round (cluster.pull reader.address
      (reader.node.profile.peers reader.node.store cluster.clock)).1).answer = ⟨2, 1, 1⟩ := by
    decide +kernel
  have store : (reader.node.round (cluster.pull reader.address
      ((reader.node.profile.peers reader.node.store cluster.clock).filter
        (· ≠ "http://10.0.0.3"))).1).node.store = held := by
    decide +kernel
  rw [counts] at done
  rw [store] at holdings
  rw [Cluster.holdings_place] at holdings
  exact ⟨text, truncated front back rfl (by decide), after, done, holdings⟩

end Roster
