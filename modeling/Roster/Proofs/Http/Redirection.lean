import Roster.Peer
import Roster.Proofs.Wire

/-!
What the outcome of an offer says about its delivery. Of a call and the redirections after it only
the last answer counts. Some redirections ask for a call that reads the new place, and once such a
one has been followed nothing is posted any more, so that its success is none of the offer's.
-/

namespace Roster

namespace Http

/-- Whether a call carries a text to its server. -/
def Call.Posts (call : Call) (text : String) : Prop :=
  call.method = "POST" ∧ call.body = some text

/-- Whether a call reads what is at its address and carries nothing. -/
def Call.Reads (call : Call) : Prop := call.method = "GET" ∧ call.body = none

/-- Whether a reply says that the call was understood and done. -/
def Reply.isDone : Reply → Bool
  | .answered answer => answer.status.isSuccess
  | _ => false

/-- Whether a reply asks for a call that reads another place. -/
def Reply.asksToRead : Reply → Bool
  | .answered answer => [301, 302, 303].contains answer.status.code
  | _ => false

/-- Whether a text was posted in some exchange, and the reply to just this call says that it was
done. -/
def Posted (text : String) (exchanges : List Exchange) : Prop :=
  ∃ exchange ∈ exchanges, exchange.call.Posts text ∧ exchange.reply.isDone = true

/-- Whether a call came to an answer that says that it was understood and done. -/
def Delivery.IsDone (delivery : Delivery) : Prop :=
  ∃ answer, delivery.result = .ok answer ∧ answer.status.isSuccess = true

/-- What a call and the redirections after it can come to. -/
inductive Trail : Call → Delivery → Prop
  -- The reply leads nowhere else.
  | last {call : Call} {reply : Reply} (stays : reply.redirected? call = none) :
    Trail call ⟨reply.result, reply.exchanges call⟩
  -- The reply would lead on, but so have too many.
  | tooMany {call next : Call} {reply : Reply} (redirected : reply.redirected? call = some next) :
    Trail call ⟨.error .request, reply.exchanges call⟩
  | onward {call next : Call} {reply : Reply} {delivery : Delivery}
    (redirected : reply.redirected? call = some next) (rest : Trail next delivery) :
    Trail call { delivery with exchanges := reply.exchanges call ++ delivery.exchanges }

variable {σ : Type} {call next : Call} {reply : Reply} {delivery : Delivery} {text : String}

/-- Whatever servers do, a call comes to one of these. -/
theorem trail_deliver (network : Network (StateM σ)) (limit : Nat) (call : Call) (state : σ) :
    Trail call ((deliver network limit call).run state).1 := by
  induction limit generalizing call state with
  | zero =>
    simp only [deliver, StateT.run_bind]
    obtain ⟨reply, after⟩ := (attempt network call).run state
    show Trail call ⟨if (reply.redirected? call).isSome then .error .request else _, _⟩
    cases redirected : reply.redirected? call with
    | none => exact .last redirected
    | some next => exact .tooMany redirected
  | succ more ih =>
    simp only [deliver, StateT.run_bind]
    obtain ⟨reply, after⟩ := (attempt network call).run state
    simp only [bind]
    -- The rest of the way begins in the state that the first exchange leaves.
    cases redirected : reply.redirected? call with
    | none => exact .last redirected
    | some next => exact .onward redirected (ih next after)

/-- The exchange that a call and its reply make is one of these two. -/
theorem eq_of_mem_exchanges {exchange : Exchange} (member : exchange ∈ reply.exchanges call) :
    exchange = ⟨call, reply⟩ := by
  -- A call that found no connection reached nobody, so it counts as no exchange.
  cases reply with
  | unconnected => cases member
  | _ => exact List.mem_singleton.1 member

/-- A reply that says that the call was done is that of a server that was reached. -/
theorem exchanges_of_isDone (done : reply.isDone = true) (call : Call) :
    reply.exchanges call = [⟨call, reply⟩] := by
  -- Only an answer can be a success, and an answer is always an exchange.
  cases reply with
  | answered answer => rfl
  | _ => cases done

/-- A call that nothing follows is done if its reply says so. -/
theorem isDone_result_iff {exchanges : List Exchange} :
    Delivery.IsDone ⟨reply.result, exchanges⟩ ↔ reply.isDone = true := by
  -- Every reply but an answer results in a failure on both sides.
  cases reply with
  | answered answer => simp [Delivery.IsDone, Reply.result, Reply.isDone]
  | _ => simp [Delivery.IsDone, Reply.result, Reply.isDone]

/-- An answer that asks to read does not say that the call was done. -/
theorem isDone_of_asksToRead (asks : reply.asksToRead = true) : reply.isDone = false := by
  cases reply with
  | answered answer =>
    -- The three codes that turn a call into a reading one lie outside the two hundreds.
    have code : answer.status.code = 301 ∨ answer.status.code = 302 ∨ answer.status.code = 303 := by
      simpa [Reply.asksToRead] using asks
    rcases code with is | is | is <;> simp [Reply.isDone, Status.isSuccess, is]
  | _ => cases asks

/-- A redirection is an answer that does not say that the call was done. It asks for a call that
reads, or for the same call at another place. -/
theorem redirected?_cases (redirected : reply.redirected? call = some next) :
    reply.exchanges call = [⟨call, reply⟩] ∧ reply.isDone = false ∧
      (reply.asksToRead = true ∧ next.Reads ∨
        reply.asksToRead = false ∧ next.method = call.method ∧ next.body = call.body) := by
  -- Only an answer redirects, and it does so under five codes: three ask for a read, two for the
  -- same call again. None of the five is a success.
  unfold Reply.redirected? at redirected
  cases reply with
  | answered answer =>
    simp only [Option.bind_eq_bind, Option.bind_eq_some_iff] at redirected
    obtain ⟨_, -, _, -, redirected⟩ := redirected
    split at redirected
    · rename_i asks
      cases redirected
      exact ⟨rfl, isDone_of_asksToRead asks, .inl ⟨asks, rfl, rfl⟩⟩
    · rename_i other
      split at redirected
      · rename_i repeats
        cases redirected
        have code : answer.status.code = 307 ∨ answer.status.code = 308 := by simpa using repeats
        refine ⟨rfl, ?_, .inr ⟨by simpa [Reply.asksToRead] using other, rfl, rfl⟩⟩
        rcases code with is | is <;> simp [Reply.isDone, Status.isSuccess, is]
      · cases redirected
  | dropped => cases redirected
  | silent => cases redirected
  | unconnected => cases redirected

/-- A call that posts a text does not read. -/
theorem Call.Posts.not_reads (posts : call.Posts text) : ¬call.Reads := by
  -- A call has one method.
  intro reads
  have same := posts.1.symm.trans reads.1
  exact absurd same (by decide)

/-- An exchange that was not done posts nothing. -/
theorem posted_cons_of_not_isDone (undone : reply.isDone = false) {exchanges : List Exchange} :
    Posted text (⟨call, reply⟩ :: exchanges) ↔ Posted text exchanges := by
  -- Only an exchange that is done counts as posting.
  simp [Posted, undone]

namespace Trail

/-- A call that reads is followed by no other ones. -/
theorem reads (trail : Trail call delivery) (first : call.Reads) :
    ∀ exchange ∈ delivery.exchanges, exchange.call.Reads := by
  induction trail with
  | last => exact fun exchange member => eq_of_mem_exchanges member ▸ first
  | tooMany => exact fun exchange member => eq_of_mem_exchanges member ▸ first
  | onward redirected rest ih =>
    intro exchange member
    rcases List.mem_append.1 member with here | later
    · exact eq_of_mem_exchanges here ▸ first
    · -- Either kind of redirection leads to another reading.
      refine ih ?_ exchange later
      rcases (redirected?_cases redirected).2.2 with ⟨-, reads⟩ | ⟨-, method, body⟩
      · exact reads
      · exact ⟨method.trans first.1, body.trans first.2⟩

/-- After a call that posts a text there are calls that post it and calls that read. -/
theorem posts_or_reads (trail : Trail call delivery) (first : call.Posts text) :
    ∀ exchange ∈ delivery.exchanges, exchange.call.Posts text ∨ exchange.call.Reads := by
  -- Induction on the trail. Once a call reads, every later one reads; until then the method and the
  -- body are those of the first call.
  induction trail with
  | last => exact fun exchange member => .inl (eq_of_mem_exchanges member ▸ first)
  | tooMany => exact fun exchange member => .inl (eq_of_mem_exchanges member ▸ first)
  | onward redirected rest ih =>
    intro exchange member
    rcases List.mem_append.1 member with here | later
    · exact .inl (eq_of_mem_exchanges here ▸ first)
    · rcases (redirected?_cases redirected).2.2 with ⟨-, reads⟩ | ⟨-, method, body⟩
      · exact .inr (rest.reads reads exchange later)
      · exact ih ⟨method.trans first.1, body.trans first.2⟩ exchange later

/-- If a call that posts a text reaches a server, the first exchange posts it. -/
theorem head?_posts (trail : Trail call delivery) (first : call.Posts text) :
    ∀ exchange ∈ delivery.exchanges.head?, exchange.call.Posts text := by
  intro exchange found
  cases trail with
  | last => exact eq_of_mem_exchanges (List.mem_of_head? found) ▸ first
  | tooMany => exact eq_of_mem_exchanges (List.mem_of_head? found) ▸ first
  | onward redirected rest =>
    -- A server that redirects has been reached.
    rw [(redirected?_cases redirected).1] at found
    obtain rfl := Option.some.inj found
    exact first

/-- A call that is done ends with an exchange in which it is. -/
theorem last_isDone (trail : Trail call delivery) (done : delivery.IsDone) :
    ∃ last ∈ delivery.exchanges.getLast?, last.reply.isDone = true := by
  -- Induction on the trail. What a delivery returns is what its last call got, and a trail that is
  -- cut short returns a failure.
  induction trail with
  | @last call reply stays =>
    rw [isDone_result_iff] at done
    exact ⟨⟨call, reply⟩, by simp [exchanges_of_isDone done], done⟩
  | tooMany redirected =>
    obtain ⟨answer, result, -⟩ := done
    cases result
  | onward redirected rest ih =>
    obtain ⟨last, ends, itself⟩ := ih done
    exact ⟨last, by rw [List.getLast?_append, ends]; rfl, itself⟩

/-- A text is posted exactly if its call is done and no reply on the way asks to read. -/
theorem posted_iff (trail : Trail call delivery) (first : call.Posts text) :
    Posted text delivery.exchanges ↔ delivery.IsDone ∧
      ∀ exchange ∈ delivery.exchanges, exchange.reply.asksToRead = false := by
  induction trail with
  | @last call reply stays =>
    rw [isDone_result_iff]
    cases done : reply.isDone with
    | false =>
      simp only [Posted, Bool.false_eq_true, false_and, iff_false]
      rintro ⟨exchange, member, -, itself⟩
      rw [eq_of_mem_exchanges member, done] at itself
      cases itself
    | true =>
      -- What says that the call was done asks for nothing.
      have content : reply.asksToRead = false := by
        by_contra asks
        rw [isDone_of_asksToRead (by simpa using asks)] at done
        cases done
      simp [Posted, exchanges_of_isDone done, first, done, content]
  | @tooMany call next reply redirected =>
    obtain ⟨alone, undone, -⟩ := redirected?_cases redirected
    rw [alone, posted_cons_of_not_isDone undone]
    simp [Posted, Delivery.IsDone]
  | @onward call next reply delivery redirected rest ih =>
    obtain ⟨alone, undone, onward⟩ := redirected?_cases redirected
    rw [alone, List.singleton_append, posted_cons_of_not_isDone undone, List.forall_mem_cons]
    rcases onward with ⟨asks, reads⟩ | ⟨silent, method, body⟩
    · -- From here on there are only readings.
      have unposted : ¬Posted text delivery.exchanges := by
        rintro ⟨exchange, member, posts, -⟩
        exact posts.not_reads (rest.reads reads exchange member)
      simp [unposted, asks]
    · rw [ih ⟨method.trans first.1, body.trans first.2⟩]
      simp only [silent, true_and]
      rfl

/-- A call that is done although its text was posted nowhere was sent away to read by a server that
the text was posted to. -/
theorem exists_asksToRead (trail : Trail call delivery) (first : call.Posts text)
    (done : delivery.IsDone) (unposted : ¬Posted text delivery.exchanges) :
    ∃ exchange ∈ delivery.exchanges,
      exchange.call.Posts text ∧ exchange.reply.asksToRead = true := by
  -- Induction on the trail. The last reply was a success, so had every call posted, the text would
  -- have been posted; some reply in between asked for a read.
  induction trail with
  | @last call reply stays =>
    rw [isDone_result_iff] at done
    exact absurd ⟨⟨call, reply⟩, by simp [exchanges_of_isDone done], first, done⟩ unposted
  | tooMany redirected =>
    obtain ⟨answer, result, -⟩ := done
    cases result
  | @onward call next reply delivery redirected rest ih =>
    obtain ⟨alone, undone, onward⟩ := redirected?_cases redirected
    simp only [alone, List.singleton_append] at unposted ⊢
    -- A redirection is no success, so the first exchange says nothing about whether the text was
    -- posted.
    rw [posted_cons_of_not_isDone undone] at unposted
    rcases onward with ⟨asks, -⟩ | ⟨-, method, body⟩
    · exact ⟨⟨call, reply⟩, List.mem_cons_self, first, asks⟩
    · obtain ⟨exchange, member, sent⟩ :=
        ih ⟨method.trans first.1, body.trans first.2⟩ done unposted
      exact ⟨exchange, List.mem_cons_of_mem _ member, sent⟩

end Trail

end Http

namespace Peer

open Http (Answer Failure Network Posted Trail)

variable {σ : Type}

/-- An offer comes to something good exactly if its call is done. -/
theorem offered_eq_ok_iff {uri : String} {delivery : Http.Delivery} :
    offered uri delivery.result = .ok () ↔ delivery.IsDone := by
  -- The client looks at the answer's status and at nothing else.
  unfold offered Http.Delivery.IsDone
  cases delivery.result with
  | error failure => simp
  | ok answer => simp

/-- An offer has no proper address and reaches nobody, or posts the text of its entry there. -/
theorem offer_cases (network : Network (StateM σ)) (state : σ) (base : String) (entry : Entry) :
    let result := ((offer network base entry).run state).1
    (result.outcome = .error (.request (entriesUri base)) ∧ result.exchanges = []) ∨
      ∃ uri delivery, Uri.parse? (entriesUri base) = some uri ∧
        Trail ⟨"POST", uri, some (Entry.form.write entry).compact⟩ delivery ∧
        result = ⟨offered (entriesUri base) delivery.result, delivery.exchanges⟩ := by
  -- An address that cannot be parsed is reported before any call is made.
  intro result
  cases parsed : Uri.parse? (entriesUri base) with
  | none =>
    refine .inl ?_
    simp only [result, offer, Http.send, parsed]
    exact ⟨rfl, rfl⟩
  | some uri =>
    refine .inr ⟨uri, _, rfl, Http.trail_deliver network Http.redirectionLimit _ state, ?_⟩
    simp only [result, offer, Http.send, parsed]
    rfl

/-- Whatever an offer carries reads back as its entry, and its first call carries the text of it. -/
theorem offer_carries (network : Network (StateM σ)) (state : σ) (base : String)
    (entry : Entry) :
    let exchanges := ((offer network base entry).run state).1.exchanges
    (∀ first ∈ exchanges.head?, first.call.Posts (Entry.form.write entry).compact) ∧
      ∀ exchange ∈ exchanges, ∀ body ∈ exchange.call.body, Entry.form.parse body = .ok entry := by
  intro exchanges
  have reads := Entry.faithful_form.parse (Entry.form.writes_compact entry)
  rcases offer_cases network state base entry with ⟨-, none⟩ | ⟨uri, delivery, -, trail, same⟩
  · -- No server was reached.
    rw [show exchanges = [] from none]
    simp
  · rw [show exchanges = delivery.exchanges from congrArg Result.exchanges same]
    have first : Http.Call.Posts ⟨"POST", uri, some (Entry.form.write entry).compact⟩
        (Entry.form.write entry).compact := ⟨rfl, rfl⟩
    refine ⟨trail.head?_posts first, fun exchange member body carried => ?_⟩
    -- After a redirection the same text is posted again, or nothing is carried any more.
    rcases trail.posts_or_reads first exchange member with posts | carriesNothing
    · rw [posts.2] at carried
      exact Option.some.inj carried ▸ reads
    · rw [carriesNothing.2] at carried
      cases carried

/--
An offer that reports success was delivered, unless a server on the way asked to read elsewhere.

The text of the entry, which reads back as the entry, was posted to some server that answered just
this with a success exactly if the offer succeeds and no answer on the way is a redirection to a
reading. Otherwise a success means nothing: some server that the text was posted to sent the caller
away to read, and what succeeded at last is a reading that carried nothing.
-/
theorem posted_iff_offer_done_and_not_asked_to_read (network : Network (StateM σ)) (state : σ)
    (base : String) (entry : Entry) :
    let text := (Entry.form.write entry).compact
    let result := ((offer network base entry).run state).1
    Entry.form.parse text = .ok entry ∧
    (Posted text result.exchanges ↔ result.outcome = .ok () ∧
      ∀ exchange ∈ result.exchanges, exchange.reply.asksToRead = false) ∧
    (result.outcome = .ok () → ¬Posted text result.exchanges →
      (∃ exchange ∈ result.exchanges, exchange.call.Posts text ∧
        exchange.reply.asksToRead = true) ∧
      ∃ last ∈ result.exchanges.getLast?, last.call.Reads ∧ last.reply.isDone = true) := by
  intro text result
  refine ⟨Entry.faithful_form.parse (Entry.form.writes_compact entry), ?_⟩
  rcases offer_cases network state base entry with ⟨failed, none⟩ | ⟨uri, delivery, -, trail, same⟩
  · -- No server was reached.
    rw [show result.outcome = _ from failed, show result.exchanges = _ from none]
    simp [Posted]
  · rw [show result = _ from same]
    have first : Http.Call.Posts ⟨"POST", uri, some text⟩ text := ⟨rfl, rfl⟩
    rw [offered_eq_ok_iff]
    refine ⟨trail.posted_iff first, fun done unposted => ?_⟩
    obtain ⟨last, ends, itself⟩ := trail.last_isDone done
    refine ⟨trail.exists_asksToRead first done unposted, last, ends, ?_, itself⟩
    -- If the last call had posted the text, it would have been the delivery.
    have member := List.mem_of_getLast? ends
    refine (trail.posts_or_reads first last member).resolve_left fun posts => ?_
    exact unposted ⟨last, member, posts, itself⟩

/-- An offer succeeds that a server sent away to read over an encrypted connection, and its entry is
posted nowhere; one that is sent away to be made there is delivered. -/
theorem posted_iff_offer_done_and_not_asked_to_read_elsewhere :
    let sendsAway (code : Nat) : Network (StateM Unit) := fun call => pure <|
      if call.uri.host.map Host.text = some "peer" then
        .answered ⟨⟨code⟩, some "https://peer.example/", .empty⟩
      else .answered ⟨.ok, none, .empty⟩
    let entry := Entry.tombstone "n" 5 none
    let text := (Entry.form.write entry).compact
    let result (code : Nat) := ((offer (sendsAway code) "http://peer" entry).run ()).1
    ((result 303).outcome = .ok () ∧ ¬Posted text (result 303).exchanges) ∧
      (result 307).outcome = .ok () ∧ Posted text (result 307).exchanges := by
  intro sendsAway entry text result
  obtain ⟨-, sentAway, -⟩ :=
    posted_iff_offer_done_and_not_asked_to_read (sendsAway 303) () "http://peer" entry
  obtain ⟨-, sentOn, -⟩ :=
    posted_iff_offer_done_and_not_asked_to_read (sendsAway 307) () "http://peer" entry
  -- Both offers come out as done; only the redirection's code tells them apart.
  have done : (result 307).outcome = .ok () := by decide +kernel
  refine ⟨⟨by decide +kernel, fun posted => ?_⟩, done, sentOn.2 ⟨done, by decide +kernel⟩⟩
  have asked : ¬∀ exchange ∈ (result 303).exchanges, exchange.reply.asksToRead = false := by
    decide +kernel
  exact asked (sentAway.1 posted).2

end Peer

end Roster
