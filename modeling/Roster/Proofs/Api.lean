import Roster.Api
import Roster.Proofs.Node.Run

/-!
The interface of a node against its actions. A request whose path, method and content are in order
asks for an action and is answered by what comes of that; any other one is answered at once.
-/

namespace Roster

namespace Api

open Http (Request Response Status)
open Node (Action)

/-- Where a request leads whose method works there, with the texts of its path resolved. -/
def routeOf? (request : Request) : Option Route :=
  match Route.ofTarget? request.target with
  | none => none
  | some route => if route.methods.contains request.method then route.decoded? else none

/-- What a request from an address asks a node for at a clock reading. -/
inductive Asks (resolver : Resolver) (now : Millis) (requester : Address) (request : Request) :
    Action → Prop
  | announce {nodeId : String} {announcement : Announcement}
    (leads : routeOf? request = some (.announcement nodeId)) (method : request.method = "PUT")
    (content : readBody Announcement.form request = .ok announcement) :
    Asks resolver now requester request
      (.write now (.announce resolver nodeId announcement requester))
  | delete {nodeId : String} (leads : routeOf? request = some (.announcement nodeId))
    (method : request.method = "DELETE") :
    Asks resolver now requester request (.write now (.delete resolver nodeId requester))
  | read (leads : routeOf? request = some .entries)
    (method : request.method = "GET" ∨ request.method = "HEAD") :
    Asks resolver now requester request (.snapshot requester)
  | offer {entry : Entry} (leads : routeOf? request = some .entries)
    (method : request.method = "POST") (content : readBody Entry.form request = .ok entry) :
    Asks resolver now requester request (.accept entry requester)

/-- The status of the answer to a request that was done, or that was turned down. -/
def outcomeStatus (method : String) : Option Rejection → Status
  | some rejection => statusOf rejection
  | none => if method = "PUT" then .accepted else .ok

/-- The status says that a request is forbidden exactly if it was turned down for that. -/
theorem outcomeStatus_eq_forbidden_iff {method : String} {rejection : Option Rejection} :
    outcomeStatus method rejection = .forbidden ↔
      ∃ refusal, rejection = some (.forbidden refusal) := by
  cases rejection with
  | none =>
    -- What was done is answered as accepted or in order.
    by_cases puts : method = "PUT" <;>
      simp [outcomeStatus, puts, Status.accepted, Status.ok, Status.forbidden]
  | some rejection =>
    cases rejection <;> simp [outcomeStatus, statusOf, Status.badRequest, Status.forbidden,
      Status.methodNotAllowed]

variable {resolver : Resolver} {now : Millis} {requester : Address} {request : Request}
  {route : Route}

/-- A route keeps its kind when the texts of its path are resolved. -/
theorem methods_of_decoded? {resolved : Route} (decoded : route.decoded? = some resolved) :
    resolved.methods = route.methods := by
  -- Decoding changes the texts in a route but never its kind, on which the methods depend.
  unfold Route.decoded? at decoded
  split at decoded
  · obtain ⟨_, -, rfl⟩ := Option.map_eq_some_iff.1 decoded
    rfl
  · cases decoded
    rfl
  · obtain ⟨_, -, rfl⟩ := Option.map_eq_some_iff.1 decoded
    rfl
  · simp only [Option.bind_eq_bind, Option.bind_eq_some_iff, Option.pure_def,
      Option.some.injEq] at decoded
    obtain ⟨_, -, _, -, rfl⟩ := decoded
    rfl
  · cases decoded
    rfl

/-- The method of a request works where the request leads. -/
theorem method_mem_of_routeOf? (leads : routeOf? request = some route) :
    request.method ∈ route.methods := by
  -- The method was compared with the route before its texts were decoded.
  unfold routeOf? at leads
  split at leads
  · cases leads
  · split at leads
    · rename_i works
      rw [methods_of_decoded? leads]
      exact List.contains_iff_mem.1 works
    · cases leads

/-- A request is answered by what is done where it leads. -/
theorem respond_of_routeOf? (leads : routeOf? request = some route) (node : Node)
    (resolver : Resolver) (now : Millis) (requester : Address) :
    node.respond resolver now requester request =
      perform node resolver now requester request route := by
  -- The three checks are made in the same order in both.
  unfold routeOf? at leads
  unfold Node.respond
  cases found : Route.ofTarget? request.target with
  | none =>
    rw [found] at leads
    cases leads
  | some target =>
    rw [found] at leads
    by_cases works : target.methods.contains request.method
    · simp only [works, if_true] at leads
      simp only [works, leads, Bool.not_true, Bool.false_eq_true, if_false]
    · simp only [works, Bool.false_eq_true, if_false] at leads
      cases leads

/-- A request that leads nowhere changes nothing, and nobody is forbidden it. -/
theorem respond_of_routeOf?_none (lost : routeOf? request = none) (node : Node)
    (resolver : Resolver) (now : Millis) (requester : Address) :
    ∃ response : Response Content, response.status ≠ .forbidden ∧
      node.respond resolver now requester request = node.unchanged response := by
  unfold routeOf? at lost
  unfold Node.respond
  cases found : Route.ofTarget? request.target with
  | none => exact ⟨.plain .notFound, by decide, rfl⟩
  | some target =>
    rw [found] at lost
    by_cases works : target.methods.contains request.method
    · -- Some text of the path cannot be resolved.
      simp only [works, if_true] at lost
      refine ⟨.plain .badRequest, by decide, ?_⟩
      simp only [works, lost, Bool.not_true, Bool.false_eq_true, if_false]
    · have status : Status.methodNotAllowed ≠ .forbidden := by decide
      refine ⟨⟨.methodNotAllowed, target.methods, none⟩, status, ?_⟩
      simp only [works, Bool.not_false, if_true]

/-- Content that cannot be read is not forbidden. -/
theorem readBody_ne_forbidden {α : Type} {form : Json.Form α} {status : Status}
    (unread : readBody form request = .error status) : status ≠ .forbidden := by
  unfold readBody at unread
  -- Each way to fail has a status of its own.
  split at unread
  · cases unread
    decide
  · split at unread
    · cases unread
      decide
    · split at unread
      · cases unread
        decide
      · split at unread <;> cases unread <;> decide

/-- A reading is answered alike with its content and without. -/
theorem perform_of_reading (other : ∀ nodeId, route ≠ .announcement nodeId)
    (reads : request.method ≠ "POST") (node : Node) (resolver : Resolver) (now : Millis)
    (requester : Address) :
    let done := get node now requester route
    let answered := perform node resolver now requester request route
    answered.node = done.node ∧ answered.reports = done.reports ∧
      answered.answer.status = done.answer.status := by
  -- An answer without content differs from the other in its content only.
  intro done answered
  have performed :
      answered = if request.method = "HEAD" then done.map Response.bare else done := by
    show perform node resolver now requester request route = _
    rw [perform, if_neg reads]
    exact other
  rw [performed]
  split <;> exact ⟨rfl, rfl, rfl⟩

/-- Where nobody is checked, a reading leaves no report and is not forbidden. -/
theorem unreported_of_reading (works : request.method ∈ route.methods)
    (other : ∀ nodeId, route ≠ .announcement nodeId) (unchecked : route ≠ .entries) (node : Node)
    (resolver : Resolver) (now : Millis) (requester : Address) :
    (perform node resolver now requester request route).reports = [] ∧
      (perform node resolver now requester request route).answer.status ≠ .forbidden := by
  -- What is posted goes to the entries alone, so this is a reading.
  have reads : request.method ≠ "POST" := by
    intro method
    rw [method] at works
    cases route with
    | announcement nodeId => exact other nodeId rfl
    | entries => exact unchecked rfl
    | _ => simp [Route.methods] at works
  obtain ⟨-, reports, status⟩ := perform_of_reading other reads node resolver now requester
  have done : Status.ok ≠ .forbidden := by decide
  rw [reports, status]
  cases route with
  | announcement nodeId => exact absurd rfl (other nodeId)
  | entries => exact absurd rfl unchecked
  | _ => exact ⟨rfl, done⟩

/-- A request that asks for an action is answered by what comes of the action. -/
theorem respond_of_asks {action : Action} (asks : Asks resolver now requester request action)
    (node : Node) :
    let outcome := node.act action
    let answered := node.respond resolver now requester request
    answered.node = outcome.node ∧ answered.reports = outcome.reports ∧
      answered.answer.status = outcomeStatus request.method outcome.answer.rejection? := by
  -- For each kind of request the interface hands its content to the node and makes a status of the
  -- answer.
  cases asks with
  | @announce nodeId announcement leads method content =>
    rw [respond_of_routeOf? leads, perform, if_pos method, put, content, method]
    refine ⟨rfl, rfl, ?_⟩
    simp only [Node.act, Node.perform, Outcome.map]
    cases (node.announce resolver now nodeId announcement requester).answer <;> rfl
  | @delete nodeId leads method =>
    rw [respond_of_routeOf? leads, perform, method, if_neg (by decide)]
    refine ⟨rfl, rfl, ?_⟩
    simp only [Node.act, Node.perform, Outcome.map]
    cases (node.delete resolver now nodeId requester).answer <;> rfl
  | read leads method =>
    have noPost : request.method ≠ "POST" := by rcases method with is | is <;> rw [is] <;> decide
    have noPut : request.method ≠ "PUT" := by rcases method with is | is <;> rw [is] <;> decide
    rw [respond_of_routeOf? leads]
    have other : ∀ nodeId, Route.entries ≠ .announcement nodeId := by
      intro nodeId same
      cases same
    obtain ⟨after, reports, status⟩ := perform_of_reading other noPost node resolver now requester
    refine ⟨after, reports, status.trans ?_⟩
    simp only [get, Node.act, Outcome.map, outcomeStatus]
    cases (node.snapshot requester).answer with
    | error rejection => rfl
    | ok entries => exact (if_neg noPut).symm
  | @offer entry leads method content =>
    have performed : perform node resolver now requester request .entries =
        post node requester request := if_pos method
    rw [respond_of_routeOf? leads, performed, post, content, method]
    refine ⟨rfl, rfl, ?_⟩
    simp only [Node.act, Outcome.map]
    cases (node.acceptOffer entry requester).answer <;> rfl

/-- A request that asks for no action leaves no report, and nobody is forbidden it. -/
theorem asks_or_unreported (node : Node) (resolver : Resolver) (now : Millis)
    (requester : Address) (request : Request) :
    (∃ action, Asks resolver now requester request action) ∨
      ((node.respond resolver now requester request).reports = [] ∧
        (node.respond resolver now requester request).answer.status ≠ .forbidden) := by
  -- The cases are those of the route; where content is read, it may still not be what is asked for.
  cases leads : routeOf? request with
  | none =>
    obtain ⟨response, status, answered⟩ :=
      respond_of_routeOf?_none leads node resolver now requester
    rw [answered]
    exact .inr ⟨rfl, status⟩
  | some route =>
    have works := method_mem_of_routeOf? leads
    rw [respond_of_routeOf? leads]
    cases route with
    | announcement nodeId =>
      have put_or_delete : request.method = "PUT" ∨ request.method = "DELETE" := by
        simpa [Route.methods] using works
      rcases put_or_delete with method | method
      · cases content : readBody Announcement.form request with
        | ok announcement => exact .inl ⟨_, .announce leads method content⟩
        | error status =>
          rw [perform, if_pos method, put, content]
          exact .inr ⟨rfl, readBody_ne_forbidden content⟩
      · exact .inl ⟨_, .delete leads method⟩
    | entries =>
      have get_or_post : (request.method = "GET" ∨ request.method = "HEAD") ∨
          request.method = "POST" := by
        simpa [Route.methods, or_assoc] using works
      rcases get_or_post with method | method
      · exact .inl ⟨_, .read leads method⟩
      · cases content : readBody Entry.form request with
        | ok entry => exact .inl ⟨_, .offer leads method content⟩
        | error status =>
          have performed : perform node resolver now requester request .entries =
              post node requester request := if_pos method
          rw [performed, post, content]
          exact .inr ⟨rfl, readBody_ne_forbidden content⟩
    | identity =>
      exact .inr (unreported_of_reading works (by simp) (by simp) node resolver now requester)
    | services kind pool =>
      exact .inr (unreported_of_reading works (by simp) (by simp) node resolver now requester)
    | digest =>
      exact .inr (unreported_of_reading works (by simp) (by simp) node resolver now requester)

end Api

end Roster
