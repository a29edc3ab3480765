import Roster.Http.MediaType
import Roster.Http.Message
import Roster.Net.Percent
import Roster.Node
import Roster.Wire

/-!
The HTTP interface of a node. A request is judged by its path first, then by its method, the texts
in its path, the type and the form of its content, and last by the node.
-/

namespace Roster

namespace Api

open Http (Request Response Status MediaType)
open Json (Form)

/-- What a path leads to. -/
inductive Route
  | identity
  | announcement (nodeId : String)
  | services (kind pool : Option String)
  | entries
  | digest
  deriving DecidableEq

namespace Route

/-- The parts of a path, which starts with a slash and ends where a query starts. -/
def parts? (target : String) : Option (List String) :=
  match (target.toList.takeWhile fun c => c ≠ '?' && c ≠ '#').splitOn '/' with
  | [] :: parts => some (parts.map String.ofList)
  | _ => none

/-- What a path leads to; a text at its end must not be empty. -/
def ofTarget? (target : String) : Option Route :=
  match parts? target with
  | some ["v1", "config"] => some identity
  | some ["v1", "announcement", nodeId] => if nodeId = "" then none else some (announcement nodeId)
  | some ["v1", "service"] => some (services none none)
  | some ["v1", "service", kind] => if kind = "" then none else some (services (some kind) none)
  | some ["v1", "service", kind, pool] =>
    if pool = "" then none else some (services (some kind) (some pool))
  | some ["v1", "store", "dynamic"] => some entries
  | some ["v1", "store", "dynamic", "digest"] => some digest
  | _ => none

/-- The methods that work on a route. -/
def methods : Route → List String
  | announcement _ => ["PUT", "DELETE"]
  | entries => ["GET", "HEAD", "POST"]
  | _ => ["GET", "HEAD"]

/-- Resolves the bytes in the texts of a route that are written in digits. -/
def decoded? : Route → Option Route
  | announcement nodeId => (Percent.decode? nodeId).map announcement
  | services none pool => some (services none pool)
  | services (some kind) none => (Percent.decode? kind).map fun kind => services (some kind) none
  | services (some kind) (some pool) => do
    return services (some (← Percent.decode? kind)) (some (← Percent.decode? pool))
  | route => some route

end Route

/-- The content of an answer. -/
inductive Content
  | identity (profile : Profile)
  | services (environment : String) (found : List Service)
  | entries (found : List Entry)
  | text (value : String)
  deriving DecidableEq

/-- The form in which an answer travels, unless it is mere text. -/
def Content.toJson? : Content → Option Json
  | identity profile =>
    some (.obj [("node_id", .str profile.nodeId), ("environment", .str profile.environment),
      ("pool", .str profile.pool), ("map_target", .str profile.migration.mapTarget),
      ("replication_mode", Phase.form.write profile.migration.phase)])
  | services environment found =>
    some (.obj [("environment", .str environment), ("services", Service.form.list.write found)])
  | entries found => some (Entry.form.list.write found)
  | text _ => none

/-- The text of an answer's content. -/
def Content.render : Content → String
  | text value => value
  | content => (content.toJson?.map Json.compact).getD ""

/-- The media type of an answer's content. -/
def Content.mediaType : Content → String
  | text _ => "text/plain; charset=utf-8"
  | _ => "application/json"

/-- The greatest number of bytes that a request may carry. -/
def bodyLimit : Nat := 2097152

/-- The content of a request, or the status that says what is wrong with it. -/
def readBody {α : Type} (form : Form α) (request : Request) : Except Status α :=
  if !(request.contentType.bind MediaType.parse?).any MediaType.isJson then
    .error .unsupportedMediaType
  else if bodyLimit < request.body.size then .error .payloadTooLarge
  else match String.fromUTF8? request.body with
    | none => .error .badRequest
    | some text =>
      match form.parseFront text with
      | .ok value => .ok value
      | .error .mismatched => .error .unprocessable
      | .error _ => .error .badRequest

/-- The status for a rejection. -/
def statusOf : Rejection → Status
  | .invalid _ => .badRequest
  | .forbidden _ => .forbidden
  | .disabled => .methodNotAllowed

/-- The answer to a write. -/
def written {α : Type} (status : Status) : Except Rejection α → Response Content
  | .error rejection => .plain (statusOf rejection)
  | .ok _ => .plain status

/-- The answer to a reading of all entries. -/
def read : Except Rejection (List Entry) → Response Content
  | .error rejection => .plain (statusOf rejection)
  | .ok entries => .withContent (.entries entries)

/-- Reads what a route leads to. -/
def get (node : Node) (now : Millis) (requester : Address) : Route → Outcome (Response Content)
  | .identity => node.unchanged (.withContent (.identity node.profile))
  | .services kind pool =>
    node.unchanged (.withContent (.services node.profile.environment (node.query now kind pool)))
  | .entries => (node.snapshot requester).map read
  | .digest => node.digest.map fun digest => .withContent (.text digest)
  | .announcement _ => node.unchanged (.plain .notFound)

/-- Takes an announcement. -/
def put (node : Node) (resolver : Resolver) (now : Millis) (requester : Address) (nodeId : String)
    (request : Request) : Outcome (Response Content) :=
  match readBody Announcement.form request with
  | .error status => node.unchanged (.plain status)
  | .ok announcement =>
    (node.announce resolver now nodeId announcement requester).map (written .accepted)

/-- Takes an entry from a peer. -/
def post (node : Node) (requester : Address) (request : Request) : Outcome (Response Content) :=
  match readBody Entry.form request with
  | .error status => node.unchanged (.plain status)
  | .ok entry => (node.acceptOffer entry requester).map (written .ok)

/-- Does what a request asks for whose method works on its route. -/
def perform (node : Node) (resolver : Resolver) (now : Millis) (requester : Address)
    (request : Request) : Route → Outcome (Response Content)
  | .announcement nodeId =>
    if request.method = "PUT" then put node resolver now requester nodeId request
    else (node.delete resolver now nodeId requester).map (written .ok)
  | route =>
    if request.method = "POST" then post node requester request
    else
      let outcome := get node now requester route
      if request.method = "HEAD" then outcome.map Response.bare else outcome

end Api

open Api Http in
/-- Answers a request from an address. -/
def Node.respond (node : Node) (resolver : Resolver) (now : Millis) (requester : Address)
    (request : Request) : Outcome (Response Content) :=
  match Route.ofTarget? request.target with
  | none => node.unchanged (.plain .notFound)
  | some route =>
    if !route.methods.contains request.method then
      node.unchanged ⟨.methodNotAllowed, route.methods, none⟩
    else match route.decoded? with
      | none => node.unchanged (.plain .badRequest)
      | some route => perform node resolver now requester request route

end Roster
