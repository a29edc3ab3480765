import Roster.Http.Exchange
import Roster.Http.Message

/-!
HTTP messages as bytes: a first line, headers, an empty line and a body, whose extent the headers
tell. A connection carries one request and one answer.
-/

namespace Roster.Http

/-- A message of either direction. -/
structure Frame where
  opening : String
  -- Header names are in lower case.
  headers : List (String × String)
  body : List UInt8
  deriving DecidableEq

namespace Frame

/-- Splits bytes at the first line end. -/
def splitLine : List UInt8 → Option (List UInt8 × List UInt8)
  | 13 :: 10 :: rest => some ([], rest)
  | byte :: rest => (splitLine rest).map fun (line, rest) => (byte :: line, rest)
  | [] => none

/-- What follows a line is shorter than what starts with it. -/
theorem splitLine_shorter {bytes line rest : List UInt8}
    (found : splitLine bytes = some (line, rest)) : rest.length < bytes.length := by
  -- Each byte of the line is dropped, and the line end too.
  fun_induction splitLine bytes generalizing line with
  | case1 tail =>
    simp only [Option.some.injEq, Prod.mk.injEq] at found
    simp only [← found.2, List.length_cons]
    omega
  | case2 byte tail _ ih =>
    obtain ⟨pair, inner, same⟩ := Option.map_eq_some_iff.1 found
    simp only [Prod.mk.injEq] at same
    have shorter := @ih pair.1 (by rw [inner, ← same.2])
    simp only [List.length_cons]
    omega
  | case3 => simp at found

/-- A line as text, one character for each byte. -/
def lineText (line : List UInt8) : String :=
  String.ofList (line.map fun byte => Char.ofNat byte.toNat)

/-- Reads the lines in front of the first empty one; what follows that is kept. -/
def readLines (bytes : List UInt8) : Option (List String × List UInt8) :=
  match _ : splitLine bytes with
  | none => none
  | some ([], rest) => some ([], rest)
  | some (line, rest) => (readLines rest).map fun (lines, body) => (lineText line :: lines, body)
termination_by bytes.length
decreasing_by exact splitLine_shorter ‹_›

/-- A text without blanks at its ends. -/
def trimmed (text : List Char) : String :=
  let isBlank := fun c : Char => c = ' ' || c = '\t'
  String.ofList ((text.dropWhile isBlank).reverse.dropWhile isBlank).reverse

/-- The name and the value in a line of a header. -/
def headerOf? (line : String) : Option (String × String) :=
  match line.toList.dropWhile (· ≠ ':') with
  | ':' :: value =>
    some (String.ofList ((line.toList.takeWhile (· ≠ ':')).map Char.toLower), trimmed value)
  | _ => none

/-- The number that digits spell in a base, where anything else ends the digits. -/
def leadingNumber (base : Nat) (text : List Char) : Nat :=
  Address.digitNumber base (text.takeWhile fun c => (Address.digitValue? c).any (· < base))

/-- Puts the pieces of a body together, each of which follows a line with its length. -/
def readPieces (bytes : List UInt8) : Option (List UInt8) :=
  match _ : splitLine bytes with
  | none => none
  | some (line, rest) =>
    let length := leadingNumber 16 (lineText line).toList
    if length = 0 then some []
    else if rest.length < length + 2 then none
    else (readPieces (rest.drop (length + 2))).map (rest.take length ++ ·)
termination_by bytes.length
decreasing_by
  have := splitLine_shorter ‹_›
  simp only [List.length_drop]
  omega

/-- The value of a header. -/
def header? (headers : List (String × String)) (name : String) : Option String :=
  headers.lookup name

/-- Reads a message once all of it is there. Without a length, a request has no body, and the body
of an answer goes on to the end of the connection. -/
def read? (isRequest ended : Bool) (bytes : List UInt8) : Option Frame := do
  let (lines, rest) ← readLines bytes
  let opening ← lines.head?
  let headers := (lines.drop 1).filterMap headerOf?
  let body ←
    if (header? headers "transfer-encoding").any fun value => value.toLower == "chunked" then
      readPieces rest
    else match header? headers "content-length" with
      | some value =>
        let length := leadingNumber 10 value.toList
        if rest.length < length then none else some (rest.take length)
      | none => if isRequest then some [] else if ended then some rest else none
  return ⟨opening, headers, body⟩

/-- The bytes of a message. -/
def bytes (frame : Frame) : ByteArray :=
  let lines := frame.opening :: frame.headers.map fun (name, value) => s!"{name}: {value}"
  let head := String.join (lines.map (· ++ "\r\n")) ++ "\r\n"
  head.toUTF8 ++ ⟨frame.body.toArray⟩

/-- The length of a body as a header. -/
def lengthHeader (body : ByteArray) : String × String := ("content-length", toString body.size)

/-- The message that makes a call. -/
def ofCall (call : Call) : Frame :=
  let body := (call.body.getD "").toUTF8
  let host := (call.uri.host.map Host.text).getD "" ++
    (call.uri.port.map fun port => s!":{port}").getD ""
  let content := if call.body.isSome then
      [("content-type", "application/json"), lengthHeader body]
    else []
  ⟨s!"{call.method} {call.uri.target} HTTP/1.1",
    [("host", host), ("accept", "*/*"), ("connection", "close")] ++ content, body.toList⟩

/-- The request that a message makes. -/
def request? (frame : Frame) : Option Request :=
  match frame.opening.splitOn " " with
  | [method, target, _] =>
    some ⟨method, target, header? frame.headers "content-type", ⟨frame.body.toArray⟩⟩
  | _ => none

/-- The message that gives an answer, with its content as text of some type. -/
def ofResponse {α : Type} (kind : α → String) (render : α → String) (response : Response α) :
    Frame :=
  let body := ((response.content.map render).getD "").toUTF8
  let type := response.content.map fun content => ("content-type", kind content)
  let allow := if response.allowed.isEmpty then none
    else some ("allow", ",".intercalate response.allowed)
  ⟨s!"HTTP/1.1 {response.status.text}",
    type.toList ++ allow.toList ++ [lengthHeader body, ("connection", "close")], body.toList⟩

/-- The answer that a message gives. -/
def answer? (frame : Frame) : Option Answer :=
  match frame.opening.splitOn " " with
  | _ :: code :: _ =>
    some ⟨⟨leadingNumber 10 code.toList⟩, header? frame.headers "location", ⟨frame.body.toArray⟩⟩
  | _ => none

end Frame

end Roster.Http
