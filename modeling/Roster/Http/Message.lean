import Roster.Http.Status

/-! Requests to a node's interface and the answers to them. -/

namespace Roster.Http

/-- A request to an interface. -/
structure Request where
  method : String
  -- The path, and a query after a question mark if there is one.
  target : String
  contentType : Option String
  body : ByteArray

/-- An answer with content of some type. -/
structure Response (α : Type) where
  status : Status
  -- The methods that would be allowed, where the method was not.
  allowed : List String
  content : Option α
  deriving DecidableEq

namespace Response

variable {α : Type}

/-- An answer that is nothing but a status. -/
def plain (status : Status) : Response α := ⟨status, [], none⟩

/-- An answer with content. -/
def withContent (content : α) : Response α := ⟨.ok, [], some content⟩

/-- An answer without its content. -/
def bare (response : Response α) : Response α := { response with content := none }

end Response

end Roster.Http
