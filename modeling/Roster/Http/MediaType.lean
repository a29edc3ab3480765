/-! Media types, which say what kind of content a message carries. -/

namespace Roster.Http

/-- A media type, without its parameters and in lower case. -/
structure MediaType where
  kind : List Char
  -- The name within the kind, up to its last plus sign.
  subkind : List Char
  -- What follows that sign: the format that the name builds on.
  suffix : Option (List Char)
  deriving DecidableEq

namespace MediaType

/-- Whether a character may stand in a name. -/
def isNameChar (c : Char) : Bool :=
  ('a' ≤ c && c ≤ 'z') || ('A' ≤ c && c ≤ 'Z') || c.isDigit ||
    "!#$%&'*+-.^_\x60|~".toList.contains c

/-- A place among the parameters of a media type. -/
inductive Place
  | between
  | name
  | valueStart
  | value
  | quotedStart
  | quoted
  | closed
  deriving DecidableEq

/-- The place after one more character, if it may stand there. -/
def Place.step (place : Place) (c : Char) : Option Place :=
  let isQuotable := ' ' ≤ c && c < '\x7f'
  match place with
  | between => if c = ' ' ∨ c = ';' then some between else if isNameChar c then some name else none
  | name => if c = '=' then some valueStart else if isNameChar c then some name else none
  | valueStart =>
    if c = '"' then some quotedStart else if isNameChar c then some value else none
  | value => if c = ';' then some between else if isNameChar c then some value else none
  -- A quoted value has at least one character, be it a quote.
  | quotedStart => if isQuotable then some quoted else none
  | quoted => if c = '"' then some closed else if isQuotable then some quoted else none
  | closed => if c = ';' then some between else if c = ' ' then some closed else none

/-- Whether a text may end at a place. -/
def Place.isEnd : Place → Bool
  | between | valueStart | value | closed => true
  | name | quotedStart | quoted => false

/-- Whether what follows the name of a media type is a list of parameters. -/
def hasParameters (text : List Char) : Bool := (text.foldlM Place.step .between).any Place.isEnd

/-- Splits a name at its last plus sign, unless nothing is in front of that. -/
def splitSuffix (name : List Char) : List Char × Option (List Char) :=
  let suffix := (name.reverse.takeWhile (· ≠ '+')).reverse
  let front := name.take (name.length - suffix.length - 1)
  if front.isEmpty || suffix.length = name.length then (name, none) else (front, some suffix)

/-- Reads a media type. -/
def parse? (text : String) : Option MediaType :=
  let kind := text.toList.takeWhile isNameChar
  match text.toList.dropWhile isNameChar with
  | '/' :: rest =>
    let name := rest.takeWhile isNameChar
    let parameters := rest.dropWhile isNameChar
    let isSeparated := match parameters with
      | [] => true
      | c :: more => (c = ';' || c = ' ') && !name.isEmpty && hasParameters more
    if kind.isEmpty || !isSeparated then none
    else
      let (subkind, suffix) := splitSuffix (name.map Char.toLower)
      some ⟨kind.map Char.toLower, subkind, suffix⟩
  | _ => none

/-- Whether content of a type is JSON. -/
def isJson (type : MediaType) : Bool :=
  type.kind = "application".toList &&
    (type.subkind = "json".toList || type.suffix = some "json".toList)

end MediaType

end Roster.Http
