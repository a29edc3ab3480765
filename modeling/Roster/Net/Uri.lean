import Roster.Net.Host

/-! Addresses of resources, read as browsers read them and written in one normal form. -/

namespace Roster

/-- The address of a resource, without user, password and fragment. -/
structure Uri where
  scheme : String
  host : Option Host
  -- A port other than the scheme's own.
  port : Option Nat
  path : String
  query : Option String
  deriving DecidableEq

namespace Uri

/-- Whether a character is a letter of ASCII. -/
def isLetter (c : Char) : Bool := ('a' ≤ c && c ≤ 'z') || ('A' ≤ c && c ≤ 'Z')

/-- A text without blanks and control characters at its ends, and without tabs and line ends. -/
def clean (text : List Char) : List Char :=
  let isEdge := fun c : Char => decide (c ≤ ' ')
  let trimmed := ((text.dropWhile isEdge).reverse.dropWhile isEdge).reverse
  trimmed.filter fun c => c ≠ '\t' && c ≠ '\n' && c ≠ '\r'

/-- Splits the scheme off, in lower case. -/
def splitScheme? (text : List Char) : Option (String × List Char) :=
  let isPart := fun c : Char => isLetter c || c.isDigit || c = '+' || c = '-' || c = '.'
  match text.head?, text.dropWhile isPart with
  | some first, ':' :: rest =>
    if isLetter first then some (String.ofList ((text.takeWhile isPart).map Char.toLower), rest)
    else none
  | _, _ => none

/-- The port of a scheme that has internet hosts; other schemes have none. -/
def defaultPort? (scheme : String) : Option Nat :=
  if scheme = "http" ∨ scheme = "ws" then some 80
  else if scheme = "https" ∨ scheme = "wss" then some 443
  else if scheme = "ftp" then some 21
  else none

/-- Whether a scheme has internet hosts and treats backslashes as slashes. -/
def isSpecial (scheme : String) : Bool := (defaultPort? scheme).isSome || scheme = "file"

/-- Whether a character ends the part that names the host. -/
def endsAuthority (special : Bool) (c : Char) : Bool :=
  c = '/' || c = '?' || c = '#' || (special && c = '\\')

/-- What follows the user and password, if any; there has to be something. -/
def afterUser? (special : Bool) (text : List Char) : Option (List Char) :=
  let authority := text.takeWhile (!endsAuthority special ·)
  let rest := text.dropWhile (!endsAuthority special ·)
  let afterSign := (authority.reverse.takeWhile (· ≠ '@')).reverse
  -- A sign with nothing but itself in front of the path names no host.
  if authority.contains '@' && afterSign.isEmpty then none
  else some (afterSign ++ rest)

/-- The length of a host, which ends at a colon outside of brackets. -/
def hostLength (special : Bool) : Bool → List Char → Nat
  | _, [] => 0
  | inside, c :: rest =>
    if (c = ':' ∧ !inside) ∨ endsAuthority special c then 0
    else hostLength special (if c = '[' then true else if c = ']' then false else inside) rest + 1

/-- Reads the port after a colon, none when it is the scheme's own; what follows it is kept. -/
def readPort? (scheme : String) (text : List Char) : Option (Option Nat × List Char) :=
  let digits := text.takeWhile Char.isDigit
  let rest := text.dropWhile Char.isDigit
  let port := Address.digitNumber 10 digits
  let ends := match rest with
    | [] => true
    | c :: _ => endsAuthority true c
  if !ends || 65535 < port then none
  else if digits.isEmpty || some port = defaultPort? scheme then some (none, rest)
  else some (some port, rest)

/-- Whether a character of a path is written in digits. -/
def isUnsafeInPath (c : Char) : Bool :=
  Percent.isControl c || " \"<>`#?\x7b\x7d".toList.contains c

/-- Whether a character of a query is written in digits. -/
def isUnsafeInQuery (special : Bool) (c : Char) : Bool :=
  Percent.isControl c || " \"#<>".toList.contains c || (special && c = '\'')

/-- A text cut at the characters that satisfy a test. -/
def splitAt (isCut : Char → Bool) (text : List Char) : List (List Char) :=
  text.splitOnP isCut

/-- Whether a part of a path means the same place. -/
def isHere (part : List Char) : Bool :=
  [".", "%2e"].contains (String.ofList (part.map Char.toLower))

/-- Whether a part of a path means the place above. -/
def isAbove (part : List Char) : Bool :=
  ["..", ".%2e", "%2e.", "%2e%2e"].contains (String.ofList (part.map Char.toLower))

/-- The parts of a path once those that mean the same place or the one above are resolved; the parts
in front are in reverse. -/
def resolveParts (front : List (List Char)) : List (List Char) → List (List Char)
  | [] => front.reverse
  | [part] =>
    -- At the end such a part leaves an empty name.
    if isAbove part then ([] :: front.drop 1).reverse
    else if isHere part then ([] :: front).reverse
    else (part :: front).reverse
  | part :: next :: rest =>
    if isAbove part then resolveParts (front.drop 1) (next :: rest)
    else if isHere part then resolveParts front (next :: rest)
    else resolveParts (part :: front) (next :: rest)

/-- The path of parts, each after a slash. -/
def joinParts (parts : List (List Char)) : String :=
  String.ofList (parts.flatMap ('/' :: ·))

/-- The text up to a query or a fragment. -/
def pathText (text : List Char) : List Char := text.takeWhile fun c => c ≠ '?' && c ≠ '#'

/-- The query after a path, if there is one. -/
def queryOf (special : Bool) (text : List Char) : Option String :=
  match text.dropWhile fun c => c ≠ '?' && c ≠ '#' with
  | '?' :: rest =>
    some (String.ofList
      (Percent.encode (isUnsafeInQuery special) (rest.takeWhile (· ≠ '#'))))
  | _ => none

/-- The parts of a path after its first slash, with characters written in digits where needed. -/
def partsOf (special : Bool) (text : List Char) : List (List Char) :=
  (splitAt (fun c => c = '/' || (special && c = '\\')) text).map (Percent.encode isUnsafeInPath)

/-- The path after a host; a scheme with internet hosts has at least a slash. -/
def hierarchicalPath (special : Bool) (text : List Char) : String :=
  match pathText text with
  | [] => if special then "/" else ""
  | c :: rest =>
    let relative := if c = '/' || (special && c = '\\') then rest else c :: rest
    joinParts (resolveParts [] (partsOf special relative))

/-- Reads what follows the two slashes in front of a host. -/
def parseAuthority? (scheme : String) (text : List Char) : Option Uri := do
  let special := isSpecial scheme
  let text ← afterUser? special text
  let length := hostLength special false text
  let hostText := text.take length
  let rest := text.drop length
  if special then
    let host ← Host.parse? hostText
    let (port, rest) ← match rest with
      | ':' :: rest => readPort? scheme rest
      | _ => some (none, rest)
    return ⟨scheme, some host, port, hierarchicalPath true rest, queryOf true rest⟩
  else
    let host ← Host.parseOpaque? hostText
    let (port, rest) ← match rest with
      -- A port needs a host.
      | ':' :: rest => if hostText.isEmpty then none else readPort? scheme rest
      | _ => some (none, rest)
    let host := if hostText.isEmpty then none else some host
    return ⟨scheme, host, port, hierarchicalPath false rest, queryOf false rest⟩

/-- Whether a text is a letter and a colon or bar, which name a disk and no host. -/
def isDisk : List Char → Bool
  | [letter, mark] => isLetter letter && (mark = ':' || mark = '|')
  | _ => false

/-- Reads the address of a file, which may name a host after two slashes. -/
def parseFile? (text : List Char) : Option Uri :=
  let isSlash := fun c : Char => c = '/' || c = '\\'
  match text with
  | a :: b :: rest =>
    if isSlash a && isSlash b then
      let hostText := rest.takeWhile (!endsAuthority true ·)
      let after := rest.drop hostText.length
      if isDisk hostText then
        some ⟨"file", none, none, hierarchicalPath true rest, queryOf true rest⟩
      else if hostText.isEmpty then
        some ⟨"file", none, none, hierarchicalPath true after, queryOf true after⟩
      else do
        let host ← Host.parse? hostText
        -- A path that starts with a disk leaves no host.
        let onDisk := (splitAt isSlash ((pathText after).drop 1)).head?.any isDisk
        let host := if host = .name "localhost" || onDisk then none else some host
        return ⟨"file", host, none, hierarchicalPath true after, queryOf true after⟩
    else some ⟨"file", none, none, hierarchicalPath true text, queryOf true text⟩
  | _ => some ⟨"file", none, none, hierarchicalPath true text, queryOf true text⟩

/-- Reads the address of a resource. -/
def parse? (text : String) : Option Uri := do
  let (scheme, rest) ← splitScheme? (clean text.toList)
  if scheme = "file" then parseFile? rest
  else if isSpecial scheme then
    -- Any number of slashes may stand in front of the host.
    parseAuthority? scheme (rest.dropWhile fun c => c = '/' || c = '\\')
  else
    match rest with
    | '/' :: '/' :: rest => parseAuthority? scheme rest
    | '/' :: _ => some ⟨scheme, none, none, hierarchicalPath false rest, queryOf false rest⟩
    | _ =>
      let path := String.ofList (Percent.encode Percent.isControl (pathText rest))
      some ⟨scheme, none, none, path, queryOf false rest⟩

/-- The address that a text without a scheme means at another address, which has an internet
host. -/
def relative? (base : Uri) (text : List Char) : Option Uri :=
  let isSlash := fun c : Char => c = '/' || c = '\\'
  match text with
  | [] | '#' :: _ => some base
  | '?' :: _ => some { base with query := queryOf true text }
  | c :: rest =>
    if isSlash c then
      if rest.head?.any isSlash then parseAuthority? base.scheme (rest.dropWhile isSlash)
      else some { base with path := hierarchicalPath true text, query := queryOf true text }
    else
      -- The last part of the path gives way to the text.
      let front := ((splitAt (· = '/') base.path.toList).drop 1).dropLast
      let path := joinParts (resolveParts front.reverse (partsOf true (pathText text)))
      some { base with path, query := queryOf true text }

/-- The address that a text means at another address, which has an internet host. -/
def join? (base : Uri) (text : String) : Option Uri :=
  match splitScheme? (clean text.toList) with
  | some (scheme, rest) => if scheme = base.scheme then relative? base rest else parse? text
  | none => relative? base (clean text.toList)

/-- The port to connect to. -/
def effectivePort (uri : Uri) : Option Nat := uri.port.or (defaultPort? uri.scheme)

/-- The path, and the query after it if there is one. -/
def target (uri : Uri) : String :=
  match uri.query with
  | some query => uri.path ++ "?" ++ query
  | none => uri.path

/-- The text of an address with a host. -/
def text (uri : Uri) : String :=
  let port := match uri.port with
    | some port => ":" ++ toString port
    | none => ""
  uri.scheme ++ "://" ++ (uri.host.map Host.text).getD "" ++ port ++ uri.target

/-- The host that a text names, without brackets. -/
def hostOf? (text : String) : Option String := do
  return (← (← parse? text).host).bare

end Uri

end Roster
