import Roster.Proofs.Net.Host
import Roster.Proofs.Node.Ownership
import Roster.Proofs.Trust

/-!
Contacts that name an address. A URI whose host is the text of an address leads to that address and
to no other, with whatever port and in either spelling of an address that stands for one of version
4. So such a contact passes for exactly those requesters that have the same canonical form.
-/

namespace Roster

namespace Address

/-- The text of an address as the host of a URI: one of version 6 stands in brackets. -/
def hostText : Address → String
  | v4 octets => (v4 octets).text
  | v6 groups => "[" ++ (v6 groups).text ++ "]"

/-- Whether a character can stand in the text of an address. -/
def isSpelling (c : Char) : Bool := (digitValue? c).isSome || c = ':' || c = '.'

/-- No digit comes before the digit zero. -/
theorem zero_le_of_isSome {c : Char} (digit : (digitValue? c).isSome) : '0' ≤ c := by
  -- All three ranges of digits lie from the digit zero on.
  unfold digitValue? at digit
  split_ifs at digit with decimal lower upper
  · exact decimal.1
  · exact Char.le_trans (by decide) lower.1
  · exact Char.le_trans (by decide) upper.1
  · cases digit

/-- A digit can stand in the text of an address. -/
theorem isSpelling_of_isDigit {c : Char} (digit : c.isDigit) : isSpelling c = true := by
  -- A decimal digit has a value, so it counts among the digits of any base.
  have value := digitValue?_lt_of_isDigit digit
  cases found : digitValue? c with
  | none => simp [found] at value
  | some n => simp [isSpelling, found]

/-- Groups are written in digits and colons. -/
theorem isSpelling_of_mem_groupText {groups : List UInt16} {c : Char}
    (member : c ∈ groupText groups) : isSpelling c = true := by
  -- A character stands between two groups or in one of them.
  rcases mem_of_mem_intercalate member with colon | ⟨part, listed, inside⟩
  · rw [List.mem_singleton.1 colon]
    rfl
  · obtain ⟨group, -, rfl⟩ := List.mem_map.1 listed
    simp [isSpelling, isHex_of_mem_digitText (by decide) (by decide) inside]

/-- Eight groups are written in digits and colons, whether a run of zeros is left out or not. -/
theorem isSpelling_of_mem_compressed {groups : Vector UInt16 8} {c : Char}
    (member : c ∈ compressed groups) : isSpelling c = true := by
  -- Where a run of zeros is left out, two colons stand for it.
  rcases compressed_cases groups with text | ⟨before, length, after, -, -, text⟩
  · exact isSpelling_of_mem_groupText (text ▸ member)
  · rw [text, List.mem_append, List.mem_cons, List.mem_cons] at member
    rcases member with front | rfl | rfl | back
    · exact isSpelling_of_mem_groupText front
    · rfl
    · rfl
    · exact isSpelling_of_mem_groupText back

/-- Four octets are written in digits and points. -/
theorem isSpelling_of_mem_dotted {octets : Vector UInt8 4} {c : Char}
    (member : c ∈ dotted octets) : isSpelling c = true := by
  -- A point stands between octets, and all else is a digit.
  rcases isDigit_or_of_mem_dotted member with digit | rfl
  · exact isSpelling_of_isDigit digit
  · rfl

/-- An address is written in digits, colons and points. -/
theorem isSpelling_of_mem_text {address : Address} {c : Char}
    (member : c ∈ address.text.toList) : isSpelling c = true := by
  -- An address that stands for one of version 4 starts with fixed groups and ends in octets.
  cases address with
  | v4 octets => exact isSpelling_of_mem_dotted (by simpa [text] using member)
  | v6 groups =>
    cases stands : mapped? groups with
    | none => exact isSpelling_of_mem_compressed (by simpa [text, stands] using member)
    | some octets =>
      simp only [text, stands, String.toList_append, String.toList_ofList, List.mem_append]
        at member
      rcases member with front | dotted
      · have each : "::ffff:".toList.all isSpelling = true := by decide
        exact List.all_eq_true.1 each c front
      · exact isSpelling_of_mem_dotted dotted

end Address

namespace Uri

/-- The text for a port behind a host, if there is one. -/
def portText : Option UInt16 → String
  | none => ""
  | some port => ":" ++ toString port.toNat

/-- The URI that names an address, and a port if there is one. -/
def naming (scheme : String) (address : Address) (port : Option UInt16) : String :=
  scheme ++ "://" ++ address.hostText ++ portText port

/-- The text for a port is a colon and its digits. -/
theorem toList_portText (port : UInt16) :
    (portText (some port)).toList = ':' :: Address.digitText 10 port.toNat := by
  simp [portText, Address.digitText]

/-- Whether a character can stand in the part of a URI that names the host, without being taken for
a blank, for the end of that part or for that of a user. -/
def isOfHost (c : Char) : Bool := ' ' < c && !endsAuthority true c && c ≠ '@'

/-- What it takes to stand in the part that names the host. -/
theorem isOfHost_iff {c : Char} :
    isOfHost c = true ↔ ' ' < c ∧ endsAuthority true c = false ∧ c ≠ '@' := by
  simp [isOfHost, and_assoc]

/-- The characters in the text of an address can stand in the part that names the host. -/
theorem isOfHost_of_isSpelling {c : Char} (spelling : Address.isSpelling c = true) :
    isOfHost c = true := by
  -- Digits, the colon and the point lie above the blank, and none of the marks is among them.
  have visible : ' ' < c := by
    simp only [Address.isSpelling, Bool.or_eq_true, decide_eq_true_eq] at spelling
    rcases spelling with (digit | rfl) | rfl
    · exact UInt32.lt_of_lt_of_le (show ' '.val < '0'.val by decide)
        (Address.zero_le_of_isSome digit)
    · decide
    · decide
  have others : ['/', '?', '#', '\\', '@'].all (!Address.isSpelling ·) = true := by decide
  have differs : c ∉ ['/', '?', '#', '\\', '@'] := by
    intro mark
    simpa [spelling] using List.all_eq_true.1 others c mark
  simp only [List.mem_cons, List.not_mem_nil, or_false, not_or] at differs
  simp [isOfHost, endsAuthority, visible, differs]

/-- The host that is an address, and a port behind it, are of the part that names the host. -/
theorem isOfHost_of_mem_naming {address : Address} {port : Option UInt16} {c : Char}
    (member : c ∈ address.hostText.toList ++ (portText port).toList) : isOfHost c = true := by
  -- Beside the text of the address there are only brackets, a colon and the digits of a port.
  rw [List.mem_append] at member
  rcases member with host | digits
  · cases address with
    | v4 octets => exact isOfHost_of_isSpelling (Address.isSpelling_of_mem_text host)
    | v6 groups =>
      rw [Address.hostText, String.toList_append, String.toList_append, List.mem_append,
        List.mem_append] at host
      rcases host with (front | inside) | back
      · rw [List.mem_singleton.1 front]
        rfl
      · exact isOfHost_of_isSpelling (Address.isSpelling_of_mem_text inside)
      · rw [List.mem_singleton.1 back]
        rfl
  · cases port with
    | none => cases digits
    | some port =>
      rw [toList_portText, List.mem_cons] at digits
      rcases digits with rfl | digit
      · rfl
      · exact isOfHost_of_isSpelling
          (Address.isSpelling_of_isDigit (Address.isDigit_of_mem_digitText digit))

/-- A text without blanks and control characters is clean. -/
theorem clean_of_visible {text : List Char} (visible : ∀ c ∈ text, ' ' < c) :
    clean text = text := by
  -- No character at either end is dropped.
  have edge : ∀ text : List Char, (∀ c ∈ text, ' ' < c) →
      text.dropWhile (fun c => decide (c ≤ ' ')) = text := by
    intro text visible
    cases text with
    | nil => rfl
    | cons c rest =>
      have first : ¬c ≤ ' ' := Char.not_le.2 (visible c List.mem_cons_self)
      simp [first]
  have back : ∀ c ∈ text.reverse, ' ' < c := fun c member => visible c (List.mem_reverse.1 member)
  have kept : ∀ c ∈ text, (c ≠ '\t' && c ≠ '\n' && c ≠ '\r') = true := by
    intro c member
    have marks : ∀ d ∈ ['\t', '\n', '\r'], ¬(' ' < d) := by simp
    have differs : c ∉ ['\t', '\n', '\r'] := fun mark => marks c mark (visible c member)
    simpa [and_assoc] using differs
  rw [clean]
  simp only [edge text visible, edge text.reverse back, List.reverse_reverse]
  exact List.filter_eq_self.2 kept

/-- A text in which no user and no end is marked is the part that names the host. -/
theorem afterUser?_of_isOfHost {text : List Char} (ofHost : ∀ c ∈ text, isOfHost c = true) :
    afterUser? true text = some text := by
  -- The text goes on to its end, and no part in front of it names a user.
  have inside : ∀ c ∈ text, (!endsAuthority true c) = true := by
    intro c member
    rw [(isOfHost_iff.1 (ofHost c member)).2.1]
    rfl
  have unsigned : ∀ c ∈ text, c ≠ '@' := fun c member => (isOfHost_iff.1 (ofHost c member)).2.2
  have taken := List.takeWhile_eq_self_iff.2 inside
  have left := List.dropWhile_eq_nil_iff.2 inside
  have behind : text.reverse.takeWhile (· ≠ '@') = text.reverse :=
    List.takeWhile_eq_self_iff.2 fun c member => by
      simpa using unsigned c (List.mem_reverse.1 member)
  have unmarked : text.contains '@' = false := by
    simpa using fun mark => unsigned '@' mark rfl
  simp only [afterUser?, taken, left, behind, List.reverse_reverse, unmarked, Bool.false_and,
    Bool.false_eq_true, if_false, List.append_nil]

/-- The host goes on through characters that do not end it. -/
theorem hostLength_append {inside : Bool} {front : List Char} (rest : List Char)
    (plain : ∀ c ∈ front, endsAuthority true c = false ∧ c ≠ '[' ∧ c ≠ ']' ∧
      (c = ':' → inside = true)) :
    hostLength true inside (front ++ rest) = hostLength true inside rest + front.length := by
  -- The induction is on the characters in front, none of which ends the host or opens a bracket.
  induction front with
  | nil => rfl
  | cons c front ih =>
    obtain ⟨⟨goesOn, opens, closes, colon⟩, others⟩ := List.forall_mem_cons.1 plain
    have stays : ¬((c = ':' ∧ !inside) ∨ endsAuthority true c) := by
      rintro (⟨rfl, outside⟩ | ends)
      · simp [colon rfl] at outside
      · simp [goesOn] at ends
    rw [List.cons_append, hostLength, if_neg stays, if_neg opens, if_neg closes, ih others,
      List.length_cons, Nat.add_assoc]

/-- Behind a host there is a port or nothing. -/
theorem hostLength_portText (port : Option UInt16) :
    hostLength true false (portText port).toList = 0 := by
  -- The colon in front of a port ends the host at once.
  cases port with
  | none => rfl
  | some port => simp [toList_portText, hostLength]

/-- The host of a URI that names an address is the text of the address. -/
theorem hostLength_naming (address : Address) (port : Option UInt16) :
    hostLength true false (address.hostText.toList ++ (portText port).toList) =
      address.hostText.toList.length := by
  -- No character of the text of an address ends the host, and a colon does so outside of brackets.
  have goesOn {c : Char} (spelling : Address.isSpelling c = true) :
      endsAuthority true c = false ∧ c ≠ '[' ∧ c ≠ ']' := by
    refine ⟨(isOfHost_iff.1 (isOfHost_of_isSpelling spelling)).2.1, ?_, ?_⟩
    · rintro rfl
      cases spelling
    · rintro rfl
      cases spelling
  cases address with
  | v4 octets =>
    rw [hostLength_append, hostLength_portText, Nat.zero_add]
    intro c member
    obtain ⟨within, opens, closes⟩ := goesOn (Address.isSpelling_of_mem_text member)
    refine ⟨within, opens, closes, ?_⟩
    rintro rfl
    -- In four octets there is no colon.
    have numeric : ':' ∈ Address.dotted octets := by
      simpa [Address.hostText, Address.text] using member
    exact absurd (Address.isDigit_or_of_mem_dotted numeric) (by decide)
  | v6 groups =>
    have inside : ∀ c ∈ (Address.v6 groups).text.toList, endsAuthority true c = false ∧ c ≠ '[' ∧
        c ≠ ']' ∧ (c = ':' → true = true) := by
      intro c member
      obtain ⟨within, opens, closes⟩ := goesOn (Address.isSpelling_of_mem_text member)
      exact ⟨within, opens, closes, fun _ => rfl⟩
    have brackets : (Address.v6 groups).hostText.toList ++ (portText port).toList =
        '[' :: ((Address.v6 groups).text.toList ++ ']' :: (portText port).toList) := by
      simp [Address.hostText]
    -- The first bracket opens, the text stands inside, and the other bracket closes.
    calc hostLength true false ((Address.v6 groups).hostText.toList ++ (portText port).toList)
      _ = hostLength true true
            ((Address.v6 groups).text.toList ++ ']' :: (portText port).toList) + 1 := by
        rw [brackets]
        rfl
      _ = hostLength true true (']' :: (portText port).toList) +
            (Address.v6 groups).text.toList.length + 1 := by
        rw [hostLength_append _ inside]
      _ = hostLength true false (portText port).toList + 1 +
            (Address.v6 groups).text.toList.length + 1 := rfl
      _ = (Address.v6 groups).hostText.toList.length := by
        rw [hostLength_portText]
        simp [Address.hostText, Nat.add_comm]

/-- The port behind a colon is read, and dropped where it is the scheme's own. -/
theorem readPort?_digitText (scheme : String) (port : UInt16) :
    readPort? scheme (Address.digitText 10 port.toNat) =
      some (if some port.toNat = defaultPort? scheme then none else some port.toNat, []) := by
  -- The digits go on to the end of the text and spell a number that fits.
  have isDigit : ∀ c ∈ Address.digitText 10 port.toNat, c.isDigit := fun c =>
    Address.isDigit_of_mem_digitText
  have taken := List.takeWhile_eq_self_iff.2 isDigit
  have left := List.dropWhile_eq_nil_iff.2 isDigit
  have number := Address.digitNumber_digitText (by decide) (by decide : (10 : Nat) ≤ 16) port.toNat
  have some : (Address.digitText 10 port.toNat).isEmpty = false :=
    List.isEmpty_eq_false_iff.2 Nat.toDigits_ne_nil
  have bound := port.toNat_lt
  have fits : ¬65535 < port.toNat := by omega
  simp only [readPort?, taken, left, number, some, fits, Bool.not_true, Bool.false_or,
    decide_false, Bool.false_eq_true, if_false, decide_eq_true_eq]
  split <;> rfl

/-- The text of an address is a host that is the address. -/
theorem parse?_hostText (address : Address) :
    Host.parse? address.hostText.toList = some (.address address) := by
  -- The two versions are told apart by the bracket.
  cases address with
  | v4 octets => simpa [Address.hostText, Address.text] using Host.parse?_dotted octets
  | v6 groups => simpa [Address.hostText] using Host.parse?_brackets groups

/-- Behind the slashes the address and the port are read, the port unless it is the scheme's own. -/
theorem parseAuthority?_naming {scheme : String} (special : isSpecial scheme = true)
    (address : Address) (port : Option UInt16) :
    parseAuthority? scheme (address.hostText.toList ++ (portText port).toList) =
      some ⟨scheme, some (.address address),
        (port.map UInt16.toNat).filter (some · ≠ defaultPort? scheme), "/", none⟩ := by
  -- No user is named, so what is left is the host and behind it the port.
  have whole : afterUser? true (address.hostText.toList ++ (portText port).toList) =
      some (address.hostText.toList ++ (portText port).toList) :=
    afterUser?_of_isOfHost fun _ => isOfHost_of_mem_naming
  unfold parseAuthority?
  simp only [special, if_true, whole, Option.bind_eq_bind, Option.bind_some, hostLength_naming,
    List.take_left, List.drop_left, parse?_hostText]
  cases port with
  | none => rfl
  | some port =>
    simp only [toList_portText, readPort?_digitText, Option.map_some, Option.filter_some, ne_eq,
      decide_not, Bool.not_eq_true', decide_eq_false_iff_not, ite_not]
    rfl

/-- A URI that names an address is read as such. -/
theorem parse?_naming {scheme : String} (web : scheme ∈ ["http", "https"]) (address : Address)
    (port : Option UInt16) :
    parse? (naming scheme address port) =
      some ⟨scheme, some (.address address),
        (port.map UInt16.toNat).filter (some · ≠ defaultPort? scheme), "/", none⟩ := by
  let authority := address.hostText.toList ++ (portText port).toList
  have ofHost : ∀ c ∈ authority, isOfHost c = true := fun _ => isOfHost_of_mem_naming
  have text : (naming scheme address port).toList =
      scheme.toList ++ ':' :: '/' :: '/' :: authority := by
    simp [naming, authority]
  have visible : ∀ c ∈ scheme.toList ++ ':' :: '/' :: '/' :: authority, ' ' < c := by
    intro c member
    rcases List.mem_append.1 member with front | behind
    · have letters : ∀ name ∈ ["http", "https"], ∀ d ∈ name.toList, ' ' < d := by simp
      exact letters scheme web c front
    · simp only [List.mem_cons] at behind
      rcases behind with rfl | rfl | rfl | inside
      · decide
      · decide
      · decide
      · exact (isOfHost_iff.1 (ofHost c inside)).1
  have split : splitScheme? (scheme.toList ++ ':' :: '/' :: '/' :: authority) =
      some (scheme, '/' :: '/' :: authority) := by
    simp only [List.mem_cons, List.not_mem_nil, or_false] at web
    rcases web with rfl | rfl <;> rfl
  -- The host does not start with a slash of its own.
  have slashes :
      ('/' :: '/' :: authority).dropWhile (fun c => c = '/' || c = '\\') = authority := by
    have both : ∀ c ∈ ['/', '/'], (c = '/' || c = '\\') = true := by simp
    refine (Address.takeWhile_append_of_head? both fun c first => ?_).2
    have goesOn := (isOfHost_iff.1 (ofHost c (List.mem_of_mem_head? first))).2.1
    rw [Bool.or_eq_false_iff, decide_eq_false_iff_not, decide_eq_false_iff_not]
    constructor
    · rintro rfl
      cases goesOn
    · rintro rfl
      cases goesOn
  have special : scheme ≠ "file" ∧ isSpecial scheme = true := by
    simp only [List.mem_cons, List.not_mem_nil, or_false] at web
    rcases web with rfl | rfl <;> decide
  simp only [parse?, text, clean_of_visible visible, split, Option.bind_eq_bind, Option.bind_some,
    if_neg special.1, special.2, if_true, slashes]
  exact parseAuthority?_naming special.2 address port

/-- The host of a URI that names an address is the address, with all of version 6 in groups. -/
theorem hostOf?_naming {scheme : String} (web : scheme ∈ ["http", "https"]) (address : Address)
    (port : Option UInt16) :
    hostOf? (naming scheme address port) = some (Host.bare (.address address)) := by
  -- The host is what stands between scheme and port, without its brackets.
  simp [hostOf?, parse?_naming web]

end Uri

namespace Trust

/-- A contact that names an address passes if the requester has its canonical form, and else the
requester is refused for announcing another host. -/
theorem checkContact_naming {resolver : Resolver} (knows : resolver.KnowsLiterals)
    {scheme : String} (web : scheme ∈ ["http", "https"]) (nodeId : String)
    (requester address : Address) (port : Option UInt16) :
    checkContact resolver nodeId requester (Uri.naming scheme address port) =
      if requester = address.canonical then .ok ()
      else .error ⟨requester, some nodeId, .otherHost (Host.bare (.address address))⟩ := by
  -- The resolver knows the address that the host spells, and it is the only one that it gives.
  simp only [checkContact, Uri.hostOf?_naming web, knows _ _ (Host.parse?_bare address),
    List.mem_singleton]

/--
A contact that names an address admits that address alone: whoever asks, with whatever port or none,
it passes exactly if the requester and the named address have the same canonical form.
-/
theorem named_address_admitted_alone {resolver : Resolver} (knows : resolver.KnowsLiterals)
    {scheme : String} (web : scheme ∈ ["http", "https"]) (nodeId : String)
    (requester address : Address) (port : Option UInt16) :
    checkContact resolver nodeId requester.canonical (Uri.naming scheme address port) = .ok () ↔
      requester.canonical = address.canonical := by
  -- Whoever is refused is refused for the host, so passing and having the address are one.
  rw [checkContact_naming knows web]
  split
  · rename_i same
    exact iff_of_true rfl same
  · rename_i differ
    exact iff_of_false (fun passed => by cases passed) differ

/-- The address 10.0.0.1, named in brackets as one of version 6, admits itself. -/
theorem named_address_admitted_alone_mapped :
    Uri.naming "https" (.v6 (Address.mapping #v[10, 0, 0, 1])) (some 8443) =
        "https://[::ffff:10.0.0.1]:8443" ∧
      checkContact Resolver.literals "n1" (Address.v4 #v[10, 0, 0, 1]).canonical
        (Uri.naming "https" (.v6 (Address.mapping #v[10, 0, 0, 1])) (some 8443)) = .ok () :=
  -- A mapped address is admitted for its own four octets, since both are compared in canonical
  -- spelling.
  ⟨by decide,
    (named_address_admitted_alone Resolver.knowsLiterals_literals (by decide) "n1" _ _ _).2
      (by decide)⟩

end Trust

end Roster
