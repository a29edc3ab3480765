import Roster.Json.Object

/-! The form of any JSON value, with brackets nested up to a limit. -/

namespace Roster.Json

namespace Form

/-- Reads a value without parts. -/
def readScalar (text : List Char) : Reading Json :=
  match trim text with
  | [] => .error .truncated
  | 'n' :: rest => (word ['u', 'l', 'l'] rest).map fun more => (.null, more)
  | 't' :: rest => (word ['r', 'u', 'e'] rest).map fun more => (.bool true, more)
  | 'f' :: rest => (word ['a', 'l', 's', 'e'] rest).map fun more => (.bool false, more)
  | '"' :: rest => (stringFrom [] rest).map fun (value, more) => (.str value, more)
  | c :: rest => if c = '-' ∨ c.isDigit then number (c :: rest) else .error .malformed

theorem map_word_shorter {expected text rest : List Char} {json value : Json}
    (done : (word expected text).map (fun more => (json, more)) = .ok (value, rest)) :
    rest.length ≤ text.length := by
  -- The value that goes along with the rest has no part in its length.
  cases found : word expected text with
  | error fault => simp [found, Except.map] at done
  | ok more =>
    have := word_shorter found
    simp only [found, Except.map, Except.ok.injEq, Prod.mk.injEq] at done
    rw [← done.2]
    exact this

theorem readScalar_shorter {text rest : List Char} {value : Json}
    (done : readScalar text = .ok (value, rest)) : rest.length < text.length := by
  -- In each case the first character decides, and it is gone afterwards.
  simp only [readScalar] at done
  split at done
  · simp at done
  · rename_i front
    have := length_lt_of_trim front
    have := map_word_shorter done
    omega
  · rename_i front
    have := length_lt_of_trim front
    have := map_word_shorter done
    omega
  · rename_i front
    have := length_lt_of_trim front
    have := map_word_shorter done
    omega
  · rename_i tail front
    have := length_lt_of_trim front
    cases found : stringFrom [] tail with
    | error fault => simp [found, Except.map] at done
    | ok pair =>
      have := stringFrom_shorter found
      simp only [found, Except.map, Except.ok.injEq, Prod.mk.injEq] at done
      rw [← done.2]
      omega
  · rename_i front
    have := length_lt_of_trim front
    split at done
    · have := number_shorter done
      simp only [List.length_cons] at this
      omega
    · simp at done

/-- Objects with members in ascending order of names, where a later value replaces an earlier. -/
def ordered (form : Form Json) : Form (List (String × Json)) :=
  form.members.convert (fun found => (Index.ofList found : Index Prod.fst).items) id

/-- Reads a value whose parts have a form. -/
def readValue (inner : Form Json) (text : List Char) : Reading Json :=
  match trim text with
  | '[' :: _ => (inner.list.read text).map fun (items, rest) => (.arr items, rest)
  | '\x7b' :: _ => (inner.ordered.read text).map fun (members, rest) => (.obj members, rest)
  | _ => readScalar text

theorem readValue_shorter {inner : Form Json} {text rest : List Char} {value : Json}
    (done : readValue inner text = .ok (value, rest)) : rest.length < text.length := by
  -- Lists and objects are read by forms, which take up characters by themselves.
  simp only [readValue] at done
  split at done
  · cases found : inner.list.read text with
    | error fault => simp [found, Except.map] at done
    | ok pair =>
      have := inner.list.shorter found
      simp only [found, Except.map, Except.ok.injEq, Prod.mk.injEq] at done
      rw [← done.2]
      exact this
  · cases found : inner.ordered.read text with
    | error fault => simp [found, Except.map] at done
    | ok pair =>
      have := inner.ordered.shorter found
      simp only [found, Except.map, Except.ok.injEq, Prod.mk.injEq] at done
      rw [← done.2]
      exact this
  · exact readScalar_shorter done

/-- All values with brackets nested at most so deep. -/
def any : Nat → Form Json
  | 0 => ⟨readScalar, readScalar_shorter, some, id⟩
  | depth + 1 => ⟨readValue (any depth), readValue_shorter, some, id⟩

/-- Reads a text that holds one value and nothing else but blanks. -/
def parse {α : Type} (form : Form α) (text : String) : Except Fault α :=
  match form.read text.toList with
  | .error fault => .error fault
  | .ok (value, rest) => if (trim rest).isEmpty then .ok value else .error .malformed

/-- Reads the value at the front of a text, whatever follows. -/
def parseFront {α : Type} (form : Form α) (text : String) : Except Fault α :=
  (form.read text.toList).map Prod.fst

end Form

/-- How deep brackets may be nested in a value of no particular form. -/
def depthLimit : Nat := 127

/-- Reads a text that holds one JSON value. -/
def parse (text : String) : Except Fault Json := (Form.any depthLimit).parse text

end Roster.Json
