import Roster.Entry
import Roster.Json.Skip

/-!
Forms of JSON values: for each type, how its values are read from text, taken from a JSON value,
and written. Reading goes from left to right and the first problem decides.
-/

namespace Roster.Json

/-- A way to write the values of a type as JSON and to read them back. -/
structure Form (α : Type) where
  read : List Char → Reading α
  shorter : ∀ {text value rest}, read text = .ok (value, rest) → rest.length < text.length
  accept : Json → Option α
  write : α → Json

/-- What is wrong with a text that starts another kind of value than the wanted one. -/
def mismatch (text : List Char) : Fault :=
  -- A whole simple value is read first, so that its own fault comes before the mismatch.
  match text with
  | [] => .truncated
  | '[' :: _ => .mismatched
  | '\x7b' :: _ => .mismatched
  | 'n' :: rest => fault (word ['u', 'l', 'l'] rest)
  | 't' :: rest => fault (word ['r', 'u', 'e'] rest)
  | 'f' :: rest => fault (word ['a', 'l', 's', 'e'] rest)
  | '"' :: rest => fault (stringFrom [] rest)
  | c :: rest => if c = '-' ∨ c.isDigit then fault (number (c :: rest)) else .malformed
where
  fault {α : Type} : Except Fault α → Fault
    | .ok _ => .mismatched
    | .error fault => fault

namespace Form

/-- Reads a quoted text. -/
def readText (text : List Char) : Reading String :=
  match trim text with
  | '"' :: rest => stringFrom [] rest
  | other => .error (mismatch other)

theorem readText_shorter {text rest : List Char} {value : String}
    (done : readText text = .ok (value, rest)) : rest.length < text.length := by
  -- The opening quote is gone before the letters are read.
  simp only [readText] at done
  split at done
  · rename_i front
    have := length_lt_of_trim front
    have := stringFrom_shorter done
    omega
  · simp at done

/-- Texts. -/
def text : Form String where
  read := readText
  shorter := readText_shorter
  accept
    | .str value => some value
    | _ => none
  write := .str

/-- Reads an integer of 64 bits with sign. -/
def readMillis (text : List Char) : Reading Millis :=
  match trim text with
  | [] => .error .truncated
  | c :: rest =>
    if c = '-' ∨ c.isDigit then
      match number (c :: rest) with
      | .error fault => .error fault
      | .ok (.int n, more) =>
        match Millis.ofInt? n with
        | some value => .ok (value, more)
        | none => .error .mismatched
      | .ok _ => .error .mismatched
    else .error (mismatch (c :: rest))

theorem readMillis_shorter {text rest : List Char} {value : Millis}
    (done : readMillis text = .ok (value, rest)) : rest.length < text.length := by
  -- Only a number that is an integer in range is passed on, with what is left behind it.
  simp only [readMillis] at done
  split at done
  · simp at done
  · rename_i front
    have := length_lt_of_trim front
    split at done
    · split at done
      · simp at done
      · rename_i found
        have := number_shorter found
        simp only [List.length_cons] at this
        split at done
        · simp only [Except.ok.injEq, Prod.mk.injEq] at done
          rw [← done.2]
          omega
        · simp at done
      · simp at done
    · simp at done

/-- Whole milliseconds of 64 bits with sign. -/
def millis : Form Millis where
  read := readMillis
  shorter := readMillis_shorter
  accept
    | .int n => Millis.ofInt? n
    | _ => none
  write value := .int value.val

/-- Reads a value that may be null. -/
def readOptional {α : Type} (form : Form α) (text : List Char) : Reading (Option α) :=
  match trim text with
  | 'n' :: rest => (word ['u', 'l', 'l'] rest).map fun more => (none, more)
  | _ => (form.read text).map fun (value, more) => (some value, more)

theorem readOptional_shorter {α : Type} {form : Form α} {text rest : List Char}
    {value : Option α} (done : readOptional form text = .ok (value, rest)) :
    rest.length < text.length := by
  -- Either the letters of the word are read, or the inner form takes up characters.
  simp only [readOptional] at done
  split at done
  · rename_i tail front
    have := length_lt_of_trim front
    cases found : word ['u', 'l', 'l'] tail with
    | error fault => simp [found, Except.map] at done
    | ok more =>
      have := word_shorter found
      simp only [found, Except.map, Except.ok.injEq, Prod.mk.injEq] at done
      rw [← done.2]
      omega
  · cases found : form.read text with
    | error fault => simp [found, Except.map] at done
    | ok pair =>
      have := form.shorter found
      simp only [found, Except.map, Except.ok.injEq, Prod.mk.injEq] at done
      rw [← done.2]
      exact this

/-- Values of a form, or null for none. -/
def optional {α : Type} (form : Form α) : Form (Option α) where
  read := readOptional form
  shorter := readOptional_shorter
  accept
    | .null => some none
    | json => (form.accept json).map some
  write
    | none => .null
    | some value => form.write value

/-- Reads list items up to the closing bracket, after the opening bracket or a comma. -/
def readItems {α : Type} (form : Form α) (text : List Char) : Reading (List α) :=
  match _ : form.read text with
  | .error fault => .error fault
  | .ok (value, rest) =>
    match _ : trim rest with
    | [] => .error .truncated
    | ',' :: more =>
      match readItems form more with
      | .error fault => .error fault
      | .ok (values, last) => .ok (value :: values, last)
    | ']' :: more => .ok ([value], more)
    | _ => .error .malformed
termination_by text.length
decreasing_by
  have := form.shorter ‹form.read text = _›
  have := length_lt_of_trim ‹trim rest = _ :: _›
  omega

theorem readItems_shorter {α : Type} {form : Form α} {text rest : List Char} {values : List α}
    (done : readItems form text = .ok (values, rest)) : rest.length < text.length := by
  -- The recursion is that of the reader: an item, and then a comma with more items or the end.
  rw [readItems.eq_def] at done
  split at done
  · simp at done
  · rename_i found
    have := form.shorter found
    split at done
    · simp at done
    · rename_i more front
      have shrunk : more.length < text.length := by
        have := length_lt_of_trim front
        omega
      split at done
      · simp at done
      · rename_i inner
        have := readItems_shorter inner
        simp only [Except.ok.injEq, Prod.mk.injEq] at done
        rw [← done.2]
        omega
    · rename_i front
      have := length_lt_of_trim front
      simp only [Except.ok.injEq, Prod.mk.injEq] at done
      rw [← done.2]
      omega
    · simp at done
termination_by text.length

/-- Reads a list. -/
def readList {α : Type} (form : Form α) (text : List Char) : Reading (List α) :=
  match trim text with
  | '[' :: rest =>
    match trim rest with
    | ']' :: more => .ok ([], more)
    | _ => readItems form rest
  | other => .error (mismatch other)

theorem readList_shorter {α : Type} {form : Form α} {text rest : List Char} {values : List α}
    (done : readList form text = .ok (values, rest)) : rest.length < text.length := by
  -- The opening bracket is gone, whether items follow it or the closing one does.
  simp only [readList] at done
  split at done
  · rename_i front
    have := length_lt_of_trim front
    split at done
    · rename_i close
      have := length_lt_of_trim close
      simp only [Except.ok.injEq, Prod.mk.injEq] at done
      rw [← done.2]
      omega
    · have := readItems_shorter done
      omega
  · simp at done

/-- Lists of values of a form. -/
def list {α : Type} (form : Form α) : Form (List α) where
  read := readList form
  shorter := readList_shorter
  accept
    | .arr items => items.mapM form.accept
    | _ => none
  write values := .arr (values.map form.write)

end Form

end Roster.Json
