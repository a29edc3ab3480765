import Roster.Json.Numeral

/-! Passing over a value of any form and depth, with the open brackets kept on a list. -/

namespace Roster.Json

/-- A bracket that has been opened and not yet closed. -/
inductive Bracket
  | list
  | object
  deriving DecidableEq

/-- Passes over a value without parts. -/
def skipScalar (text : List Char) : Except Fault (List Char) :=
  match text with
  | [] => .error .truncated
  | 'n' :: rest => word ['u', 'l', 'l'] rest
  | 't' :: rest => word ['r', 'u', 'e'] rest
  | 'f' :: rest => word ['a', 'l', 's', 'e'] rest
  | '"' :: rest => skipString rest
  | c :: rest => if c = '-' ∨ c.isDigit then skipNumber (c :: rest) else .error .malformed

theorem skipScalar_shorter {text rest : List Char} (done : skipScalar text = .ok rest) :
    rest.length < text.length := by
  -- In each case the first character decides, and it is gone afterwards.
  simp only [skipScalar] at done
  split at done
  · simp at done
  · have := word_shorter done
    simp only [List.length_cons]
    omega
  · have := word_shorter done
    simp only [List.length_cons]
    omega
  · have := word_shorter done
    simp only [List.length_cons]
    omega
  · have := skipString_shorter done
    simp only [List.length_cons]
    omega
  · split at done
    · exact skipNumber_shorter done
    · simp at done

/-- Passes over a colon and the blanks in front of it. -/
def colon (text : List Char) : Except Fault (List Char) :=
  match trim text with
  | [] => .error .truncated
  | ':' :: rest => .ok rest
  | _ => .error .malformed

theorem colon_shorter {text rest : List Char} (done : colon text = .ok rest) :
    rest.length < text.length := by
  -- The colon itself is taken.
  simp only [colon] at done
  split at done
  · simp at done
  · rename_i front
    simp only [Except.ok.injEq] at done
    exact done ▸ length_lt_of_trim front
  · simp at done

/-- Passes over the name of a member and the colon after it. -/
def skipName (text : List Char) : Except Fault (List Char) :=
  match trim text with
  | [] => .error .truncated
  | '"' :: rest => skipString rest >>= colon
  | _ => .error .malformed

theorem skipName_shorter {text rest : List Char} (done : skipName text = .ok rest) :
    rest.length < text.length := by
  -- The quote, the letters and the colon come off one after the other.
  simp only [skipName] at done
  split at done
  · simp at done
  · rename_i front
    have := length_lt_of_trim front
    simp only [bind, Except.bind] at done
    split at done
    · simp at done
    · rename_i name
      have := skipString_shorter name
      have := colon_shorter done
      omega
  · simp at done

mutual

/-- Passes over a value inside the open brackets and then to the end of the outermost of them. -/
def skipValue (opened : List Bracket) (text : List Char) : Except Fault (List Char) :=
  match _ : trim text with
  | [] => .error .truncated
  | '[' :: rest =>
    match _ : trim rest with
    | ']' :: more => skipOn opened more
    | _ => skipValue (.list :: opened) rest
  | '\x7b' :: rest =>
    match _ : trim rest with
    | '\x7d' :: more => skipOn opened more
    | _ =>
      match _ : skipName rest with
      | .error fault => .error fault
      | .ok more => skipValue (.object :: opened) more
  | c :: rest =>
    match _ : skipScalar (c :: rest) with
    | .error fault => .error fault
    | .ok more => skipOn opened more
termination_by text.length
decreasing_by
  all_goals have := length_lt_of_trim ‹trim text = _ :: _›
  · have := length_lt_of_trim ‹trim rest = _ :: _›
    omega
  · omega
  · have := length_lt_of_trim ‹trim rest = _ :: _›
    omega
  · have := skipName_shorter (by assumption)
    omega
  · have := skipScalar_shorter (by assumption)
    simp only [List.length_cons] at this
    omega

/-- Passes from the end of a value to the end of the outermost open bracket. -/
def skipOn (opened : List Bracket) (text : List Char) : Except Fault (List Char) :=
  match opened with
  | [] => .ok text
  | bracket :: outer =>
    match _ : trim text with
    | [] => .error .truncated
    | ',' :: rest =>
      match bracket with
      | .list => skipValue (bracket :: outer) rest
      | .object =>
        match _ : skipName rest with
        | .error fault => .error fault
        | .ok more => skipValue (bracket :: outer) more
    | ']' :: rest => if bracket = .list then skipOn outer rest else .error .malformed
    | '\x7d' :: rest => if bracket = .object then skipOn outer rest else .error .malformed
    | _ => .error .malformed
termination_by text.length
decreasing_by
  all_goals have := length_lt_of_trim ‹trim text = _ :: _›
  · omega
  · have := skipName_shorter (by assumption)
    omega
  · omega
  · omega

end

/-- Passes over one value. -/
def skip (text : List Char) : Except Fault (List Char) := skipValue [] text

mutual

theorem skipValue_shorter {opened : List Bracket} {text rest : List Char}
    (done : skipValue opened text = .ok rest) : rest.length < text.length := by
  -- The recursion is that of the reader: with every bracket or scalar the text has become shorter.
  rw [skipValue.eq_def] at done
  split at done
  · simp at done
  · rename_i front
    have := length_lt_of_trim front
    split at done
    · rename_i close
      have := length_lt_of_trim close
      have := skipOn_shorter done
      omega
    · have := skipValue_shorter done
      omega
  · rename_i front
    have := length_lt_of_trim front
    split at done
    · rename_i close
      have := length_lt_of_trim close
      have := skipOn_shorter done
      omega
    · split at done
      · simp at done
      · rename_i name
        have := skipName_shorter name
        have := skipValue_shorter done
        omega
  · rename_i front
    have := length_lt_of_trim front
    split at done
    · simp at done
    · rename_i more scalar
      have shrunk : more.length < text.length := by
        have := skipScalar_shorter scalar
        simp only [List.length_cons] at this
        omega
      have := skipOn_shorter done
      omega
termination_by text.length

theorem skipOn_shorter {opened : List Bracket} {text rest : List Char}
    (done : skipOn opened text = .ok rest) : rest.length ≤ text.length := by
  -- Where nothing is open any more, nothing is taken; else a comma or a bracket is.
  rw [skipOn.eq_def] at done
  split at done
  · simp only [Except.ok.injEq] at done
    simp [done]
  · split at done
    · simp at done
    · rename_i front
      have := length_lt_of_trim front
      split at done
      · have := skipValue_shorter done
        omega
      · split at done
        · simp at done
        · rename_i name
          have := skipName_shorter name
          have := skipValue_shorter done
          omega
    · rename_i front
      have := length_lt_of_trim front
      split at done
      · have := skipOn_shorter done
        omega
      · simp at done
    · rename_i front
      have := length_lt_of_trim front
      split at done
      · have := skipOn_shorter done
        omega
      · simp at done
    · simp at done
termination_by text.length

end

theorem skip_shorter {text rest : List Char} (done : skip text = .ok rest) :
    rest.length < text.length :=
  skipValue_shorter done

end Roster.Json
