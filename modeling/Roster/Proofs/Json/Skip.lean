import Roster.Proofs.Json.Tree

/-! Whatever a tree holds, passing over it leaves just what follows its tokens. -/

namespace Roster.Json

/-- How a value is passed over goes by its first character. -/
theorem skipValue_eq (opened : List Bracket) (text : List Char) :
    skipValue opened text =
      match trim text with
      | [] => .error .truncated
      | '[' :: rest =>
        match trim rest with
        | ']' :: more => skipOn opened more
        | _ => skipValue (.list :: opened) rest
      | '\x7b' :: rest =>
        match trim rest with
        | '\x7d' :: more => skipOn opened more
        | _ =>
          match skipName rest with
          | .error fault => .error fault
          | .ok more => skipValue (.object :: opened) more
      | c :: rest =>
        match skipScalar (c :: rest) with
        | .error fault => .error fault
        | .ok more => skipOn opened more := by
  -- The definition carries proofs that the text gets shorter; without them it is this equation.
  conv_lhs => rw [skipValue.eq_def]
  split
  · simp_all
  · split <;> simp_all
  · split
    · simp_all
    · split <;> simp_all
  · split <;> simp_all

/-- How the open brackets are passed goes by what stands behind a value. -/
theorem skipOn_cons (bracket : Bracket) (outer : List Bracket) (text : List Char) :
    skipOn (bracket :: outer) text =
      match trim text with
      | [] => .error .truncated
      | ',' :: rest =>
        match bracket with
        | .list => skipValue (bracket :: outer) rest
        | .object =>
          match skipName rest with
          | .error fault => .error fault
          | .ok more => skipValue (bracket :: outer) more
      | ']' :: rest => if bracket = .list then skipOn outer rest else .error .malformed
      | '\x7d' :: rest => if bracket = .object then skipOn outer rest else .error .malformed
      | _ => .error .malformed := by
  -- The definition carries proofs that the text gets shorter; without them it is this equation.
  conv_lhs => rw [skipOn]
  split
  · simp_all
  · cases bracket with
    | list => simp_all
    | object =>
      dsimp only
      split <;> simp_all
  · simp_all
  · simp_all
  · simp_all

/-- A minus sign and a digit send the reader to numbers. -/
theorem skipScalar_number {c : Char} (start : c = '-' ∨ c.isDigit = true) (rest : List Char) :
    skipScalar (c :: rest) = skipNumber (c :: rest) := by
  -- The words are told by their first letter and strings by their quote, and a number starts with
  -- none of these.
  unfold skipScalar
  split
  · rename_i none
    cases none
  all_goals
    rename_i same
    cases same
  · simp at start
  · simp at start
  · simp at start
  · simp at start
  · exact if_pos start

/-- The name of a member is passed over with the colon behind it. -/
theorem skipName_quoted (name : List Letter) {more : List Token} {text : List Char}
    (spaced : Spaced (Letter.quoted name :: [':'] :: more) text) :
    ∃ rest, skipName text = .ok rest ∧ Spaced more rest := by
  -- A name is skipped as a string, and its colon is expected behind it.
  obtain ⟨behind, front, others⟩ := spaced.front rfl
  obtain ⟨rest, passed, others⟩ := others.colon
  refine ⟨rest, ?_, others⟩
  rw [skipName, front, List.append_assoc, List.singleton_append]
  show (skipString (name.flatMap Letter.chars ++ '"' :: behind)).bind Json.colon = _
  rw [Letter.skipString_letters]
  exact passed

mutual

/-- Passing over a value leaves what follows its tokens. -/
theorem skipValue_tokens (tree : Tree) (opened : List Bracket) {more : List Token}
    {text : List Char} (spaced : Spaced (tree.tokens ++ more) text) (ends : Ends more) :
    ∃ rest, skipValue opened text = skipOn opened rest ∧ Spaced more rest := by
  -- A value without parts is one token, which is passed over as a whole.
  have scalar {c : Char} {token : Token} (spaced : Spaced ((c :: token) :: more) text)
      (printed : isBlank c = false) (noList : c ≠ '[') (noObject : c ≠ '\x7b')
      (passes : ∀ rest, Spaced more rest → skipScalar (c :: (token ++ rest)) = .ok rest) :
      ∃ rest, skipValue opened text = skipOn opened rest ∧ Spaced more rest := by
    obtain ⟨rest, front, others⟩ := spaced.front printed
    refine ⟨rest, ?_, others⟩
    rw [skipValue_eq, front]
    split
    · rename_i none
      cases none
    · rename_i list
      exact absurd (List.cons.inj list).1 noList
    · rename_i object
      exact absurd (List.cons.inj object).1 noObject
    · rename_i same
      rw [← same, passes rest others]
  match tree with
  | .null =>
    exact scalar spaced rfl (by decide) (by decide) fun rest _ => word_append ['u', 'l', 'l'] rest
  | .bool true =>
    exact scalar spaced rfl (by decide) (by decide) fun rest _ => word_append ['r', 'u', 'e'] rest
  | .bool false =>
    exact scalar spaced rfl (by decide) (by decide) fun rest _ =>
      word_append ['a', 'l', 's', 'e'] rest
  | .number figure =>
    obtain ⟨c, token, spelled, start⟩ := figure.exists_cons
    rw [Tree.tokens, spelled] at spaced
    have brackets : c ≠ '[' ∧ c ≠ '\x7b' := by
      constructor <;> rintro rfl <;> simp at start
    refine scalar spaced (Form.head_cases start).1 brackets.1 brackets.2 fun rest others => ?_
    have read := figure.read_chars .malformed (others.stops ends)
    rw [spelled, List.cons_append] at read
    rw [skipScalar_number start, skipNumber, read]
    rfl
  | .string letters =>
    refine scalar spaced rfl (by decide) (by decide) fun rest _ => ?_
    rw [List.append_assoc, List.singleton_append]
    exact Letter.skipString_letters letters rest
  | .array [] =>
    obtain ⟨inside, front, others⟩ := Spaced.mark spaced rfl
    obtain ⟨rest, close, others⟩ := others.mark rfl
    refine ⟨rest, ?_, others⟩
    rw [skipValue_eq, front]
    simp only [close]
  | .array (item :: items) =>
    rw [Tree.tokens, List.cons_append, List.append_assoc, List.append_assoc,
      List.singleton_append] at spaced
    obtain ⟨inside, front, others⟩ := spaced.mark rfl
    -- The first item does not start with the bracket that ends the list.
    obtain ⟨c, tail, opening, opens, -⟩ := others.opening
    obtain ⟨between, passed, others⟩ :=
      skipValue_tokens item (.list :: opened) others (ends_moreItems items more)
    obtain ⟨rest, closed, others⟩ := skipOn_items items opened others
    refine ⟨rest, ?_, others⟩
    rw [← closed, ← passed, skipValue_eq, front]
    simp only [opening]
    split
    · rename_i close
      exact absurd (List.cons.inj close).1 opens.ne_bracket
    · rfl
  | .object [] =>
    obtain ⟨inside, front, others⟩ := Spaced.mark spaced rfl
    obtain ⟨rest, close, others⟩ := others.mark rfl
    refine ⟨rest, ?_, others⟩
    rw [skipValue_eq, front]
    simp only [close]
  | .object ((name, tree) :: members) =>
    rw [Tree.tokens, List.cons_append, List.cons_append, List.cons_append, List.append_assoc,
      List.append_assoc, List.singleton_append] at spaced
    obtain ⟨inside, front, others⟩ := spaced.mark rfl
    -- The first member starts with the quote of its name and not with the closing brace.
    obtain ⟨behind, quote, -⟩ := others.front rfl
    obtain ⟨value, named, others⟩ := skipName_quoted name others
    obtain ⟨between, passed, others⟩ :=
      skipValue_tokens tree (.object :: opened) others (ends_moreMembers members more)
    obtain ⟨rest, closed, others⟩ := skipOn_members members opened others
    refine ⟨rest, ?_, others⟩
    rw [← closed, ← passed, skipValue_eq, front]
    simp only [quote, named]
    rfl

/-- Passing over the items behind the first one leaves what follows the closing bracket. -/
theorem skipOn_items (items : List Tree) (opened : List Bracket) {more : List Token}
    {text : List Char} (spaced : Spaced (Tree.moreItems items ++ [']'] :: more) text) :
    ∃ rest, skipOn (.list :: opened) text = skipOn opened rest ∧ Spaced more rest := by
  -- Recursion on the items, together with skipping a tree: a comma and an item, then the others,
  -- which are fewer.
  match items with
  | [] =>
    obtain ⟨rest, front, others⟩ := Spaced.mark spaced rfl
    refine ⟨rest, ?_, others⟩
    rw [skipOn_cons, front]
    rfl
  | item :: items =>
    rw [Tree.moreItems, List.cons_append, List.append_assoc] at spaced
    obtain ⟨inside, front, others⟩ := spaced.mark rfl
    obtain ⟨between, passed, others⟩ :=
      skipValue_tokens item (.list :: opened) others (ends_moreItems items more)
    obtain ⟨rest, closed, others⟩ := skipOn_items items opened others
    refine ⟨rest, ?_, others⟩
    rw [← closed, ← passed, skipOn_cons, front]
    rfl

/-- Passing over the members behind the first one leaves what follows the closing brace. -/
theorem skipOn_members (members : List (List Letter × Tree)) (opened : List Bracket)
    {more : List Token} {text : List Char}
    (spaced : Spaced (Tree.moreMembers members ++ ['\x7d'] :: more) text) :
    ∃ rest, skipOn (.object :: opened) text = skipOn opened rest ∧ Spaced more rest := by
  -- Recursion on the members, together with skipping a tree: a comma, a name and its tree, then the
  -- others, which are fewer.
  match members with
  | [] =>
    obtain ⟨rest, front, others⟩ := Spaced.mark spaced rfl
    refine ⟨rest, ?_, others⟩
    rw [skipOn_cons, front]
    rfl
  | (name, tree) :: members =>
    rw [Tree.moreMembers, List.cons_append, List.cons_append, List.cons_append,
      List.append_assoc] at spaced
    obtain ⟨inside, front, others⟩ := spaced.mark rfl
    obtain ⟨value, named, others⟩ := skipName_quoted name others
    obtain ⟨between, passed, others⟩ :=
      skipValue_tokens tree (.object :: opened) others (ends_moreMembers members more)
    obtain ⟨rest, closed, others⟩ := skipOn_members members opened others
    refine ⟨rest, ?_, others⟩
    rw [← closed, ← passed, skipOn_cons, front]
    simp only [named]

end

/-- One value is passed over, whatever it holds and however deep. -/
theorem skip_tokens (tree : Tree) {more : List Token} {text : List Char}
    (spaced : Spaced (tree.tokens ++ more) text) (ends : Ends more) :
    ∃ rest, skip text = .ok rest ∧ Spaced more rest := by
  -- A value is skipped with no bracket open around it, so skipping ends behind it.
  obtain ⟨rest, passed, others⟩ := skipValue_tokens tree [] spaced ends
  refine ⟨rest, ?_, others⟩
  rw [skip, passed, skipOn]

end Roster.Json
