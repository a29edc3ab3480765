import Roster.Proofs.Json.Lexeme

/-!
Every JSON text is the spelling of a tree, with blanks between its tokens. Names, texts and numbers
stand in a tree as they are spelled. The first token of a tree tells its kind.
-/

namespace Roster.Json

/-- A JSON value as it is spelled, but for the blanks. -/
inductive Tree
  | null
  | bool (value : Bool)
  | number (figure : Figure)
  | string (letters : List Letter)
  | array (items : List Tree)
  | object (members : List (List Letter × Tree))

/-- What no blank can stand in. -/
abbrev Token := List Char

namespace Tree

mutual

/-- The tokens that a value is written with. -/
def tokens : Tree → List Token
  | null => [['n', 'u', 'l', 'l']]
  | bool true => [['t', 'r', 'u', 'e']]
  | bool false => [['f', 'a', 'l', 's', 'e']]
  | number figure => [figure.chars]
  | string letters => [Letter.quoted letters]
  | array [] => [['['], [']']]
  | array (item :: rest) => ['['] :: (item.tokens ++ (moreItems rest ++ [[']']]))
  | object [] => [['\x7b'], ['\x7d']]
  | object ((name, tree) :: rest) =>
    ['\x7b'] :: Letter.quoted name :: [':'] :: (tree.tokens ++ (moreMembers rest ++ [['\x7d']]))

/-- The tokens of the items behind the first one. -/
def moreItems : List Tree → List Token
  | [] => []
  | item :: rest => [','] :: (item.tokens ++ moreItems rest)

/-- The tokens of the members behind the first one. -/
def moreMembers : List (List Letter × Tree) → List Token
  | [] => []
  | (name, tree) :: rest =>
    [','] :: Letter.quoted name :: [':'] :: (tree.tokens ++ moreMembers rest)

end

end Tree

/-- Whether a text consists of tokens with blanks in front of and behind them. -/
inductive Spaced : List Token → List Char → Prop
  | done {blanks : List Char} (blank : ∀ c ∈ blanks, isBlank c = true) : Spaced [] blanks
  | token {blanks token rest : List Char} {more : List Token}
    (blank : ∀ c ∈ blanks, isBlank c = true) (others : Spaced more rest) :
    Spaced (token :: more) (blanks ++ (token ++ rest))

/-- Tokens with blanks between them are spaced. -/
theorem spaced_flatMap (pieces : List (List Char × Token)) (last : List Char)
    (blank : ∀ piece ∈ pieces, ∀ c ∈ piece.1, isBlank c = true)
    (blankLast : ∀ c ∈ last, isBlank c = true) :
    Spaced (pieces.map Prod.snd) (pieces.flatMap (fun piece => piece.1 ++ piece.2) ++ last) := by
  -- Each piece is a token with its blanks in front, and the last blanks stand behind them all.
  induction pieces with
  | nil => exact .done blankLast
  | cons piece pieces ih =>
    rw [List.flatMap_cons, List.append_assoc, List.append_assoc]
    exact .token (blank piece List.mem_cons_self) (ih fun other listed =>
      blank other (List.mem_cons_of_mem _ listed))

/-- No blank has to stand in front of a token. -/
theorem Spaced.append {token rest : List Char} {more : List Token} (others : Spaced more rest) :
    Spaced (token :: more) (token ++ rest) :=
  -- No blanks are some blanks too.
  @Spaced.token [] token rest more (by simp) others

/-- Whether a text spells a value. -/
def Tree.Spells (tree : Tree) (text : String) : Prop := Spaced tree.tokens text.toList

/-- Blanks in front do not show. -/
theorem trim_blanks {blanks : List Char} (blank : ∀ c ∈ blanks, isBlank c = true)
    (text : List Char) : trim (blanks ++ text) = trim text :=
  -- Trimming takes every blank in front.
  List.dropWhile_append_of_pos blank

/-- Behind the last token there are blanks at most. -/
theorem Spaced.trim_eq_nil {text : List Char} (spaced : Spaced [] text) : trim text = [] := by
  -- With no token left there are only blanks.
  cases spaced with
  | done blank =>
    have spelled := trim_blanks blank []
    rwa [List.append_nil] at spelled

/-- Behind the blanks the first token starts, and the others follow. -/
theorem Spaced.front {c : Char} {token : Token} {more : List Token} {text : List Char}
    (spaced : Spaced ((c :: token) :: more) text) (printed : isBlank c = false) :
    ∃ rest, trim text = c :: (token ++ rest) ∧ Spaced more rest := by
  -- Trimming takes the blanks and stops at the token, which starts with none.
  cases spaced with
  | @token _ _ rest _ blank others =>
    refine ⟨rest, ?_, others⟩
    rw [trim_blanks blank, List.cons_append, trim_cons printed]

/-- Whether tokens can stand behind a value: there are none, or a comma or a bracket is first. -/
def Ends (more : List Token) : Prop :=
  more = [] ∨ ∃ c rest, more = [c] :: rest ∧ (c = ',' ∨ c = ']' ∨ c = '\x7d')

theorem ends_nil : Ends [] := .inl rfl

theorem ends_comma (rest : List Token) : Ends ([','] :: rest) := .inr ⟨_, rest, rfl, .inl rfl⟩

theorem ends_bracket (rest : List Token) : Ends ([']'] :: rest) :=
  .inr ⟨_, rest, rfl, .inr (.inl rfl)⟩

theorem ends_brace (rest : List Token) : Ends (['\x7d'] :: rest) :=
  .inr ⟨_, rest, rfl, .inr (.inr rfl)⟩

/-- Behind an item other items or the closing bracket can stand. -/
theorem ends_moreItems (items : List Tree) (more : List Token) :
    Ends (Tree.moreItems items ++ [']'] :: more) := by
  -- Behind an item stands the closing bracket or the next comma.
  cases items with
  | nil => exact ends_bracket more
  | cons item rest => exact ends_comma _

/-- Behind a member other members or the closing brace can stand. -/
theorem ends_moreMembers (members : List (List Letter × Tree)) (more : List Token) :
    Ends (Tree.moreMembers members ++ ['\x7d'] :: more) := by
  -- Behind a member stands the closing brace or the next comma.
  cases members with
  | nil => exact ends_brace more
  | cons member rest => exact ends_comma _

/-- What can stand behind a value is no part of a number. -/
theorem Spaced.stops {more : List Token} {text : List Char} (spaced : Spaced more text)
    (ends : Ends more) : Stops text := by
  -- Neither a blank nor a comma nor a bracket is one.
  have blank {c : Char} (isBlank : isBlank c = true) :
      c.isDigit = false ∧ c ≠ '.' ∧ c ≠ 'e' ∧ c ≠ 'E' := by
    simp only [Json.isBlank, Bool.or_eq_true, beq_iff_eq] at isBlank
    rcases isBlank with ((rfl | rfl) | rfl) | rfl <;> decide
  intro c first
  cases spaced with
  | done blanks => exact blank (blanks c (List.mem_of_mem_head? first))
  | @token before token rest more blanks others =>
    cases before with
    | cons other before =>
      cases first
      exact blank (blanks _ List.mem_cons_self)
    | nil =>
      rcases ends with none | ⟨mark, _, same, marks⟩
      · cases none
      · cases same
        cases first
        rcases marks with rfl | rfl | rfl <;> decide

/-- A token of one character stands in front of the others. -/
theorem Spaced.mark {c : Char} {more : List Token} {text : List Char}
    (spaced : Spaced ([c] :: more) text) (printed : isBlank c = false) :
    ∃ rest, trim text = c :: rest ∧ Spaced more rest :=
  spaced.front printed

/-- The colon is read, and what follows it stays. -/
theorem Spaced.colon {more : List Token} {text : List Char} (spaced : Spaced ([':'] :: more) text) :
    ∃ rest, Json.colon text = .ok rest ∧ Spaced more rest := by
  -- A colon is a token of one character.
  obtain ⟨rest, front, others⟩ := spaced.mark rfl
  exact ⟨rest, by simp only [Json.colon, front], others⟩

/-- Whether a value is written with a character in front. -/
def Tree.Opens : Tree → Char → Prop
  | null, c => c = 'n'
  | bool true, c => c = 't'
  | bool false, c => c = 'f'
  | number _, c => c = '-' ∨ c.isDigit = true
  | string _, c => c = '"'
  | array _, c => c = '['
  | object _, c => c = '\x7b'

/-- The first character tells the kind of a value, but for true and false. -/
theorem Tree.Opens.kind {tree : Tree} {c : Char} (opens : tree.Opens c) :
    (c = 'n' → tree = null) ∧ (c = '-' ∨ c.isDigit = true → ∃ figure, tree = number figure) ∧
      (c = '"' → ∃ letters, tree = string letters) ∧ (c = '[' → ∃ items, tree = array items) ∧
      (c = '\x7b' → ∃ members, tree = object members) := by
  -- The first characters of the six kinds differ, a number's from all others by being a digit or a
  -- minus sign.
  cases tree with
  | number figure =>
    refine ⟨?_, fun _ => ⟨figure, rfl⟩, ?_, ?_, ?_⟩ <;>
    · rintro rfl
      simp [Opens] at opens
  | bool value => cases value <;> cases opens <;> simp
  | null | string | array | object =>
    cases opens
    simp

/-- No value starts with a closing bracket. -/
theorem Tree.Opens.ne_bracket {tree : Tree} {c : Char} (opens : tree.Opens c) : c ≠ ']' := by
  -- No tree starts with the bracket that ends a list, so an item is never taken for the end.
  cases tree with
  | bool value => cases value <;> cases opens <;> decide
  | number figure => exact (Form.head_cases opens).2.1
  | null | string | array | object =>
    cases opens
    decide

/-- Behind the blanks a value starts, and the blanks may be left out. -/
theorem Spaced.opening {tree : Tree} {more : List Token} {text : List Char}
    (spaced : Spaced (tree.tokens ++ more) text) :
    ∃ c rest, trim text = c :: rest ∧ tree.Opens c ∧ Spaced (tree.tokens ++ more) (c :: rest) := by
  -- Every tree's first token is known by its kind; trimming brings its first character to the
  -- front.
  have found {c : Char} {token : Token} {others : List Token}
      (spelled : tree.tokens ++ more = (c :: token) :: others) (printed : isBlank c = false)
      (opens : tree.Opens c) :
      ∃ c rest,
        trim text = c :: rest ∧ tree.Opens c ∧ Spaced (tree.tokens ++ more) (c :: rest) := by
    rw [spelled] at spaced ⊢
    obtain ⟨rest, front, behind⟩ := spaced.front printed
    exact ⟨c, _, front, opens, Spaced.append behind⟩
  cases tree with
  | null => exact found rfl rfl rfl
  | bool value => cases value <;> exact found rfl rfl rfl
  | number figure =>
    obtain ⟨c, rest, spelled, front⟩ := figure.exists_cons
    exact found (by rw [Tree.tokens, spelled]; rfl) (Form.head_cases front).1 front
  | string letters => exact found rfl rfl rfl
  | array items => cases items <;> exact found rfl rfl rfl
  | object members => cases members <;> exact found rfl rfl rfl

end Roster.Json
