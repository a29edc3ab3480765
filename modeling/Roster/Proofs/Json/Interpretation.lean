import Roster.Proofs.Json.Meaning
import Roster.Proofs.Json.Skip

/-!
A form reads from any text the meaning of the value that the text spells, and refuses a text that
spells a value without meaning: forms of simple values do, and forms that are put together from
such forms do too.
-/

namespace Roster.Json

variable {α β δ σ : Type} {more : List Token}

/-- Whether a reader takes what has a meaning, up to the tokens behind, and refuses the rest. -/
inductive Arrives (more : List Token) : Reading α → Option α → Prop
  | refused (fault : Fault) : Arrives more (.error fault) none
  | reached {value : α} {rest : List Char} (others : Spaced more rest) :
    Arrives more (.ok (value, rest)) (some value)

/-- What is made of a value that is read is made of its meaning. -/
theorem Arrives.map {reading : Reading α} {meaning : Option α}
    (arrives : Arrives more reading meaning) (f : α → β) :
    Arrives more (reading.map fun (value, rest) => (f value, rest)) (meaning.map f) := by
  -- A change to the value leaves a refusal a refusal and the place reached the same.
  cases arrives with
  | refused fault => exact .refused fault
  | reached others => exact .reached others

/-- What a value is put into is put around its meaning. -/
theorem Arrives.bind {reading : Reading α} {meaning : Option α}
    (arrives : Arrives more reading meaning) (f : α → β) :
    Arrives more (reading.map fun (value, rest) => (f value, rest))
      (meaning.bind fun value => some (f value)) := by
  -- As for a change of the value, with the meaning written in the monad.
  cases arrives with
  | refused fault => exact .refused fault
  | reached others => exact .reached others

namespace Form

variable {form : Form α} {meaning : Tree → Option α}

/-- Whether a form reads the meaning of a value from every text that spells it. -/
def Interprets (form : Form α) (meaning : Tree → Option α) : Prop :=
  ∀ (tree : Tree) {more : List Token} {text : List Char},
    Spaced (tree.tokens ++ more) text → Ends more → Arrives more (form.read text) (meaning tree)

/-- A text is parsed as the meaning of the value it spells, if that has one. -/
theorem Interprets.parse_iff (interprets : form.Interprets meaning) {tree : Tree} {text : String}
    (spells : tree.Spells text) {value : α} :
    form.parse text = .ok value ↔ meaning tree = some value := by
  have spaced : Spaced (tree.tokens ++ []) text.toList := by
    rw [List.append_nil]
    exact spells
  have arrives := interprets tree spaced ends_nil
  unfold Form.parse
  -- Reading arrives behind the tree, where nothing is left, or is refused where the tree has no
  -- meaning.
  generalize form.read text.toList = reading, meaning tree = meant at arrives
  cases arrives with
  | refused fault => simp
  | reached others => simp [others.trim_eq_nil]

/-- Texts are read as what their letters stand for. -/
theorem interprets_text : text.Interprets Tree.text? := by
  intro tree more text spaced ends
  -- Only a string starts with a quote, so every other tree is refused at its first character.
  have other {c : Char} {rest : List Char} (front : trim text = c :: rest) (noQuote : c ≠ '"') :
      Arrives more (readText text) none := by
    unfold readText
    split
    · rename_i quoted
      exact absurd (List.cons.inj (front.symm.trans quoted)).1 noQuote
    · exact .refused _
  cases tree with
  | string letters =>
    obtain ⟨rest, front, others⟩ := Spaced.front spaced rfl
    show Arrives more (readText text) ((Letter.resolve? letters).map String.ofList)
    rw [readText, front, List.append_assoc, List.singleton_append]
    show Arrives more (stringFrom [] _) _
    -- The reader takes exactly the letters; they may still resolve to no text, as a lone surrogate
    -- does.
    rw [Letter.stringFrom_letters]
    cases Letter.resolve? letters with
    | none => exact .refused _
    | some found => exact .reached others
  | null | bool | number | array | object =>
    obtain ⟨c, rest, front, opens, -⟩ := spaced.opening
    exact other front fun quote => by simpa using opens.kind.2.2.1 quote

/-- No number outside the range of milliseconds is one. -/
theorem ofInt?_eq_none {n : Int} (out : ¬(-9223372036854775808 ≤ n ∧ n < 9223372036854775808)) :
    Millis.ofInt? n = none :=
  dif_neg out

/-- The integer that digits spell is read as milliseconds, and is too great for them if the reader
of numbers refuses it or keeps it as no integer. -/
theorem ofInt?_integer (negative : Bool) (digits : List Char) :
    (if (Numeral.mk negative digits none none).overflows then none
      else (Numeral.mk negative digits none none).integer?.bind Millis.ofInt?) =
    Option.bind (if negative then if decimal digits = 0 then none else some (-decimal digits : Int)
      else some (decimal digits : Int)) Millis.ofInt? := by
  have read : (Numeral.mk negative digits none none).integer? =
      if negative then
        if decimal digits = 0 ∨ 9223372036854775808 < decimal digits then none
        else some (-decimal digits : Int)
      else if decimal digits < 18446744073709551616 then some (decimal digits : Int)
      else none := rfl
  rw [read]
  by_cases small : decimal digits < 18446744073709551616
  · rw [overflows_eq_false negative small, if_pos small]
    cases negative with
    | false => rfl
    | true =>
      -- A negative number may still be too great, and then it is no count of milliseconds either.
      by_cases great : 9223372036854775808 < decimal digits
      · have positive : decimal digits ≠ 0 := by omega
        simp [great, positive, ofInt?_eq_none (n := -decimal digits) (by omega)]
      · simp [great]
  · -- Such a number is refused in each way of reading it.
    have great : 9223372036854775808 < decimal digits := by omega
    cases negative with
    | false =>
      rw [if_neg Bool.false_ne_true, if_neg Bool.false_ne_true, if_neg small, Option.bind_some,
        ofInt?_eq_none (n := decimal digits) (by omega)]
      exact ite_self none
    | true =>
      have positive : decimal digits ≠ 0 := by omega
      simp [great, positive, ofInt?_eq_none (n := -decimal digits) (by omega)]

/-- The integer of a number of 64 bits is what is read from it, which lies within the doubles. -/
theorem millis?_eq (figure : Figure) :
    (if figure.numeral.overflows then none else figure.numeral.integer?.bind Millis.ofInt?) =
      figure.integer?.bind Millis.ofInt? := by
  -- A figure that overflows has a fraction, an exponent or too many digits, and is no timestamp
  -- either way.
  obtain ⟨negative, whole, fraction, exponent, trimmed⟩ := figure
  cases fraction with
  | some digits => exact ite_self none
  | none =>
    cases exponent with
    | some exponent => exact ite_self none
    | none => exact ofInt?_integer negative whole.val

/-- Whole milliseconds are read as the integer that is spelled. -/
theorem interprets_millis : millis.Interprets Tree.millis? := by
  intro tree more text spaced ends
  -- Only a number starts with a digit or a minus sign, so every other tree is refused at its first
  -- character.
  have other {c : Char} {rest : List Char} (front : trim text = c :: rest)
      (noNumber : ¬(c = '-' ∨ c.isDigit = true)) : Arrives more (readMillis text) none := by
    rw [readMillis, front]
    simp only [noNumber, if_false]
    exact .refused _
  cases tree with
  | number figure =>
    obtain ⟨c, token, spelled, start⟩ := figure.exists_cons
    rw [Tree.tokens, spelled] at spaced
    obtain ⟨rest, front, others⟩ := spaced.front (head_cases start).1
    -- The reader takes the whole figure, because what ends a token cannot go on with one.
    have read := figure.read_chars .truncated (others.stops ends)
    rw [spelled, List.cons_append] at read
    show Arrives more (readMillis text) (figure.integer?.bind Millis.ofInt?)
    rw [← millis?_eq, readMillis, front]
    simp only [start, if_true, number, read]
    -- What is left to decide is no longer reading: whether the numeral is an integer and within
    -- range.
    cases figure.numeral.overflows with
    | true => exact .refused _
    | false =>
      simp only [Bool.false_eq_true, if_false]
      cases figure.numeral.integer? with
      | none => exact .refused _
      | some n =>
        simp only [Option.bind_some]
        cases Millis.ofInt? n with
        | none => exact .refused _
        | some value => exact .reached others
  | null | bool | string | array | object =>
    obtain ⟨c, rest, front, opens, -⟩ := spaced.opening
    exact other front fun start => by simpa using opens.kind.2.1 start

/-- A value that may be null is read as its meaning unless it is null. -/
theorem Interprets.optional (interprets : form.Interprets meaning) :
    form.optional.Interprets (Tree.optional? meaning) := by
  intro tree more text spaced ends
  -- Only null starts with its first letter, so the reader can decide on one character whether to
  -- ask the form within.
  have other {c : Char} {rest : List Char} (front : trim text = c :: rest) (notNull : c ≠ 'n') :
      Arrives more (readOptional form text) ((meaning tree).map some) := by
    have arrives := (interprets tree spaced ends).map some
    unfold readOptional
    split
    · rename_i null
      exact absurd (List.cons.inj (front.symm.trans null)).1 notNull
    · exact arrives
  cases tree with
  | null =>
    obtain ⟨rest, front, others⟩ := Spaced.front spaced rfl
    show Arrives more (readOptional form text) (some none)
    rw [readOptional, front]
    show Arrives more ((word ['u', 'l', 'l'] (['u', 'l', 'l'] ++ rest)).map _) _
    rw [word_append]
    exact .reached others
  | bool | number | string | array | object =>
    obtain ⟨c, rest, front, opens, -⟩ := spaced.opening
    exact other front fun null => by simpa using opens.kind.1 null

/-- Items are read one by one up to the closing bracket. -/
theorem Interprets.readItems (interprets : form.Interprets meaning) (item : Tree)
    (items : List Tree) {text : List Char}
    (spaced : Spaced (item.tokens ++ (Tree.moreItems items ++ [']'] :: more)) text) :
    Arrives more (form.readItems text) ((item :: items).mapM meaning) := by
  induction items generalizing item text with
  | nil =>
    have first := interprets item spaced (ends_moreItems [] more)
    rw [readItems_eq, List.mapM_cons]
    generalize form.read text = reading, meaning item = meant at first
    cases first with
    | refused fault => exact .refused fault
    | reached others =>
      -- The closing bracket follows.
      obtain ⟨rest, front, others⟩ := Spaced.mark others rfl
      simp only [front]
      exact .reached others
  | cons next items ih =>
    have first := interprets item spaced (ends_moreItems (next :: items) more)
    rw [readItems_eq, List.mapM_cons]
    generalize form.read text = reading, meaning item = meant at first
    cases first with
    | refused fault => exact .refused fault
    | @reached value _ others =>
      -- A comma follows, and behind it the other items.
      rw [Tree.moreItems, List.cons_append, List.append_assoc] at others
      obtain ⟨rest, front, others⟩ := others.mark rfl
      simp only [front]
      exact (ih next others).bind (value :: ·)

/-- Lists are read item by item. -/
theorem Interprets.list (interprets : form.Interprets meaning) :
    form.list.Interprets (Tree.list? meaning) := by
  intro tree more text spaced ends
  have other {c : Char} {rest : List Char} (front : trim text = c :: rest) (noList : c ≠ '[') :
      Arrives more (readList form text) none := by
    unfold readList
    split
    · rename_i opened
      exact absurd (List.cons.inj (front.symm.trans opened)).1 noList
    · exact .refused _
  cases tree with
  | array items =>
    show Arrives more (readList form text) (items.mapM meaning)
    cases items with
    | nil =>
      obtain ⟨inside, front, others⟩ := Spaced.mark spaced rfl
      obtain ⟨rest, close, others⟩ := others.mark rfl
      simp only [readList, front, close]
      exact .reached others
    | cons item items =>
      rw [Tree.tokens, List.cons_append, List.append_assoc, List.append_assoc,
        List.singleton_append] at spaced
      obtain ⟨inside, front, others⟩ := spaced.mark rfl
      obtain ⟨c, rest, opening, opens, -⟩ := others.opening
      have arrives := interprets.readItems item items others
      rw [readList, front]
      -- The first item does not start with the bracket that ends the list.
      simp only [opening]
      split
      · rename_i close
        exact absurd (List.cons.inj close).1 opens.ne_bracket
      · exact arrives
  | null | bool | number | string | object =>
    obtain ⟨c, rest, front, opens, -⟩ := spaced.opening
    exact other front fun array => by simpa using opens.kind.2.2.2.1 array

/-- What is made of the values of a form is made of their meanings. -/
theorem Interprets.convert (interprets : form.Interprets meaning) (toValue : α → β)
    (fromValue : β → α) :
    (form.convert toValue fromValue).Interprets fun tree => (meaning tree).map toValue :=
  fun tree _ _ spaced ends => (interprets tree spaced ends).map toValue

/-- Behind a colon a value is read as its meaning. -/
theorem Interprets.readAfterColon (interprets : form.Interprets meaning) {tree : Tree}
    {text : List Char} (spaced : Spaced ([':'] :: (tree.tokens ++ more)) text) (ends : Ends more) :
    Arrives more (readAfterColon form text) (meaning tree) := by
  -- The colon may have blanks around it, and behind it stands the value's tree.
  obtain ⟨rest, separator, others⟩ := spaced.colon
  simp only [Form.readAfterColon, separator]
  exact interprets tree others ends

end Form

/-- What members make of a state, one after the other. -/
def gather (take : σ → String → Tree → Option σ) : σ → List Member → Option σ
  | state, [] => some state
  | state, member :: rest => do
    let name ← member.name?
    let next ← take state name member.2
    gather take next rest

/-- What an object makes of a state. -/
def Tree.gather? (take : σ → String → Tree → Option σ) (start : σ) : Tree → Option σ
  | object members => gather take start members
  | _ => none

/-- The members behind the first one go on from what that makes of the state. -/
theorem gather_cons (take : σ → String → Tree → Option σ) (state : σ) (member : Member)
    (rest : List Member) :
    gather take state (member :: rest) =
      (member.name?.bind fun name => take state name member.2).bind fun next =>
        gather take next rest :=
  (Option.bind_assoc _ _ _).symm

/-- Whether a step reads a member as what the member makes of the state. -/
def MemberStep.Interprets (step : MemberStep σ) (take : σ → String → Tree → Option σ) : Prop :=
  ∀ (state : σ) (name : String) (tree : Tree) {more : List Token} {text : List Char},
    Spaced ([':'] :: (tree.tokens ++ more)) text → Ends more →
      Arrives more (step.run state name text) (take state name tree)

/-- Reads a member with its name. -/
def readMember (step : MemberStep σ) (state : σ) (text : List Char) : Reading σ :=
  match trim text with
  | [] => .error .truncated
  | '"' :: body =>
    match stringFrom [] body with
    | .error fault => .error fault
    | .ok (name, after) => step.run state name after
  | _ => .error .malformed

/-- Behind a member the reader goes by what stands there. -/
theorem readMembers_member (step : MemberStep σ) (state : σ) (text : List Char) :
    readMembers step state text =
      match readMember step state text with
      | .error fault => .error fault
      | .ok (next, rest) =>
        match trim rest with
        | [] => .error .truncated
        | ',' :: more => readMembers step next more
        | '\x7d' :: more => .ok (next, more)
        | _ => .error .malformed := by
  -- A member is read the same way whatever follows it, so the cases are the ways its name can fail,
  -- and one where it is found.
  cases front : trim text with
  | nil =>
    have read : readMember step state text = .error .truncated := by simp only [readMember, front]
    rw [read, readMembers_eq, front]
  | cons c body =>
    by_cases quoted : c = '"'
    · subst quoted
      cases named : stringFrom [] body with
      | error fault =>
        have read : readMember step state text = .error fault := by
          simp only [readMember, front, named]
        rw [read, readMembers_eq, front]
        simp only [named]
      | ok found =>
        have read : readMember step state text = step.run state found.1 found.2 := by
          simp only [readMember, front, named]
        have next : readMembers step state text = _ := readMembers_named front named
        rw [← read] at next
        exact next
    · have read : readMember step state text = .error .malformed := by
        simp [readMember, front, quoted]
      rw [read, readMembers_eq, front]
      simp [quoted]

namespace MemberStep

variable {step : MemberStep σ} {take : σ → String → Tree → Option σ}

/-- A member is taken by the name that its letters stand for. -/
theorem Interprets.readMember (interprets : step.Interprets take) (state : σ) (member : Member)
    {text : List Char} (ends : Ends more)
    (spaced : Spaced (Letter.quoted member.1 :: [':'] :: (member.2.tokens ++ more)) text) :
    Arrives more (readMember step state text)
      (member.name?.bind fun name => take state name member.2) := by
  obtain ⟨letters, tree⟩ := member
  obtain ⟨after, front, others⟩ := spaced.front rfl
  have name : Member.name? (letters, tree) = (Letter.resolve? letters).map String.ofList := rfl
  rw [name, Json.readMember, front, List.append_assoc, List.singleton_append]
  simp only [Letter.stringFrom_letters]
  -- A name that resolves to no text is refused before its value is looked at.
  cases Letter.resolve? letters with
  | none => exact .refused _
  | some found => exact interprets state (String.ofList found) tree others ends

/-- Members are read one by one up to the closing brace. -/
theorem Interprets.readMembers (interprets : step.Interprets take) (state : σ)
    (member : Member) (members : List Member) {text : List Char}
    (spaced : Spaced (Letter.quoted member.1 :: [':'] ::
      (member.2.tokens ++ (Tree.moreMembers members ++ ['\x7d'] :: more))) text) :
    Arrives more (readMembers step state text) (gather take state (member :: members)) := by
  induction members generalizing state member text with
  | nil =>
    have first := interprets.readMember state member (ends_moreMembers [] more) spaced
    rw [readMembers_member, gather_cons]
    generalize Json.readMember step state text = reading,
      (member.name?.bind fun name => take state name member.2) = meant at first
    cases first with
    | refused fault => exact .refused fault
    | reached others =>
      -- The closing brace follows.
      obtain ⟨rest, front, others⟩ := Spaced.mark others rfl
      simp only [front]
      exact .reached others
  | cons second members ih =>
    have first :=
      interprets.readMember state member (ends_moreMembers (second :: members) more) spaced
    rw [readMembers_member, gather_cons]
    generalize Json.readMember step state text = reading,
      (member.name?.bind fun name => take state name member.2) = meant at first
    cases first with
    | refused fault => exact .refused fault
    | @reached next _ others =>
      -- A comma follows, and behind it the other members.
      rw [Tree.moreMembers, List.cons_append, List.cons_append, List.cons_append,
        List.append_assoc] at others
      obtain ⟨rest, front, others⟩ := others.mark rfl
      simp only [front]
      exact ih next second others

/-- An object is read as what its members make of a state. -/
theorem Interprets.readObject (interprets : step.Interprets take) (start : σ) (tree : Tree)
    {text : List Char} (spaced : Spaced (tree.tokens ++ more) text) :
    Arrives more (readObject step start text) (tree.gather? take start) := by
  have other {c : Char} {rest : List Char} (front : trim text = c :: rest) (noObject : c ≠ '\x7b') :
      Arrives more (Json.readObject step start text) none := by
    unfold Json.readObject
    split
    · rename_i opened
      exact absurd (List.cons.inj (front.symm.trans opened)).1 noObject
    · exact .refused _
  cases tree with
  | object members =>
    cases members with
    | nil =>
      obtain ⟨inside, front, others⟩ := Spaced.mark spaced rfl
      obtain ⟨rest, close, others⟩ := others.mark rfl
      simp only [Json.readObject, front, close]
      exact .reached others
    | cons member members =>
      rw [Tree.tokens, List.cons_append, List.cons_append, List.cons_append, List.append_assoc,
        List.append_assoc, List.singleton_append] at spaced
      obtain ⟨inside, front, others⟩ := spaced.mark rfl
      -- The first member starts with the quote of its name and not with the closing brace.
      obtain ⟨behind, quote, -⟩ := others.front rfl
      have arrives := interprets.readMembers start member members others
      rw [Json.readObject, front]
      simp only [quote]
      exact arrives
  | null | bool | number | string | array =>
    obtain ⟨c, rest, front, opens, -⟩ := spaced.opening
    exact other front fun object => by simpa using opens.kind.2.2.2.2 object

end MemberStep

namespace Form

variable {form : Form α} {meaning : Tree → Option α}

/-- Values with their names are collected, the latest first. -/
theorem Interprets.collect (interprets : form.Interprets meaning) :
    (collect form).Interprets fun state name tree =>
      (meaning tree).map fun value => (name, value) :: state :=
  -- Each member adds its pair in front of those read before.
  fun state name _ _ _ spaced ends =>
    (interprets.readAfterColon spaced ends).map fun value => (name, value) :: state

/-- The collected values are those of all members, put in front one by one. -/
theorem gather_collect (meaning : Tree → Option α) (members : List Member)
    (state : List (String × α)) :
    gather (fun state name tree => (meaning tree).map fun value => (name, value) :: state) state
      members = (members.mapM (Tree.pair? meaning)).map fun pairs => pairs.reverse ++ state := by
  -- Induction on the members with any pairs read before. The pairs come out in reverse, for each is
  -- put in front.
  induction members generalizing state with
  | nil => rfl
  | cons member members ih =>
    rw [List.mapM_cons, gather]
    cases name : member.name? with
    | none => simp [Tree.pair?, name]
    | some name =>
      cases value : meaning member.2 with
      | none => simp [Tree.pair?, name, value]
      | some value =>
        simp only [Tree.pair?, name, value, Option.bind_eq_bind, Option.bind_some, Option.map_some,
          ih, Option.pure_def]
        cases members.mapM (Tree.pair? meaning) <;> simp

/-- Objects with members of any names are read member by member. -/
theorem Interprets.members (interprets : form.Interprets meaning) :
    form.members.Interprets (Tree.members? meaning) := by
  -- The pairs were gathered in reverse from nothing, and the form turns them round again.
  intro tree more text spaced ends
  have arrives := (interprets.collect.readObject [] tree spaced).map List.reverse
  cases tree with
  | object members =>
    simp only [Tree.gather?, gather_collect, Option.map_map] at arrives
    have same : (List.reverse ∘ fun pairs : List (String × α) => pairs.reverse ++ []) = id := by
      funext pairs
      simp
    rw [same, Option.map_id] at arrives
    exact arrives
  | null | bool | number | string | array => exact arrives

/-- Properties are read key by key. -/
theorem interprets_properties : properties.Interprets Tree.properties? :=
  -- Properties are an object's texts, kept by name.
  interprets_text.members.convert Index.ofList Index.items

end Form

end Roster.Json
