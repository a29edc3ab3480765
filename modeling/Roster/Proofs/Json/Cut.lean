import Roster.Proofs.Json.Form

/-!
Texts that are cut off. Whatever a form writes, it does not take a part in front for the whole: the
reader says that the text is truncated, wherever the cut falls. Only a number does not show where it
ends, and then nothing is left behind it.
-/

namespace Roster.Json

/-- Whether a text is the front of another one that goes on. -/
def CutOff (front text : List Char) : Prop := ∃ c rest, text = front ++ c :: rest

/-- Nothing is the front of an empty text. -/
theorem not_cutOff_nil {front : List Char} : ¬CutOff front [] := by
  -- Something is cut off, and an empty text has nothing to lose.
  rintro ⟨c, rest, same⟩
  simp at same

/-- A text is cut in front of its first character or somewhere behind it. -/
theorem CutOff.cons_cases {front text : List Char} {c : Char} (cut : CutOff front (c :: text)) :
    front = [] ∨ ∃ rest, front = c :: rest ∧ CutOff rest text := by
  -- Either nothing is left, or the first character is, and the cut lies behind it.
  obtain ⟨next, more, same⟩ := cut
  cases front with
  | nil => exact .inl rfl
  | cons first rest =>
    obtain ⟨rfl, behind⟩ := List.cons.inj same
    exact .inr ⟨rest, rfl, next, more, behind⟩

/-- A text of two parts is cut within the first or within the second. -/
theorem CutOff.append_cases {front text more : List Char} (cut : CutOff front (text ++ more)) :
    CutOff front text ∨ ∃ rest, front = text ++ rest ∧ CutOff rest more := by
  -- Induction on the first text: the cut lies within it or has passed it whole.
  induction text generalizing front with
  | nil => exact .inr ⟨front, rfl, cut⟩
  | cons c text ih =>
    rcases cut.cons_cases with rfl | ⟨rest, rfl, inside⟩
    · exact .inl ⟨c, text, rfl⟩
    · rcases ih inside with ⟨next, left, rfl⟩ | ⟨left, rfl, behind⟩
      · exact .inl ⟨next, left, rfl⟩
      · exact .inr ⟨left, rfl, behind⟩

/-- A text of one character is cut in front of it. -/
theorem CutOff.eq_nil {front : List Char} {c : Char} (cut : CutOff front [c]) : front = [] := by
  -- A cut behind the only character would take nothing away.
  rcases cut.cons_cases with rfl | ⟨rest, -, inside⟩
  · rfl
  · exact absurd inside not_cutOff_nil

/-- A word that is cut off is truncated. -/
theorem word_cut {expected front : List Char} (cut : CutOff front expected) :
    word expected front = .error .truncated := by
  -- The front agrees with the word as far as it goes, so the reader runs out and never meets a
  -- difference.
  induction expected generalizing front with
  | nil => exact absurd cut not_cutOff_nil
  | cons c expected ih =>
    rcases cut.cons_cases with rfl | ⟨rest, rfl, inside⟩
    · rfl
    · exact (if_pos rfl).trans (ih inside)

/-- An escaped character that is cut off behind its backslash is truncated. -/
theorem escape_cut {c : Char} {tail front : List Char} (escaped : escapeChar c = '\\' :: tail)
    (cut : CutOff front tail) : escape front = .error .truncated := by
  by_cases short : c ∈ ['"', '\\', '\x08', '\x0c', '\n', '\r', '\t']
  · -- A single letter stands behind the backslash.
    have single : ∃ letter, tail = [letter] := by
      simp only [List.mem_cons, List.not_mem_nil, or_false] at short
      rcases short with rfl | rfl | rfl | rfl | rfl | rfl | rfl
      all_goals exact ⟨_, (List.cons.inj escaped).2.symm⟩
    obtain ⟨letter, rfl⟩ := single
    rw [cut.eq_nil]
    rfl
  · simp only [List.mem_cons, List.not_mem_nil, or_false, not_or] at short
    have control : c < ' ' := by
      by_contra printed
      simp only [escapeChar, short, printed, if_false] at escaped
      exact short.2.1 (List.cons.inj escaped).1
    simp only [escapeChar, short, control, if_true, if_false] at escaped
    obtain rfl := (List.cons.inj escaped).2
    -- Of the four digits at most three are left, and each takes one byte.
    have narrow : (hexDigit (c.toNat / 16)).utf8Size = 1 := by
      have small : c.toNat < 32 := control
      have digits : ∀ n < 2, (hexDigit n).utf8Size = 1 := by decide
      exact digits _ (by omega)
    rcases cut.cons_cases with rfl | ⟨digits, rfl, inside⟩
    · rfl
    have few : fourHex digits = .error .truncated := by
      rcases inside.cons_cases with rfl | ⟨digits, rfl, afterFirst⟩
      · rfl
      rcases afterFirst.cons_cases with rfl | ⟨digits, rfl, afterSecond⟩
      · rfl
      rcases afterSecond.cons_cases with rfl | ⟨digits, rfl, afterThird⟩
      · rfl
      rw [afterThird.eq_nil]
      simp only [fourHex, List.take_succ_cons, List.take_nil, List.foldl_cons, List.foldl_nil,
        narrow]
      rfl
    show unicodeEscape digits = _
    rw [unicodeEscape, few]

/-- What stands for a character, cut off somewhere, is truncated. -/
theorem stringFrom_escapeChar_cut (read : List Char) {c : Char} {front : List Char}
    (cut : CutOff front (escapeChar c)) : stringFrom read front = .error .truncated := by
  have nothing : stringFrom read [] = .error .truncated := by rw [stringFrom.eq_def]
  rcases escapeChar_cases c with ⟨plain, -⟩ | ⟨tail, escaped, -⟩
  · -- A character that stands for itself is there or not.
    rw [plain] at cut
    rw [cut.eq_nil, nothing]
  · rw [escaped] at cut
    rcases cut.cons_cases with rfl | ⟨escapee, rfl, inside⟩
    · exact nothing
    · -- The backslash starts an escape, which is not read to its end.
      rw [stringFrom_slash, escape_cut escaped inside]

/-- A quoted text that is cut off behind its opening quote is truncated. -/
theorem stringFrom_cut (read : List Char) {chars front : List Char}
    (cut : CutOff front (chars.flatMap escapeChar ++ ['"'])) :
    stringFrom read front = .error .truncated := by
  induction chars generalizing read front with
  | nil =>
    rw [cut.eq_nil, stringFrom.eq_def]
  | cons c chars ih =>
    rw [List.flatMap_cons, List.append_assoc] at cut
    -- The cut falls into what stands for the first character, or behind that.
    rcases cut.append_cases with inside | ⟨rest, rfl, behind⟩
    · exact stringFrom_escapeChar_cut read inside
    · rw [stringFrom_escapeChar]
      exact ih (c :: read) behind

/-- Some of the digits of a number are the digits of a smaller one, and not of zero. -/
theorem toDigits_cut {n : Nat} {front : List Char} (cut : CutOff front (Nat.toDigits 10 n)) :
    front = [] ∨ ∃ m, front = Nat.toDigits 10 m ∧ 0 < m ∧ m < n := by
  -- The digits are taken away from the end, and each leaves a tenth of the number.
  induction n using Nat.strongRecOn generalizing front with
  | ind n ih =>
    by_cases small : n < 10
    · rw [Nat.toDigits_of_lt_base small] at cut
      exact .inl cut.eq_nil
    · have split := Nat.toDigits_of_base_le (by decide : 1 < 10) (by omega : 10 ≤ n)
      have tenth : n / 10 < n := by omega
      rw [split] at cut
      rcases cut.append_cases with inside | ⟨rest, rfl, behind⟩
      · rcases ih (n / 10) tenth inside with none | ⟨m, digits, positive, below⟩
        · exact .inl none
        · exact .inr ⟨m, digits, positive, below.trans tenth⟩
      · rw [behind.eq_nil, List.append_nil]
        exact .inr ⟨n / 10, rfl, by omega, tenth⟩

/-- Whether a reading came to the end of its text: in the middle of a value, or right behind it. -/
inductive AtEnd {α : Type} : Reading α → Prop
  | truncated : AtEnd (.error .truncated)
  | taken (value : α) : AtEnd (.ok (value, []))

/-- What is done with a value does not change where its reading came to. -/
theorem AtEnd.map {α β : Type} {reading : Reading α} (atEnd : AtEnd reading) (change : α → β) :
    AtEnd (reading.map fun (value, rest) => (change value, rest)) := by
  -- A change to the value leaves a fault alone and leaves nothing behind the value.
  cases atEnd with
  | truncated => exact .truncated
  | taken value => exact .taken (change value)

/-- An integer of 64 bits that is cut off is truncated, or the rest of its digits is missed. -/
theorem number_cut {n : Int} (low : -9223372036854775808 ≤ n) (high : n < 9223372036854775808)
    {front : List Char} (cut : CutOff front (intText n)) :
    front = [] ∨ number front = .error .truncated ∨
      ∃ m : Int, -9223372036854775808 ≤ m ∧ m < 9223372036854775808 ∧
        number front = .ok (.int m, []) := by
  -- What is left of an integer is nothing, a sign, or an integer nearer to zero.
  have whole {m : Int} (low : -9223372036854775808 ≤ m) (high : m < 9223372036854775808) :
      number (intText m) = .ok (.int m, []) := by
    have read := number_intText low high (show Follows [] from trivial)
    rwa [List.append_nil] at read
  cases n with
  | ofNat n =>
    rcases toDigits_cut cut with none | ⟨m, rfl, -, below⟩
    · exact .inl none
    · have bounds : -9223372036854775808 ≤ Int.ofNat m ∧ Int.ofNat m < 9223372036854775808 := by
        simp only [Int.ofNat_eq_natCast] at high ⊢
        omega
      exact .inr (.inr ⟨.ofNat m, bounds.1, bounds.2, whole bounds.1 bounds.2⟩)
  | negSucc n =>
    rcases CutOff.cons_cases cut with none | ⟨digits, rfl, inside⟩
    · exact .inl none
    · rcases toDigits_cut inside with rfl | ⟨m, rfl, positive, below⟩
      · exact .inr (.inl rfl)
      · obtain ⟨size, rfl⟩ : ∃ size, m = size + 1 := ⟨m - 1, by omega⟩
        have bounds :
            -9223372036854775808 ≤ Int.negSucc size ∧ Int.negSucc size < 9223372036854775808 := by
          omega
        exact .inr (.inr ⟨.negSucc size, bounds.1, bounds.2, whole bounds.1 bounds.2⟩)

namespace Form

/-- Whether a form, given the front of a text for a value, comes to the end of it. -/
structure Notices {α : Type} (form : Form α) : Prop where
  nothing : form.read [] = .error .truncated
  cut (value : α) {json : Json} (written : Reorders (form.write value) json) {front : List Char} :
    CutOff front json.chars → AtEnd (form.read front)

/-- Whether a form never takes the front of a text for a value. -/
structure Closes {α : Type} (form : Form α) : Prop where
  nothing : form.read [] = .error .truncated
  cut (value : α) {json : Json} (written : Reorders (form.write value) json) {front : List Char} :
    CutOff front json.chars → form.read front = .error .truncated

variable {α : Type} {form : Form α}

theorem Closes.notices (closes : form.Closes) : form.Notices where
  -- Running out is one of the two ways to come to the end.
  nothing := closes.nothing
  cut value _ written _ cut := closes.cut value written cut ▸ .truncated

/-- Texts end with a quote. -/
theorem closes_text : text.Closes where
  nothing := rfl
  cut value json written front cut := by
    rw [written.eq_str] at cut
    have spelled : (Json.str value).chars = '"' :: (value.toList.flatMap escapeChar ++ ['"']) := by
      simp [chars, quote]
    rw [spelled] at cut
    -- Cut before the opening quote there is nothing; behind it the closing quote is missing,
    -- whatever was escaped.
    rcases cut.cons_cases with rfl | ⟨rest, rfl, inside⟩
    · rfl
    · show readText ('"' :: rest) = _
      rw [readText, trim_cons rfl]
      exact stringFrom_cut [] inside

/-- Numbers end where something else starts. -/
theorem notices_millis : millis.Notices where
  nothing := rfl
  cut value json written front cut := by
    rw [written.eq_int] at cut
    cases front with
    | nil => exact .truncated
    | cons c tail =>
      -- The first character is that of the whole number, which sends the reader to numbers.
      obtain ⟨first, more, spelled, number⟩ := intText_head value.val
      have same : c = first := by
        obtain ⟨next, rest, whole⟩ := cut
        simp only [chars, spelled, List.cons_append] at whole
        exact (List.cons.inj whole).1.symm
      subst same
      show AtEnd (readMillis (c :: tail))
      unfold readMillis
      simp only [trim_cons (head_cases number).1, number, if_true]
      rcases number_cut value.inRange.1 value.inRange.2 cut with
        none | failed | ⟨m, low, high, read⟩
      · cases none
      · rw [failed]
        exact .truncated
      · have inRange : Millis.ofInt? m = some ⟨m, low, high⟩ := dif_pos ⟨low, high⟩
        simp only [read, inRange]
        exact .taken _

/-- In front of nothing at all there is no value, be it missing or not. -/
theorem Notices.readOptional_nil (notices : form.Notices) :
    readOptional form [] = .error .truncated := by
  simp [readOptional, trim, notices.nothing, Except.map]

/-- A value that may be missing is cut off like a present one, or like a null. -/
theorem Notices.optional (notices : form.Notices) (opens : form.Opens) :
    form.optional.Notices where
  nothing := notices.readOptional_nil
  cut value json written front cut := by
    have nothing : form.optional.read [] = .error .truncated := notices.readOptional_nil
    cases value with
    | none =>
      rw [written.eq_null] at cut
      have word : CutOff front ['n', 'u', 'l', 'l'] := cut
      rcases word.cons_cases with rfl | ⟨rest, rfl, inside⟩
      · exact nothing ▸ .truncated
      · show AtEnd ((Json.word ['u', 'l', 'l'] rest).map _)
        rw [word_cut inside]
        exact .truncated
    | some value =>
      obtain ⟨c, tail, spelled, printed, -, notNull⟩ := opens value written
      have inside := notices.cut value written cut
      rw [spelled] at cut
      rcases cut.cons_cases with rfl | ⟨rest, rfl, -⟩
      · exact nothing ▸ .truncated
      · -- The first letter of the text sends the reader to the form itself.
        show AtEnd (readOptional form (c :: rest))
        unfold readOptional
        rw [trim_cons printed]
        split
        · rename_i null
          exact absurd (List.cons.inj null).1 notNull
        · exact inside.map some

/-- A form of stand-ins notices what that of the values does. -/
theorem Closes.convert {β : Type} (closes : form.Closes) (toValue : α → β) (fromValue : β → α) :
    (form.convert toValue fromValue).Closes where
  -- A conversion changes values and leaves faults as they are.
  nothing := by
    show (form.read []).map _ = _
    rw [closes.nothing]
    rfl
  cut value json written front cut := by
    show (form.read front).map _ = _
    rw [closes.cut (fromValue value) written cut]
    rfl

/-- An item that the text ends in is not taken for the last one. -/
theorem readItems_atEnd {text : List Char} (atEnd : AtEnd (form.read text)) :
    form.readItems text = .error .truncated := by
  -- Whether the item ran out or took all there was, no comma and no bracket is left to read.
  rw [readItems.eq_def]
  generalize form.read text = reading at atEnd
  cases atEnd with
  | truncated => rfl
  | taken value => rfl

/-- If the others are not read, the items are not read. -/
theorem readItems_next_error {text more : List Char} {value : α} {fault : Fault}
    (read : form.read text = .ok (value, ',' :: more))
    (others : form.readItems more = .error fault) : form.readItems text = .error fault := by
  rw [readItems.eq_def]
  split
  · rename_i failed
    rw [read] at failed
    cases failed
  · rename_i done
    rw [read] at done
    cases done
    -- Behind the item stands the comma.
    split <;> simp_all [trim_cons (show isBlank ',' = false from rfl)]

/-- The items of a list that is cut off are truncated. -/
theorem Notices.readItems_cut (notices : form.Notices) (faithful : form.Faithful) {value : α}
    {item : Json} (first : Reorders (form.write value) item) {values : List α} {items : List Json}
    (others : List.Forall₂ (fun value item => Reorders (form.write value) item) values items)
    {front : List Char} (cut : CutOff front (itemChars (item :: items) ++ [']'])) :
    form.readItems front = .error .truncated := by
  induction others generalizing value item front with
  | nil =>
    rcases cut.append_cases with inside | ⟨rest, rfl, behind⟩
    · exact readItems_atEnd (notices.cut value first inside)
    · -- The item is whole, but the bracket is missing.
      have read := faithful value first (show Follows [] from trivial)
      rw [List.append_nil] at read
      rw [behind.eq_nil, List.append_nil]
      exact readItems_atEnd (read ▸ .taken value)
  | @cons _ second _ more next others ih =>
    rw [itemChars_cons, List.append_assoc] at cut
    rcases cut.append_cases with inside | ⟨rest, rfl, behind⟩
    · exact readItems_atEnd (notices.cut value first inside)
    · rcases CutOff.cons_cases behind with rfl | ⟨left, rfl, later⟩
      · have read := faithful value first (show Follows [] from trivial)
        exact readItems_atEnd (read ▸ .taken value)
      · -- The first item is whole and a comma follows, so the cut falls into the others.
        exact readItems_next_error (faithful value first (follows_comma left)) (ih next later)

/-- Lists end with a bracket. -/
theorem Notices.list (notices : form.Notices) (faithful : form.Faithful) (opens : form.Opens) :
    form.list.Closes where
  nothing := rfl
  cut values json written front cut := by
    obtain ⟨items, rfl, each⟩ := written.items
    rw [List.forall₂_map_left_iff] at each
    have spelled : (Json.arr items).chars = '[' :: (itemChars items ++ [']']) := by simp [chars]
    rw [spelled] at cut
    rcases cut.cons_cases with rfl | ⟨rest, rfl, inside⟩
    · rfl
    have missing : form.readItems [] = .error .truncated :=
      readItems_atEnd (notices.nothing ▸ .truncated)
    show readList form ('[' :: rest) = _
    cases each with
    | nil =>
      rw [inside.eq_nil]
      exact missing
    | @cons value item values items first others =>
      cases rest with
      | nil => exact missing
      | cons c tail =>
        -- The first item does not start with the bracket that ends the list.
        obtain ⟨start, more, spelled, printed, notEnd, -⟩ := opens value first
        have same : c = start := by
          obtain ⟨next, left, whole⟩ := inside
          rw [itemChars_cons, spelled] at whole
          exact (List.cons.inj whole).1.symm
        rw [readList_bracket (trim_cons (same ▸ printed) tail) (same ▸ notEnd)]
        exact notices.readItems_cut faithful first others inside

end Form

/-- Whether a step that takes a member comes to the end of a text that the member is cut off in. -/
def MemberStep.Notices {σ : Type} (step : MemberStep σ) (member : String × Json) : Prop :=
  ∀ ⦃state next : σ⦄, step.run state member.1 (':' :: member.2.chars) = .ok (next, []) →
    ∀ ⦃front : List Char⦄, CutOff front (':' :: member.2.chars) →
      AtEnd (step.run state member.1 front)

/-- A member that the text ends in is not taken for the last one. -/
theorem readMembers_atEnd {σ : Type} {step : MemberStep σ} {state : σ} {name : String}
    {text : List Char} (atEnd : AtEnd (step.run state name text)) :
    readMembers step state (quote name ++ text) = .error .truncated := by
  obtain ⟨body, spelled, named⟩ := stringFrom_quote name text
  rw [spelled, readMembers_named (trim_cons rfl body) named]
  -- Whether the member ran out or took all there was, no comma and no brace is left to read.
  generalize step.run state name text = reading at atEnd
  cases atEnd with
  | truncated => rfl
  | taken value => rfl

/-- A name that is cut off is truncated. -/
theorem readMembers_name_cut {σ : Type} (step : MemberStep σ) (state : σ) {name : String}
    {front : List Char} (cut : CutOff front (quote name)) :
    readMembers step state front = .error .truncated := by
  have spelled : quote name = '"' :: (name.toList.flatMap escapeChar ++ ['"']) := by simp [quote]
  rw [spelled] at cut
  rw [readMembers.eq_def]
  rcases cut.cons_cases with rfl | ⟨rest, rfl, inside⟩
  · rfl
  · -- Behind the opening quote the name is not read to its end.
    have failed := stringFrom_cut [] inside
    rw [trim_cons rfl]
    split
    · rfl
    · rename_i body front
      obtain rfl := (List.cons.inj front).2
      split <;> simp_all
    · rename_i notNamed
      exact absurd rfl (notNamed rest)

/-- A text is truncated in a member or right behind it, or it goes on behind the member. -/
theorem readMembers_member_cut {σ : Type} {step : MemberStep σ} {state next : σ} {name : String}
    {value : Json}
    (taken : step.run state name (':' :: value.chars) = .ok (next, []))
    (notices : step.Notices (name, value)) {front behind : List Char}
    (cut : CutOff front (quote name ++ ':' :: (value.chars ++ behind))) :
    readMembers step state front = .error .truncated ∨
      ∃ c more, CutOff (c :: more) behind ∧
        front = quote name ++ ':' :: (value.chars ++ c :: more) := by
  rcases cut.append_cases with inside | ⟨rest, rfl, later⟩
  · exact .inl (readMembers_name_cut step state inside)
  have parts : CutOff rest ((':' :: value.chars) ++ behind) := later
  rcases parts.append_cases with inside | ⟨left, rfl, beyond⟩
  · exact .inl (readMembers_atEnd (notices taken inside))
  · cases left with
    | nil =>
      -- The member is whole, but neither a comma nor the brace is there.
      rw [List.append_nil]
      exact .inl (readMembers_atEnd (taken ▸ .taken next))
    | cons c more => exact .inr ⟨c, more, beyond, rfl⟩

/-- The members of an object that is cut off are truncated. -/
theorem Loads.readMembers_cut {σ : Type} {step : MemberStep σ} {state final : σ}
    {member : String × Json} {members : List (String × Json)}
    (loads : Loads step state (member :: members) final)
    (notices : ∀ other ∈ member :: members, step.Notices other) {front : List Char}
    (cut : CutOff front (memberChars (member :: members) ++ ['\x7d'])) :
    Json.readMembers step state front = .error .truncated := by
  induction members generalizing member state front with
  | nil =>
    cases loads with
    | member taken others =>
      have whole := taken (show Follows [] from trivial)
      rw [List.append_nil] at whole
      rw [memberChars_cons, List.append_assoc, List.cons_append, List.append_assoc] at cut
      rcases readMembers_member_cut whole (notices _ List.mem_cons_self) cut with
        truncated | ⟨c, more, beyond, -⟩
      · exact truncated
      · -- Only the brace stands behind the last member.
        exact absurd (CutOff.eq_nil beyond) (List.cons_ne_nil c more)
  | cons second members ih =>
    cases loads with
    | member taken others =>
      have whole := taken (show Follows [] from trivial)
      rw [List.append_nil] at whole
      rw [memberChars_cons, List.append_assoc, List.cons_append, List.append_assoc] at cut
      rcases readMembers_member_cut whole (notices _ List.mem_cons_self) cut with
        truncated | ⟨c, more, beyond, rfl⟩
      · exact truncated
      · -- Behind the first member stands a comma, so the cut falls into the others.
        rcases CutOff.cons_cases beyond with none | ⟨left, same, later⟩
        · cases none
        cases same
        rw [readMembers_quote (taken (follows_comma more)), trim_cons rfl]
        exact ih others (fun other listed => notices other (List.mem_cons_of_mem _ listed)) later

/-- An object that is cut off is truncated. -/
theorem Loads.readObject_cut {σ : Type} {step : MemberStep σ} {start final : σ}
    {members : List (String × Json)} (loads : Loads step start members final)
    (notices : ∀ member ∈ members, step.Notices member) {front : List Char}
    (cut : CutOff front (Json.obj members).chars) :
    Json.readObject step start front = .error .truncated := by
  have spelled : (Json.obj members).chars = '\x7b' :: (memberChars members ++ ['\x7d']) := by
    simp [chars]
  rw [spelled] at cut
  rcases cut.cons_cases with rfl | ⟨rest, rfl, inside⟩
  · rfl
  have missing : Json.readMembers step start [] = .error .truncated := by
    rw [readMembers.eq_def]
    rfl
  unfold Json.readObject
  rw [trim_cons (show isBlank '\x7b' = false from rfl)]
  cases members with
  | nil =>
    rw [inside.eq_nil]
    exact missing
  | cons member members =>
    cases rest with
    | nil => exact missing
    | cons c tail =>
      -- The first member starts with the quote of its name and not with the closing brace.
      have same : c = '"' := by
        obtain ⟨next, left, whole⟩ := inside
        rw [memberChars_cons] at whole
        exact (List.cons.inj whole).1.symm
      subst same
      exact loads.readMembers_cut notices inside

namespace Form

/-- Where the value of a member is cut off its form notices that. -/
theorem Notices.readAfterColon {α : Type} {form : Form α} (notices : form.Notices) {value : α}
    {json : Json} (written : Reorders (form.write value) json) {front : List Char}
    (cut : CutOff front (':' :: json.chars)) : AtEnd (readAfterColon form front) := by
  -- Cut before the colon or behind it.
  rcases cut.cons_cases with rfl | ⟨rest, rfl, inside⟩
  · exact .truncated
  · exact notices.cut value written inside

/-- Properties end with a brace. -/
theorem closes_properties : properties.Closes where
  nothing := rfl
  cut value json written front cut := by
    obtain ⟨others, rfl, shuffles⟩ := written.members
    obtain ⟨pairs, -, rfl⟩ := shuffles.pairs
    -- Each of the members has a text, which ends with a quote.
    have notices : ∀ member ∈ pairs.map fun pair => (pair.1, Json.str pair.2),
        (collect text).Notices member := by
      intro member listed state next _ front cut
      obtain ⟨⟨name, value⟩, -, rfl⟩ := List.mem_map.1 listed
      show AtEnd ((readAfterColon text front).map _)
      exact (closes_text.notices.readAfterColon (.refl (.str value)) cut).map
        fun value => (name, value) :: state
    have failed := (loads_collect pairs []).readObject_cut notices cut
    show ((readObject (collect text) [] front).map _).map _ = _
    rw [failed]
    rfl

end Form

namespace Fields

/-- Whether the form of each field of a record notices where a text ends. -/
def Notices {α δ : Type} : Fields α δ → Prop
  | done => True
  | field _ form _ rest => form.Notices ∧ rest.Notices

/-- The members that a record is written as are noticed where they are cut off. -/
theorem Faithful.notices {α δ : Type} {fields : Fields α δ} (faithful : fields.Faithful)
    (notices : fields.Notices) (value : α) {members : List (String × Json)}
    (written : Shuffles (fields.writeMembers value) members) :
    ∀ member ∈ members, fields.step.Notices member := by
  induction fields generalizing members with
  | done =>
    cases written
    exact fun member listed => absurd listed List.not_mem_nil
  | field name form lacking rest ih =>
    obtain ⟨value, values⟩ := value
    obtain ⟨-, fresh, others⟩ := faithful
    obtain ⟨noticed, more⟩ := notices
    cases written with
    | @cons _ _ json _ before after own shuffled =>
      intro member listed state next taken front cut
      obtain ⟨given, state⟩ := state
      have places : member = (name, json) ∨ member ∈ before ++ after := by
        simpa [or_left_comm] using listed
      rcases places with rfl | other
      · -- The field is not given twice, so its own form reads the value.
        cases given with
        | some given =>
          simp only [step, assign, if_true, Option.isSome_some] at taken
          cases taken
        | none =>
          simp only [step, assign, if_true, Option.isSome_none, Bool.false_eq_true, if_false]
          exact (noticed.readAfterColon own cut).map fun value => (some value, state)
      · -- The names of the others are those of other fields.
        have differs : member.1 ≠ name := by
          rintro rfl
          apply fresh
          rw [← rest.names_writeMembers values, ← shuffled.names_perm.mem_iff]
          exact List.mem_map_of_mem other
        simp only [step, assign, differs, if_false] at taken ⊢
        cases inner : rest.assign state member.1 (':' :: member.2.chars) with
        | error fault =>
          rw [inner] at taken
          cases taken
        | ok pair =>
          obtain ⟨after, left⟩ := pair
          rw [inner] at taken
          cases taken
          exact (ih others more values shuffled member other inner cut).map fun state =>
            (given, state)

/-- Records end with a brace. -/
theorem Notices.record {α δ : Type} {fields : Fields α δ} (notices : fields.Notices)
    (faithful : fields.Faithful) : fields.record.Closes where
  nothing := rfl
  cut value json written front cut := by
    obtain ⟨members, rfl, shuffles⟩ := written.members
    have failed := (faithful.loads value shuffles).readObject_cut
      (faithful.notices notices value shuffles) cut
    show fields.read front = _
    have spelled : (Json.obj members).chars = '\x7b' :: (memberChars members ++ ['\x7d']) := by
      simp [chars]
    rw [spelled] at cut
    rcases cut.cons_cases with rfl | ⟨rest, rfl, -⟩
    · rfl
    · -- The brace sends the reader to objects and not to arrays.
      simp [Fields.read, trim_cons (show isBlank '\x7b' = false from rfl), failed]

end Fields

namespace Form

variable {α : Type} {form : Form α} {value : α} {text : String}

/-- No front of a text for a value is parsed, and each is truncated. -/
theorem Closes.parse (closes : form.Closes) (written : form.Writes value text) {front : String}
    (cut : CutOff front.toList text.toList) : form.parse front = .error .truncated := by
  -- The check for what is left behind the value is never reached.
  obtain ⟨json, reorders, rfl⟩ := written
  rw [compact, String.toList_ofList] at cut
  unfold Form.parse
  rw [closes.cut value reorders cut]

end Form

end Roster.Json
