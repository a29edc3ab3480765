/-! The spelling of text in letters, digits and hyphens for host names. -/

namespace Roster.Punycode

/-- The letter or digit for a number below 36. -/
def digitChar (n : Nat) : Char := if n < 26 then Char.ofNat (97 + n) else Char.ofNat (22 + n)

/-- The number of a letter or digit. -/
def digitValue? (c : Char) : Option Nat :=
  if 'a' ≤ c ∧ c ≤ 'z' then some (c.toNat - 97)
  else if 'A' ≤ c ∧ c ≤ 'Z' then some (c.toNat - 65)
  else if c.isDigit then some (c.toNat - 22)
  else none

/-- The least value of a digit that does not end a number, at a place counted in 36s. -/
def threshold (place bias : Nat) : Nat := min 26 (max 1 (place - bias))

/-- Scales a difference down while it is large, and counts the steps in 36s. -/
def scale (delta steps : Nat) : Nat × Nat :=
  if 455 < delta then scale (delta / 35) (steps + 36) else (delta, steps)
termination_by delta
decreasing_by omega

/-- The bias after a difference, given the count of characters so far. -/
def adapt (delta count : Nat) (first : Bool) : Nat :=
  let halved := if first then delta / 700 else delta / 2
  let (small, steps) := scale (halved + halved / count) 0
  steps + 36 * small / (small + 38)

/-- The digits of a difference. -/
def digits (n bias place : Nat) : List Char :=
  let t := threshold place bias
  if n < t then [digitChar n]
  else digitChar (t + (n - t) % (36 - t)) :: digits ((n - t) / (36 - t)) bias (place + 36)
termination_by n
decreasing_by
  -- Something is taken away before the division.
  have : 1 ≤ threshold place bias := by simp only [threshold]; omega
  exact Nat.lt_of_le_of_lt (Nat.div_le_self _ _) (by omega)

/-- The state of an encoding: difference so far, bias, characters done, and output in reverse. -/
structure Encoding where
  delta : Nat
  bias : Nat
  count : Nat
  output : List Char

/-- Passes one character of the text while a certain character is being encoded. -/
def Encoding.pass (basic target : Nat) (state : Encoding) (n : Nat) : Encoding :=
  if n < target then { state with delta := state.delta + 1 }
  else if n = target then
    { delta := 0
      bias := adapt state.delta (state.count + 1) (state.count = basic)
      count := state.count + 1
      output := (digits state.delta state.bias 36).reverse ++ state.output }
  else state

/-- Encodes one character wherever it stands in the text. -/
def Encoding.turn (text : List Nat) (basic : Nat) (state : Encoding) (previous target : Nat) :
    Encoding :=
  let start := { state with delta := state.delta + (target - previous - 1) * (state.count + 1) }
  let done := text.foldl (Encoding.pass basic target) start
  { done with delta := done.delta + 1 }

/-- Encodes characters in ascending order. -/
def Encoding.turns (text : List Nat) (basic : Nat) (state : Encoding) (previous : Nat) :
    List Nat → Encoding
  | [] => state
  | target :: rest => turns text basic (state.turn text basic previous target) target rest

/-- The spelling of a text; characters below 128 come first, before a hyphen. -/
def encode (text : List Nat) : List Char :=
  let basic := text.filter (· < 128)
  let targets := ((text.filter (128 ≤ ·)).mergeSort (· ≤ ·)).eraseDups
  let front := basic.map Char.ofNat ++ if basic.isEmpty then [] else ['-']
  -- The characters below 128 count as passed, as if the one before 128 had been encoded.
  let final := Encoding.turns text basic.length ⟨0, 72, basic.length, []⟩ 127 targets
  front ++ final.output.reverse

/-- Reads the digits of a difference: the sum so far, the weight of a digit, and its place. -/
def readDelta (sum weight bias place : Nat) : List Char → Option (Nat × List Char)
  | [] => none
  | c :: rest =>
    match digitValue? c with
    | none => none
    | some digit =>
      let sum := sum + digit * weight
      let t := threshold place bias
      if digit < t then some (sum, rest)
      else readDelta sum (weight * (36 - t)) bias (place + 36) rest

theorem readDelta_shorter {sum weight bias place delta : Nat} {text rest : List Char}
    (done : readDelta sum weight bias place text = some (delta, rest)) :
    rest.length < text.length := by
  -- The induction is on the text, of which every digit takes one character.
  induction text generalizing sum weight place with
  | nil => simp [readDelta] at done
  | cons c tail ih =>
    simp only [readDelta] at done
    split at done
    · simp at done
    · split at done
      · simp only [Option.some.injEq, Prod.mk.injEq] at done
        simp [done.2]
      · have := ih done
        simp only [List.length_cons]
        omega

/-- Whether a number is that of a character. -/
def isCharacter (n : Nat) : Bool := n < 0xD800 || (0xDFFF < n && n < 0x110000)

/-- Puts further characters into a text, each where its difference says. -/
def insertAll (output : List Nat) (character place bias : Nat) (text : List Char) :
    Option (List Nat) :=
  if text.isEmpty then some output
  else
    match _ : readDelta 0 1 bias 36 text with
    | none => none
    | some (delta, rest) =>
      let count := output.length + 1
      let character := character + (place + delta) / count
      let spot := (place + delta) % count
      if isCharacter character then
        insertAll (output.take spot ++ character :: output.drop spot) character (spot + 1)
          (adapt delta count (place = 0)) rest
      else none
termination_by text.length
decreasing_by exact readDelta_shorter (by assumption)

/-- The text of a spelling; what stands before the last hyphen stands for itself. -/
def decode? (spelling : List Char) : Option (List Nat) :=
  let tail := (spelling.reverse.takeWhile (· ≠ '-')).reverse
  let basic := (spelling.take (spelling.length - tail.length)).dropLast
  if basic.all (fun c => c.toNat < 128) then insertAll (basic.map Char.toNat) 128 0 72 tail
  else none

end Roster.Punycode
