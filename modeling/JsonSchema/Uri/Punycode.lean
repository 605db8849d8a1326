/-!
Punycode: a label of a host name with characters outside ASCII as ASCII letters, digits and hyphens. The characters
outside ASCII are inserted in ascending order, each by its distance from the one before.
-/
namespace JsonSchema.Uri.Punycode

def digit (d : Nat) : Char := if d < 26 then Char.ofNat (0x61 + d) else Char.ofNat (0x30 + (d - 26))

/-- The threshold of a digit place, which grows with the place. -/
def threshold (place bias : Nat) : Nat :=
  if place ≤ bias then 1 else if bias + 26 ≤ place then 26 else place - bias

theorem threshold_le (place bias : Nat) : threshold place bias ≤ 26 := by
  unfold threshold; split <;> (try split) <;> omega

theorem threshold_pos (place bias : Nat) : 1 ≤ threshold place bias := by
  unfold threshold; split <;> (try split) <;> omega

def encodeNumber (bias place n : Nat) : List Char :=
  let t := threshold place bias
  if n < t then [digit n]
  else digit (t + (n - t) % (36 - t)) :: encodeNumber bias (place + 36) ((n - t) / (36 - t))
termination_by n
decreasing_by
  have h₁ := threshold_le place bias
  have h₂ := threshold_pos place bias
  refine Nat.lt_of_le_of_lt (Nat.div_le_self _ _) ?_
  omega

def scaleBias (delta k : Nat) : Nat :=
  if 455 < delta then scaleBias (delta / 35) (k + 36) else k + 36 * delta / (delta + 38)
termination_by delta
decreasing_by omega

def adapt (delta count : Nat) (first : Bool) : Nat :=
  let delta := if first then delta / 700 else delta / 2
  scaleBias (delta + delta / count) 0

/-- What an encoder knows between two insertions. -/
structure State where
  delta : Nat
  bias : Nat
  handled : Nat
  output : List Char

/-- Goes through a label once for the insertions of one character. -/
def insertAll (basic c : Nat) (label : List Nat) (state : State) : State :=
  label.foldl (fun state x =>
    if x < c then { state with delta := state.delta + 1 }
    else if x = c then
      { delta := 0
        bias := adapt state.delta (state.handled + 1) (state.handled == basic)
        handled := state.handled + 1
        output := state.output ++ encodeNumber state.bias 36 state.delta }
    else state) state

def insertions (basic : Nat) (label : List Nat) (last : Nat) : List Nat → State → State
  | [], state => state
  | c :: rest, state =>
    let state := { state with delta := state.delta + (c - last) * (state.handled + 1) }
    let state := insertAll basic c label state
    insertions basic label (c + 1) rest { state with delta := state.delta + 1 }

def encode (label : List Char) : List Char :=
  let codes := label.map Char.toNat
  let basic := label.filter fun c => c.toNat < 0x80
  let others := ((codes.filter (0x80 ≤ ·)).mergeSort (· ≤ ·)).eraseDups
  let start : State := ⟨0, 72, basic.length, if basic.isEmpty then [] else basic ++ ['-']⟩
  (insertions basic.length codes 0x80 others start).output

def digitValue? (c : Char) : Option Nat :=
  if 'a' ≤ c && c ≤ 'z' then some (c.toNat - 0x61) else if c.isDigit then some (c.toNat - 0x30 + 26) else none

/-- What a decoder knows between two digits. -/
structure Decoding where
  /-- The place of the next digit and what one is worth there. -/
  place : Nat
  weight : Nat
  /-- The number so far, and what it was before its first digit. -/
  sofar : Nat
  start : Nat
  bias : Nat
  code : Nat
  output : List Char

/-- Reads a digit. The last digit of a number makes for an insertion. -/
def Decoding.read? (state : Decoding) (c : Char) : Option Decoding := do
  let d ← digitValue? c
  let t := threshold state.place state.bias
  let n := state.sofar + d * state.weight
  if d < t then
    let count := state.output.length + 1
    let code := state.code + n / count
    if code < 0xd800 || (0xdfff < code && code < 0x110000) then
      some {
        place := 36
        weight := 1
        sofar := n % count + 1
        start := n % count + 1
        bias := adapt (n - state.start) count (state.start == 0)
        code := code
        output := state.output.take (n % count) ++ Char.ofNat code :: state.output.drop (n % count) }
    else none
  else some { state with place := state.place + 36, weight := state.weight * (36 - t), sofar := n }

def decode? (text : List Char) : Option (List Char) := do
  let digits := (text.reverse.takeWhile (· != '-')).reverse
  let basic := text.take (text.length - digits.length - 1)
  let digits := if basic.isEmpty then text else digits
  let state ← digits.foldlM Decoding.read? ⟨36, 1, 0, 0, 72, 0x80, basic⟩
  if state.place = 36 && basic.all (·.toNat < 0x80) then some state.output else none

end JsonSchema.Uri.Punycode
