import PathPattern.Expression

/-!
How much room an expression would take as an automaton that reads UTF-8 byte by byte, and the limit on it.

Every state takes 32 bytes, every branch of a state that reads several byte ranges 8 more, every alternative of a
branching state 4 more. Two automata count, one for each direction of reading; only the forward one has states
for the ends of remembered groups.
-/

namespace PathPattern.Expression

def byteRanges : (digits lead low high : Nat) → List (List (Nat × Nat))
  | 0, lead, low, high => [[(lead + low, lead + high)]]
  | digits + 1, lead, low, high =>
      let block := Nat.pow 64 (digits + 1)
      let (first, last) := (low / block, high / block)
      let under := fun (digit low high : Nat) =>
        (byteRanges digits 0x80 low high).map ((lead + digit, lead + digit) :: ·)
      if first = last then under first (low % block) (high % block)
      else
        let opening := if low % block = 0 then [] else under first (low % block) (block - 1)
        let closing := if high % block = block - 1 then [] else under last 0 (high % block)
        let (firstWhole, endWhole) :=
          (if low % block = 0 then first else first + 1, if high % block = block - 1 then last + 1 else last)
        let whole :=
          if firstWhole < endWhole then
            [(lead + firstWhole, lead + endWhole - 1) :: List.replicate (digits + 1) (0x80, 0xbf)]
          else []
        opening ++ whole ++ closing

def encodedRanges : List (Nat × Nat × Nat × Nat) :=
  [(0x0, 0x7f, 0, 0), (0x80, 0x7ff, 1, 0xc0), (0x800, 0xd7ff, 2, 0xe0), (0xe000, 0xffff, 2, 0xe0),
    (0x10000, 0x10ffff, 3, 0xf0)]

def encodings (set : CharSet) : List (List (Nat × Nat)) :=
  set.tidy.ranges.flatMap fun (low, high) =>
    encodedRanges.flatMap fun (first, last, digits, lead) =>
      if max low first ≤ min high last then byteRanges digits lead (max low first) (min high last) else []

abbrev ByteState := List ((Nat × Nat) × Nat)

def numbered (state : ByteState) (states : List ByteState) : Nat × List ByteState :=
  match states.reverse.idxOf? state with
  | some index => (index, states)
  | none => (states.length, state :: states)

-- The states needed to read `sequences`, which have at most `depth` byte ranges each, with equal states shared;
-- state 0 is the end.
def readingStates : (depth : Nat) → (sequences : List (List (Nat × Nat))) → List ByteState → Nat × List ByteState
  | 0, _, states => (0, states)
  | depth + 1, sequences, states =>
      let starts := (sequences.filterMap List.head?).eraseDups
      if starts.isEmpty then (0, states)
      else
        let (state, states) := starts.foldl (fun (state, states) start =>
          let tails := sequences.filterMap fun sequence =>
            match sequence with
            | head :: tail => if head = start then some tail else none
            | [] => none
          let (target, states) := readingStates depth tails states
          ((start, target) :: state, states)) ((([] : ByteState), states))
        numbered state states

def forwardSetWeight (set : CharSet) : Nat :=
  let (_, states) := readingStates 5 (encodings set) [[]]
  states.foldl (fun total state => total + 32 + 8 * state.length) 0

def backwardSetWeight (set : CharSet) : Nat :=
  let sequences := encodings set
  let insert := fun (keys : List (Nat × Nat × Nat)) (sequence : List (Nat × Nat)) =>
    (sequence.foldl (fun (from_, keys) (low, high) =>
      let key := (from_, low, high)
      match keys.reverse.idxOf? key with
      | some index => (index + 1, keys)
      | none => (keys.length + 1, key :: keys)) (0, keys)).2
  let keys := sequences.foldl insert []
  64 + 4 * sequences.length + 32 * keys.length

def setWeight (backward : Bool) (set : CharSet) : Nat :=
  match set.tidy.ranges with
  | [] => 32
  | [(low, high)] =>
      if low = high then 32 * (Char.ofNat low).utf8Size
      else if high ≤ 0x7f then 72
      else if backward then backwardSetWeight set else forwardSetWeight set
  | ranges =>
      if set.isAscii then 64 + 8 * ranges.length
      else if backward then backwardSetWeight set else forwardSetWeight set

def weight (backward : Bool) : Expression → Nat
  | empty => 32
  | oneOf set => setWeight backward set
  | look _ => 32
  | sequence first second => first.weight backward + second.weight backward
  | either first second =>
      let rest :=
        match second with
        | either _ _ => second.weight backward + 4
        | _ => second.weight backward + 64 + 8
      first.weight backward + rest
  | repeated body least most =>
      let one := body.weight backward
      match most with
      | none =>
          if least = 0 then if body.maySpanEmpty then one + 3 * 32 + 4 * 4 else one + 32 + 8
          else least * one + 32 + 8
      | some most =>
          if most = least then least * one
          else
            let exact := if least = 0 && most > 1 then 32 else least * one
            exact + 32 + (most - least) * (one + 32 + 8)
  | group body => body.weight backward + (if backward then 0 else 64)

def weightLimit : Nat := 10 * Nat.pow 2 20

def fits (expression : Expression) : Bool :=
  expression.weight false + 32 * 5 + 8 ≤ weightLimit && expression.weight true + 32 * 3 + 8 ≤ weightLimit

end PathPattern.Expression
