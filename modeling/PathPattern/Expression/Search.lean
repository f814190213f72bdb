import PathPattern.Expression

/-!
Whether an expression spans some part of a text.

An expression carries a set of places of the text, the places where a span may start, to the set of places where
such a span may end. Sets of places are lists without repeated members; repetition explores the places that are
reached layer by layer and visits each once, so the work is bounded by the size of the expression times that of
the text, however many ways there are to span a part.
-/

namespace PathPattern.Expression

def before (text : Array Char) : Nat → Option Char
  | 0 => none
  | place + 1 => text[place]?

def fresh (seen : Nat) : List Nat → List Nat × Nat
  | [] => ([], seen)
  | place :: rest =>
      if seen.testBit place then fresh seen rest
      else
        let (places, all) := fresh (seen ||| (1 <<< place)) rest
        (place :: places, all)

def distinct (places : List Nat) : List Nat := (fresh 0 places).1

def advance (move : List Nat → List Nat) : (turns : Nat) → List Nat → List Nat
  | 0, places => places
  | _ + 1, [] => []
  | turns + 1, places => advance move turns (move places)

def spread (move : List Nat → List Nat) : (turns : Nat) → (seen : Nat) → (layer : List Nat) → List Nat
  | 0, _, layer => layer
  | turns + 1, seen, layer =>
      match fresh seen (move layer) with
      | ([], _) => layer
      | (next, all) => layer ++ spread move turns all next

def reach (move : List Nat → List Nat) (turns : Nat) (places : List Nat) : List Nat :=
  let (layer, seen) := fresh 0 places
  spread move turns seen layer

-- The places where spans that start at one of `places` end. Without an upper bound a repetition needs no more
-- turns than the text has places.
def ends (text : Array Char) : Expression → List Nat → List Nat
  | empty, places => places
  | oneOf set, places =>
      places.filterMap fun place =>
        match text[place]? with
        | some c => if set.contains c then some (place + 1) else none
        | none => none
  | look condition, places =>
      places.filter fun place => condition.holds (before text place) text[place]?
  | sequence first second, places => ends text second (ends text first places)
  | either first second, places => distinct (ends text first places ++ ends text second places)
  | repeated body least most, places =>
      let move := ends text body
      reach move (match most with | some most => most - least | none => text.size + 1) (advance move least places)
  | group body, places => ends text body places

def occursIn (expression : Expression) (text : Text) : Bool :=
  !(expression.ends text.toArray (List.range (text.length + 1))).isEmpty

end PathPattern.Expression
