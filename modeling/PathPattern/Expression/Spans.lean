import PathPattern.Expression.Search

namespace PathPattern.Expression

inductive Spans (text : Array Char) : Expression → Nat → Nat → Prop where
  | empty (i : Nat) : Spans text .empty i i
  | oneOf {set : CharSet} {i : Nat} {c : Char} (here : text[i]? = some c) (member : set.contains c = true) :
      Spans text (.oneOf set) i (i + 1)
  | look {condition : Look} {i : Nat} (holds : condition.holds (before text i) text[i]? = true) :
      Spans text (.look condition) i i
  | sequence {first second : Expression} {i j k : Nat} :
      Spans text first i j → Spans text second j k → Spans text (.sequence first second) i k
  | eitherLeft {first second : Expression} {i j : Nat} :
      Spans text first i j → Spans text (.either first second) i j
  | eitherRight {first second : Expression} {i j : Nat} :
      Spans text second i j → Spans text (.either first second) i j
  | stop {body : Expression} {most : Option Nat} (i : Nat) : Spans text (.repeated body 0 most) i i
  | turn {body : Expression} {least : Nat} {most : Option Nat} {i j k : Nat} (room : most ≠ some 0) :
      Spans text body i j → Spans text (.repeated body (least - 1) (most.map (· - 1))) j k →
      Spans text (.repeated body least most) i k
  | group {body : Expression} {i j : Nat} : Spans text body i j → Spans text (.group body) i j

end PathPattern.Expression
