import PathPattern.Unicode.CharClass

namespace PathPattern

inductive WordEdge where
  | boundary
  | interior
  | start
  | finish
  | startHalf
  | finishHalf
deriving DecidableEq, Repr

inductive Look where
  | textStart
  | textEnd
  | lineStart (returns : Bool)
  | lineEnd (returns : Bool)
  | word (edge : WordEdge) (ascii : Bool)
deriving DecidableEq, Repr

def WordEdge.holds (edge : WordEdge) (before after : Bool) : Bool :=
  match edge with
  | .boundary => before != after
  | .interior => before == after
  | .start => !before && after
  | .finish => before && !after
  | .startHalf => !before
  | .finishHalf => !after

namespace Look

def isWord (ascii : Bool) (c : Option Char) : Bool :=
  match c with
  | none => false
  | some c => if ascii then Unicode.asciiWord.contains c else Unicode.word.contains c

def holds (look : Look) (before after : Option Char) : Bool :=
  match look with
  | textStart => before.isNone
  | textEnd => after.isNone
  | lineStart false => before.isNone || before == some '\n'
  | lineStart true =>
      before.isNone || before == some '\n' || (before == some '\r' && after != some '\n')
  | lineEnd false => after.isNone || after == some '\n'
  | lineEnd true =>
      after.isNone || after == some '\r' || (after == some '\n' && before != some '\r')
  | word edge ascii => edge.holds (isWord ascii before) (isWord ascii after)

end Look

-- A regular expression. Only what it can span matters, so alternatives are unordered and repetitions have no
-- preference for few or many turns.
inductive Expression where
  | empty
  | oneOf (chars : CharSet)
  | look (condition : Look)
  | sequence (first second : Expression)
  | either (first second : Expression)
  | repeated (body : Expression) (least : Nat) (most : Option Nat)
  | group (body : Expression)
deriving DecidableEq, Repr, Inhabited

namespace Expression

def all : List Expression → Expression
  | [] => empty
  | [e] => e
  | e :: es => sequence e (all es)

def any : List Expression → Expression
  | [] => empty
  | [e] => e
  | e :: es => either e (any es)

def spansOnlyEmpty : Expression → Bool
  | empty | look _ => true
  | oneOf _ => false
  | sequence first second | either first second => first.spansOnlyEmpty && second.spansOnlyEmpty
  | repeated body _ most => body.spansOnlyEmpty || most == some 0
  | group body => body.spansOnlyEmpty

def maySpanEmpty : Expression → Bool
  | empty | look _ => true
  | oneOf _ => false
  | sequence first second => first.maySpanEmpty && second.maySpanEmpty
  | either first second => first.maySpanEmpty || second.maySpanEmpty
  | repeated body least _ => least == 0 || body.maySpanEmpty
  | group body => body.maySpanEmpty

def times (body : Expression) (least : Nat) (most : Option Nat) : Expression :=
  let (least, most) : Nat × Option Nat :=
    if body.spansOnlyEmpty then (min least 1, some (min (most.getD 1) 1)) else (least, most)
  if least = 0 && most == some 0 then empty
  else if least = 1 && most == some 1 then body
  else repeated body least most

end Expression
end PathPattern
