import PathPattern.Expression.Escape

namespace PathPattern.Expression

structure Members where
  chars : List (Nat × Nat)
  count : Nat
  depth : Nat
deriving Repr

namespace Members

def none : Members := ⟨[], 0, 0⟩

def add (members : Members) (set : CharSet) (depth : Nat) : Members :=
  ⟨set.ranges ++ members.chars, members.count + 1, max members.depth depth⟩

def set (members : Members) : CharSet := CharSet.tidy ⟨members.chars⟩

def totalDepth (members : Members) : Nat :=
  if members.count ≥ 2 then members.depth + 1 else members.depth

end Members

inductive SetOperator where
  | intersection
  | difference
  | symmetricDifference
deriving DecidableEq, Repr

def SetOperator.apply (operator : SetOperator) (flags : Flags) (left right : CharSet) : CharSet :=
  let left := flags.closeCase left
  let right := flags.closeCase right
  match operator with
  | intersection => left.intersection right
  | difference => left.difference right
  | symmetricDifference => left.symmetricDifference right

inductive Pending where
  | bracket (outside : Members) (negated : Bool)
  | operator (operator : SetOperator) (left : CharSet) (depth : Nat)

namespace Bracket

def opening (flags : Flags) : Reading (Bool × Members) := do
  flags.skipBlanks
  let negated ← Reading.skip? ['^']
  if negated then flags.skipBlanks
  let hyphens ← flags.take (· = '-')
  let members := hyphens.foldl (fun members c => members.add (.single c) 0) Members.none
  if hyphens = [] then
    if ← Reading.skip? [']'] then
      flags.skipBlanks
      return (negated, members.add (.single ']') 0)
  return (negated, members)

def namedClass (flags : Flags) : Reading CharSet := do
  Reading.skip [':']
  let negated ← Reading.skip? ['^']
  let name ← Reading.takeWhile (· ≠ ':')
  Reading.skip [':', ']']
  let set := flags.closeCase (← Reading.given (Unicode.asciiClass? name))
  if negated then Reading.given (flags.complement? set) else return set

def namesClass (rest : Text) : Bool :=
  let flags : Flags := ⟨false, false, false, false, true, false⟩
  (namedClass flags rest).isSome

def member (flags : Flags) (c : Char) : Reading Atom :=
  if c = '\\' then Atom.escape flags else pure (.char c)

def admits (flags : Flags) (c : Char) : Bool := flags.unicode || c.toNat < 0x80

def afterHyphen (flags : Flags) (rest : Text) : Option Char :=
  if flags.spaced then
    match rest.dropWhile Unicode.isSpace with
    | '#' :: comment => (comment.dropWhile Unicode.isSpace).head?
    | other => other.head?
  else rest.head?

-- A single member or a range that starts with `c`. A hyphen before a closing bracket or before another hyphen
-- makes no range.
def item (flags : Flags) (c : Char) : Reading CharSet := do
  let first ← member flags c
  flags.skipBlanks
  let range ← Reading.ahead fun
    | '-' :: rest => afterHyphen flags rest ≠ some ']' && afterHyphen flags rest ≠ some '-'
    | _ => false
  if range then
    Reading.skip ['-']
    flags.skipBlanks
    let second ← member flags (← Reading.next)
    match first, second with
    | .char low, .char high =>
        Reading.require (low ≤ high && admits flags low && admits flags high)
        return ⟨[(low.toNat, high.toNat)]⟩
    | _, _ => Reading.refuse
  else
    match first with
    | .char single =>
        Reading.require (admits flags single)
        return .single single
    | .chars set => return set
    | .look _ => Reading.refuse

def finishOperator (flags : Flags) (pending : List Pending) (right : CharSet) (depth : Nat) :
    List Pending × CharSet × Nat :=
  match pending with
  | .operator operator left leftDepth :: outer =>
      (outer, operator.apply flags left right, max leftDepth depth + 1)
  | _ => (pending, right, depth)

def set (flags : Flags) : Reading (CharSet × Nat) := do
  let (negated, members) ← opening flags
  let begin : List Pending × Members := ([.bracket .none negated], members)
  let operate := fun (operator : SetOperator) (pending : List Pending) (members : Members) => do
    let _ ← Reading.next
    let (outer, left, depth) := finishOperator flags pending members.set members.totalDepth
    return .inl (.operator operator left depth :: outer, Members.none)
  let step := fun (state : List Pending × Members) (c : Char) =>
    show Reading ((List Pending × Members) ⊕ (CharSet × Nat)) from do
    let (pending, members) := state
    let following ← Reading.ahead List.head?
    if flags.spaced && Unicode.isSpace c then return .inl state
    else if flags.spaced && c = '#' then
      let _ ← Reading.takeWhile (· ≠ '\n')
      return .inl state
    else if c = '[' then
      if ← Reading.ahead namesClass then
        return .inl (pending, members.add (← namedClass flags) 0)
      else
        let (negated, inner) ← opening flags
        return .inl (.bracket members negated :: pending, inner)
    else if c = ']' then
      let (outer, set, depth) := finishOperator flags pending members.set members.totalDepth
      match outer with
      | .bracket outside negated :: rest =>
          let closed := flags.closeCase set
          let closed ← if negated then Reading.given (flags.complement? closed) else pure closed
          if rest.isEmpty then return .inr (closed, depth + 1)
          else return .inl (rest, outside.add closed (depth + 1))
      | _ => Reading.refuse
    else if c = '&' && following = some '&' then operate .intersection pending members
    else if c = '-' && following = some '-' then operate .difference pending members
    else if c = '~' && following = some '~' then operate .symmetricDifference pending members
    else return .inl (pending, members.add (← item flags c) 0)
  Reading.loop (fun _ => none) step begin

end Bracket
end PathPattern.Expression
