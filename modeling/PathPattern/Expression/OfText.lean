import PathPattern.Expression.Bracket

namespace PathPattern.Expression

structure Piece where
  expression : Expression
  depth : Nat
  repeatable : Bool
deriving Repr

namespace Piece

def leaf (expression : Expression) : Piece := ⟨expression, 0, true⟩

def greatestDepth (pieces : List Piece) : Nat := pieces.foldl (fun depth piece => max depth piece.depth) 0

def combine (join : List Expression → Expression) : List Piece → Piece
  | [] => leaf .empty
  | [piece] => piece
  | pieces => ⟨join (pieces.reverse.map expression), greatestDepth pieces + 1, true⟩

def sequence : List Piece → Piece := combine Expression.all

def alternatives : List Piece → Piece := combine Expression.any

end Piece

structure Outside where
  pieces : List Piece
  branches : List Piece
  flags : Flags
  remembers : Bool

structure Progress where
  flags : Flags
  pieces : List Piece
  branches : List Piece
  outer : List Outside
  names : List Text

namespace Progress

def start (flags : Flags) : Progress := ⟨flags, [], [], [], []⟩

def push (progress : Progress) (piece : Piece) : Progress :=
  { progress with pieces := piece :: progress.pieces }

def pushSet (progress : Progress) (set : CharSet) : Progress := progress.push (.leaf (.oneOf set))

def inside (progress : Progress) : Piece :=
  .alternatives (.sequence progress.pieces :: progress.branches)

def enter (progress : Progress) (flags : Flags) (remembers : Bool) : Progress :=
  { progress with
    flags, pieces := [], branches := []
    outer := ⟨progress.pieces, progress.branches, progress.flags, remembers⟩ :: progress.outer }

def leave? (progress : Progress) : Option Progress :=
  match progress.outer with
  | [] => none
  | outside :: rest =>
      let piece := progress.inside
      let expression := if outside.remembers then .group piece.expression else piece.expression
      some { progress with
        flags := outside.flags
        pieces := ⟨expression, piece.depth + 1, true⟩ :: outside.pieces
        branches := outside.branches
        outer := rest }

def branch (progress : Progress) : Progress :=
  { progress with pieces := [], branches := .sequence progress.pieces :: progress.branches }

def repeat? (progress : Progress) (least : Nat) (most : Option Nat) : Option Progress :=
  match progress.pieces with
  | piece :: before =>
      if piece.repeatable then
        some { progress with pieces := ⟨piece.expression.times least most, piece.depth + 1, true⟩ :: before }
      else none
  | [] => none

def count (flags : Flags) : Reading Nat := do
  let _ ← Reading.takeWhile Unicode.isSpace
  let digits ← flags.take Char.isDigit
  let _ ← Reading.takeWhile Unicode.isSpace
  flags.skipBlanks
  Reading.require (digits ≠ [])
  let number := digits.foldl (fun n c => 10 * n + (c.toNat - '0'.toNat)) 0
  Reading.require (number < Nat.pow 2 32)
  return number

def bounds (flags : Flags) : Reading (Nat × Option Nat) := do
  flags.skipBlanks
  let least ← count flags
  let most ←
    if ← Reading.skip? [','] then
      flags.skipBlanks
      if (← Reading.ahead List.head?) = some '\x7d' then pure none
      else pure (some (← count flags))
    else pure (some least)
  Reading.skip ['\x7d']
  Reading.require (most.all (least ≤ ·))
  flags.skipBlanks
  return (least, most)

def groupName : Reading Text := do
  let name ← Reading.takeWhile (· ≠ '>')
  Reading.skip ['>']
  let isFirst := fun c => c = '_' || Unicode.alphabetic.contains c
  let isLater := fun c => c = '_' || c = '.' || c = '[' || c = ']' || Unicode.alphanumeric.contains c
  match name with
  | [] => Reading.refuse
  | c :: rest =>
      Reading.require (isFirst c && rest.all isLater)
      return name

def flagItems : Reading (Text × Char) :=
  Reading.loop (fun _ => none)
    (fun items c => do
      if c = ':' || c = ')' then
        Reading.require (items.head? ≠ some '-')
        return .inr (items.reverse, c)
      else
        Reading.require (("imsRUux-".toList.contains c) && !items.contains c)
        return .inl (c :: items))
    []

-- A group or a setting of flags after its opening bracket. Conditions on what comes before or after a place, which
-- also begin with a question mark, are not supported.
def group (progress : Progress) : Reading Progress := do
  progress.flags.skipBlanks
  let isAhead := fun text : String => Reading.ahead fun rest => text.toList.isPrefixOf rest
  Reading.require (!(← isAhead "?=") && !(← isAhead "?!") && !(← isAhead "?<=") && !(← isAhead "?<!"))
  let named ← Reading.skip? "?P<".toList
  let named ← if named then pure true else Reading.skip? "?<".toList
  if named then
    let name ← groupName
    Reading.require (!progress.names.contains name)
    return { progress.enter progress.flags true with names := name :: progress.names }
  else if ← Reading.skip? ['?'] then
    let (items, last) ← flagItems
    let flags := progress.flags.update items
    if last = ':' then return progress.enter flags false
    else
      Reading.require (items ≠ [])
      return { progress with flags, pieces := ⟨.empty, 0, false⟩ :: progress.pieces }
  else return progress.enter progress.flags true

def step (progress : Progress) (c : Char) : Reading Progress := do
  let flags := progress.flags
  if flags.spaced && (Unicode.isSpace c || c = '#') then
    if c = '#' then
      let _ ← Reading.takeWhile (· ≠ '\n')
    return progress
  else
    match c with
    | '(' => group progress
    | ')' => Reading.given progress.leave?
    | '|' => return progress.branch
    | '[' =>
        let (set, depth) ← Bracket.set flags
        return progress.push ⟨.oneOf set, depth, true⟩
    | '*' =>
        let _ ← Reading.skip? ['?']
        Reading.given (progress.repeat? 0 none)
    | '+' =>
        let _ ← Reading.skip? ['?']
        Reading.given (progress.repeat? 1 none)
    | '?' =>
        let _ ← Reading.skip? ['?']
        Reading.given (progress.repeat? 0 (some 1))
    | '\x7b' =>
        let (least, most) ← bounds flags
        let _ ← Reading.skip? ['?']
        Reading.given (progress.repeat? least most)
    | '\\' =>
        match ← Atom.escape flags with
        | .char c => return progress.pushSet (flags.charSet c)
        | .chars set => return progress.pushSet set
        | .look condition => return progress.push (.leaf (.look condition))
    | '.' => return progress.pushSet (← Reading.given flags.dot?)
    | '^' => return progress.push (.leaf (.look flags.lineStart))
    | '$' => return progress.push (.leaf (.look flags.lineEnd))
    | c => return progress.pushSet (flags.charSet c)

end Progress

def depthLimit : Nat := 250

def ofText? (flags : Flags) (text : Text) : Option Expression :=
  match Reading.fold Progress.step (.start flags) text with
  | some progress =>
      if progress.outer = [] then
        let piece := progress.inside
        if piece.depth ≤ depthLimit then some piece.expression else none
      else none
  | none => none

end PathPattern.Expression
