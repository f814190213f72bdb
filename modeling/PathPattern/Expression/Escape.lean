import PathPattern.Expression.Flags

namespace PathPattern.Expression

inductive Atom where
  | char (c : Char)
  | chars (set : CharSet)
  | look (condition : Look)
deriving DecidableEq, Repr

namespace Atom

def isHexDigit (c : Char) : Bool :=
  c.isDigit || ('a' ≤ c && c ≤ 'f') || ('A' ≤ c && c ≤ 'F')

def ofCode? (code : Nat) : Option Char :=
  if code.isValidChar then some (Char.ofNat code) else none

def hex (flags : Flags) (kind : Char) : Reading Atom := do
  flags.skipBlanks
  if ← Reading.skip? ['\x7b'] then
    flags.skipBlanks
    let digits ← flags.take isHexDigit
    Reading.skip ['\x7d']
    flags.skipBlanks
    Reading.require (digits ≠ [])
    return .char (← Reading.given (ofCode? (Unicode.hexNumber digits)))
  else
    let rec digits : Nat → Reading Text
      | 0 => pure []
      | count + 1 => do
          let digit ← Reading.next
          Reading.require (isHexDigit digit)
          flags.skipBlanks
          return digit :: (← digits count)
    let code := Unicode.hexNumber (← digits (if kind = 'x' then 2 else if kind = 'u' then 4 else 8))
    Reading.require (flags.unicode || kind ≠ 'x' || code < 0x80)
    return .char (← Reading.given (ofCode? code))

def propertySet? (text : Text) : Option (CharSet × Bool) :=
  let unequal := ['!', '=']
  let rec beforeUnequal : Text → Option (Text × Text)
    | [] => none
    | c :: rest =>
        if unequal.isPrefixOf (c :: rest) then some ([], rest.drop 1)
        else (beforeUnequal rest).map fun (name, value) => (c :: name, value)
  match beforeUnequal text with
  | some (name, value) => (Unicode.propertyValue? name value).map (·, true)
  | none =>
      match Text.splitAt? ':' text <|> Text.splitAt? '=' text with
      | some (name, value) => (Unicode.propertyValue? name value).map (·, false)
      | none => (Unicode.property? text).map (·, false)

def property (flags : Flags) (negated : Bool) : Reading Atom := do
  flags.skipBlanks
  let text ←
    if ← Reading.skip? ['\x7b'] then
      flags.skipBlanks
      let text ← flags.take (· ≠ '\x7d')
      Reading.skip ['\x7d']
      pure text
    else
      let letter ← Reading.next
      Reading.require (letter ≠ '\\')
      flags.skipBlanks
      pure [letter]
  Reading.require flags.unicode
  let (set, unequal) ← Reading.given (propertySet? text)
  let set := flags.closeCase set
  return .chars (if negated != unequal then set.complement else set)

def classLetter? (flags : Flags) (letter : Char) : Option CharSet :=
  let (set, ascii) :=
    match letter.toLower with
    | 'd' => (Unicode.digit, Unicode.asciiDigit)
    | 's' => (Unicode.space, Unicode.asciiSpace)
    | _ => (Unicode.word, Unicode.asciiWord)
  let chosen := if flags.unicode then set else ascii
  if letter.isUpper then flags.complement? chosen else some chosen

def edgeNames : List (String × WordEdge) :=
  [("start", .start), ("end", .finish), ("start-half", .startHalf), ("end-half", .finishHalf)]

def wordEdge (flags : Flags) : Reading WordEdge := do
  let isNameChar := fun c : Char => c.isAlpha || c = '-'
  let inside ← Reading.ahead fun
    | '\x7b' :: rest => some (flags.afterBlanks rest).1.head?
    | _ => none
  match inside with
  | none => return .boundary
  | some none => Reading.refuse
  | some (some c) =>
      if isNameChar c then
        Reading.skip ['\x7b']
        flags.skipBlanks
        let name ← flags.take isNameChar
        Reading.skip ['\x7d']
        match edgeNames.find? fun (other, _) => other.toList = name with
        | some (_, edge) => return edge
        | none => Reading.refuse
      else return .boundary

def isEscapable (c : Char) : Bool :=
  c.toNat < 0x80 && !c.isAlphanum && c ≠ '<' && c ≠ '>'

def escape (flags : Flags) : Reading Atom := do
  let c ← Reading.next
  if isEscapable c then return .char c
  else
    match c with
    | 'x' | 'u' | 'U' => hex flags c
    | 'p' => property flags false
    | 'P' => property flags true
    | 'd' | 's' | 'w' | 'D' | 'S' | 'W' => return .chars (← Reading.given (classLetter? flags c))
    | 'a' => return .char '\x07'
    | 'f' => return .char '\x0c'
    | 't' => return .char '\t'
    | 'n' => return .char '\n'
    | 'r' => return .char '\r'
    | 'v' => return .char '\x0b'
    | 'A' => return .look .textStart
    | 'z' => return .look .textEnd
    | 'b' => return .look (.word (← wordEdge flags) (!flags.unicode))
    | 'B' => return .look (.word .interior (!flags.unicode))
    | '<' => return .look (.word .start (!flags.unicode))
    | '>' => return .look (.word .finish (!flags.unicode))
    | _ => Reading.refuse

theorem escape_of_escapable {c : Char} (escapable : isEscapable c = true) (flags : Flags) (rest : Text) :
    escape flags (c :: rest) = some (.char c, ⟨rest, Nat.le_succ _⟩) := by
  simp [escape, bind, Reading.next, escapable, pure]

end Atom
end PathPattern.Expression
