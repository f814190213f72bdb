import PathPattern.Expression.OfText
import PathPattern.Expression.Search
import PathPattern.Expression.Weight
import PathPattern.Fault
import PathPattern.Modifiers
import PathPattern.Segment

/-!
Compiling a pattern: its text becomes the text of an expression, and this an expression to search with.

Literal text has its special characters escaped and placeholders become `(?:.*)`; both are held between the start
and the end of the text or, with the modifier `m`, of a line. A pattern of mode `expression` is the text of an
expression itself and is searched for anywhere.
-/

namespace PathPattern

def specialChars : List Char :=
  ['-', '[', ']', '/', '\x7b', '\x7d', '(', ')', '*', '+', '?', '.', '\\', '^', '$', '|']

def escape (literal : Text) : Text :=
  literal.flatMap fun c => if specialChars.contains c then ['\\', c] else [c]

def Segment.expressionText : Segment → Text
  | literal text => escape text
  | _ => "(?:.*)".toList

def expressionText (mode : Mode) (pattern : Text) (segments : List Segment) : Text :=
  match mode with
  | .expression => pattern
  | .static => ['^'] ++ segments.flatMap Segment.expressionText ++ "/?$".toList
  | _ => ['^'] ++ segments.flatMap Segment.expressionText ++ ['$']

def Modifiers.flags (modifiers : Modifiers) : Expression.Flags where
  ignoreCase := modifiers.ignoreCase
  multiline := modifiers.multiline
  dotAll := false
  returns := false
  unicode := true
  spaced := false

structure Matcher where
  pattern : Text
  mode : Mode
  modifiers : Modifiers
  segments : List Segment
  expressionText : Text
  expression : Expression
deriving DecidableEq, Repr

namespace Matcher

def compile (pattern : Text) (mode : Mode) (modifiers : Text) : Except Fault Matcher :=
  match Modifiers.parse modifiers with
  | .error letter => .error (.badModifier letter)
  | .ok flags =>
      if mode = .strict && !flags.isEmpty then .error (.modifiersNotAllowed modifiers)
      else
        let segments := mode.segments pattern
        let text := PathPattern.expressionText mode pattern segments
        match Expression.ofText? flags.flags text with
        | some expression =>
            if expression.fits then .ok ⟨pattern, mode, flags, segments, text, expression⟩
            else .error (.badExpression pattern)
        | none => .error (.badExpression pattern)

def compileNamed (pattern modeName modifiers : Text) : Except Fault Matcher :=
  match Mode.ofName? modeName with
  | some mode => compile pattern mode modifiers
  | none => .error (.unknownMode modeName)

def test (matcher : Matcher) (input : Text) : Bool := matcher.expression.occursIn input

def tokens (matcher : Matcher) : List Text := tokenNames matcher.segments

end Matcher
end PathPattern
