import PathPattern.Expression
import PathPattern.Unicode.CaseFolding
import PathPattern.Reading

namespace PathPattern.Expression

structure Flags where
  ignoreCase : Bool
  multiline : Bool
  dotAll : Bool
  returns : Bool
  unicode : Bool
  spaced : Bool
deriving DecidableEq, Repr

namespace Flags

-- Sets or clears the flag of a letter. The letter `U` exchanges preferences between spans, which no test shows.
def assign (flags : Flags) (on : Bool) (letter : Char) : Flags :=
  match letter with
  | 'i' => { flags with ignoreCase := on }
  | 'm' => { flags with multiline := on }
  | 's' => { flags with dotAll := on }
  | 'R' => { flags with returns := on }
  | 'u' => { flags with unicode := on }
  | 'x' => { flags with spaced := on }
  | _ => flags

def update (flags : Flags) (items : Text) : Flags :=
  let (on, off) := (items.takeWhile (· ≠ '-'), (items.dropWhile (· ≠ '-')).drop 1)
  off.foldl (·.assign false ·) (on.foldl (·.assign true ·) flags)

def closeCase (flags : Flags) (set : CharSet) : CharSet :=
  if !flags.ignoreCase then set
  else if flags.unicode then set.closeCase
  else set.closeAsciiCase

def complement? (flags : Flags) (set : CharSet) : Option CharSet :=
  if flags.unicode then some set.complement else none

def charSet (flags : Flags) (c : Char) : CharSet :=
  if !flags.ignoreCase then .single c
  else if flags.unicode then .ofCodes (Unicode.caseVariants c.toNat)
  else (CharSet.single c).closeAsciiCase

def dot? (flags : Flags) : Option CharSet :=
  if !flags.unicode then none
  else if flags.dotAll then some .all
  else if flags.returns then some .exceptLineEnds
  else some .exceptLineFeed

def lineStart (flags : Flags) : Look := if flags.multiline then .lineStart flags.returns else .textStart

def lineEnd (flags : Flags) : Look := if flags.multiline then .lineEnd flags.returns else .textEnd

end Flags

def dropBlanks (comment : Bool) : Text → Text
  | [] => []
  | c :: rest =>
      if comment then dropBlanks (c ≠ '\n') rest
      else if Unicode.isSpace c then dropBlanks false rest
      else if c = '#' then dropBlanks true rest
      else c :: rest

theorem drop_blanks_length (comment : Bool) (input : Text) :
    (dropBlanks comment input).length ≤ input.length := by
  induction input generalizing comment with
  | nil => simp [dropBlanks]
  | cons c rest ih =>
      have inside := ih (decide (c ≠ '\n'))
      have blank := ih false
      have opened := ih true
      simp only [dropBlanks]
      split
      · simp only [List.length_cons]; omega
      · split
        · simp only [List.length_cons]; omega
        · split
          · simp only [List.length_cons]; omega
          · exact Nat.le_refl _

def Flags.afterBlanks (flags : Flags) (input : Text) : Rest input :=
  if flags.spaced then ⟨dropBlanks false input, drop_blanks_length false input⟩ else .all input

def Flags.skipBlanks (flags : Flags) : Reading Unit := .trim flags.afterBlanks

def Flags.take (flags : Flags) (accepts : Char → Bool) : Reading Text := .takeSpaced flags.afterBlanks accepts

end PathPattern.Expression
