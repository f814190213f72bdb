import PathPattern.Text

namespace PathPattern

structure Modifiers where
  ignoreCase : Bool
  -- Repeated search; a yes-or-no test does not depend on it.
  everywhere : Bool
  multiline : Bool
deriving DecidableEq, Repr

namespace Modifiers

def none : Modifiers := ⟨false, false, false⟩

def add? (flags : Modifiers) (letter : Char) : Option Modifiers :=
  if letter = 'i' then if flags.ignoreCase then .none else some { flags with ignoreCase := true }
  else if letter = 'g' then if flags.everywhere then .none else some { flags with everywhere := true }
  else if letter = 'm' then if flags.multiline then .none else some { flags with multiline := true }
  else .none

def addAll (flags : Modifiers) : Text → Except Char Modifiers
  | [] => .ok flags
  | letter :: rest =>
      match flags.add? letter with
      | some more => more.addAll rest
      | .none => .error letter

def parse (letters : Text) : Except Char Modifiers := none.addAll letters

def letters (flags : Modifiers) : Text :=
  (if flags.ignoreCase then ['i'] else []) ++
    (if flags.everywhere then ['g'] else []) ++
    (if flags.multiline then ['m'] else [])

def isEmpty (flags : Modifiers) : Bool :=
  !(flags.ignoreCase || flags.everywhere || flags.multiline)

theorem is_empty_iff (flags : Modifiers) : flags.isEmpty = true ↔ flags = none := by
  rcases flags with ⟨i, g, m⟩
  cases i <;> cases g <;> cases m <;> decide

theorem parse_letters (flags : Modifiers) : parse flags.letters = .ok flags := by
  rcases flags with ⟨i, g, m⟩
  cases i <;> cases g <;> cases m <;> rfl

end Modifiers
end PathPattern
