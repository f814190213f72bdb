import PathPattern.Text

namespace PathPattern

inductive Mode where
  | strict
  | static
  | wildcard
  | template
  | symbolic
  | expression
deriving DecidableEq, Repr, Inhabited

namespace Mode

def all : List Mode := [strict, static, wildcard, template, symbolic, expression]

def default : Mode := strict

def name : Mode → Text
  | strict => "strict".toList
  | static => "static".toList
  | wildcard => "wildcard".toList
  | template => "template".toList
  | symbolic => "symbolic".toList
  | expression => "regexp".toList

def ofName? (text : Text) : Option Mode := all.find? fun mode => mode.name = text

def hasTokens : Mode → Bool
  | template | symbolic => true
  | _ => false

theorem mem_all (mode : Mode) : mode ∈ all := by
  cases mode <;> decide

theorem of_name_name (mode : Mode) : ofName? mode.name = some mode := by
  cases mode <;> decide

theorem of_name_none_iff (text : Text) : ofName? text = none ↔ ∀ mode : Mode, mode.name ≠ text := by
  simp [ofName?, mem_all]

theorem name_of_of_name {text : Text} {mode : Mode} (found : ofName? text = some mode) :
    mode.name = text := by
  simpa using List.find?_some found

end Mode
end PathPattern
