import PathPattern.Configuration
import PathPattern.Toml.Document
import PathPattern.Toml.Range

namespace PathPattern

open Toml (Value Entries)

def optionalField? {α : Type} (entries : Entries) (name : String) (read? : Value → Option α) : Option (Option α) :=
  match entries.get? name.toList with
  | none => some none
  | some value => (read? value).map some

def Toml.Value.text? : Value → Option Text
  | .text value => some value
  | _ => none

def Toml.Value.boolean? : Value → Option Bool
  | .boolean value => some value
  | _ => none

def Toml.Value.mode? (value : Value) : Option Mode := value.text? >>= Mode.ofName?

namespace Declaration

def ofEntries? (entries : Entries) : Option Declaration := do
  guard (Toml.entriesAreHeld entries)
  let name ← (← optionalField? entries "name" Value.text?)
  let pattern ← (← optionalField? entries "pattern" Value.text?)
  let mode ← optionalField? entries "mode" Value.mode?
  let modifiers ← optionalField? entries "modifiers" Value.text?
  return ⟨name, pattern, mode.getD .default, modifiers⟩

-- From the elements of an array; all four are required, and what comes after them is not looked at.
def ofItems? : List Value → Option Declaration
  | name :: pattern :: mode :: modifiers :: _ => do
      return ⟨← name.text?, ← pattern.text?, ← mode.mode?, ← modifiers.text?⟩
  | _ => none

def ofValue? : Value → Option Declaration
  | .table _ entries => ofEntries? entries
  | .array _ items => ofItems? items
  | _ => none

end Declaration

namespace Configuration

def declarations? : Value → Option (List Declaration)
  | .array _ items => items.mapM Declaration.ofValue?
  | _ => none

def ofEntries? (entries : Entries) : Option Configuration := do
  guard (Toml.entriesAreHeld (entries.remove "patterns".toList))
  let root ← optionalField? entries "root" Value.boolean?
  let declarations ← optionalField? entries "patterns" declarations?
  return ⟨root.getD false, declarations.getD []⟩

def ofText? (content : Text) : Option Configuration := Toml.document? content >>= ofEntries?

def parse (content : Text) (path : FilePath) : Except Fault Configuration :=
  match ofText? content with
  | none => .error (.malformedDocument path)
  | some configuration =>
      match configuration.validate path with
      | .ok _ => .ok configuration
      | .error fault => .error fault

end Configuration
end PathPattern
