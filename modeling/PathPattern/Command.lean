import PathPattern.Cascade
import PathPattern.Command.Failure
import PathPattern.Fill

namespace PathPattern

inductive Target where
  | given (pattern : Text) (mode : Mode) (modifiers : Option Text)
  | named (name : Text)
deriving DecidableEq, Repr

inductive Command where
  | test (target : Target) (inputs : List Text)
  | fill (target : Target) (bindings : List (Text × Text))
  | inspect (target : Target)
  | showConfigurations
  | validateConfigurations
deriving DecidableEq, Repr

structure Outcome where
  code : Nat
  output : Text
  complaint : Text
deriving DecidableEq, Repr

namespace Command

def during {α : Type} (activity : Activity) : Except Fault α → Except Failure α
  | .ok a => .ok a
  | .error fault => .error ⟨activity, fault⟩

def line (text : Text) : Text := text ++ ['\n']

def matcher (surroundings : Surroundings) : Target → Except Failure Matcher
  | .given pattern mode modifiers =>
      during (.compiling pattern) (Matcher.compile pattern mode (modifiers.getD []))
  | .named name => do
      let catalogue ← during .loading (Cascade.catalogue surroundings)
      during (.resolving name) (catalogue.compile name)

def testLine (matcher : Matcher) (input : Text) : Text :=
  line ((if matcher.test input then "match" else "no match").toList ++ '\t' :: input)

def testOutcome (matcher : Matcher) (inputs : List Text) : Outcome :=
  ⟨if inputs.all matcher.test then 0 else 1, inputs.flatMap (testLine matcher), []⟩

def inspection (matcher : Matcher) : Text :=
  let modifiers := matcher.modifiers.letters
  line ("pattern:    ".toList ++ matcher.pattern) ++
    line ("mode:       ".toList ++ matcher.mode.name) ++
    line ("modifiers:  ".toList ++ if modifiers = [] then "(none)".toList else modifiers) ++
    (if matcher.mode.hasTokens then line ("tokens:     ".toList ++ Text.join ", ".toList matcher.tokens) else []) ++
    line ("expression: ".toList ++ matcher.expressionText)

def numberText (number : Nat) : Text := Nat.toDigits 10 number

def declarationText (declaration : Declaration) : Text :=
  line ("  ".toList ++ declaration.name ++ [':']) ++
    line ("    pattern: ".toList ++ declaration.pattern) ++
    line ("    mode: ".toList ++ declaration.mode.name) ++
    (match declaration.modifiers with
      | some modifiers => line ("    modifiers: ".toList ++ modifiers)
      | none => []) ++
    line []

def loadedText (loaded : Loaded) : Text :=
  line ("# Source: ".toList ++ loaded.path.text) ++
    line ("# root: ".toList ++ (if loaded.configuration.root then "true" else "false").toList) ++
    line ("# patterns: ".toList ++ numberText loaded.configuration.declarations.length) ++
    line [] ++
    loaded.configuration.declarations.flatMap declarationText

def noConfigurations : Text := line "No configuration files found.".toList

def cascadeText (surroundings : Surroundings) (cascade : List Loaded) : Text :=
  let path := surroundings.home.configurationFile
  if cascade = [] then noConfigurations
  else
    line (line "Configuration files (in cascade order):".toList) ++
      cascade.flatMap loadedText ++
      line ("User config path: ".toList ++ path.text) ++
      line ("  (".toList ++ (if surroundings.files path = .nothing then "not found" else "exists").toList ++ [')'])

def validityText (cascade : List Loaded) : Text :=
  if cascade = [] then noConfigurations
  else
    line "All configuration files are valid:".toList ++
      cascade.flatMap fun loaded =>
        line ("  ".toList ++ loaded.path.text ++ " (".toList ++
          numberText loaded.configuration.declarations.length ++ " patterns)".toList)

def attempt (surroundings : Surroundings) : Command → Except Failure Outcome
  | test target inputs => do
      return testOutcome (← matcher surroundings target) inputs
  | fill target bindings => do
      let matcher ← matcher surroundings target
      let filled ← during (.filling matcher.pattern) (matcher.fill (Bindings.first bindings))
      return ⟨0, line filled, []⟩
  | inspect target => do
      return ⟨0, inspection (← matcher surroundings target), []⟩
  | showConfigurations => do
      return ⟨0, cascadeText surroundings (← during .discovering (Cascade.discover surroundings)), []⟩
  | validateConfigurations => do
      return ⟨0, validityText (← during .validating (Cascade.discover surroundings)), []⟩

def run (surroundings : Surroundings) (command : Command) : Outcome :=
  match attempt surroundings command with
  | .ok outcome => outcome
  | .error failure => ⟨1, [], failure.text⟩

end Command
end PathPattern
