import PathPattern.FilePath
import PathPattern.Mode

namespace PathPattern

inductive Fault where
  | unknownMode (name : Text)
  | badModifier (letter : Char)
  | modifiersNotAllowed (modifiers : Text)
  | noTokens (mode : Mode)
  | badExpression (pattern : Text)
  | unreadableFile (path : FilePath)
  | malformedDocument (path : FilePath)
  | duplicateName (name : Text) (path : FilePath)
  | badDeclaration (name : Text) (path : FilePath) (cause : Fault)
  | unknownName (name : Text)
deriving DecidableEq, Repr

namespace Fault

def modeNames : Text := Text.join ", ".toList (Mode.all.map Mode.name)

def message : Fault → Text
  | unknownMode name => "Invalid mode '".toList ++ name ++ "': must be one of ".toList ++ modeNames
  | badModifier letter =>
      "Invalid modifier character '".toList ++ [letter] ++
        "': allowed modifiers are i, g, m (each at most once)".toList
  | modifiersNotAllowed modifiers =>
      "Modifiers '".toList ++ modifiers ++ "' are not allowed in strict mode".toList
  | noTokens mode =>
      "Cannot substitute tokens into a '".toList ++ mode.name ++
        "' pattern: only template and symbolic patterns carry tokens".toList
  | badExpression pattern => "Invalid regex pattern: ".toList ++ pattern
  | unreadableFile path => "Failed to read config file: ".toList ++ path.text
  | malformedDocument path => "Failed to parse config file: ".toList ++ path.text
  | duplicateName name path =>
      "Pattern name '".toList ++ name ++ "' is defined more than once in ".toList ++ path.text
  | badDeclaration name path _ =>
      "Named pattern '".toList ++ name ++ "' in ".toList ++ path.text ++ " does not compile".toList
  | unknownName name => "No pattern named '".toList ++ name ++ "' in any config file".toList

def causes : Fault → List Fault
  | badDeclaration _ _ cause => cause :: cause.causes
  | _ => []

def detail? : Fault → Option Text
  | badExpression _ => some "the expression is malformed or too large".toList
  | unreadableFile _ => some "the file cannot be read as text".toList
  | malformedDocument _ => some "the document is malformed".toList
  | _ => none

end Fault
end PathPattern
