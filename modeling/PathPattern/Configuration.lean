import PathPattern.Matcher

namespace PathPattern

structure Declaration where
  name : Text
  pattern : Text
  mode : Mode
  modifiers : Option Text
deriving DecidableEq, Repr

def Declaration.compile (declaration : Declaration) : Except Fault Matcher :=
  Matcher.compile declaration.pattern declaration.mode (declaration.modifiers.getD [])

structure Configuration where
  root : Bool
  declarations : List Declaration
deriving DecidableEq, Repr

namespace Configuration

def check (path : FilePath) (before : List Text) : List Declaration → Except Fault Unit
  | [] => .ok ()
  | declaration :: rest =>
      if declaration.name ∈ before then .error (.duplicateName declaration.name path)
      else
        match declaration.compile with
        | .error cause => .error (.badDeclaration declaration.name path cause)
        | .ok _ => check path (declaration.name :: before) rest

def validate (configuration : Configuration) (path : FilePath) : Except Fault Unit :=
  check path [] configuration.declarations

end Configuration
end PathPattern
