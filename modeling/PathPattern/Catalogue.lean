import PathPattern.Configuration

namespace PathPattern

structure Loaded where
  configuration : Configuration
  path : FilePath
deriving DecidableEq, Repr

structure Sourced where
  declaration : Declaration
  source : FilePath
deriving DecidableEq, Repr

def Loaded.sourced (loaded : Loaded) : List Sourced :=
  loaded.configuration.declarations.map fun declaration => ⟨declaration, loaded.path⟩

structure Catalogue where
  entries : List Sourced
deriving DecidableEq, Repr

namespace Catalogue

def firsts (taken : List Text) : List Sourced → List Sourced
  | [] => []
  | sourced :: rest =>
      if sourced.declaration.name ∈ taken then firsts taken rest
      else sourced :: firsts (sourced.declaration.name :: taken) rest

def merge (cascade : List Loaded) : Catalogue := ⟨firsts [] (cascade.flatMap Loaded.sourced)⟩

def find? (catalogue : Catalogue) (name : Text) : Option Sourced :=
  catalogue.entries.find? fun sourced => sourced.declaration.name = name

def compile (catalogue : Catalogue) (name : Text) : Except Fault Matcher :=
  match catalogue.find? name with
  | none => .error (.unknownName name)
  | some sourced =>
      match sourced.declaration.compile with
      | .ok matcher => .ok matcher
      | .error cause => .error (.badDeclaration name sourced.source cause)

end Catalogue
end PathPattern
