import PathPattern.FilePath

/-!
Trees of files, and what a path leads to in one.

A path is followed piece by piece, each of which must be looked up in a directory: a dot and a piece without
characters stay there, two dots go to the directory above, and a name goes to its entry. So a path through what is
missing or no directory leads nowhere, even if it comes back by two dots.
-/

namespace PathPattern

abbrev Location := List Text

inductive Entry where
  | directory
  | file (bytes : ByteArray)

structure FileTree where
  entry? : Location → Option Entry

inductive Found where
  | nothing
  -- A directory, or a file whose bytes are no text.
  | unreadable
  | text (content : Text)
deriving DecidableEq, Repr

abbrev Files := FilePath → Found

namespace FileTree

def isDirectory (tree : FileTree) (location : Location) : Bool :=
  match tree.entry? location with
  | some .directory => true
  | _ => false

def enter? (tree : FileTree) (location : Location) (piece : Text) : Option Location :=
  if !tree.isDirectory location then none
  else if FilePath.isIdle piece then some location
  else if piece = ['.', '.'] then some location.dropLast
  else if (tree.entry? (location ++ [piece])).isSome then some (location ++ [piece])
  else none

def resolve? (tree : FileTree) (directory : Location) (path : FilePath) : Option Location :=
  match path.text.head? with
  | none => none
  | some first => path.pieces.foldlM tree.enter? (if first = '/' then [] else directory)

def read (tree : FileTree) (location : Location) : Found :=
  match tree.entry? location with
  | none => .nothing
  | some .directory => .unreadable
  | some (.file bytes) =>
      match String.fromUTF8? bytes with
      | some content => .text content.toList
      | none => .unreadable

def files (tree : FileTree) (directory : Location) : Files := fun path =>
  match tree.resolve? directory path with
  | some location => tree.read location
  | none => .nothing

def empty : FileTree := ⟨fun location => if location = [] then some .directory else none⟩

def put (tree : FileTree) (location : Location) (entry : Entry) : FileTree :=
  ⟨fun other =>
    if other = location then some entry
    else if other.isPrefixOf location then some .directory
    else tree.entry? other⟩

end FileTree
end PathPattern
