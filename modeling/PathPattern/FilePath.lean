import PathPattern.Text

namespace PathPattern

structure FilePath where
  text : Text
deriving DecidableEq, Repr

namespace FilePath

inductive Component where
  | root
  | here
  | up
  | name (name : Text)
deriving DecidableEq, Repr

def pieces (path : FilePath) : List Text := path.text.splitOn '/'

def isIdle (piece : Text) : Bool := piece = [] || piece = ['.']

def componentOf (piece : Text) : Component := if piece = ['.', '.'] then .up else .name piece

def components (path : FilePath) : List Component :=
  match path.pieces with
  | [] => []
  | first :: rest =>
      let later := (rest.filter (!isIdle ·)).map componentOf
      if first = [] then if rest = [] then [] else .root :: later
      else if first = ['.'] then .here :: later
      else componentOf first :: later

def join (directory : FilePath) (name : Text) : FilePath :=
  match directory.text.getLast? with
  | none => ⟨name⟩
  | some last => ⟨directory.text ++ (if last = '/' then name else '/' :: name)⟩

-- What names nothing in front of the last component goes with it. Without components and at the root there is none.
def parent? (path : FilePath) : Option FilePath :=
  match path.pieces with
  | [] => none
  | first :: rest =>
      match rest.reverse.dropWhile isIdle with
      | [] => if first = [] then none else some ⟨[]⟩
      | _ :: before =>
          match before.dropWhile isIdle with
          | [] => some ⟨if first = [] then ['/'] else first⟩
          | kept => some ⟨Text.join ['/'] (first :: kept.reverse)⟩

def sameComponents (a b : FilePath) : Bool := a.components = b.components

end FilePath
end PathPattern
