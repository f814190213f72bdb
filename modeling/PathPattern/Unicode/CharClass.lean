import PathPattern.Unicode.Property

namespace PathPattern.Unicode

def space : CharSet :=
  ⟨[(0x9, 0xd), (0x20, 0x20), (0x85, 0x85), (0xa0, 0xa0), (0x1680, 0x1680), (0x2000, 0x200a),
    (0x2028, 0x2029), (0x202f, 0x202f), (0x205f, 0x205f), (0x3000, 0x3000)]⟩

def isSpace (c : Char) : Bool := space.contains c

def known (name : String) : CharSet := (property? name.toList).getD .none

def digit : CharSet := known "nd"

def word : CharSet :=
  .unionAll [known "alphabetic", known "mark", known "nd", known "pc", known "joincontrol"]

def alphabetic : CharSet := known "alphabetic"

def alphanumeric : CharSet := .unionAll [alphabetic, known "number"]

def asciiDigit : CharSet := ⟨[(0x30, 0x39)]⟩
def asciiSpace : CharSet := ⟨[(0x9, 0xd), (0x20, 0x20)]⟩
def asciiWord : CharSet := ⟨[(0x30, 0x39), (0x41, 0x5a), (0x5f, 0x5f), (0x61, 0x7a)]⟩

def asciiClass? (name : Text) : Option CharSet :=
  let classes : List (String × List (Nat × Nat)) := [
    ("alnum", [(0x30, 0x39), (0x41, 0x5a), (0x61, 0x7a)]),
    ("alpha", [(0x41, 0x5a), (0x61, 0x7a)]),
    ("ascii", [(0x0, 0x7f)]),
    ("blank", [(0x9, 0x9), (0x20, 0x20)]),
    ("cntrl", [(0x0, 0x1f), (0x7f, 0x7f)]),
    ("digit", [(0x30, 0x39)]),
    ("graph", [(0x21, 0x7e)]),
    ("lower", [(0x61, 0x7a)]),
    ("print", [(0x20, 0x7e)]),
    ("punct", [(0x21, 0x2f), (0x3a, 0x40), (0x5b, 0x60), (0x7b, 0x7e)]),
    ("space", [(0x9, 0xd), (0x20, 0x20)]),
    ("upper", [(0x41, 0x5a)]),
    ("word", [(0x30, 0x39), (0x41, 0x5a), (0x5f, 0x5f), (0x61, 0x7a)]),
    ("xdigit", [(0x30, 0x39), (0x41, 0x46), (0x61, 0x66)])]
  (classes.find? fun (other, _) => other.toList = name).map fun (_, ranges) => ⟨ranges⟩

end PathPattern.Unicode
