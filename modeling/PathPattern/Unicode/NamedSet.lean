import PathPattern.CharSet

/-!
Sets of characters written down by name: ranges in hexadecimal, and look-up by a name whose letter case, blanks,
underscores and hyphens do not count. The tables written this way, and the case orbits, are those of Unicode 16.
-/

namespace PathPattern.Unicode

structure NamedSet where
  names : List String
  ranges : List String

def hexDigit (c : Char) : Nat :=
  if c.isDigit then c.toNat - '0'.toNat else c.toLower.toNat - 'a'.toNat + 10

def hexNumber (digits : Text) : Nat := digits.foldl (fun n c => 16 * n + hexDigit c) 0

def readRanges (lines : List String) : CharSet :=
  ⟨(lines.flatMap fun line => line.toList.splitOn ' ').filterMap fun range =>
    match range.splitOn '-' with
    | [code] => some (hexNumber code, hexNumber code)
    | [low, high] => some (hexNumber low, hexNumber high)
    | _ => none⟩

def NamedSet.chars (set : NamedSet) : CharSet := readRanges set.ranges

def NamedSet.find? (sets : List NamedSet) (name : Text) : Option CharSet :=
  (sets.find? fun set => set.names.any fun other => other.toList = name).map chars

end PathPattern.Unicode
