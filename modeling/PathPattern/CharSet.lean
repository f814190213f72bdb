import PathPattern.Text

namespace PathPattern

structure CharSet where
  ranges : List (Nat × Nat)
deriving DecidableEq, Repr, Inhabited

namespace CharSet

def top : Nat := 0x10ffff

def contains (set : CharSet) (c : Char) : Bool :=
  set.ranges.any fun (low, high) => low ≤ c.toNat && c.toNat ≤ high

def none : CharSet := ⟨[]⟩
def all : CharSet := ⟨[(0, top)]⟩
def ascii : CharSet := ⟨[(0, 0x7f)]⟩

def ofCodes (codes : List Nat) : CharSet := ⟨codes.map fun code => (code, code)⟩

def single (c : Char) : CharSet := ofCodes [c.toNat]

def joinFrom (low high : Nat) : List (Nat × Nat) → List (Nat × Nat)
  | [] => [(low, high)]
  | (first, last) :: rest =>
      if first ≤ high + 1 then joinFrom low (max high last) rest
      else (low, high) :: joinFrom first last rest

def tidy (set : CharSet) : CharSet :=
  match set.ranges.mergeSort fun a b => a.1 ≤ b.1 with
  | [] => none
  | (low, high) :: rest => ⟨joinFrom low high rest⟩

def gapsFrom (start : Nat) : List (Nat × Nat) → List (Nat × Nat)
  | [] => if start ≤ top then [(start, top)] else []
  | (low, high) :: rest =>
      if start < low then (start, low - 1) :: gapsFrom (high + 1) rest else gapsFrom (high + 1) rest

def complement (set : CharSet) : CharSet := ⟨gapsFrom 0 set.tidy.ranges⟩

def union (a b : CharSet) : CharSet := tidy ⟨a.ranges ++ b.ranges⟩

def unionAll (sets : List CharSet) : CharSet := tidy ⟨sets.flatMap ranges⟩

def intersection (a b : CharSet) : CharSet := (a.complement.union b.complement).complement

def difference (a b : CharSet) : CharSet := a.intersection b.complement

def symmetricDifference (a b : CharSet) : CharSet := (a.difference b).union (b.difference a)

def isAscii (set : CharSet) : Bool := set.ranges.all fun (_, high) => high ≤ 0x7f

def exceptLineFeed : CharSet := ⟨[(0, 9), (11, top)]⟩

def exceptLineEnds : CharSet := ⟨[(0, 9), (11, 12), (14, top)]⟩

theorem contains_single (c d : Char) : (single c).contains d = true ↔ d = c := by
  simp only [contains, single, ofCodes, List.map_cons, List.map_nil, List.any_cons, List.any_nil,
    Bool.or_false, Bool.and_eq_true, decide_eq_true_eq]
  constructor
  · intro ⟨low, high⟩
    have same : d.toNat = c.toNat := by omega
    exact Char.ext (UInt32.toNat_inj.mp same)
  · rintro rfl
    simp

theorem contains_except_line_feed (c : Char) : exceptLineFeed.contains c = true ↔ c ≠ '\n' := by
  have bound : c.toNat ≤ top := by
    have := c.valid
    simp only [UInt32.isValidChar, Nat.isValidChar] at this
    have : c.toNat = c.val.toNat := rfl
    simp only [top]
    omega
  simp only [contains, exceptLineFeed, List.any_cons, List.any_nil, Bool.or_false, Bool.or_eq_true,
    Bool.and_eq_true, decide_eq_true_eq]
  constructor
  · rintro ranges rfl
    simp at ranges
  · intro different
    have : c.toNat ≠ 10 := fun same => different (Char.ext (UInt32.toNat_inj.mp same))
    omega

end CharSet
end PathPattern
