import Mathlib.Data.List.Nodup
import Mathlib.Data.List.Pairwise
import PathPattern.Matcher
import PathPattern.Proofs.Search

set_option autoImplicit false

namespace PathPattern

theorem CharSet.contains_of_codes (codes : List Nat) (c : Char) :
    (CharSet.ofCodes codes).contains c = true ↔ c.toNat ∈ codes := by
  simp only [CharSet.contains, CharSet.ofCodes, List.any_map, List.any_eq_true, Function.comp_apply,
    Bool.and_eq_true, decide_eq_true_eq]
  constructor
  · intro inside
    obtain ⟨code, member, low, high⟩ := inside
    exact Nat.le_antisymm low high ▸ member
  · intro member
    exact ⟨c.toNat, member, Nat.le_refl _, Nat.le_refl _⟩

theorem Unicode.self_variant (code : Nat) : code ∈ Unicode.caseVariants code := by
  unfold Unicode.caseVariants
  split
  · rename_i orbit found
    simpa using List.find?_some found
  · simp

theorem Unicode.caseless_below_letters (code : Nat) (below : code < 0x41) : Unicode.caseVariants code = [code] := by
  have letters : ∀ orbit ∈ Unicode.caseOrbits, ∀ code ∈ orbit, 0x41 ≤ code := by decide +kernel
  have outside : Unicode.caseOrbits.find? (fun orbit => orbit.contains code) = none := by
    apply List.find?_eq_none.mpr
    intro orbit known member
    have bound := letters orbit known code (by simpa using member)
    omega
  rw [Unicode.caseVariants, outside]

-- Marking each code once leaves all of them, so none comes twice.
theorem Unicode.orbits_nodup : Unicode.caseOrbits.flatten.Nodup := by
  have marked : (Expression.fresh 0 Unicode.caseOrbits.flatten).1 = Unicode.caseOrbits.flatten := by decide +kernel
  rw [← marked]
  exact Expression.nodup_fresh 0 _

theorem Unicode.orbit_unique (first second : List Nat) (isFirst : first ∈ Unicode.caseOrbits)
    (isSecond : second ∈ Unicode.caseOrbits) (code : Nat) (inFirst : code ∈ first) (inSecond : code ∈ second) :
    first = second := by
  have apart := (List.nodup_flatten.mp Unicode.orbits_nodup).2
  by_cases same : first = second
  · exact same
  · have symmetric : Std.Symm (@List.Disjoint Nat) := ⟨fun _ _ apart _ inSecond inFirst => apart inFirst inSecond⟩
    have disjoint := apart.forall isFirst isSecond same
    exact absurd inSecond (disjoint inFirst)

theorem Unicode.mem_variants_iff (code other : Nat) :
    other ∈ Unicode.caseVariants code ↔
      other = code ∨ ∃ orbit ∈ Unicode.caseOrbits, code ∈ orbit ∧ other ∈ orbit := by
  cases found : Unicode.caseOrbits.find? (fun orbit => orbit.contains code) with
  | none =>
      have outside : ∀ orbit ∈ Unicode.caseOrbits, code ∉ orbit := by simpa using found
      rw [Unicode.caseVariants, found, List.mem_singleton]
      apply Iff.intro
      · exact Or.inl
      · intro variant
        rcases variant with same | ⟨orbit, known, inside, -⟩
        · exact same
        · exact absurd inside (outside orbit known)
  | some orbit =>
      have known := List.mem_of_find?_eq_some found
      have inside : code ∈ orbit := by simpa using List.find?_some found
      rw [Unicode.caseVariants, found]
      apply Iff.intro
      · intro member
        exact Or.inr ⟨orbit, known, inside, member⟩
      · intro variant
        rcases variant with rfl | ⟨second, isSecond, also, member⟩
        · exact inside
        · rw [Unicode.orbit_unique orbit second known isSecond code inside also]
          exact member

def CaseVariant (c d : Char) : Prop :=
  d = c ∨ ∃ orbit ∈ Unicode.caseOrbits, c.toNat ∈ orbit ∧ d.toNat ∈ orbit

theorem case_variant_symm (c d : Char) (variant : CaseVariant c d) : CaseVariant d c := by
  rcases variant with rfl | ⟨orbit, known, first, second⟩
  · exact Or.inl rfl
  · exact Or.inr ⟨orbit, known, second, first⟩

theorem case_variant_iff (c d : Char) : CaseVariant c d ↔ d.toNat ∈ Unicode.caseVariants c.toNat := by
  have codes : d = c ↔ d.toNat = c.toNat :=
    ⟨fun same => congrArg Char.toNat same, fun same => Char.ext (UInt32.toNat_inj.mp same)⟩
  rw [CaseVariant, Unicode.mem_variants_iff, codes]

instance (c d : Char) : Decidable (CaseVariant c d) := decidable_of_iff _ (case_variant_iff c d).symm

theorem caseless_variant (c d : Char) (below : c.toNat < 0x41) (variant : CaseVariant c d) : d = c := by
  rw [case_variant_iff, Unicode.caseless_below_letters _ below, List.mem_singleton] at variant
  exact Char.ext (UInt32.toNat_inj.mp variant)

theorem Modifiers.char_set_cases (modifiers : Modifiers) (c d : Char) :
    (modifiers.flags.charSet c).contains d = true ↔
      if modifiers.ignoreCase then d.toNat ∈ Unicode.caseVariants c.toNat else d = c := by
  cases insensitive : modifiers.ignoreCase with
  | false => simp [Expression.Flags.charSet, Modifiers.flags, insensitive, CharSet.contains_single]
  | true => simp [Expression.Flags.charSet, Modifiers.flags, insensitive, CharSet.contains_of_codes]

theorem Modifiers.char_set_self (modifiers : Modifiers) (c : Char) :
    (modifiers.flags.charSet c).contains c = true := by
  rw [Modifiers.char_set_cases]
  split
  · exact Unicode.self_variant c.toNat
  · rfl

theorem Modifiers.char_set_slash (modifiers : Modifiers) (c : Char) :
    (modifiers.flags.charSet '/').contains c = true ↔ c = '/' := by
  rw [Modifiers.char_set_cases, Unicode.caseless_below_letters _ (by decide), List.mem_singleton]
  split
  · constructor
    · intro same
      exact Char.ext (UInt32.toNat_inj.mp same)
    · rintro rfl
      rfl
  · exact Iff.rfl

end PathPattern
