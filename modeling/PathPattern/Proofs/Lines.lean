import PathPattern.Proofs.Acceptance

set_option autoImplicit false

namespace PathPattern.Matcher

theorem multiline_accepts_iff (pattern letters more input : Text) (mode : Mode) (matcher lines : Matcher)
    (anchored : mode = .static ∨ mode = .wildcard ∨ mode = .template ∨ mode = .symbolic)
    (whole : 'm' ∉ letters) (added : more.Perm ('m' :: letters))
    (compiled : compile pattern mode letters = .ok matcher) (compiledLines : compile pattern mode more = .ok lines) :
    lines.test input = true ↔
      ∃ front taken rest, input = front ++ taken ++ rest ∧ (front = [] ∨ front.getLast? = some '\n') ∧
        (rest = [] ∨ rest.head? = some '\n') ∧ matcher.test taken = true := by
  have notExpression : mode ≠ .expression := by rcases anchored with rfl | rfl | rfl | rfl <;> simp
  have sameCase : lines.modifiers.ignoreCase = matcher.modifiers.ignoreCase := by
    rw [ignores_case notExpression compiledLines, ignores_case notExpression compiled]
    simp [added.mem_iff]
  have multiline : lines.modifiers.multiline = true := by
    rw [takes_lines notExpression compiledLines]
    simp [added.mem_iff]
  have taken := test_iff_whole notExpression compiled whole
  rw [test_iff_parts notExpression compiledLines, Segment.admits_congr _ _ sameCase]
  simp only [taken, Modifiers.StartsAfter, Modifiers.EndsBefore, multiline, true_and]
  apply Iff.intro
  · intro cut
    obtain ⟨front, parts, tail, rest, rfl, starts, admitted, trails, ends⟩ := cut
    exact ⟨front, parts.flatten ++ tail, rest, by simp, starts, ends, parts, tail, rfl, admitted, trails⟩
  · intro cut
    obtain ⟨front, _, rest, rfl, starts, ends, parts, tail, rfl, admitted, trails⟩ := cut
    exact ⟨front, parts, tail, rest, by simp, starts, admitted, trails, ends⟩

theorem multiline_accepts_two_lines :
    ∃ lines, compile "/a\n".toList .static "mg".toList = .ok lines ∧ lines.test "x\n/a\n/\n\n".toList = true := by
  obtain ⟨matcher, compiled⟩ := compiles_when_short "/a\n".toList ['g'] .static ⟨false, true, false⟩
    (by simp) rfl (by simp) (by simp) (by decide)
  obtain ⟨lines, compiledLines⟩ := compiles_when_short "/a\n".toList "mg".toList .static ⟨false, true, true⟩
    (by simp) rfl (by simp) (by simp) (by decide)
  have taken : matcher.test "/a\n/".toList = true :=
    (accepts_literal_iff (Or.inr rfl) compiled (by simp) (by simp) _).mpr ⟨['/'], rfl, Or.inr ⟨rfl, rfl⟩⟩
  have accepted := multiline_accepts_iff _ ['g'] "mg".toList "x\n/a\n/\n\n".toList .static matcher lines (Or.inl rfl)
    (by simp) (.refl _) compiled compiledLines
  exact ⟨lines, compiledLines, accepted.mpr ⟨"x\n".toList, "/a\n/".toList, "\n\n".toList, rfl, by decide, by decide, taken⟩⟩

end PathPattern.Matcher
