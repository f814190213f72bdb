import PathPattern.Proofs.Language
import PathPattern.Proofs.Weight

set_option autoImplicit false

namespace PathPattern.Matcher

variable {pattern letters : Text} {mode : Mode} {matcher : Matcher}

theorem test_iff_parts (anchored : mode ≠ .expression) (compiled : compile pattern mode letters = .ok matcher)
    (input : Text) :
    matcher.test input = true ↔
      ∃ front parts tail rest, input = front ++ (parts.flatten ++ (tail ++ rest)) ∧
        matcher.modifiers.StartsAfter front ∧
        List.Forall₂ (Segment.Admits matcher.modifiers) (mode.segments pattern) parts ∧ mode.Trails tail ∧
        matcher.modifiers.EndsBefore rest := by
  obtain ⟨flags, -, -, rfl⟩ := compiled_fields anchored compiled
  exact Expression.occurs_anchored_iff flags mode (mode.segments pattern) input

theorem test_of_stands (anchored : mode ≠ .expression) (compiled : compile pattern mode letters = .ok matcher)
    (parts : List Text) (stands : List.Forall₂ Segment.Stands (mode.segments pattern) parts) :
    matcher.test parts.flatten = true := by
  have admitted := stands.imp (Segment.stands_admitted matcher.modifiers)
  have whole := test_iff_parts anchored compiled parts.flatten
  exact whole.mpr ⟨[], parts, [], [], by simp, Or.inl rfl, admitted, Or.inl rfl, Or.inl rfl⟩

theorem test_iff_whole (anchored : mode ≠ .expression) (compiled : compile pattern mode letters = .ok matcher)
    (whole : 'm' ∉ letters) (input : Text) :
    matcher.test input = true ↔
      ∃ parts tail, input = parts.flatten ++ tail ∧
        List.Forall₂ (Segment.Admits matcher.modifiers) (mode.segments pattern) parts ∧ mode.Trails tail := by
  have oneLine : matcher.modifiers.multiline = false := by
    rw [takes_lines anchored compiled, decide_eq_false whole]
  rw [test_iff_parts anchored compiled]
  apply Iff.intro
  · intro cut
    obtain ⟨front, parts, tail, rest, rfl, starts, admitted, trails, ends⟩ := cut
    obtain rfl : front = [] := by simpa [Modifiers.StartsAfter, oneLine] using starts
    obtain rfl : rest = [] := by simpa [Modifiers.EndsBefore, oneLine] using ends
    exact ⟨parts, tail, by simp, admitted, trails⟩
  · intro cut
    obtain ⟨parts, tail, rfl, admitted, trails⟩ := cut
    exact ⟨[], parts, tail, [], by simp, Or.inl rfl, admitted, trails, Or.inl rfl⟩

theorem test_iff_stands (anchored : mode ≠ .expression) (compiled : compile pattern mode letters = .ok matcher)
    (sensitive : 'i' ∉ letters) (whole : 'm' ∉ letters) (input : Text) :
    matcher.test input = true ↔
      ∃ parts tail, input = parts.flatten ++ tail ∧ List.Forall₂ Segment.Stands (mode.segments pattern) parts ∧
        mode.Trails tail := by
  have caseCounts : matcher.modifiers.ignoreCase = false := by
    rw [ignores_case anchored compiled, decide_eq_false sensitive]
  rw [test_iff_whole anchored compiled whole, Segment.admits_eq_stands matcher.modifiers caseCounts]

theorem accepts_iff_pieces (pattern letters input : Text) (mode : Mode) (matcher : Matcher)
    (placeholders : mode = .wildcard ∨ mode = .template ∨ mode = .symbolic)
    (sensitive : 'i' ∉ letters) (whole : 'm' ∉ letters) (compiled : compile pattern mode letters = .ok matcher) :
    matcher.test input = true ↔
      ∃ pieces, pieces.flatten = input ∧ List.Forall₂ Segment.Stands (mode.segments pattern) pieces := by
  have anchored : mode ≠ .expression := by rcases placeholders with rfl | rfl | rfl <;> simp
  have untrailed : mode ≠ .static := by rcases placeholders with rfl | rfl | rfl <;> simp
  rw [test_iff_stands anchored compiled sensitive whole]
  constructor
  · intro cut
    rcases cut with ⟨parts, tail, rfl, stands, rfl | ⟨static, -⟩⟩
    · exact ⟨parts, by simp, stands⟩
    · exact absurd static untrailed
  · intro cut
    obtain ⟨pieces, rfl, stands⟩ := cut
    exact ⟨pieces, [], by simp, stands, Or.inl rfl⟩

theorem accepts_iff_pieces_two_lines :
    ∃ matcher, compile "/{a}\n{}.*".toList .template ['g'] = .ok matcher ∧
      matcher.test "/x/y\n.*".toList = true := by
  obtain ⟨matcher, compiled⟩ := compiles_when_short "/{a}\n{}.*".toList ['g'] .template ⟨false, true, false⟩
    (by simp) rfl (by simp) (by simp) (by decide)
  have segments : Mode.template.segments "/{a}\n{}.*".toList =
      [.literal ['/'], .token ['a'] "{a}".toList, .literal ['\n'], .token [] "{}".toList, .literal ".*".toList] := by
    decide +kernel
  refine ⟨matcher, compiled, (accepts_iff_pieces _ _ _ .template matcher (by simp) (by simp) (by simp) compiled).mpr ?_⟩
  refine ⟨[['/'], "x/y".toList, ['\n'], [], ".*".toList], rfl, ?_⟩
  rw [segments]
  exact .cons rfl (.cons (by decide) (.cons rfl (.cons (by decide) (.cons rfl .nil))))

theorem accepts_literal_iff (anchored : mode = .strict ∨ mode = .static)
    (compiled : compile pattern mode letters = .ok matcher) (sensitive : 'i' ∉ letters) (whole : 'm' ∉ letters)
    (input : Text) : matcher.test input = true ↔ ∃ tail, input = pattern ++ tail ∧ mode.Trails tail := by
  have notExpression : mode ≠ .expression := by rcases anchored with rfl | rfl <;> simp
  -- A pattern of a literal mode is one segment, or none if it is empty.
  have stands : ∀ parts : List Text, List.Forall₂ Segment.Stands (mode.segments pattern) parts ↔
      parts = if pattern = [] then [] else [pattern] := by
    intro parts
    rw [literal_segments mode anchored]
    split
    · exact List.forall₂_nil_left_iff
    · rw [List.forall₂_cons_left_iff]
      constructor
      · intro cut
        obtain ⟨part, more, stands, none, rfl⟩ := cut
        rw [List.forall₂_nil_left_iff.mp none, show part = pattern from stands]
      · rintro rfl
        exact ⟨pattern, [], rfl, .nil, rfl⟩
  have joined : (if pattern = [] then [] else [pattern]).flatten = pattern := by
    split
    · rename_i empty
      exact empty.symm
    · simp
  rw [test_iff_stands notExpression compiled sensitive whole]
  simp only [stands]
  constructor
  · intro cut
    obtain ⟨parts, tail, rfl, rfl, trails⟩ := cut
    exact ⟨tail, by rw [joined], trails⟩
  · intro cut
    obtain ⟨tail, rfl, trails⟩ := cut
    exact ⟨_, tail, by rw [joined], rfl, trails⟩

theorem accepts_iff_itself (pattern letters input : Text) (mode : Mode) (matcher : Matcher)
    (literal : mode = .strict ∨ mode = .static ∧ (letters = [] ∨ letters = ['g']))
    (compiled : compile pattern mode letters = .ok matcher) :
    matcher.test input = true ↔ input = pattern ∨ mode = .static ∧ input = pattern ++ ['/'] := by
  have plain : 'i' ∉ letters ∧ 'm' ∉ letters := by
    rcases literal with rfl | ⟨rfl, rfl | rfl⟩
    · obtain ⟨flags, parsed, empty, rfl⟩ := compiled_fields (by simp) compiled
      have known := Modifiers.parse_has flags letters parsed
      rw [empty rfl] at known
      constructor
      · simpa [Modifiers.has_none] using known 'i'
      · simpa [Modifiers.has_none] using known 'm'
    · simp
    · simp
  have anchored : mode = .strict ∨ mode = .static := literal.imp_right And.left
  rw [accepts_literal_iff anchored compiled plain.1 plain.2]
  constructor
  · intro cut
    rcases cut with ⟨tail, rfl, rfl | ⟨static, rfl⟩⟩
    · exact Or.inl (List.append_nil pattern)
    · exact Or.inr ⟨static, rfl⟩
  · intro cut
    rcases cut with rfl | ⟨static, rfl⟩
    · exact ⟨[], by simp, Or.inl rfl⟩
    · exact ⟨['/'], rfl, Or.inr ⟨static, rfl⟩⟩

theorem accepts_iff_itself_slash :
    (∃ matcher, compile "/a.*\n{b}\\".toList .strict [] = .ok matcher ∧
      matcher.test "/a.*\n{b}\\".toList = true ∧ matcher.test "/a.*\n{b}\\/".toList = false) ∧
    ∃ matcher, compile "/a.*\n{b}\\".toList .static ['g'] = .ok matcher ∧
      matcher.test "/a.*\n{b}\\/".toList = true ∧ matcher.test "/aa\n{b}\\".toList = false := by
  constructor
  · obtain ⟨matcher, compiled⟩ := compiles_when_short "/a.*\n{b}\\".toList [] .strict .none (by simp) rfl
      (fun _ => rfl) (by simp) (by decide)
    have accepts := fun input => accepts_iff_itself _ _ input .strict matcher (Or.inl rfl) compiled
    refine ⟨matcher, compiled, (accepts _).mpr (Or.inl rfl), ?_⟩
    rw [← Bool.not_eq_true, accepts]
    decide
  · obtain ⟨matcher, compiled⟩ := compiles_when_short "/a.*\n{b}\\".toList ['g'] .static ⟨false, true, false⟩
      (by simp) rfl (by simp) (by simp) (by decide)
    have accepts := fun input =>
      accepts_iff_itself _ _ input .static matcher (Or.inr ⟨rfl, Or.inr rfl⟩) compiled
    refine ⟨matcher, compiled, (accepts _).mpr (Or.inr ⟨rfl, by decide⟩), ?_⟩
    rw [← Bool.not_eq_true, accepts]
    decide

end PathPattern.Matcher
