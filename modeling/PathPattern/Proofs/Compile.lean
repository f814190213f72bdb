import PathPattern.Proofs.Anchored
import PathPattern.Proofs.Modifiers

set_option autoImplicit false

namespace PathPattern.Matcher

variable {pattern letters : Text} {mode : Mode} {matcher : Matcher}

theorem compile_parsed (flags : Modifiers) (parsed : Modifiers.parse letters = .ok flags) :
    compile pattern mode letters =
      if mode = .strict ∧ letters ≠ [] then .error (.modifiersNotAllowed letters)
      else
        match Expression.ofText? flags.flags
          (PathPattern.expressionText mode pattern (mode.segments pattern)) with
        | some expression =>
            if expression.fits then
              .ok ⟨pattern, mode, flags, mode.segments pattern,
                PathPattern.expressionText mode pattern (mode.segments pattern), expression⟩
            else .error (.badExpression pattern)
        | none => .error (.badExpression pattern) := by
  have loudly : (decide (mode = .strict) && !flags.isEmpty) = true ↔ mode = .strict ∧ letters ≠ [] := by
    simp [← Modifiers.parsed_empty_iff flags letters parsed]
  rw [compile, parsed]
  by_cases loud : mode = .strict ∧ letters ≠ []
  · rw [if_pos loud]
    exact if_pos (loudly.mpr loud)
  · rw [if_neg loud]
    exact if_neg (mt loudly.mp loud)

theorem compile_ok_iff :
    compile pattern mode letters = .ok matcher ↔
      ∃ flags, Modifiers.parse letters = .ok flags ∧ (mode = .strict → letters = []) ∧
        ∃ expression,
          Expression.ofText? flags.flags (PathPattern.expressionText mode pattern (mode.segments pattern)) =
            some expression ∧
          expression.fits = true ∧
          matcher = ⟨pattern, mode, flags, mode.segments pattern,
            PathPattern.expressionText mode pattern (mode.segments pattern), expression⟩ := by
  cases parsed : Modifiers.parse letters with
  | error letter => simp [compile, parsed]
  | ok flags =>
      rw [compile_parsed flags parsed]
      simp only [Except.ok.injEq, exists_eq_left']
      by_cases loud : mode = .strict ∧ letters ≠ []
      · rw [if_pos loud]
        simp [loud]
      · have silent : mode = .strict → letters = [] := by simpa using loud
        rw [if_neg loud, and_iff_right silent]
        cases Expression.ofText? flags.flags (PathPattern.expressionText mode pattern (mode.segments pattern)) with
        | none => simp
        | some expression =>
            by_cases small : expression.fits = true
            · simpa [small] using eq_comm
            · simp [small]

theorem compile_error_iff (fault : Fault) :
    compile pattern mode letters = .error fault ↔
      (∃ letter, Modifiers.parse letters = .error letter ∧ fault = .badModifier letter) ∨
        ∃ flags, Modifiers.parse letters = .ok flags ∧
          (mode = .strict ∧ letters ≠ [] ∧ fault = .modifiersNotAllowed letters ∨
            (mode = .strict → letters = []) ∧ fault = .badExpression pattern ∧
              ∀ expression, Expression.ofText? flags.flags
                  (PathPattern.expressionText mode pattern (mode.segments pattern)) = some expression →
                expression.fits = false) := by
  cases parsed : Modifiers.parse letters with
  | error letter => simpa [compile, parsed] using eq_comm
  | ok flags =>
      rw [compile_parsed flags parsed]
      simp only [reduceCtorEq, false_and, exists_false, false_or, Except.ok.injEq, exists_eq_left']
      by_cases loud : mode = .strict ∧ letters ≠ []
      · rw [if_pos loud]
        simpa [loud] using eq_comm
      · have silent : mode = .strict → letters = [] := by simpa using loud
        have quiet : ¬ (mode = .strict ∧ letters ≠ [] ∧ fault = .modifiersNotAllowed letters) :=
          fun refused => loud ⟨refused.1, refused.2.1⟩
        rw [if_neg loud, or_iff_right quiet, and_iff_right silent]
        cases Expression.ofText? flags.flags (PathPattern.expressionText mode pattern (mode.segments pattern)) with
        | none => simpa using eq_comm
        | some expression =>
            by_cases small : expression.fits = true
            · simp [small]
            · simpa [small] using eq_comm

theorem compiled_fields (anchored : mode ≠ .expression) (compiled : compile pattern mode letters = .ok matcher) :
    ∃ flags, Modifiers.parse letters = .ok flags ∧ (mode = .strict → flags = .none) ∧
      matcher = ⟨pattern, mode, flags, mode.segments pattern,
        PathPattern.expressionText mode pattern (mode.segments pattern),
        mode.anchored flags.flags (mode.segments pattern)⟩ := by
  obtain ⟨flags, parsed, silent, expression, read, -, rfl⟩ := compile_ok_iff.mp compiled
  rw [of_text_anchored mode anchored] at read
  obtain rfl := Option.some.inj read
  refine ⟨flags, parsed, ?_, rfl⟩
  intro strict
  exact (Modifiers.is_empty_iff flags).mp ((Modifiers.parsed_empty_iff flags letters parsed).mpr (silent strict))

theorem compiled_origin (compiled : compile pattern mode letters = .ok matcher) :
    matcher.pattern = pattern ∧ matcher.mode = mode := by
  obtain ⟨flags, -, -, expression, -, -, rfl⟩ := compile_ok_iff.mp compiled
  exact ⟨rfl, rfl⟩

theorem modifiers_has (anchored : mode ≠ .expression) (compiled : compile pattern mode letters = .ok matcher)
    (letter : Char) : matcher.modifiers.has letter = decide (letter ∈ letters) := by
  obtain ⟨flags, parsed, -, rfl⟩ := compiled_fields anchored compiled
  exact Modifiers.parse_has flags letters parsed letter

theorem ignores_case (anchored : mode ≠ .expression) (compiled : compile pattern mode letters = .ok matcher) :
    matcher.modifiers.ignoreCase = decide ('i' ∈ letters) := by
  simpa [Modifiers.has] using modifiers_has anchored compiled 'i'

theorem takes_lines (anchored : mode ≠ .expression) (compiled : compile pattern mode letters = .ok matcher) :
    matcher.modifiers.multiline = decide ('m' ∈ letters) := by
  simpa [Modifiers.has] using modifiers_has anchored compiled 'm'

theorem refused_iff_heavy (anchored : mode ≠ .expression) (flags : Modifiers)
    (parsed : Modifiers.parse letters = .ok flags) (silent : mode = .strict → letters = []) (fault : Fault) :
    compile pattern mode letters = .error fault ↔
      fault = .badExpression pattern ∧ (mode.anchored flags.flags (mode.segments pattern)).fits = false := by
  have read := of_text_anchored mode anchored flags pattern (mode.segments pattern)
  rw [compile_error_iff]
  apply Iff.intro
  · intro refused
    rcases refused with ⟨letter, wrong, -⟩ | ⟨others, same, ⟨strict, written, -⟩ | ⟨-, refused, heavy⟩⟩
    · rw [parsed] at wrong
      cases wrong
    · exact absurd (silent strict) written
    · obtain rfl := Except.ok.inj (parsed.symm.trans same)
      exact ⟨refused, heavy _ read⟩
  · intro refused
    obtain ⟨rfl, heavy⟩ := refused
    refine Or.inr ⟨flags, parsed, Or.inr ⟨silent, rfl, ?_⟩⟩
    intro expression known
    rw [← Option.some.inj (read.symm.trans known)]
    exact heavy

theorem compile_refusals (pattern : Text) (mode : Mode) (modifiers : Option Text) :
    (∀ letter, compile pattern mode (modifiers.getD []) = .error (.badModifier letter) ↔
        Modifiers.parse (modifiers.getD []) = .error letter) ∧
      (∀ shown, compile pattern mode (modifiers.getD []) = .error (.modifiersNotAllowed shown) ↔
        (∃ flags, Modifiers.parse (modifiers.getD []) = .ok flags) ∧ mode = .strict ∧ modifiers.getD [] ≠ [] ∧
          shown = modifiers.getD []) ∧
      (mode ≠ .expression → ∀ flags : Modifiers, ∃ expression,
        Expression.ofText? flags.flags (PathPattern.expressionText mode pattern (mode.segments pattern)) =
            some expression ∧
          (Modifiers.parse (modifiers.getD []) = .ok flags → (mode = .strict → modifiers.getD [] = []) →
            ∀ fault, compile pattern mode (modifiers.getD []) = .error fault ↔
              fault = .badExpression pattern ∧ expression.fits = false)) ∧
      ∀ name, compileNamed pattern name (modifiers.getD []) = .error (.unknownMode name) ↔
        ∀ known : Mode, known.name ≠ name := by
  refine ⟨?_, ?_, ?_, ?_⟩
  · intro letter
    simp [compile_error_iff]
  · intro shown
    simp [compile_error_iff]
  · intro anchored flags
    refine ⟨_, of_text_anchored mode anchored flags pattern (mode.segments pattern), ?_⟩
    intro parsed silent
    exact refused_iff_heavy anchored flags parsed silent
  · intro name
    rw [← Mode.of_name_none_iff, compileNamed]
    cases Mode.ofName? name with
    | none => simp
    | some mode => simp [compile_error_iff]

theorem compile_refusals_brackets :
    compile "[(+\\".toList .static "mm".toList = .error (.badModifier 'm') ∧
      compile "[(+\\".toList .strict ['g'] = .error (.modifiersNotAllowed ['g']) ∧
      (∃ expression,
        Expression.ofText? (Modifiers.mk true false true).flags "^\\[\\(\\+\\\\/?$".toList = some expression ∧
          (compile "[(+\\".toList .static "im".toList = .error (.badExpression "[(+\\".toList) ↔
            expression.fits = false)) ∧
      compileNamed "[(+\\".toList "glob".toList "mm".toList = .error (.unknownMode "glob".toList) := by
  have doubled := compile_refusals "[(+\\".toList .static (some "mm".toList)
  have loud := compile_refusals "[(+\\".toList .strict (some ['g'])
  have brackets := compile_refusals "[(+\\".toList .static (some "im".toList)
  refine ⟨(doubled.1 'm').mpr rfl, (loud.2.1 ['g']).mpr ⟨⟨_, rfl⟩, rfl, by simp, rfl⟩, ?_, ?_⟩
  · obtain ⟨expression, read, heavy⟩ := brackets.2.2.1 (by simp) ⟨true, false, true⟩
    have text : PathPattern.expressionText .static "[(+\\".toList (Mode.static.segments "[(+\\".toList) =
        "^\\[\\(\\+\\\\/?$".toList := by decide +kernel
    rw [text] at read
    exact ⟨expression, read, by simpa using heavy rfl (by simp) (.badExpression "[(+\\".toList)⟩
  · exact (doubled.2.2.2 "glob".toList).mpr (by intro known; cases known <;> decide)

end PathPattern.Matcher
