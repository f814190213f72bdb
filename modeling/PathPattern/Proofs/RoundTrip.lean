import PathPattern.Proofs.Acceptance
import PathPattern.Proofs.LiteralText

set_option autoImplicit false

namespace PathPattern

theorem filled_stands (bindings : Bindings) (segment : Segment)
    (oneLine : ∀ name ∈ segment.name?, ∀ value ∈ bindings name, '\n' ∉ value) :
    segment.Stands (filledText bindings segment) := by
  cases segment with
  | literal text => rfl
  | wildcard => exact (by decide : '\n' ∉ ['*'])
  | token name written =>
      rw [Segment.Stands, filledText]
      cases known : bindings name with
      | none => exact List.not_mem_nil
      | some value => exact oneLine name rfl value known

theorem filled_segments_stand (bindings : Bindings) (segments : List Segment)
    (oneLine : ∀ name ∈ tokenNames segments, ∀ value ∈ bindings name, '\n' ∉ value) :
    List.Forall₂ Segment.Stands segments (segments.map (filledText bindings)) := by
  apply List.forall₂_map_right_iff.mpr
  apply List.forall₂_same.mpr
  intro segment member
  apply filled_stands
  intro name named
  exact oneLine name (List.mem_filterMap.mpr ⟨segment, member, named⟩)

namespace Matcher

theorem template_accepts_filled (pattern letters : Text) (matcher : Matcher)
    (compiled : compile pattern .template letters = .ok matcher) (bindings : Bindings)
    (oneLine : ∀ name ∈ tokenNames (Mode.template.segments pattern), ∀ value ∈ bindings name, '\n' ∉ value) :
    ∃ text, matcher.fill bindings = .ok text ∧ matcher.test text = true := by
  refine ⟨_, fill_written (Or.inl rfl) compiled bindings, ?_⟩
  have stands := filled_segments_stand bindings _ oneLine
  have accepted := test_of_stands (by simp) compiled _ stands
  rw [← List.flatMap_def] at accepted
  exact accepted

theorem template_accepts_filled_partly :
    ∃ matcher, compile "/{a}\n{{}/{a}}{b}".toList .template "mg".toList = .ok matcher ∧
      ∃ text, matcher.fill (Bindings.first [("a".toList, "x/{b}".toList)]) = .ok text ∧ matcher.test text = true := by
  obtain ⟨matcher, compiled⟩ := compiles_when_short "/{a}\n{{}/{a}}{b}".toList "mg".toList .template
    ⟨false, true, true⟩ (by simp) rfl (by simp) (by simp) (by decide)
  have names : tokenNames (Mode.template.segments "/{a}\n{{}/{a}}{b}".toList) =
      [['a'], [], ['a'], ['b']] := by
    decide +kernel
  refine ⟨matcher, compiled, template_accepts_filled _ _ matcher compiled _ ?_⟩
  rw [names]
  decide

theorem accepted_length (pattern letters input : Text) (mode : Mode) (matcher : Matcher) (anchored : mode ≠ .expression)
    (compiled : compile pattern mode letters = .ok matcher) (accepted : matcher.test input = true) :
    (literalText (mode.segments pattern)).length ≤ input.length := by
  obtain ⟨front, parts, tail, rest, rfl, -, admitted, -, -⟩ := (test_iff_parts anchored compiled input).mp accepted
  have room := admitted_length matcher.modifiers _ parts admitted
  simp only [List.length_append]
  omega

theorem symbolic_accepts_filled_iff (pattern letters : Text) (matcher : Matcher)
    (compiled : compile pattern .symbolic letters = .ok matcher) :
    (∀ bindings : Bindings,
        (∀ name ∈ tokenNames (Mode.symbolic.segments pattern), ∃ value, bindings name = some value ∧ '\n' ∉ value) →
          ∃ text, matcher.fill bindings = .ok text ∧ matcher.test text = true) ↔
      ∀ text, .literal text ∈ Mode.symbolic.segments pattern → ':' ∉ text := by
  have written := fill_written (Or.inr rfl) compiled
  rw [← colon_free_iff]
  apply Iff.intro
  · intro accepts colon
    -- With empty values nothing makes up for what a colon costs.
    obtain ⟨text, filled, accepted⟩ := accepts (fun _ => some []) fun name _ => ⟨[], rfl, List.not_mem_nil⟩
    obtain rfl := Except.ok.inj ((written _).symm.trans filled)
    have room := accepted_length _ _ _ _ matcher (by simp) compiled accepted
    have lost := one_pass_length (fun _ => some []) (Mode.symbolic.segments pattern)
    rw [filled_with_empty _ (segments_normal .symbolic pattern).wellFormed] at lost
    have positive := List.count_pos_iff.mpr colon
    omega
  · intro plain bindings complete
    have bound : ∀ name ∈ tokenNames (Mode.symbolic.segments pattern), bindings name ≠ none := by
      intro name member unbound
      obtain ⟨value, known, -⟩ := complete name member
      rw [known] at unbound
      cases unbound
    have oneLine : ∀ name ∈ tokenNames (Mode.symbolic.segments pattern), ∀ value ∈ bindings name, '\n' ∉ value := by
      intro name member value has
      obtain ⟨other, known, free⟩ := complete name member
      obtain rfl := Option.some.inj (known.symm.trans has)
      exact free
    have stands := filled_segments_stand bindings _ oneLine
    have accepted := test_of_stands (by simp) compiled _ stands
    rw [← List.flatMap_def, ← one_pass_kept bindings _ bound plain] at accepted
    exact ⟨_, written bindings, accepted⟩

theorem symbolic_accepts_filled_plain :
    ∃ matcher, compile "/:id\n(a:id.*".toList .symbolic "mg".toList = .ok matcher ∧
      ∃ text, matcher.fill (Bindings.first [("id".toList, "x:y/".toList)]) = .ok text ∧ matcher.test text = true := by
  obtain ⟨matcher, compiled⟩ := compiles_when_short "/:id\n(a:id.*".toList "mg".toList .symbolic ⟨false, true, true⟩
    (by simp) rfl (by simp) (by simp) (by decide)
  have segments : Mode.symbolic.segments "/:id\n(a:id.*".toList =
      [.literal ['/'], .token "id".toList ":id".toList, .literal "\n(a".toList, .token "id".toList ":id".toList,
        .literal ".*".toList] := by
    decide +kernel
  have plain : ∀ text, .literal text ∈ Mode.symbolic.segments "/:id\n(a:id.*".toList → ':' ∉ text := by
    rw [← colon_free_iff, segments]
    decide
  refine ⟨matcher, compiled, (symbolic_accepts_filled_iff _ _ matcher compiled).mpr plain _ ?_⟩
  rw [segments]
  intro name member
  obtain rfl : "id".toList = name := by simpa [tokenNames, Segment.name?] using member
  exact ⟨"x:y/".toList, rfl, by decide⟩

theorem symbolic_refuses_filled_colon :
    ∃ matcher, compile "/:id/a:B".toList .symbolic [] = .ok matcher ∧
      (∀ name ∈ tokenNames (Mode.symbolic.segments "/:id/a:B".toList),
        ∃ value, Bindings.first [("id".toList, ['7'])] name = some value ∧ '\n' ∉ value) ∧
      matcher.fill (Bindings.first [("id".toList, ['7'])]) = .ok "/7/a".toList ∧
      matcher.test "/7/a".toList = false := by
  obtain ⟨matcher, compiled⟩ := compiles_when_short "/:id/a:B".toList [] .symbolic .none
    (by simp) rfl (by simp) (by simp) (by decide)
  have segments : Mode.symbolic.segments "/:id/a:B".toList =
      [.literal ['/'], .token "id".toList ":id".toList, .literal "/a:B".toList] := by
    decide +kernel
  have written := fill_written (Or.inr rfl) compiled (Bindings.first [("id".toList, ['7'])])
  rw [segments] at written
  refine ⟨matcher, compiled, ?_, written, ?_⟩
  · rw [segments]
    intro name member
    obtain rfl : "id".toList = name := by simpa [tokenNames, Segment.name?] using member
    exact ⟨['7'], rfl, by decide⟩
  · by_cases accepted : matcher.test "/7/a".toList = true
    · have room := accepted_length _ _ _ _ matcher (by simp) compiled accepted
      rw [segments] at room
      exact absurd room (by decide)
    · simpa using accepted

end Matcher
end PathPattern
