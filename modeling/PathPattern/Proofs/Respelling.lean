import PathPattern.Proofs.Acceptance

set_option autoImplicit false

namespace PathPattern

abbrev Respelled : Text → Text → Prop := List.Forall₂ CaseVariant

theorem respelled_self (text : Text) : Respelled text text :=
  List.forall₂_same.mpr fun _ _ => Or.inl rfl

theorem respelled_symm (text other : Text) (respelled : Respelled text other) : Respelled other text :=
  List.Forall₂.flip (respelled.imp case_variant_symm)

theorem respelled_append_right (text first second : Text) (respelled : Respelled text (first ++ second)) :
    ∃ front rest, text = front ++ rest ∧ Respelled front first ∧ Respelled rest second :=
  ⟨text.take first.length, text.drop first.length, (List.take_append_drop _ _).symm,
    List.forall₂_take_append text first second respelled, List.forall₂_drop_append text first second respelled⟩

theorem respelled_flatten_right (text : Text) (others : List Text) (respelled : Respelled text others.flatten) :
    ∃ parts, text = parts.flatten ∧ List.Forall₂ Respelled parts others := by
  induction others generalizing text with
  | nil => exact ⟨[], List.forall₂_nil_right_iff.mp respelled, .nil⟩
  | cons other others ih =>
      obtain ⟨part, rest, rfl, here, later⟩ := respelled_append_right text other others.flatten respelled
      obtain ⟨parts, rfl, each⟩ := ih rest later
      exact ⟨part :: parts, rfl, .cons here each⟩

theorem caseless_head (c : Char) (below : c.toNat < 0x41) (text other : Text) (respelled : Respelled text other)
    (starts : other.head? = some c) : text.head? = some c := by
  cases respelled with
  | nil => cases starts
  | @cons d _ _ _ variant later =>
      obtain rfl := Option.some.inj starts
      exact congrArg some (caseless_variant _ d below (case_variant_symm d _ variant))

theorem caseless_last (c : Char) (below : c.toNat < 0x41) (text other : Text) (respelled : Respelled text other)
    (ends : other.getLast? = some c) : text.getLast? = some c := by
  rw [← List.head?_reverse] at ends ⊢
  exact caseless_head c below _ _ (List.forall₂_reverse_iff.mpr respelled) ends

theorem caseless_member (c : Char) (below : c.toNat < 0x41) (text other : Text) (respelled : Respelled text other)
    (member : c ∈ text) : c ∈ other := by
  induction respelled with
  | nil => exact member
  | @cons first second text other variant later ih =>
      rcases List.mem_cons.mp member with rfl | inside
      · rw [caseless_variant c second below variant]
        exact List.mem_cons_self
      · exact List.mem_cons_of_mem second (ih inside)

namespace Modifiers

variable (modifiers : Modifiers)

theorem starts_after_respelled (front other : Text) (respelled : Respelled front other)
    (starts : modifiers.StartsAfter other) : modifiers.StartsAfter front := by
  rcases starts with rfl | ⟨lines, newline⟩
  · exact Or.inl (List.forall₂_nil_right_iff.mp respelled)
  · exact Or.inr ⟨lines, caseless_last '\n' (by decide) front other respelled newline⟩

theorem ends_before_respelled (rest other : Text) (respelled : Respelled rest other)
    (ends : modifiers.EndsBefore other) : modifiers.EndsBefore rest := by
  rcases ends with rfl | ⟨lines, newline⟩
  · exact Or.inl (List.forall₂_nil_right_iff.mp respelled)
  · exact Or.inr ⟨lines, caseless_head '\n' (by decide) rest other respelled newline⟩

end Modifiers

theorem Mode.trails_respelled (mode : Mode) (tail other : Text) (respelled : Respelled tail other)
    (trails : mode.Trails other) : mode.Trails tail := by
  rcases trails with rfl | ⟨static, rfl⟩
  · exact Or.inl (List.forall₂_nil_right_iff.mp respelled)
  · cases respelled with
    | @cons c _ _ _ variant later =>
        obtain rfl := List.forall₂_nil_right_iff.mp later
        obtain rfl := caseless_variant '/' c (by decide) (case_variant_symm c '/' variant)
        exact Or.inr ⟨static, rfl⟩

theorem Segment.admits_iff_respelled (modifiers : Modifiers) (ignoring : modifiers.ignoreCase = true)
    (segment : Segment) (part : Text) :
    segment.Admits modifiers part ↔ ∃ other, Respelled part other ∧ segment.Stands other := by
  -- A placeholder looks for newlines only, and these have no other case.
  have lineFree : '\n' ∉ part ↔ ∃ other, Respelled part other ∧ '\n' ∉ other := by
    apply Iff.intro
    · intro free
      exact ⟨part, respelled_self part, free⟩
    · intro spelled member
      obtain ⟨other, respelled, free⟩ := spelled
      exact free (caseless_member '\n' (by decide) part other respelled member)
  cases segment with
  | literal text =>
      have variants : (fun c d => (modifiers.flags.charSet c).contains d = true) = CaseVariant := by
        funext c d
        rw [Modifiers.char_set_cases, ignoring, case_variant_iff]
        rfl
      rw [Segment.Admits, variants]
      apply Iff.intro
      · intro admitted
        exact ⟨text, respelled_symm text part admitted, rfl⟩
      · intro spelled
        obtain ⟨other, respelled, rfl⟩ := spelled
        exact respelled_symm part other respelled
  | wildcard => exact lineFree
  | token name written => exact lineFree

theorem admits_each_iff_respelled (modifiers : Modifiers) (ignoring : modifiers.ignoreCase = true)
    (segments : List Segment) (parts : List Text) :
    List.Forall₂ (Segment.Admits modifiers) segments parts ↔
      ∃ others, List.Forall₂ Respelled parts others ∧ List.Forall₂ Segment.Stands segments others := by
  apply Iff.intro
  · intro admitted
    induction admitted with
    | nil => exact ⟨[], .nil, .nil⟩
    | @cons segment part _ _ here later ih =>
        obtain ⟨other, respelled, stands⟩ := (Segment.admits_iff_respelled modifiers ignoring segment part).mp here
        obtain ⟨others, respelledEach, standsEach⟩ := ih
        exact ⟨other :: others, .cons respelled respelledEach, .cons stands standsEach⟩
  · intro spelled
    obtain ⟨others, respelled, stands⟩ := spelled
    induction respelled generalizing segments with
    | nil =>
        cases stands with
        | nil => exact .nil
    | @cons part other _ _ here later ih =>
        cases stands with
        | @cons segment _ segments _ stands standsEach =>
            have admitted := (Segment.admits_iff_respelled modifiers ignoring segment part).mpr ⟨other, here, stands⟩
            exact .cons admitted (ih segments standsEach)

namespace Matcher

theorem ignoring_case_accepts_iff (pattern letters more input : Text) (mode : Mode) (matcher loose : Matcher)
    (anchored : mode = .static ∨ mode = .wildcard ∨ mode = .template ∨ mode = .symbolic)
    (sensitive : 'i' ∉ letters) (added : more.Perm ('i' :: letters))
    (compiled : compile pattern mode letters = .ok matcher) (compiledLoose : compile pattern mode more = .ok loose) :
    loose.segments = matcher.segments ∧ loose.tokens = matcher.tokens ∧
      (loose.test input = true ↔ ∃ other, List.Forall₂ CaseVariant input other ∧ matcher.test other = true) := by
  have notExpression : mode ≠ .expression := by rcases anchored with rfl | rfl | rfl | rfl <;> simp
  have caseCounts : matcher.modifiers.ignoreCase = false := by
    rw [ignores_case notExpression compiled, decide_eq_false sensitive]
  have ignoring : loose.modifiers.ignoreCase = true := by
    rw [ignores_case notExpression compiledLoose]
    simp [added.mem_iff]
  have sameLines : loose.modifiers.multiline = matcher.modifiers.multiline := by
    rw [takes_lines notExpression compiledLoose, takes_lines notExpression compiled]
    simp [added.mem_iff]
  have sameSegments : loose.segments = matcher.segments := by
    obtain ⟨_, -, -, rfl⟩ := compiled_fields notExpression compiled
    obtain ⟨_, -, -, rfl⟩ := compiled_fields notExpression compiledLoose
    rfl
  refine ⟨sameSegments, congrArg tokenNames sameSegments, ?_⟩
  have takes := test_iff_parts notExpression compiled
  rw [Segment.admits_eq_stands _ caseCounts] at takes
  rw [test_iff_parts notExpression compiledLoose]
  simp only [takes, admits_each_iff_respelled _ ignoring, Modifiers.StartsAfter, Modifiers.EndsBefore, sameLines]
  apply Iff.intro
  · intro cut
    obtain ⟨front, parts, tail, rest, rfl, starts, ⟨others, respelled, stands⟩, trails, ends⟩ := cut
    have ending := List.rel_append (respelled_self tail) (respelled_self rest)
    have spelled := List.rel_append (respelled_self front) (List.rel_append (List.rel_flatten respelled) ending)
    exact ⟨_, spelled, front, others, tail, rest, rfl, starts, stands, trails, ends⟩
  · intro spelled
    obtain ⟨_, respelled, front, others, tail, rest, rfl, starts, stands, trails, ends⟩ := spelled
    obtain ⟨front', behind, rfl, frontSpelled, behindSpelled⟩ := respelled_append_right input front _ respelled
    obtain ⟨middle, ending, rfl, middleSpelled, endingSpelled⟩ := respelled_append_right behind _ _ behindSpelled
    obtain ⟨tail', rest', rfl, tailSpelled, restSpelled⟩ := respelled_append_right ending tail rest endingSpelled
    obtain ⟨parts, rfl, partsSpelled⟩ := respelled_flatten_right middle others middleSpelled
    exact ⟨front', parts, tail', rest', rfl, matcher.modifiers.starts_after_respelled front' front frontSpelled starts,
      ⟨others, partsSpelled, stands⟩, mode.trails_respelled tail' tail tailSpelled trails,
      matcher.modifiers.ends_before_respelled rest' rest restSpelled ends⟩

theorem ignoring_case_accepts_kelvin_sign :
    ∃ loose, compile "k:ID:x".toList .symbolic "mi".toList = .ok loose ∧ loose.tokens = [['x']] ∧
      loose.test "/\n\u212a:id7".toList = true := by
  have segments : Mode.symbolic.segments "k:ID:x".toList = [.literal "k:ID".toList, .token ['x'] ":x".toList] := by
    decide +kernel
  have variants : ("k:ID:x".toList.map fun c => Unicode.caseVariants c.toNat) =
      [[0x4b, 0x6b, 0x212a], [0x3a], [0x49, 0x69], [0x44, 0x64], [0x3a], [0x58, 0x78]] := by
    decide +kernel
  have light : ∀ backward, ∀ codes ∈ "k:ID:x".toList.map fun c => Unicode.caseVariants c.toNat,
      Expression.setWeight backward (.ofCodes codes) ≤ 1040 := by
    rw [variants]
    intro backward codes member
    have apart : codes.IsChain fun a b => a + 1 < b := by
      revert codes
      decide
    simp only [Expression.setWeight, Expression.forwardSetWeight, Expression.backwardSetWeight, Expression.encodings,
      tidy_apart codes apart]
    clear apart
    revert codes backward
    decide +kernel
  obtain ⟨matcher, compiled⟩ := compiles_when_short "k:ID:x".toList ['m'] .symbolic ⟨false, false, true⟩
    (by simp) rfl (by simp) (by simp) (by decide)
  obtain ⟨loose, compiledLoose⟩ := compiles_when_light "k:ID:x".toList "mi".toList .symbolic ⟨true, false, true⟩
    (by simp) rfl (by simp) (by decide) fun backward c member => light backward _ (List.mem_map_of_mem member)
  have taken : matcher.test "/\nk:ID7".toList = true := by
    have multiline : matcher.modifiers.multiline = true := takes_lines (by simp) compiled
    refine (test_iff_parts (by simp) compiled _).mpr ⟨"/\n".toList, ["k:ID".toList, ['7']], [], [], rfl,
      Or.inr ⟨multiline, rfl⟩, ?_, Or.inl rfl, Or.inl rfl⟩
    rw [segments]
    refine List.Forall₂.imp (Segment.stands_admitted _) ?_
    exact .cons rfl (.cons (by decide) .nil)
  have tokens : matcher.tokens = [['x']] := by
    obtain ⟨_, -, -, rfl⟩ := compiled_fields (by simp) compiled
    rw [tokens, segments]
    rfl
  obtain ⟨-, sameTokens, accepted⟩ := ignoring_case_accepts_iff _ ['m'] "mi".toList "/\n\u212a:id7".toList .symbolic
    matcher loose (by simp) (by simp) (by decide) compiled compiledLoose
  have respelled : List.Forall₂ CaseVariant "/\n\u212a:id7".toList "/\nk:ID7".toList := by decide +kernel
  exact ⟨loose, compiledLoose, sameTokens.trans tokens, accepted.mpr ⟨_, respelled, taken⟩⟩

end Matcher
end PathPattern
