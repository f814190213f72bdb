import PathPattern.Proofs.Weight

set_option autoImplicit false

namespace PathPattern

open Expression

namespace Segment

def unnamed : Segment → Segment
  | token _ _ => token [] []
  | other => other

def marks : Segment → List (Option Char)
  | literal text => text.map some
  | wildcard | token _ _ => [none]

theorem unnamed_expression_text (segment : Segment) : segment.unnamed.expressionText = segment.expressionText := by
  cases segment with
  | literal text => rfl
  | wildcard => rfl
  | token name written => rfl

def consMark (placeholder : Segment) : Option Char → List Segment → List Segment
  | some c, segments => consChar c segments
  | none, segments => placeholder :: segments

end Segment

def markPiece : Option Char → Piece
  | some c => .leaf (.oneOf (.single c))
  | none => anyRun

theorem mark_piece_injective : Function.Injective markPiece := by
  intro first second same
  cases first with
  | none =>
      cases second with
      | none => rfl
      | some d =>
          have depths : 2 = 0 := congrArg Piece.depth same
          cases depths
  | some c =>
      cases second with
      | none =>
          have depths : 0 = 2 := congrArg Piece.depth same
          cases depths
      | some d =>
          have codes : c.toNat = d.toNat := by
            simpa [markPiece, Piece.leaf, CharSet.single, CharSet.ofCodes] using same
          rw [Char.toNat_inj.mp codes]

theorem pieces_of_marks (segment : Segment) :
    segment.pieces Modifiers.none.flags = segment.marks.map markPiece := by
  cases segment with
  | literal text =>
      rw [Segment.pieces, Segment.marks, List.map_map]
      rfl
  | wildcard => rfl
  | token name written => rfl

theorem same_marks (mode : Mode) (anchored : mode ≠ .expression) (pattern other : Text)
    (segments others : List Segment)
    (same : expressionText mode pattern segments = expressionText mode other others) :
    segments.flatMap Segment.marks = others.flatMap Segment.marks := by
  have read := read_expression_text mode anchored .none pattern segments
  rw [same, read_expression_text mode anchored .none other others] at read
  have parts : mode.pieces Modifiers.none.flags others = mode.pieces Modifiers.none.flags segments := by
    simpa [after, Progress.start] using read
  have inner : others.flatMap (Segment.pieces Modifiers.none.flags) =
      segments.flatMap (Segment.pieces Modifiers.none.flags) := by
    simpa [Mode.pieces] using parts
  have marked : ∀ segments : List Segment, segments.flatMap (Segment.pieces Modifiers.none.flags) =
      (segments.flatMap Segment.marks).map markPiece := by
    intro segments
    rw [List.map_flatMap]
    exact List.flatMap_congr fun segment _ => pieces_of_marks segment
  rw [marked, marked] at inner
  exact (mark_piece_injective.list_map inner).symm

def Mode.unnamedPlaceholder (mode : Mode) : Segment := if mode = .wildcard then .wildcard else .token [] []

theorem unnamed_placeholder (mode : Mode) (segment : Segment) (form : mode.Placeholder segment) :
    segment.unnamed = mode.unnamedPlaceholder ∧ segment.marks = [none] := by
  cases segment with
  | literal text => cases mode <;> cases form
  | wildcard =>
      cases mode with
      | wildcard => exact ⟨rfl, rfl⟩
      | _ => cases form
  | token name written =>
      cases mode with
      | template => exact ⟨rfl, rfl⟩
      | symbolic => exact ⟨rfl, rfl⟩
      | _ => cases form

theorem unnamed_opens (segments : List Segment) (opens : Opens segments) :
    Opens (segments.map Segment.unnamed) := by
  cases segments with
  | nil => exact opens
  | cons segment segments =>
      cases segment with
      | literal text => exact absurd rfl (opens text)
      | wildcard => simp [Opens, Segment.unnamed]
      | token name written => simp [Opens, Segment.unnamed]

theorem segments_of_marks (mode : Mode) (segments : List Segment) (normal : mode.Normal segments) :
    (segments.flatMap Segment.marks).foldr (Segment.consMark mode.unnamedPlaceholder) [] =
      segments.map Segment.unnamed := by
  induction segments with
  | nil => rfl
  | cons segment segments ih =>
      obtain ⟨here, next, later⟩ := (normal_cons_iff mode segment segments).mp normal
      rw [List.flatMap_cons, List.foldr_append, ih later, List.map_cons]
      by_cases literal : ∃ text, segment = .literal text
      · obtain ⟨text, rfl⟩ := literal
        have opens := unnamed_opens segments ((literal_apart_iff mode text segments).mp next)
        rw [Segment.marks, List.foldr_map]
        exact cons_text text here.1 _ opens
      · have form := placeholder_of_form mode segment here (not_exists.mp literal)
        obtain ⟨unnamed, marks⟩ := unnamed_placeholder mode segment form
        rw [marks, unnamed]
        rfl

theorem expression_text_iff_unnamed (mode : Mode) (anchored : mode ≠ .expression) (pattern other : Text) :
    expressionText mode pattern (mode.segments pattern) = expressionText mode other (mode.segments other) ↔
      (mode.segments pattern).map Segment.unnamed = (mode.segments other).map Segment.unnamed := by
  apply Iff.intro
  · intro same
    have marks := same_marks mode anchored pattern other _ _ same
    rw [← segments_of_marks mode _ (segments_normal mode pattern), marks,
      segments_of_marks mode _ (segments_normal mode other)]
  · intro same
    have written : ∀ segments : List Segment, segments.flatMap Segment.expressionText =
        (segments.map Segment.unnamed).flatMap Segment.expressionText := by
      intro segments
      rw [List.flatMap_map]
      exact List.flatMap_congr fun segment _ => segment.unnamed_expression_text.symm
    rw [expression_text_parts mode anchored, expression_text_parts mode anchored, written, same, ← written]

theorem written_of_name (mode : Mode) (name written other : Text) (form : mode.Placeholder (.token name written))
    (otherForm : mode.Placeholder (.token name other)) : written = other := by
  cases mode with
  | template => exact form.1.trans otherForm.1.symm
  | symbolic => exact form.1.trans otherForm.1.symm
  | _ => cases form

theorem segments_of_names (mode : Mode) (segments others : List Segment)
    (wellFormed : ∀ segment ∈ segments, mode.WellFormed segment)
    (othersWellFormed : ∀ segment ∈ others, mode.WellFormed segment)
    (same : segments.map Segment.unnamed = others.map Segment.unnamed)
    (names : tokenNames segments = tokenNames others) : segments = others := by
  induction segments generalizing others with
  | nil => exact (List.map_eq_nil_iff.mp same.symm).symm
  | cons segment segments ih =>
      cases others with
      | nil => cases same
      | cons other others =>
          obtain ⟨here, later⟩ := List.cons.inj same
          have rest := ih others (fun next member => wellFormed next (List.mem_cons_of_mem segment member))
            (fun next member => othersWellFormed next (List.mem_cons_of_mem other member)) later
          cases segment with
          | literal text =>
              cases other with
              | literal =>
                  obtain rfl := Segment.literal.inj here
                  rw [rest names]
              | _ => cases here
          | wildcard =>
              cases other with
              | wildcard => rw [rest names]
              | _ => cases here
          | token name written =>
              cases other with
              | token otherName otherWritten =>
                  obtain ⟨rfl, laterNames⟩ := List.cons.inj names
                  have form := wellFormed (.token name written) List.mem_cons_self
                  have otherForm := othersWellFormed (.token name otherWritten) List.mem_cons_self
                  rw [rest laterNames, written_of_name mode name written otherWritten form otherForm]
              | _ => cases here

theorem pattern_of_unnamed (mode : Mode) (pattern other : Text)
    (same : (mode.segments pattern).map Segment.unnamed = (mode.segments other).map Segment.unnamed)
    (names : tokenNames (mode.segments pattern) = tokenNames (mode.segments other)) : pattern = other := by
  have segments := segments_of_names mode _ _ (segments_normal mode pattern).wellFormed
    (segments_normal mode other).wellFormed same names
  rw [← texts_of_segments mode pattern, segments, texts_of_segments]

theorem no_names (mode : Mode) (tokenless : mode.hasTokens = false) (pattern : Text) :
    tokenNames (mode.segments pattern) = [] := by
  apply List.filterMap_eq_nil_iff.mpr
  intro segment member
  have form := (segments_normal mode pattern).wellFormed segment member
  cases segment with
  | literal text => rfl
  | wildcard => rfl
  | token name written =>
      cases mode with
      | template => cases tokenless
      | symbolic => cases tokenless
      | _ => cases form

namespace Matcher

-- Only names are lost on the way from a pattern to the text of its expression.
theorem expression_text_decodes (pattern other letters otherLetters : Text) (mode : Mode)
    (anchored : mode ≠ .expression) (matcher otherMatcher : Matcher)
    (compiled : compile pattern mode letters = .ok matcher)
    (otherCompiled : compile other mode otherLetters = .ok otherMatcher) :
    (matcher.expressionText = otherMatcher.expressionText ↔
        (mode.segments pattern).map Segment.unnamed = (mode.segments other).map Segment.unnamed) ∧
      (mode = .strict ∨ mode = .static ∨ mode = .wildcard →
        (matcher.expressionText = otherMatcher.expressionText ↔ pattern = other)) ∧
      (matcher.expressionText = otherMatcher.expressionText ∧ matcher.tokens = otherMatcher.tokens ↔
        pattern = other) := by
  obtain ⟨flags, -, -, rfl⟩ := compiled_fields anchored compiled
  obtain ⟨otherFlags, -, -, rfl⟩ := compiled_fields anchored otherCompiled
  have shown := expression_text_iff_unnamed mode anchored pattern other
  refine ⟨shown, ?_, ?_⟩
  · intro literal
    have tokenless : mode.hasTokens = false := by rcases literal with rfl | rfl | rfl <;> rfl
    apply Iff.intro
    · intro same
      have names := (no_names mode tokenless pattern).trans (no_names mode tokenless other).symm
      exact pattern_of_unnamed mode pattern other (shown.mp same) names
    · rintro rfl
      rfl
  · apply Iff.intro
    · intro same
      exact pattern_of_unnamed mode pattern other (shown.mp same.1) same.2
    · rintro rfl
      exact ⟨rfl, rfl⟩

theorem expression_text_decodes_imitation :
    (∃ matcher otherMatcher, compile "\\{a}(?:.*)".toList .template [] = .ok matcher ∧
      compile "\\{}(?:.*)".toList .template ['m'] = .ok otherMatcher ∧
      matcher.expressionText = otherMatcher.expressionText) ∧
    ∃ matcher otherMatcher, compile "(?:.*)".toList .wildcard [] = .ok matcher ∧
      compile ['*'] .wildcard [] = .ok otherMatcher ∧ matcher.expressionText ≠ otherMatcher.expressionText := by
  refine ⟨?_, ?_⟩
  · obtain ⟨matcher, compiled⟩ := compiles_when_short "\\{a}(?:.*)".toList [] .template .none
      (by simp) rfl (by simp) (by simp) (by decide)
    obtain ⟨otherMatcher, otherCompiled⟩ := compiles_when_short "\\{}(?:.*)".toList ['m'] .template
      ⟨false, false, true⟩ (by simp) rfl (by simp) (by simp) (by decide)
    have decoded := (expression_text_decodes _ _ _ _ .template (by simp) _ _ compiled otherCompiled).1
    exact ⟨matcher, otherMatcher, compiled, otherCompiled, decoded.mpr (by decide +kernel)⟩
  · obtain ⟨matcher, compiled⟩ := compiles_when_short "(?:.*)".toList [] .wildcard .none
      (by simp) rfl (by simp) (by simp) (by decide)
    obtain ⟨otherMatcher, otherCompiled⟩ := compiles_when_short ['*'] [] .wildcard .none
      (by simp) rfl (by simp) (by simp) (by decide)
    have decoded := (expression_text_decodes _ _ _ _ .wildcard (by simp) _ _ compiled otherCompiled).2.1
      (Or.inr (Or.inr rfl))
    exact ⟨matcher, otherMatcher, compiled, otherCompiled, mt decoded.mp (by decide)⟩

end Matcher
end PathPattern
