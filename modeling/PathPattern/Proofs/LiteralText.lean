import PathPattern.Proofs.Filling
import PathPattern.Proofs.Language

set_option autoImplicit false

namespace PathPattern

def Segment.literalText : Segment → Text
  | .literal text => text
  | .wildcard | .token _ _ => []

def literalText (segments : List Segment) : Text := segments.flatMap Segment.literalText

theorem mem_literal_text_iff (segments : List Segment) (c : Char) :
    c ∈ literalText segments ↔ ∃ text, .literal text ∈ segments ∧ c ∈ text := by
  rw [literalText, List.mem_flatMap]
  apply Iff.intro
  · intro found
    obtain ⟨segment, member, inside⟩ := found
    cases segment with
    | literal text => exact ⟨text, member, inside⟩
    | wildcard => cases inside
    | token name written => cases inside
  · intro found
    obtain ⟨text, member, inside⟩ := found
    exact ⟨.literal text, member, inside⟩

theorem colon_free_iff (segments : List Segment) :
    ':' ∉ literalText segments ↔ ∀ text, .literal text ∈ segments → ':' ∉ text := by
  rw [mem_literal_text_iff]
  simp only [not_exists, not_and]

namespace Pass

theorem letter_kept (out : Text) (c : Char) (plain : c ≠ ':') : letter ⟨out, false⟩ c = ⟨out ++ [c], false⟩ := by
  simp [letter_eq, plain]

theorem letters_kept (text out : Text) (plain : ':' ∉ text) :
    text.foldl letter ⟨out, false⟩ = ⟨out ++ text, false⟩ := by
  induction text generalizing out with
  | nil => rw [List.foldl_nil, List.append_nil]
  | cons c text ih =>
      have here : c ≠ ':' := fun colon => plain (colon ▸ List.mem_cons_self)
      have later : ':' ∉ text := fun colon => plain (List.mem_cons_of_mem c colon)
      rw [List.foldl_cons, letter_kept out c here, ih _ later, ← List.append_cons]

theorem segment_kept (bindings : Bindings) (segment : Segment) (bound : ∀ name ∈ segment.name?, bindings name ≠ none)
    (plain : ':' ∉ segment.literalText) (out : Text) :
    Pass.segment bindings ⟨out, false⟩ segment = ⟨out ++ filledText bindings segment, false⟩ := by
  cases segment with
  | literal text => exact letters_kept text out plain
  | wildcard => exact letters_kept ['*'] out (by decide)
  | token name written =>
      cases known : bindings name with
      | none => exact absurd known (bound name rfl)
      | some value => simp only [Pass.segment, filledText, known, Option.getD_some]

theorem segments_kept (bindings : Bindings) (segments : List Segment)
    (bound : ∀ name ∈ tokenNames segments, bindings name ≠ none) (plain : ':' ∉ literalText segments) (out : Text) :
    segments.foldl (Pass.segment bindings) ⟨out, false⟩ = ⟨out ++ segments.flatMap (filledText bindings), false⟩ := by
  induction segments generalizing out with
  | nil => rw [List.foldl_nil, List.flatMap_nil, List.append_nil]
  | cons segment segments ih =>
      rw [literalText, List.flatMap_cons, List.mem_append, not_or] at plain
      have here := segment_kept bindings segment
        (fun name named => bound name (List.mem_filterMap.mpr ⟨segment, List.mem_cons_self, named⟩)) plain.1 out
      have names : ∀ name ∈ tokenNames segments, bindings name ≠ none := by
        intro name member
        obtain ⟨other, inside, named⟩ := List.mem_filterMap.mp member
        exact bound name (List.mem_filterMap.mpr ⟨other, List.mem_cons_of_mem segment inside, named⟩)
      rw [List.foldl_cons, here, ih names plain.2, List.flatMap_cons, List.append_assoc]

theorem letter_length (pass : Pass) (c : Char) :
    (pass.letter c).written.length + [c].count ':' ≤ pass.written.length + 1 := by
  by_cases colon : c = ':'
  · subst colon
    simp [letter_eq, isSeparator]
  · have absent : [c].count ':' = 0 := by simp [colon]
    rw [letter_eq, absent]
    split
    · exact Nat.le_succ _
    · rw [List.length_append, List.length_singleton]

theorem letters_length (text : Text) (pass : Pass) :
    (text.foldl letter pass).written.length + text.count ':' ≤ pass.written.length + text.length := by
  induction text generalizing pass with
  | nil => exact Nat.le_refl _
  | cons c text ih =>
      have here := letter_length pass c
      have later := ih (pass.letter c)
      have counts : (c :: text).count ':' = [c].count ':' + text.count ':' := by
        rw [← List.singleton_append, List.count_append]
      rw [List.foldl_cons, List.length_cons, counts]
      omega

theorem segment_length (bindings : Bindings) (segment : Segment) (pass : Pass) :
    (pass.segment bindings segment).written.length + segment.literalText.count ':' ≤
      pass.written.length + (filledText bindings segment).length := by
  cases segment with
  | literal text => exact letters_length text pass
  | wildcard => exact letters_length ['*'] pass
  | token name written =>
      cases known : bindings name with
      | none => simp [Pass.segment, Segment.literalText, known]
      | some value => simp [Pass.segment, Segment.literalText, filledText, known]

theorem segments_length (bindings : Bindings) (segments : List Segment) (pass : Pass) :
    (segments.foldl (Pass.segment bindings) pass).written.length + (literalText segments).count ':' ≤
      pass.written.length + (segments.flatMap (filledText bindings)).length := by
  induction segments generalizing pass with
  | nil => exact Nat.le_refl _
  | cons segment segments ih =>
      have here := segment_length bindings segment pass
      have later := ih (pass.segment bindings segment)
      have counts : (literalText (segment :: segments)).count ':' =
          segment.literalText.count ':' + (literalText segments).count ':' := by
        rw [literalText, List.flatMap_cons, List.count_append, literalText]
      rw [List.foldl_cons, List.flatMap_cons, List.length_append, counts]
      omega

end Pass

theorem one_pass_kept (bindings : Bindings) (segments : List Segment)
    (bound : ∀ name ∈ tokenNames segments, bindings name ≠ none) (plain : ':' ∉ literalText segments) :
    Mode.symbolic.onePass bindings segments = segments.flatMap (filledText bindings) := by
  rw [Mode.onePass, if_pos rfl, Pass.start, Pass.segments_kept bindings segments bound plain, List.nil_append]

theorem one_pass_length (bindings : Bindings) (segments : List Segment) :
    (Mode.symbolic.onePass bindings segments).length + (literalText segments).count ':' ≤
      (segments.flatMap (filledText bindings)).length := by
  have bound := Pass.segments_length bindings segments .start
  rw [Mode.onePass, if_pos rfl]
  simpa [Pass.start] using bound

theorem filled_with_empty (segments : List Segment) (wellFormed : ∀ segment ∈ segments, Mode.symbolic.WellFormed segment) :
    segments.flatMap (filledText fun _ => some []) = literalText segments := by
  apply List.flatMap_congr
  intro segment member
  have form := wellFormed segment member
  cases segment with
  | literal text => rfl
  | wildcard => cases form
  | token name written => rfl

theorem admitted_length (modifiers : Modifiers) (segments : List Segment) (parts : List Text)
    (admitted : List.Forall₂ (Segment.Admits modifiers) segments parts) :
    (literalText segments).length ≤ parts.flatten.length := by
  induction admitted with
  | nil => exact Nat.le_refl 0
  | @cons segment part segments parts here _ ih =>
      have shorter : segment.literalText.length ≤ part.length := by
        cases segment with
        | literal text => exact Nat.le_of_eq here.length_eq
        | wildcard => exact Nat.zero_le _
        | token name written => exact Nat.zero_le _
      rw [literalText, List.flatMap_cons, List.flatten_cons, List.length_append, List.length_append]
      exact Nat.add_le_add shorter ih

namespace Matcher

theorem fill_plain_iff (pattern letters : Text) (matcher : Matcher)
    (compiled : compile pattern .symbolic letters = .ok matcher) (bindings : Bindings)
    (bound : ∀ name ∈ tokenNames (Mode.symbolic.segments pattern), bindings name ≠ none) :
    ∃ text, matcher.fill bindings = .ok text ∧
      (text = (Mode.symbolic.segments pattern).flatMap (filledText bindings) ↔
        ∀ literal, .literal literal ∈ Mode.symbolic.segments pattern → ':' ∉ literal) ∧
      ((∃ literal, .literal literal ∈ Mode.symbolic.segments pattern ∧ ':' ∈ literal) →
        text.length < ((Mode.symbolic.segments pattern).flatMap (filledText bindings)).length) := by
  have room := one_pass_length bindings (Mode.symbolic.segments pattern)
  have shorter : ':' ∈ literalText (Mode.symbolic.segments pattern) →
      (Mode.symbolic.onePass bindings (Mode.symbolic.segments pattern)).length <
        ((Mode.symbolic.segments pattern).flatMap (filledText bindings)).length := by
    intro colon
    have positive := List.count_pos_iff.mpr colon
    omega
  refine ⟨_, fill_written (Or.inr rfl) compiled bindings, ?_, ?_⟩
  · rw [← colon_free_iff]
    apply Iff.intro
    · intro same colon
      have fewer := shorter colon
      rw [same] at fewer
      exact Nat.lt_irrefl _ fewer
    · exact one_pass_kept bindings _ bound
  · rw [← mem_literal_text_iff]
    exact shorter

theorem fill_plain_iff_port :
    (∃ matcher, compile "/:id\n(a:id.*".toList .symbolic "mg".toList = .ok matcher ∧
      matcher.fill (Bindings.first [("id".toList, "x:y/".toList)]) = .ok "/x:y/\n(ax:y/.*".toList) ∧
    ∃ matcher, compile "/:host:80:/-::id".toList .symbolic [] = .ok matcher ∧
      ∃ text, matcher.fill (fun _ => some [':']) = .ok text ∧ text.length < "/:::/-::".toList.length := by
  constructor
  · obtain ⟨matcher, compiled⟩ := compiles_when_short "/:id\n(a:id.*".toList "mg".toList .symbolic ⟨false, true, true⟩
      (by simp) rfl (by simp) (by simp) (by decide)
    have segments : Mode.symbolic.segments "/:id\n(a:id.*".toList =
        [.literal ['/'], .token "id".toList ":id".toList, .literal "\n(a".toList, .token "id".toList ":id".toList,
          .literal ".*".toList] := by
      decide +kernel
    obtain ⟨text, filled, plain, -⟩ := fill_plain_iff _ _ matcher compiled
      (Bindings.first [("id".toList, "x:y/".toList)]) (by rw [segments]; decide)
    rw [← colon_free_iff, segments] at plain
    rw [plain.mpr (by decide)] at filled
    exact ⟨matcher, compiled, filled⟩
  · obtain ⟨matcher, compiled⟩ := compiles_when_short "/:host:80:/-::id".toList [] .symbolic .none
      (by simp) rfl (by simp) (by simp) (by decide)
    have segments : Mode.symbolic.segments "/:host:80:/-::id".toList =
        [.literal ['/'], .token "host".toList ":host".toList, .token "80".toList ":80".toList,
          .literal ":/-:".toList, .token "id".toList ":id".toList] := by
      decide +kernel
    obtain ⟨text, filled, -, lossy⟩ := fill_plain_iff _ _ matcher compiled (fun _ => some [':']) (by simp)
    rw [segments] at lossy
    exact ⟨matcher, compiled, text, filled, lossy ⟨":/-:".toList, by decide, by decide⟩⟩

end Matcher
end PathPattern
