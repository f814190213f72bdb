import PathPattern.Proofs.Filling

set_option autoImplicit false

namespace PathPattern

def separators (text : Text) : Text := text.filter isSeparator

theorem separators_append (first second : Text) :
    separators (first ++ second) = separators first ++ separators second := by
  rw [separators, List.filter_append, separators, separators]

theorem no_separators_iff (text : Text) : separators text = [] ↔ ∀ c ∈ text, isSeparator c = false := by
  simp [separators, List.filter_eq_nil_iff]

theorem placeholder_inside (mode : Mode) (segment : Segment) (form : mode.Placeholder segment) :
    separators segment.text = [] := by
  rw [no_separators_iff]
  cases segment with
  | literal text => cases mode <;> cases form
  | wildcard =>
      intro c member
      rw [List.mem_singleton.mp member]
      rfl
  | token name written =>
      intro c member
      cases mode with
      | template =>
          obtain ⟨rfl, letters⟩ := form
          rcases List.mem_append.mp member with opened | closing
          · cases opened with
            | head => rfl
            | tail _ inside => exact template_letter_inside c (letters c inside)
          · rw [List.mem_singleton.mp closing]
            rfl
      | symbolic =>
          obtain ⟨rfl, -, letters⟩ := form
          cases member with
          | head => rfl
          | tail _ inside => exact symbolic_letter_inside c (letters c inside)
      | _ => cases form

theorem erased_inside (mode : Mode) (text after : Text) (found : mode.leftover? text = some after) :
    ∃ gone, text = gone ++ after ∧ separators gone = [] := by
  unfold Mode.leftover? at found
  split at found
  · rename_i rest
    have placeholder : Mode.template.leftover? ('\x7b' :: rest) = some after := found
    rw [template_leftover, Option.map_eq_some_iff] at placeholder
    obtain ⟨⟨segment, tail⟩, known, rfl⟩ := placeholder
    obtain ⟨form, cut, -⟩ := (placeholder_iff _ _ _ _).mp known
    exact ⟨segment.text, cut, placeholder_inside _ _ form⟩
  · rename_i rest
    refine ⟨':' :: rest.takeWhile fun c => !isSeparator c, ?_, ?_⟩
    · rw [← Option.some.inj found, List.cons_append, List.takeWhile_append_dropWhile]
    · rw [no_separators_iff]
      intro c member
      cases member with
      | head => rfl
      | tail _ inside => simpa using List.all_eq_true.mp List.all_takeWhile c inside
  · cases found

theorem separators_scrub (mode : Mode) (text : Text) : separators (mode.scrub text) = separators text := by
  fun_induction Mode.scrub mode text with
  | case1 text after found ih =>
      obtain ⟨gone, rfl, none⟩ := erased_inside mode text after found
      rw [ih, separators_append, none, List.nil_append]
  | case2 => rfl
  | case3 c rest _ ih =>
      rw [← List.singleton_append, separators_append, ih, ← separators_append, List.singleton_append]

theorem filled_separators (mode : Mode) (bindings : Bindings) (segment : Segment)
    (wellFormed : mode.WellFormed segment)
    (plain : ∀ name ∈ segment.name?, ∀ value ∈ bindings name, separators value = []) :
    separators (filledText bindings segment) = separators segment.text := by
  cases segment with
  | token name written =>
      rw [placeholder_inside mode (.token name written) wellFormed, filledText]
      cases known : bindings name with
      | none => rfl
      | some value => exact plain name rfl value known
  | _ => rfl

theorem separators_write (mode : Mode) (bindings : Bindings) (segments : List Segment)
    (wellFormed : ∀ segment ∈ segments, mode.WellFormed segment) (waiting : Text) :
    separators (Slot.write mode waiting (segments.map bindings.slot)) =
      separators waiting ++ segments.flatMap fun segment => separators (filledText bindings segment) := by
  induction segments generalizing waiting with
  | nil => rw [List.map_nil, Slot.write, separators_scrub, List.flatMap_nil, List.append_nil]
  | cons segment segments ih =>
      have later := ih fun other member => wellFormed other (List.mem_cons_of_mem segment member)
      cases bound : segment.name?.bind bindings with
      | none =>
          have nothing : ∀ name ∈ segment.name?, ∀ value ∈ bindings name, separators value = [] := by
            intro name named value known
            rw [named, Option.bind_some, known] at bound
            cases bound
          have here := filled_separators mode bindings segment (wellFormed segment List.mem_cons_self) nothing
          rw [write_unbound _ _ _ _ _ bound, later, separators_append, List.flatMap_cons, here, List.append_assoc]
      | some value =>
          have here := bound_filled bindings segment value bound
          rw [write_bound _ _ _ _ _ value bound, separators_append, separators_append, separators_scrub, later,
            List.flatMap_cons, here, List.append_assoc]
          rfl

namespace Matcher

theorem fill_separators (pattern letters : Text) (mode : Mode) (matcher : Matcher)
    (tokens : mode = .template ∨ mode = .symbolic) (compiled : compile pattern mode letters = .ok matcher)
    (bindings : Bindings) :
    ∃ text, matcher.fill bindings = .ok text ∧
      separators text = (mode.segments pattern).flatMap (fun segment => separators (filledText bindings segment)) ∧
      ((∀ name ∈ tokenNames (mode.segments pattern), ∀ value ∈ bindings name, separators value = []) →
        separators text = separators pattern) := by
  have wellFormed := (segments_normal mode pattern).wellFormed
  have written := separators_write mode bindings (mode.segments pattern) wellFormed []
  refine ⟨_, fill_slots tokens compiled bindings, written, ?_⟩
  intro plain
  have kept : ∀ segment ∈ mode.segments pattern,
      separators (filledText bindings segment) = separators segment.text := by
    intro segment member
    apply filled_separators mode bindings segment (wellFormed segment member)
    intro name named
    exact plain name (List.mem_filterMap.mpr ⟨segment, member, named⟩)
  calc
    _ = (mode.segments pattern).flatMap fun segment => separators (filledText bindings segment) := written
    _ = (mode.segments pattern).flatMap fun segment => separators segment.text := List.flatMap_congr kept
    _ = separators (texts (mode.segments pattern)) := (List.filter_flatMap ..).symm
    _ = separators pattern := by rw [texts_of_segments]

theorem fill_separators_dropped_name :
    (∃ matcher, compile "/:id/a:B.c:d-E/".toList .symbolic [] = .ok matcher ∧
      ∃ text, matcher.fill (Bindings.first [("id".toList, "x/y".toList)]) = .ok text ∧
        separators text = "///./".toList) ∧
    ∃ matcher, compile "/{a}{{b/c}}.{d}".toList .template "mg".toList = .ok matcher ∧
      ∃ text, matcher.fill (Bindings.first [("a".toList, "x".toList)]) = .ok text ∧
        separators text = separators "/{a}{{b/c}}.{d}".toList := by
  constructor
  · obtain ⟨matcher, compiled⟩ := compiles_when_short "/:id/a:B.c:d-E/".toList [] .symbolic .none
      (by simp) rfl (by simp) (by simp) (by decide)
    have segments : Mode.symbolic.segments "/:id/a:B.c:d-E/".toList =
        [.literal ['/'], .token "id".toList ":id".toList, .literal "/a:B.c".toList, .token ['d'] ":d".toList,
          .literal "-E/".toList] := by
      decide +kernel
    obtain ⟨text, filled, inOrder, -⟩ := fill_separators _ _ .symbolic matcher (Or.inr rfl) compiled
      (Bindings.first [("id".toList, "x/y".toList)])
    rw [segments] at inOrder
    exact ⟨matcher, compiled, text, filled, inOrder⟩
  · obtain ⟨matcher, compiled⟩ := compiles_when_short "/{a}{{b/c}}.{d}".toList "mg".toList .template ⟨false, true, true⟩
      (by simp) rfl (by simp) (by simp) (by decide)
    have names : tokenNames (Mode.template.segments "/{a}{{b/c}}.{d}".toList) = [['a'], ['d']] := by decide +kernel
    obtain ⟨text, filled, -, same⟩ := fill_separators _ _ .template matcher (Or.inl rfl) compiled
      (Bindings.first [("a".toList, "x".toList)])
    rw [names] at same
    exact ⟨matcher, compiled, text, filled, same (by decide)⟩

end Matcher
end PathPattern
