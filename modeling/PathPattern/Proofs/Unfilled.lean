import Mathlib.Data.List.DropRight
import Mathlib.Data.List.Infix
import PathPattern.Proofs.LiteralText

set_option autoImplicit false

namespace PathPattern

def covered (read : Text) : Bool := (read.rtakeWhile fun c => !isSeparator c).contains ':'

def uncovered (text : Text) : Text := text.inits.filterMap fun read => if covered read then none else read.getLast?

theorem covered_concat (text : Text) (c : Char) :
    covered (text ++ [c]) = (!isSeparator c && (covered text || c == ':')) := by
  rw [covered, List.rtakeWhile_concat]
  cases isSeparator c with
  | true => rfl
  | false => simp [covered, beq_eq_decide, eq_comm]

theorem uncovered_concat (text : Text) (c : Char) :
    uncovered (text ++ [c]) = uncovered text ++ if covered (text ++ [c]) then [] else [c] := by
  rw [uncovered, List.inits_append, List.filterMap_append, uncovered]
  congr 1
  by_cases hidden : covered (text ++ [c]) = true
  · simp [hidden]
  · simp [hidden]

namespace Pass

theorem letters_uncovered (text : Text) :
    (text.foldl letter .start).dropping = covered text ∧ (text.foldl letter .start).written = uncovered text := by
  -- From the end, since what covers a character stands before it.
  induction text using List.reverseRecOn with
  | nil => exact ⟨rfl, rfl⟩
  | append_singleton text c ih =>
      rw [List.foldl_concat, letter_eq, ih.1, ih.2, ← covered_concat, uncovered_concat]
      by_cases hidden : covered (text ++ [c]) = true
      · simp [hidden]
      · simp [hidden]

end Pass

theorem symbolic_scrub (text : Text) : Mode.symbolic.scrub text = uncovered text := by
  rw [← (Pass.letters_uncovered text).2, Pass.start, (Pass.letters_scrub text []).1, List.nil_append]

example : uncovered "/a:b.c/:d::e-".toList = "/a.c/".toList := by decide

theorem template_scrub_literal (text : Text) :
    Mode.template.scrub text = literalText (Mode.template.segments text) := by
  rw [template_scrub, literalText]
  apply List.flatMap_congr
  intro segment member
  have form := (segments_normal .template text).wellFormed segment member
  cases segment with
  | literal text => rfl
  | wildcard => cases form
  | token name written => rfl

theorem write_unvalued (mode : Mode) (bindings : Bindings) (segments : List Segment)
    (unbound : ∀ segment ∈ segments, segment.name?.bind bindings = none) (waiting : Text) :
    Slot.write mode waiting (segments.map bindings.slot) = mode.scrub (waiting ++ texts segments) := by
  induction segments generalizing waiting with
  | nil => rw [List.map_nil, Slot.write, texts, List.flatMap_nil, List.append_nil]
  | cons segment segments ih =>
      have here := unbound segment List.mem_cons_self
      have later := ih (fun other member => unbound other (List.mem_cons_of_mem segment member)) (waiting ++ segment.text)
      rw [write_unbound _ _ _ _ _ here, later, texts_cons, List.append_assoc]

namespace Matcher

theorem scrub_leaves_literals (text : Text) :
    Mode.template.scrub text = literalText (Mode.template.segments text) ∧
      Mode.symbolic.scrub text = uncovered text ∧ ':' ∉ Mode.symbolic.scrub text ∧
      ∀ (mode : Mode) (letters : Text) (matcher : Matcher) (bindings : Bindings),
        (mode = .template ∨ mode = .symbolic) → compile text mode letters = .ok matcher →
          (∀ name ∈ tokenNames (mode.segments text), bindings name = none) →
            matcher.fill bindings = .ok (mode.scrub text) := by
  refine ⟨template_scrub_literal text, symbolic_scrub text, symbolic_scrub_colon text, ?_⟩
  intro mode letters matcher bindings tokens compiled unbound
  have nothing : ∀ segment ∈ mode.segments text, segment.name?.bind bindings = none := by
    intro segment member
    cases named : segment.name? with
    | none => rfl
    | some name => exact unbound name (List.mem_filterMap.mpr ⟨segment, member, named⟩)
  rw [fill_slots tokens compiled, write_unvalued mode bindings _ nothing, List.nil_append, texts_of_segments]

theorem scrub_leaves_literals_braces :
    (∃ matcher, compile "/{a}{:b-C/d.}".toList .template ['m'] = .ok matcher ∧
      matcher.fill (Bindings.first [("b".toList, "x".toList)]) = .ok "/{:b-C/d.}".toList) ∧
    ∃ matcher, compile "/{a}{:b-C/d.}".toList .symbolic [] = .ok matcher ∧
      matcher.fill (Bindings.first [("a".toList, "x".toList)]) = .ok "/{a}{/d.}".toList := by
  obtain ⟨literal, erased, -, unbound⟩ := scrub_leaves_literals "/{a}{:b-C/d.}".toList
  constructor
  · obtain ⟨matcher, compiled⟩ := compiles_when_short "/{a}{:b-C/d.}".toList ['m'] .template ⟨false, false, true⟩
      (by simp) rfl (by simp) (by simp) (by decide)
    have segments : Mode.template.segments "/{a}{:b-C/d.}".toList =
        [.literal ['/'], .token ['a'] "{a}".toList, .literal "{:b-C/d.}".toList] := by
      decide +kernel
    have filled := unbound .template _ matcher (Bindings.first [("b".toList, "x".toList)]) (Or.inl rfl) compiled
      (by rw [segments]; decide)
    rw [literal, segments] at filled
    exact ⟨matcher, compiled, filled⟩
  · obtain ⟨matcher, compiled⟩ := compiles_when_short "/{a}{:b-C/d.}".toList [] .symbolic .none
      (by simp) rfl (by simp) (by simp) (by decide)
    have names : tokenNames (Mode.symbolic.segments "/{a}{:b-C/d.}".toList) = [['b']] := by decide +kernel
    have filled := unbound .symbolic _ matcher (Bindings.first [("a".toList, "x".toList)]) (Or.inr rfl) compiled
      (by rw [names]; decide)
    rw [erased] at filled
    exact ⟨matcher, compiled, filled⟩

end Matcher
end PathPattern
