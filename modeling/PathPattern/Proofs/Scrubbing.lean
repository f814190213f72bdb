import PathPattern.Proofs.Segmentation
import PathPattern.Scrub

set_option autoImplicit false

namespace PathPattern

theorem template_leftover (text : Text) :
    Mode.template.leftover? text = (Mode.template.placeholder? text).map Prod.snd := by
  cases text with
  | nil => rfl
  | cons c rest =>
      by_cases brace : c = '\x7b'
      · subst brace
        simp only [Mode.leftover?, Mode.placeholder?, Option.map_map]
        rfl
      · simp [Mode.leftover?, Mode.placeholder?, brace]

theorem template_leftover_iff (text after : Text) :
    Mode.template.leftover? text = some after ↔ ∃ mark, Mode.template.Mark mark ∧ text = mark ++ after := by
  rw [template_leftover, Option.map_eq_some_iff]
  apply Iff.intro
  · intro found
    obtain ⟨⟨segment, rest⟩, known, rfl⟩ := found
    obtain ⟨name, letters, rfl, -⟩ := (template_placeholder_iff _ _ _).mp known
    exact ⟨_, ⟨name, letters, rfl⟩, by simp⟩
  · intro cut
    obtain ⟨mark, ⟨name, letters, rfl⟩, rfl⟩ := cut
    exact ⟨_, (template_placeholder_iff _ after _).mpr ⟨name, letters, by simp, rfl⟩, rfl⟩

theorem template_scrub_mark (mark after : Text) (isMark : Mode.template.Mark mark) :
    Mode.template.scrub (mark ++ after) = Mode.template.scrub after :=
  scrub_leftover _ _ _ ((template_leftover_iff _ after).mpr ⟨mark, isMark, rfl⟩)

theorem template_scrub_plain (c : Char) (rest : Text) (plain : c ≠ '\x7b') :
    Mode.template.scrub (c :: rest) = c :: Mode.template.scrub rest := by
  apply scrub_char
  simp [Mode.leftover?, plain]

theorem closed_before_brace (text rest : Text) (absent : closedName? text = none) :
    closedName? (text ++ '\x7b' :: rest) = none := by
  induction text with
  | nil => rfl
  | cons c text ih =>
      by_cases closing : c = '\x7d'
      · simp [closedName?, closing] at absent
      · by_cases letter : isTemplateNameChar c = true
        · simp only [closedName?, if_neg closing, if_pos letter, Option.map_eq_none_iff] at absent
          simp only [List.cons_append, closedName?, if_neg closing, if_pos letter, ih absent, Option.map_none]
        · simp only [List.cons_append, closedName?, if_neg closing, if_neg letter]

theorem template_scrub_before_brace (text rest : Text) :
    Mode.template.scrub (text ++ '\x7b' :: rest) = Mode.template.scrub text ++ Mode.template.scrub ('\x7b' :: rest) := by
  fun_induction Mode.scrub Mode.template text with
  | case1 text after found ih =>
      obtain ⟨mark, isMark, rfl⟩ := (template_leftover_iff text after).mp found
      rw [List.append_assoc, template_scrub_mark mark _ isMark, ih]
  | case2 => rfl
  | case3 c text absent ih =>
      have openStill : Mode.template.leftover? (c :: (text ++ '\x7b' :: rest)) = none := by
        by_cases brace : c = '\x7b'
        · subst brace
          have unclosed : closedName? text = none := by simpa [Mode.leftover?] using absent
          simp [Mode.leftover?, closed_before_brace text rest unclosed]
        · simp [Mode.leftover?, brace]
      rw [List.cons_append, scrub_char _ c _ openStill, ih, List.cons_append]

theorem template_scrubbed_iff (text : Text) : Mode.template.scrub text = text ↔ Mode.template.Free text := by
  apply Iff.intro
  · intro same mark isMark inside
    obtain ⟨before, after, rfl⟩ := inside
    have known : ∃ tail, mark = '\x7b' :: tail := by
      obtain ⟨name, -, same⟩ := isMark
      exact ⟨name ++ ['\x7d'], same⟩
    obtain ⟨tail, known⟩ := known
    have cut : Mode.template.scrub (before ++ mark ++ after) =
        Mode.template.scrub before ++ Mode.template.scrub after := by
      have opened := template_scrub_before_brace before (tail ++ after)
      rw [← template_scrub_mark mark after isMark, List.append_assoc, known]
      exact opened
    have front := scrub_length .template before
    have back := scrub_length .template after
    have whole := congrArg List.length (cut.symm.trans same)
    simp only [List.length_append, known, List.length_cons] at whole
    omega
  · intro free
    apply scrub_nothing
    intro rest tail
    cases found : Mode.template.leftover? rest with
    | none => rfl
    | some after =>
        obtain ⟨mark, isMark, rfl⟩ := (template_leftover_iff _ _).mp found
        exact absurd ((List.prefix_append mark after).isInfix.trans tail.isInfix) (free mark isMark)

def NamePieces (pieces : List Text) : Prop :=
  ∀ piece ∈ pieces, Mode.template.Mark piece ∨ ∃ c, isTemplateNameChar c = true ∧ piece = [c]

def Nested (text : Text) : Prop :=
  ∃ before pieces after, text = before ++ '\x7b' :: (pieces.flatten ++ '\x7d' :: after) ∧ NamePieces pieces ∧
    ∃ piece ∈ pieces, Mode.template.Mark piece

theorem name_pieces_cons (piece : Text) (pieces : List Text) :
    NamePieces (piece :: pieces) ↔
      (Mode.template.Mark piece ∨ ∃ c, isTemplateNameChar c = true ∧ piece = [c]) ∧ NamePieces pieces :=
  List.forall_mem_cons

theorem name_letter (c : Char) (letter : isTemplateNameChar c = true) : c ≠ '\x7b' ∧ c ≠ '\x7d' := by
  simp_all [isTemplateNameChar]

theorem letter_no_mark (c : Char) : ¬ Mode.template.Mark [c] := by
  intro isMark
  obtain ⟨name, -, same⟩ := isMark
  simp at same

theorem nested_unclosed (pieces : List Text) (shape : NamePieces pieces) (after : Text)
    (broken : ∃ piece ∈ pieces, Mode.template.Mark piece) : closedName? (pieces.flatten ++ after) = none := by
  induction pieces with
  | nil =>
      obtain ⟨piece, member, -⟩ := broken
      cases member
  | cons piece pieces ih =>
      obtain ⟨here, later⟩ := (name_pieces_cons piece pieces).mp shape
      rcases here with ⟨name, -, rfl⟩ | ⟨c, letter, rfl⟩
      · rfl
      · have inner : ∃ piece ∈ pieces, Mode.template.Mark piece := by
          obtain ⟨other, member, isMark⟩ := broken
          rcases List.mem_cons.mp member with rfl | inside
          · exact absurd isMark (letter_no_mark c)
          · exact ⟨other, inside, isMark⟩
        have unclosed := ih later inner
        rw [List.flatten_cons, List.append_assoc, List.singleton_append, closedName?,
          if_neg (name_letter c letter).2, if_pos letter, unclosed, Option.map_none]

theorem name_pieces_scrub (pieces : List Text) (shape : NamePieces pieces) (after : Text) :
    ∃ name, (∀ c ∈ name, isTemplateNameChar c = true) ∧
      Mode.template.scrub (pieces.flatten ++ '\x7d' :: after) = name ++ '\x7d' :: Mode.template.scrub after := by
  induction pieces with
  | nil => exact ⟨[], by simp, template_scrub_plain '\x7d' after (by decide)⟩
  | cons piece pieces ih =>
      obtain ⟨here, later⟩ := (name_pieces_cons piece pieces).mp shape
      obtain ⟨name, letters, scrubbed⟩ := ih later
      rw [List.flatten_cons, List.append_assoc]
      rcases here with isMark | ⟨c, letter, rfl⟩
      · rw [template_scrub_mark piece _ isMark]
        exact ⟨name, letters, scrubbed⟩
      · rw [List.singleton_append, template_scrub_plain c _ (name_letter c letter).1, scrubbed]
        exact ⟨c :: name, List.forall_mem_cons.mpr ⟨letter, letters⟩, rfl⟩

-- Where a scrubbed text runs up to a closing brace, the text itself has placeholders besides.
theorem pieces_of_scrubbed (text name after : Text) (letters : ∀ c ∈ name, isTemplateNameChar c = true)
    (scrubbed : Mode.template.scrub text = name ++ '\x7d' :: after) :
    ∃ pieces rest, text = pieces.flatten ++ '\x7d' :: rest ∧ NamePieces pieces := by
  fun_induction Mode.scrub Mode.template text generalizing name with
  | case1 text tail found ih =>
      obtain ⟨mark, isMark, rfl⟩ := (template_leftover_iff text tail).mp found
      obtain ⟨pieces, rest, rfl, shape⟩ := ih name letters scrubbed
      exact ⟨mark :: pieces, rest, by simp, (name_pieces_cons mark pieces).mpr ⟨Or.inl isMark, shape⟩⟩
  | case2 => simp at scrubbed
  | case3 c text _ ih =>
      cases name with
      | nil =>
          obtain ⟨rfl, -⟩ := List.cons.inj scrubbed
          exact ⟨[], text, rfl, by simp [NamePieces]⟩
      | cons d name =>
          obtain ⟨rfl, inner⟩ := List.cons.inj scrubbed
          obtain ⟨letter, others⟩ := List.forall_mem_cons.mp letters
          obtain ⟨pieces, rest, rfl, shape⟩ := ih name others inner
          exact ⟨[c] :: pieces, rest, rfl, (name_pieces_cons [c] pieces).mpr ⟨Or.inr ⟨c, letter, rfl⟩, shape⟩⟩

theorem pieces_closed (pieces : List Text) (shape : NamePieces pieces)
    (whole : ∀ piece ∈ pieces, ¬ Mode.template.Mark piece) : ∀ c ∈ pieces.flatten, isTemplateNameChar c = true := by
  intro c member
  obtain ⟨piece, inside, here⟩ := List.mem_flatten.mp member
  rcases shape piece inside with isMark | ⟨d, letter, rfl⟩
  · exact absurd isMark (whole piece inside)
  · rw [List.mem_singleton.mp here]
    exact letter

theorem nested_of_scrubbed (text before name after : Text) (letters : ∀ c ∈ name, isTemplateNameChar c = true)
    (scrubbed : Mode.template.scrub text = before ++ '\x7b' :: (name ++ '\x7d' :: after)) : Nested text := by
  fun_induction Mode.scrub Mode.template text generalizing before with
  | case1 text tail found ih =>
      obtain ⟨mark, -, rfl⟩ := (template_leftover_iff text tail).mp found
      obtain ⟨front, pieces, rest, rfl, shape⟩ := ih before scrubbed
      exact ⟨mark ++ front, pieces, rest, by simp, shape⟩
  | case2 => simp at scrubbed
  | case3 c text absent ih =>
      cases before with
      | nil =>
          obtain ⟨rfl, inner⟩ := List.cons.inj scrubbed
          obtain ⟨pieces, rest, rfl, shape⟩ := pieces_of_scrubbed text name after letters inner
          refine ⟨[], pieces, rest, rfl, shape, ?_⟩
          -- Without a placeholder in between the brace would have opened one itself.
          by_cases whole : ∀ piece ∈ pieces, ¬ Mode.template.Mark piece
          · have isMark : Mode.template.Mark ('\x7b' :: pieces.flatten ++ ['\x7d']) :=
              ⟨pieces.flatten, pieces_closed pieces shape whole, rfl⟩
            have closed := (template_leftover_iff ('\x7b' :: (pieces.flatten ++ '\x7d' :: rest)) rest).mpr
              ⟨_, isMark, by simp⟩
            rw [absent] at closed
            cases closed
          · simpa using whole
      | cons d before =>
          obtain ⟨rfl, inner⟩ := List.cons.inj scrubbed
          obtain ⟨front, pieces, rest, rfl, shape⟩ := ih before inner
          exact ⟨c :: front, pieces, rest, rfl, shape⟩

theorem scrubbed_free_iff (text : Text) : Mode.template.Free (Mode.template.scrub text) ↔ ¬ Nested text := by
  apply Iff.intro
  · intro free nested
    obtain ⟨before, pieces, after, rfl, shape, broken⟩ := nested
    obtain ⟨name, letters, scrubbed⟩ := name_pieces_scrub pieces shape after
    have unclosed := nested_unclosed pieces shape ('\x7d' :: after) broken
    have kept : Mode.template.leftover? ('\x7b' :: (pieces.flatten ++ '\x7d' :: after)) = none := by
      simp [Mode.leftover?, unclosed]
    apply free ('\x7b' :: name ++ ['\x7d']) ⟨name, letters, rfl⟩
    rw [template_scrub_before_brace, scrub_char _ _ _ kept, scrubbed]
    exact ⟨Mode.template.scrub before, Mode.template.scrub after, by simp⟩
  · intro apart mark isMark inside
    obtain ⟨before, after, scrubbed⟩ := inside
    obtain ⟨name, letters, rfl⟩ := isMark
    exact apart (nested_of_scrubbed text before name after letters (by simp [← scrubbed]))

theorem symbolic_scrub_colon (text : Text) : ':' ∉ Mode.symbolic.scrub text := by
  fun_induction Mode.scrub Mode.symbolic text with
  | case1 text after found ih => exact ih
  | case2 => exact List.not_mem_nil
  | case3 c rest absent ih =>
      rw [List.mem_cons, not_or]
      refine ⟨?_, ih⟩
      rintro rfl
      cases absent

theorem symbolic_scrub_plain (text : Text) (plain : ':' ∉ text) : Mode.symbolic.scrub text = text := by
  apply scrub_nothing
  intro rest tail
  cases rest with
  | nil => rfl
  | cons c rest =>
      apply symbolic_leftover
      rintro rfl
      exact plain (tail.subset List.mem_cons_self)

theorem scrub_outside_template (mode : Mode) (text : Text) (other : mode ≠ .template) :
    mode.scrub (mode.scrub text) = mode.scrub text ∧ (mode ≠ .wildcard → mode.Free (mode.scrub text)) := by
  cases mode with
  | template => exact absurd rfl other
  | symbolic =>
      have plain := symbolic_scrub_colon text
      refine ⟨symbolic_scrub_plain _ plain, ?_⟩
      intro _ mark isMark inside
      obtain ⟨c, -, rfl⟩ := isMark
      exact plain (inside.subset List.mem_cons_self)
  | wildcard => exact ⟨scrub_nothing _ _ fun _ _ => rfl, fun same => absurd rfl same⟩
  | _ => exact ⟨scrub_nothing _ _ fun _ _ => rfl, fun _ _ isMark => nomatch isMark⟩

theorem scrub_again_iff (mode : Mode) (text : Text) :
    (mode.scrub (mode.scrub text) = mode.scrub text ↔ (mode = .template → ¬ Nested text)) ∧
      (mode ≠ .wildcard → (mode.Free (mode.scrub text) ↔ (mode = .template → ¬ Nested text))) := by
  by_cases template : mode = .template
  · subst template
    rw [template_scrubbed_iff, scrubbed_free_iff]
    simp
  · obtain ⟨same, free⟩ := scrub_outside_template mode text template
    exact ⟨iff_of_true same fun also => absurd also template, fun marked =>
      iff_of_true (free marked) fun also => absurd also template⟩

theorem scrub_again_iff_slash :
    (Mode.template.Free (Mode.template.scrub "{{a}/{b}}".toList) ∧ ¬ Nested "{{a}/{b}}".toList) ∧
      ¬ Mode.template.Free (Mode.template.scrub "{{a}{b}c}".toList) ∧
      Mode.symbolic.Free (Mode.symbolic.scrub "a::b:c/:d".toList) := by
  obtain ⟨same, free⟩ := scrub_again_iff .template "{{a}/{b}}".toList
  have apart : ¬ Nested "{{a}/{b}}".toList := same.mp (by decide +kernel) rfl
  have first : Mode.template.Mark "{a}".toList := ⟨['a'], List.forall_mem_singleton.mpr rfl, rfl⟩
  have second : Mode.template.Mark "{b}".toList := ⟨['b'], List.forall_mem_singleton.mpr rfl, rfl⟩
  have shape : NamePieces ["{a}".toList, "{b}".toList, ['c']] :=
    List.forall_mem_cons.mpr ⟨Or.inl first, List.forall_mem_cons.mpr ⟨Or.inl second,
      List.forall_mem_singleton.mpr (Or.inr ⟨'c', rfl, rfl⟩)⟩⟩
  have nested : Nested "{{a}{b}c}".toList := ⟨[], _, [], rfl, shape, _, List.mem_cons_self, first⟩
  have found := (scrub_again_iff .template "{{a}{b}c}".toList).2 (by simp)
  refine ⟨⟨(free (by simp)).mpr fun _ => apart, apart⟩, fun none => found.mp none rfl nested, ?_⟩
  exact ((scrub_again_iff .symbolic "a::b:c/:d".toList).2 (by simp)).mpr (by simp)

theorem scrub_again_finds_nested :
    Mode.template.scrub "{{a}b}".toList = "{b}".toList ∧
      Mode.template.scrub (Mode.template.scrub "{{a}b}".toList) ≠ Mode.template.scrub "{{a}b}".toList ∧
      ¬ Mode.wildcard.Free (Mode.wildcard.scrub ['*']) := by
  refine ⟨by decide +kernel, by decide +kernel, ?_⟩
  intro free
  exact free ['*'] rfl ⟨[], [], by decide +kernel⟩

end PathPattern
