import PathPattern.Segment

namespace PathPattern

def isSeparator (c : Char) : Bool := c = '/' || c = '.'

theorem separator_iff (c : Char) : isSeparator c = true ↔ c = '/' ∨ c = '.' := by
  simp [isSeparator]

theorem template_letter_inside (c : Char) (letter : isTemplateNameChar c = true) : isSeparator c = false := by
  simp_all [isTemplateNameChar, isSeparator]

theorem symbolic_letter_inside (c : Char) (letter : isSymbolicNameChar c = true) : isSeparator c = false := by
  rw [← Bool.not_eq_true, separator_iff]
  rintro (rfl | rfl)
  · exact absurd letter (by decide)
  · exact absurd letter (by decide)

def Mode.leftover? : Mode → Text → Option Text
  | .template, '\x7b' :: rest => (closedName? rest).map Prod.snd
  | .symbolic, ':' :: rest => some (rest.dropWhile fun c => !isSeparator c)
  | _, _ => none

theorem Mode.leftover_length {mode : Mode} {text after : Text} (found : mode.leftover? text = some after) :
    after.length < text.length := by
  unfold Mode.leftover? at found
  split at found
  · simp only [Option.map_eq_some_iff, Prod.exists, exists_eq_right] at found
    obtain ⟨name, inside⟩ := found
    have shorter := closed_name_length inside
    simp only [List.length_cons]
    omega
  · rename_i rest
    have shorter := (List.dropWhile_suffix (fun c => !isSeparator c) (l := rest)).length_le
    simp only [Option.some.injEq] at found
    rw [← found]
    simp only [List.length_cons]
    omega
  · simp at found

def Mode.scrub (mode : Mode) (text : Text) : Text :=
  match _found : mode.leftover? text with
  | some after => mode.scrub after
  | none =>
      match text with
      | [] => []
      | c :: rest => c :: mode.scrub rest
termination_by text.length
decreasing_by
  · exact Mode.leftover_length (by assumption)
  · simp

theorem scrub_leftover (mode : Mode) (text after : Text) (found : mode.leftover? text = some after) :
    mode.scrub text = mode.scrub after := by
  rw [Mode.scrub]
  split
  · rename_i other known
    rw [found] at known
    rw [Option.some.inj known]
  · rename_i absent
    rw [found] at absent
    cases absent

theorem scrub_char (mode : Mode) (c : Char) (rest : Text) (absent : mode.leftover? (c :: rest) = none) :
    mode.scrub (c :: rest) = c :: mode.scrub rest := by
  rw [Mode.scrub]
  split
  · rename_i known
    rw [absent] at known
    cases known
  · rfl

theorem scrub_nil (mode : Mode) : mode.scrub [] = [] := by
  have absent : mode.leftover? [] = none := by cases mode <;> rfl
  rw [Mode.scrub]
  split
  · rename_i known
    rw [absent] at known
    cases known
  · rfl

theorem symbolic_leftover (c : Char) (rest : Text) (plain : c ≠ ':') : Mode.symbolic.leftover? (c :: rest) = none := by
  unfold Mode.leftover?
  split
  · cases ‹Mode.symbolic = Mode.template›
  · exact absurd (List.cons.inj ‹_›).1 plain
  · rfl

theorem scrub_nothing (mode : Mode) (text : Text) (nothing : ∀ rest, rest <:+ text → mode.leftover? rest = none) :
    mode.scrub text = text := by
  induction text with
  | nil => exact scrub_nil mode
  | cons c text ih =>
      rw [scrub_char mode c text (nothing _ List.suffix_rfl), ih]
      intro rest tail
      exact nothing rest (tail.trans (List.suffix_cons c text))

theorem scrub_length (mode : Mode) (text : Text) : (mode.scrub text).length ≤ text.length := by
  fun_induction Mode.scrub mode text with
  | case1 text after found ih => exact Nat.le_trans ih (Nat.le_of_lt (Mode.leftover_length found))
  | case2 => exact Nat.le_refl 0
  | case3 c rest _ ih => exact Nat.succ_le_succ ih

end PathPattern
