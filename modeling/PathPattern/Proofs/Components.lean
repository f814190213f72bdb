import PathPattern.FilePath.Ascent

set_option autoImplicit false

namespace PathPattern
namespace FilePath

theorem lead_busy (piece : Text) (busy : isIdle piece = false) : lead piece = [componentOf piece] := by
  simp only [isIdle, Bool.or_eq_false_iff, decide_eq_false_iff_not] at busy
  rw [lead, if_neg busy.1, if_neg busy.2]

theorem written_of_text (path : FilePath) (first : Text) (rest : List Text) (shape : path.pieces = first :: rest)
    (text : path.text ≠ []) : ¬ (first = [] ∧ rest = []) := by
  intro blank
  obtain ⟨rfl, rfl⟩ := blank
  have whole : ['/'].intercalate path.pieces = path.text := List.intercalate_splitOn '/'
  rw [shape] at whole
  exact text whole.symm

-- The name takes the place of what a slash at the end leaves behind it.
theorem join_pieces (directory : FilePath) (name : Text) (text : directory.text ≠ []) (free : '/' ∉ name) :
    ∃ before idle, directory.pieces = before ++ idle ∧ before ≠ [] ∧
      (∀ piece ∈ idle, isIdle piece = true) ∧ (directory.join name).pieces = before ++ [name] := by
  have single := List.splitOn_eq_singleton free
  have last := List.getLast?_eq_some_getLast text
  by_cases slash : directory.text.getLast text = '/'
  · have shape : directory.text = directory.text.dropLast ++ ['/'] := by
      rw [← slash, List.dropLast_concat_getLast]
    refine ⟨directory.text.dropLast.splitOn '/', [[]], ?_, List.splitOn_ne_nil _ _, by simp [isIdle], ?_⟩
    · rw [pieces, shape, List.splitOn_append_cons_self, List.dropLast_concat]
      rfl
    · have joined : (directory.join name).text = directory.text.dropLast ++ '/' :: name := by
        simp only [join, last, if_pos slash]
        rw [List.append_cons, ← shape]
      rw [pieces, joined, List.splitOn_append_cons_self, single]
  · refine ⟨directory.pieces, [], (List.append_nil _).symm, List.splitOn_ne_nil _ _, by simp, ?_⟩
    have joined : (directory.join name).text = directory.text ++ '/' :: name := by
      simp only [join, last, if_neg slash]
    rw [pieces, joined, List.splitOn_append_cons_self, single]
    rfl

theorem components_join (directory : FilePath) (name : Text) (busy : isIdle name = false) (free : '/' ∉ name) :
    (directory.join name).components = directory.components ++ [componentOf name] := by
  by_cases text : directory.text = []
  · have joined : (directory.join name).pieces = [name] := by
      simp only [join, text, List.getLast?_nil]
      exact List.splitOn_eq_singleton free
    have named : name ≠ [] := by
      rintro rfl
      cases busy
    have blank : directory.components = [] := by simp [components, pieces, text]
    rw [components_of_pieces _ name [] joined fun none => named none.1, lead_busy name busy, blank]
    rfl
  · obtain ⟨before, idle, here, some, nothing, joined⟩ := directory.join_pieces name text free
    obtain ⟨first, more, rfl⟩ := List.exists_cons_of_ne_nil some
    have written := directory.written_of_text first (more ++ idle) here text
    rw [components_of_pieces directory first (more ++ idle) here written,
      components_of_pieces _ first (more ++ [name]) joined (by simp), trail_append, trail_append,
      trail_idle idle nothing, trail_single name busy, List.append_nil, List.append_assoc]

theorem trail_direct (pieces : List Text) (direct : .up ∉ trail pieces) :
    ∃ names : List Text, trail pieces = names.map .name := by
  refine ⟨pieces.filter (!isIdle ·), ?_⟩
  rw [trail] at direct ⊢
  apply List.map_congr_left
  intro piece member
  rcases component_of_cases piece with up | name
  · exact absurd (List.mem_map.mpr ⟨piece, member, up⟩) direct
  · exact name

theorem components_direct (path : FilePath) (direct : .up ∉ path.components) :
    ∃ (front : List Component) (names : List Text), path.components = front ++ names.map .name ∧
      (front = [.root] ∨ front = [.here] ∨ front = []) := by
  by_cases blank : path.text = []
  · exact ⟨[], [], by simp [components, pieces, blank], Or.inr (Or.inr rfl)⟩
  · obtain ⟨first, rest, shape⟩ := path.pieces_shape
    have parts := components_of_pieces path first rest shape (path.written_of_text first rest shape blank)
    rw [parts, List.mem_append, not_or] at direct
    obtain ⟨names, run⟩ := trail_direct rest direct.2
    rw [parts, run]
    by_cases absolute : first = []
    · exact ⟨[.root], names, by rw [lead, if_pos absolute], Or.inl rfl⟩
    · by_cases dot : first = ['.']
      · exact ⟨[.here], names, by rw [lead, if_neg absolute, if_pos dot], Or.inr (Or.inl rfl)⟩
      · rw [lead, if_neg absolute, if_neg dot] at direct ⊢
        rcases component_of_cases first with up | name
        · exact absurd (List.mem_singleton.mpr up.symm) direct.1
        · exact ⟨[], first :: names, by rw [name]; rfl, Or.inr (Or.inr rfl)⟩

end FilePath
end PathPattern
