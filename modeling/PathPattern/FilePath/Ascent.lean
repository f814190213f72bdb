import PathPattern.FilePath

set_option autoImplicit false

namespace PathPattern
namespace FilePath

theorem free_of_mem_split (separator : Char) (text piece : Text) (member : piece ∈ text.splitOn separator) :
    separator ∉ piece := by
  induction text generalizing piece with
  | nil =>
      rw [List.splitOn_nil, List.mem_singleton] at member
      rw [member]
      exact List.not_mem_nil
  | cons c text ih =>
      rw [List.splitOn_cons_eq_if_modifyHead] at member
      by_cases same : c = separator
      · rw [if_pos (beq_iff_eq.mpr same)] at member
        rcases List.mem_cons.mp member with rfl | later
        · exact List.not_mem_nil
        · exact ih piece later
      · rw [if_neg (mt beq_iff_eq.mp same)] at member
        obtain ⟨first, pieces, shape⟩ := List.exists_cons_of_ne_nil (List.splitOn_ne_nil separator text)
        rw [shape, List.modifyHead_cons] at member
        rw [shape] at ih
        rcases List.mem_cons.mp member with rfl | later
        · exact List.not_mem_cons_of_ne_of_not_mem (Ne.symm same) (ih first List.mem_cons_self)
        · exact ih piece (List.mem_cons_of_mem first later)

theorem pieces_shape (path : FilePath) : ∃ first rest, path.pieces = first :: rest :=
  List.exists_cons_of_ne_nil (List.splitOn_ne_nil '/' path.text)

def lead (piece : Text) : List Component :=
  if piece = [] then [.root] else if piece = ['.'] then [.here] else [componentOf piece]

def trail (pieces : List Text) : List Component := (pieces.filter (!isIdle ·)).map componentOf

theorem component_of_cases (piece : Text) : componentOf piece = .up ∨ componentOf piece = .name piece := by
  by_cases double : piece = ['.', '.']
  · exact Or.inl (if_pos double)
  · exact Or.inr (if_neg double)

theorem component_not_root (piece : Text) : componentOf piece ≠ .root := by
  rcases component_of_cases piece with up | name
  · simp [up]
  · simp [name]

theorem trail_append (before after : List Text) : trail (before ++ after) = trail before ++ trail after := by
  rw [trail, List.filter_append, List.map_append]
  rfl

theorem trail_idle (pieces : List Text) (idle : ∀ piece ∈ pieces, isIdle piece = true) : trail pieces = [] := by
  have none : pieces.filter (!isIdle ·) = [] := by
    apply List.filter_eq_nil_iff.mpr
    intro piece member
    simp [idle piece member]
  rw [trail, none]
  rfl

theorem trail_single (piece : Text) (busy : isIdle piece = false) : trail [piece] = [componentOf piece] := by
  simp [trail, busy]

-- Idle pieces at the end come first in reverse.
theorem trail_trimmed (pieces : List Text) : trail (pieces.dropWhile isIdle).reverse = trail pieces.reverse := by
  have idle : ∀ piece ∈ (pieces.takeWhile isIdle).reverse, isIdle piece = true := by
    intro piece member
    exact List.all_eq_true.mp List.all_takeWhile piece (List.mem_reverse.mp member)
  calc
    trail (pieces.dropWhile isIdle).reverse
      = trail (pieces.dropWhile isIdle).reverse ++ trail (pieces.takeWhile isIdle).reverse := by
        rw [trail_idle _ idle, List.append_nil]
    _ = trail pieces.reverse := by
        rw [← trail_append, ← List.reverse_append, List.takeWhile_append_dropWhile]

theorem lead_relative (piece : Text) (relative : piece ≠ []) : ∃ last, last ≠ .root ∧ lead piece = [last] := by
  by_cases dot : piece = ['.']
  · exact ⟨.here, by simp, by rw [lead, if_neg relative, if_pos dot]⟩
  · refine ⟨componentOf piece, component_not_root piece, ?_⟩
    rw [lead, if_neg relative, if_neg dot]

theorem components_of_pieces (path : FilePath) (first : Text) (rest : List Text) (shape : path.pieces = first :: rest)
    (written : ¬ (first = [] ∧ rest = [])) : path.components = lead first ++ trail rest := by
  rw [components, shape]
  by_cases absolute : first = []
  · have more : rest ≠ [] := fun none => written ⟨absolute, none⟩
    simp only [if_pos absolute, if_neg more, lead]
    rfl
  · by_cases dot : first = ['.']
    · simp only [if_neg absolute, if_pos dot, lead]
      rfl
    · simp only [if_neg absolute, if_neg dot, lead]
      rfl

theorem components_piece (piece : Text) (free : '/' ∉ piece) (relative : piece ≠ []) :
    components ⟨piece⟩ = lead piece := by
  have alone := List.splitOn_eq_singleton free
  rw [components_of_pieces ⟨piece⟩ piece [] alone fun none => relative none.1]
  exact List.append_nil _

theorem components_kept (first : Text) (kept : List Text) (above : FilePath)
    (found : (match kept with
      | [] => some ⟨if first = [] then ['/'] else first⟩
      | kept => some ⟨Text.join ['/'] (first :: kept.reverse)⟩) = some above)
    (free : ∀ piece ∈ first :: kept, '/' ∉ piece) : above.components = lead first ++ trail kept.reverse := by
  cases kept with
  | nil =>
      by_cases absolute : first = []
      · obtain rfl : ⟨['/']⟩ = above := by simpa [absolute] using found
        rw [absolute]
        rfl
      · obtain rfl : ⟨first⟩ = above := by simpa [absolute] using found
        rw [components_piece first (free first List.mem_cons_self) absolute]
        exact (List.append_nil _).symm
  | cons next kept =>
      obtain rfl : ⟨Text.join ['/'] (first :: (next :: kept).reverse)⟩ = above := Option.some.inj found
      have below : ∀ piece ∈ first :: (next :: kept).reverse, '/' ∉ piece := by
        simpa only [List.forall_mem_cons, List.mem_reverse] using free
      have pieces := List.splitOn_intercalate '/' below (by simp)
      exact components_of_pieces ⟨Text.join ['/'] (first :: (next :: kept).reverse)⟩ first _ pieces (by simp)

theorem components_above (path above : FilePath) (found : path.parent? = some above) :
    ∃ last, last ≠ .root ∧ path.components = above.components ++ [last] := by
  obtain ⟨first, rest, shape⟩ := path.pieces_shape
  have trimmed := trail_trimmed rest.reverse
  rw [List.reverse_reverse] at trimmed
  simp only [parent?, shape] at found
  cases outer : rest.reverse.dropWhile isIdle with
  | nil =>
      rw [outer] at found trimmed
      by_cases absolute : first = []
      · simp [absolute] at found
      · obtain rfl : ⟨[]⟩ = above := by simpa [absolute] using found
        obtain ⟨last, inner, alone⟩ := lead_relative first absolute
        refine ⟨last, inner, ?_⟩
        rw [components_of_pieces path first rest shape fun none => absolute none.1, ← trimmed, alone]
        rfl
  | cons piece before =>
      rw [outer] at found trimmed
      have busy : isIdle piece = false := by
        have head := List.head?_dropWhile_not isIdle rest.reverse
        rw [outer] at head
        simpa using head
      have more : rest ≠ [] := by
        rintro rfl
        cases outer
      have kept : ∀ other ∈ first :: before.dropWhile isIdle, '/' ∉ other := by
        have free : ∀ other ∈ first :: rest, '/' ∉ other := by
          rw [← shape]
          exact free_of_mem_split '/' path.text
        have dropped : piece :: before <:+ rest.reverse := outer ▸ List.dropWhile_suffix isIdle
        have trimming : before.dropWhile isIdle <:+ rest.reverse :=
          (List.dropWhile_suffix isIdle).trans ((List.suffix_cons piece before).trans dropped)
        intro other member
        rcases List.mem_cons.mp member with rfl | inside
        · exact free other List.mem_cons_self
        · exact free other (List.mem_cons_of_mem first (List.mem_reverse.mp (trimming.subset inside)))
      refine ⟨componentOf piece, component_not_root piece, ?_⟩
      rw [components_of_pieces path first rest shape fun none => more none.2, ← trimmed, List.reverse_cons,
        trail_append, trail_single piece busy, components_kept first _ above found kept, trail_trimmed,
        List.append_assoc]

theorem parent_shorter (path above : FilePath) (found : path.parent? = some above) :
    above.components.length < path.components.length := by
  obtain ⟨last, -, longer⟩ := components_above path above found
  rw [longer, List.length_append, List.length_singleton]
  exact Nat.lt_succ_self _

def ascent (path : FilePath) : List FilePath :=
  path :: match _above : path.parent? with
    | none => []
    | some above => above.ascent
termination_by path.components.length
decreasing_by exact parent_shorter path _ ‹_›

end FilePath
end PathPattern
