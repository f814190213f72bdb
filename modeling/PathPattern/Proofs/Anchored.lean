import PathPattern.Matcher
import PathPattern.Proofs.Reading

set_option autoImplicit false

namespace PathPattern

open Expression

def operatorChars : List Char := ['(', ')', '|', '[', '*', '+', '?', '\x7b', '\\', '.', '^', '$']

theorem operator_special (c : Char) (operator : c ∈ operatorChars) : specialChars.contains c = true := by
  have every : (operatorChars.all fun d => specialChars.contains d) = true := by decide
  exact List.all_eq_true.mp every c operator

theorem special_escapable (c : Char) (special : specialChars.contains c = true) : Atom.isEscapable c = true := by
  have escapable : specialChars.all Atom.isEscapable = true := by decide
  exact List.all_eq_true.mp escapable c (by simpa using special)

section

variable (progress : Progress) (modifiers : Modifiers)

theorem run_step_ordinary (unspaced : progress.flags.spaced = false) (c : Char) (rest : Text)
    (ordinary : c ∉ operatorChars) :
    (progress.step c).run rest = some (progress.pushSet (progress.flags.charSet c), rest) := by
  unfold Progress.step
  simp only [unspaced, Bool.false_and, Bool.false_eq_true, if_false]
  -- Only the last case is for characters that have no meaning of their own.
  split
  case h_13 => rfl
  all_goals exact absurd (by decide) ordinary

theorem run_step_escaped (unspaced : progress.flags.spaced = false) (c : Char) (rest : Text)
    (special : specialChars.contains c = true) :
    (progress.step '\\').run (c :: rest) = some (progress.pushSet (progress.flags.charSet c), rest) := by
  have taken : (Atom.escape progress.flags).run (c :: rest) = some (.char c, rest) := by
    rw [Reading.run, Atom.escape_of_escapable (special_escapable c special)]
    rfl
  simp [Progress.step, unspaced, taken]

theorem run_step_start (unspaced : progress.flags.spaced = false) (rest : Text) :
    (progress.step '^').run rest = some (progress.push (.leaf (.look progress.flags.lineStart)), rest) := by
  simp [Progress.step, unspaced]

theorem run_step_end (unspaced : progress.flags.spaced = false) (rest : Text) :
    (progress.step '$').run rest = some (progress.push (.leaf (.look progress.flags.lineEnd)), rest) := by
  simp [Progress.step, unspaced]

theorem run_step_dot (plain : progress.flags = modifiers.flags) (rest : Text) :
    (progress.step '.').run rest = some (progress.pushSet .exceptLineFeed, rest) := by
  simp [Progress.step, plain, Modifiers.flags, Flags.dot?]

theorem run_step_star (unspaced : progress.flags.spaced = false) (rest : Text) (greedy : ['?'].isPrefixOf rest = false) :
    (progress.step '*').run rest = (progress.repeat? 0 none).map (·, rest) := by
  simp [Progress.step, unspaced, greedy]

theorem run_step_optional (unspaced : progress.flags.spaced = false) (rest : Text)
    (greedy : ['?'].isPrefixOf rest = false) :
    (progress.step '?').run rest = (progress.repeat? 0 (some 1)).map (·, rest) := by
  simp [Progress.step, unspaced, greedy]

theorem run_step_close (unspaced : progress.flags.spaced = false) (rest : Text) :
    (progress.step ')').run rest = progress.leave?.map (·, rest) := by
  simp [Progress.step, unspaced]

theorem run_skip_blanks (flags : Flags) (unspaced : flags.spaced = false) (input : Text) :
    flags.skipBlanks.run input = some ((), input) := by
  simp [Flags.skipBlanks, Reading.trim, Flags.afterBlanks, unspaced, Reading.run]

theorem run_flag_items (rest : Text) : Progress.flagItems.run (':' :: rest) = some (([], ':'), rest) := by
  unfold Progress.flagItems Reading.run
  rw [Reading.loop]
  simp [bind, pure, Reading.require, Rest.all]

theorem run_step_group (unspaced : progress.flags.spaced = false) (rest : Text) :
    (progress.step '(').run ('?' :: ':' :: rest) = some (progress.enter progress.flags false, rest) := by
  have taken : progress.group.run ('?' :: ':' :: rest) = some (progress.enter progress.flags false, rest) := by
    simp [Progress.group, run_skip_blanks, unspaced, run_flag_items, Flags.update, List.isPrefixOf]
  simp [Progress.step, taken, unspaced]

end

def anyRun : Piece := ⟨.repeated (.oneOf .exceptLineFeed) 0 none, 2, true⟩

theorem read_placeholder (progress : Progress) (modifiers : Modifiers) (plain : progress.flags = modifiers.flags)
    (rest : Text) :
    Reading.fold Progress.step progress ("(?:.*)".toList ++ rest) =
      Reading.fold Progress.step (progress.push anyRun) rest := by
  have unspaced : progress.flags.spaced = false := by rw [plain]; rfl
  have opened := run_step_group progress unspaced ('.' :: '*' :: ')' :: rest)
  have dot := run_step_dot (progress.enter progress.flags false) modifiers plain ('*' :: ')' :: rest)
  have star := run_step_star ((progress.enter progress.flags false).pushSet .exceptLineFeed) unspaced (')' :: rest) rfl
  have closed := run_step_close ((progress.enter progress.flags false).push
    ⟨.repeated (.oneOf .exceptLineFeed) 0 none, 1, true⟩) unspaced rest
  calc
    Reading.fold Progress.step progress ("(?:.*)".toList ++ rest)
      = Reading.fold Progress.step (progress.enter progress.flags false) ('.' :: '*' :: ')' :: rest) :=
        Reading.fold_of_run _ _ _ _ _ _ opened
    _ = Reading.fold Progress.step _ ('*' :: ')' :: rest) := Reading.fold_of_run _ _ _ _ _ _ dot
    _ = Reading.fold Progress.step _ (')' :: rest) := Reading.fold_of_run _ _ _ _ _ _ star
    _ = Reading.fold Progress.step (progress.push anyRun) rest := Reading.fold_of_run _ _ _ _ _ _ closed

def Segment.pieces (flags : Flags) : Segment → List Piece
  | .literal text => text.map fun c => .leaf (.oneOf (flags.charSet c))
  | .wildcard | .token _ _ => [anyRun]

def Mode.trailingPieces (mode : Mode) (flags : Flags) : List Piece :=
  if mode = .static then [⟨.repeated (.oneOf (flags.charSet '/')) 0 (some 1), 1, true⟩] else []

def Mode.pieces (mode : Mode) (flags : Flags) (segments : List Segment) : List Piece :=
  [.leaf (.look flags.lineStart)] ++ segments.flatMap (Segment.pieces flags) ++ mode.trailingPieces flags ++
    [.leaf (.look flags.lineEnd)]

def Mode.anchored (mode : Mode) (flags : Flags) (segments : List Segment) : Expression :=
  .all ((mode.pieces flags segments).map Piece.expression)

def after (progress : Progress) (pieces : List Piece) : Progress :=
  { progress with pieces := pieces.reverse ++ progress.pieces }

theorem after_cons (progress : Progress) (piece : Piece) (pieces : List Piece) :
    after progress (piece :: pieces) = after (progress.push piece) pieces := by
  simp [after, Progress.push]

theorem after_append (progress : Progress) (first second : List Piece) :
    after progress (first ++ second) = after (after progress first) second := by
  simp [after]

theorem read_escape (progress : Progress) (unspaced : progress.flags.spaced = false) (text rest : Text) :
    Reading.fold Progress.step progress (escape text ++ rest) =
      Reading.fold Progress.step (after progress ((Segment.literal text).pieces progress.flags)) rest := by
  induction text generalizing progress with
  | nil => rfl
  | cons c text ih =>
      have later := ih (progress.pushSet (progress.flags.charSet c)) unspaced
      have parts : after (progress.pushSet (progress.flags.charSet c)) ((Segment.literal text).pieces progress.flags) =
          after progress ((Segment.literal (c :: text)).pieces progress.flags) := by
        simp [Segment.pieces, after_cons, Progress.pushSet]
      by_cases special : specialChars.contains c = true
      · have escaped : escape (c :: text) ++ rest = '\\' :: c :: (escape text ++ rest) := by
          simp only [escape, List.flatMap_cons, if_pos special]
          rfl
        have step := run_step_escaped progress unspaced c (escape text ++ rest) special
        rw [escaped, Reading.fold_of_run _ _ _ _ _ _ step, later]
        exact congrArg (Reading.fold Progress.step · rest) parts
      · have plain : escape (c :: text) ++ rest = c :: (escape text ++ rest) := by
          simp only [escape, List.flatMap_cons, if_neg special]
          rfl
        have step := run_step_ordinary progress unspaced c (escape text ++ rest)
          (fun operator => special (operator_special c operator))
        rw [plain, Reading.fold_of_run _ _ _ _ _ _ step, later]
        exact congrArg (Reading.fold Progress.step · rest) parts

theorem read_segment (progress : Progress) (modifiers : Modifiers) (plain : progress.flags = modifiers.flags)
    (segment : Segment) (rest : Text) :
    Reading.fold Progress.step progress (segment.expressionText ++ rest) =
      Reading.fold Progress.step (after progress (segment.pieces modifiers.flags)) rest := by
  cases segment with
  | literal text =>
      have unspaced : progress.flags.spaced = false := by rw [plain]; rfl
      rw [← plain]
      exact read_escape progress unspaced text rest
  | wildcard => exact read_placeholder progress modifiers plain rest
  | token name written => exact read_placeholder progress modifiers plain rest

theorem read_segments (progress : Progress) (modifiers : Modifiers) (plain : progress.flags = modifiers.flags)
    (segments : List Segment) (rest : Text) :
    Reading.fold Progress.step progress (segments.flatMap Segment.expressionText ++ rest) =
      Reading.fold Progress.step (after progress (segments.flatMap (Segment.pieces modifiers.flags))) rest := by
  induction segments generalizing progress with
  | nil => rfl
  | cons segment segments ih =>
      rw [List.flatMap_cons, List.flatMap_cons, List.append_assoc, after_append,
        read_segment progress modifiers plain]
      exact ih _ plain

theorem read_ending (progress : Progress) (modifiers : Modifiers) (plain : progress.flags = modifiers.flags)
    (mode : Mode) :
    Reading.fold Progress.step progress (if mode = .static then "/?$".toList else ['$']) =
      some (after progress (mode.trailingPieces modifiers.flags ++ [.leaf (.look modifiers.flags.lineEnd)])) := by
  have unspaced : progress.flags.spaced = false := by rw [plain]; rfl
  by_cases static : mode = .static
  · rw [if_pos static, Mode.trailingPieces, if_pos static]
    have slash := run_step_ordinary progress unspaced '/' ['?', '$'] (by decide)
    have optional := run_step_optional (progress.pushSet (progress.flags.charSet '/')) unspaced ['$'] rfl
    have final := run_step_end (progress.push ⟨.repeated (.oneOf (progress.flags.charSet '/')) 0 (some 1), 1, true⟩)
      unspaced []
    calc
      Reading.fold Progress.step progress ['/', '?', '$']
        = Reading.fold Progress.step _ ['?', '$'] := Reading.fold_of_run _ _ _ _ _ _ slash
      _ = Reading.fold Progress.step _ ['$'] := Reading.fold_of_run _ _ _ _ _ _ optional
      _ = Reading.fold Progress.step _ [] := Reading.fold_of_run _ _ _ _ _ _ final
      _ = _ := by rw [Reading.fold_nil, ← plain]; rfl
  · rw [if_neg static, Mode.trailingPieces, if_neg static]
    have final := run_step_end progress unspaced []
    rw [Reading.fold_of_run _ _ _ _ _ _ final, Reading.fold_nil, plain]
    rfl

theorem expression_text_parts (mode : Mode) (anchored : mode ≠ .expression) (pattern : Text) (segments : List Segment) :
    expressionText mode pattern segments =
      '^' :: (segments.flatMap Segment.expressionText ++ if mode = .static then "/?$".toList else ['$']) := by
  cases mode with
  | expression => exact absurd rfl anchored
  | _ => rfl

theorem read_expression_text (mode : Mode) (anchored : mode ≠ .expression) (modifiers : Modifiers) (pattern : Text)
    (segments : List Segment) :
    Reading.fold Progress.step (.start modifiers.flags) (expressionText mode pattern segments) =
      some (after (.start modifiers.flags) (mode.pieces modifiers.flags segments)) := by
  have start := run_step_start (.start modifiers.flags) rfl
    (segments.flatMap Segment.expressionText ++ if mode = .static then "/?$".toList else ['$'])
  rw [expression_text_parts mode anchored, Reading.fold_of_run _ _ _ _ _ _ start,
    read_segments _ modifiers rfl, read_ending _ modifiers rfl]
  simp only [Mode.pieces, List.append_assoc, after_append]
  rfl

theorem depth_bounded (pieces : List Piece) (bound : Nat) (bounded : ∀ piece ∈ pieces, piece.depth ≤ bound) :
    Piece.greatestDepth pieces ≤ bound := by
  have folded : ∀ start ≤ bound, pieces.foldl (fun depth piece => max depth piece.depth) start ≤ bound := by
    induction pieces with
    | nil => exact fun start small => small
    | cons piece rest ih =>
        intro start small
        have here := bounded piece (by simp)
        exact ih (fun piece member => bounded piece (by simp [member])) _ (Nat.max_le.mpr ⟨small, here⟩)
  exact folded 0 (Nat.zero_le bound)

theorem piece_kinds (mode : Mode) (flags : Flags) (segments : List Segment) (piece : Piece)
    (member : piece ∈ mode.pieces flags segments) :
    (∃ condition, piece = .leaf (.look condition)) ∨ (∃ c, piece = .leaf (.oneOf (flags.charSet c))) ∨
      piece = anyRun ∨ piece = ⟨.repeated (.oneOf (flags.charSet '/')) 0 (some 1), 1, true⟩ := by
  simp only [Mode.pieces, Mode.trailingPieces, List.mem_append, List.mem_singleton, List.mem_flatMap] at member
  rcases member with ((start | ⟨segment, -, inside⟩) | trailing) | final
  · exact Or.inl ⟨_, start⟩
  · cases segment with
    | literal text =>
        obtain ⟨c, -, same⟩ := List.mem_map.mp inside
        exact Or.inr (Or.inl ⟨c, same.symm⟩)
    | wildcard => exact Or.inr (Or.inr (Or.inl (List.mem_singleton.mp inside)))
    | token name written => exact Or.inr (Or.inr (Or.inl (List.mem_singleton.mp inside)))
  · by_cases static : mode = .static
    · rw [if_pos static] at trailing
      exact Or.inr (Or.inr (Or.inr (List.mem_singleton.mp trailing)))
    · rw [if_neg static] at trailing
      cases trailing
  · exact Or.inl ⟨_, final⟩

theorem piece_depth (mode : Mode) (flags : Flags) (segments : List Segment) (piece : Piece)
    (member : piece ∈ mode.pieces flags segments) : piece.depth ≤ 2 := by
  rcases piece_kinds mode flags segments piece member with ⟨condition, rfl⟩ | ⟨c, rfl⟩ | rfl | rfl
  · exact Nat.zero_le 2
  · exact Nat.zero_le 2
  · exact Nat.le_refl 2
  · exact Nat.le_succ 1

theorem combine_several (join : List Expression → Expression) (pieces : List Piece) (several : 2 ≤ pieces.length) :
    Piece.combine join pieces = ⟨join (pieces.reverse.map Piece.expression), Piece.greatestDepth pieces + 1, true⟩ := by
  cases pieces with
  | nil => simp at several
  | cons first rest =>
      cases rest with
      | nil => simp at several
      | cons second rest => rfl

theorem of_text_anchored (mode : Mode) (anchored : mode ≠ .expression) (modifiers : Modifiers) (pattern : Text)
    (segments : List Segment) :
    ofText? modifiers.flags (expressionText mode pattern segments) =
      some (mode.anchored modifiers.flags segments) := by
  have reversed : (after (.start modifiers.flags) (mode.pieces modifiers.flags segments)).pieces =
      (mode.pieces modifiers.flags segments).reverse := by
    simp [after, Progress.start]
  -- The places at both ends are always there, so the parts make a sequence, which is one level deeper than they are.
  have several : 2 ≤ (mode.pieces modifiers.flags segments).reverse.length := by
    simp only [List.length_reverse, Mode.pieces, List.length_append, List.length_singleton]
    omega
  have read : (after (.start modifiers.flags) (mode.pieces modifiers.flags segments)).inside =
      ⟨mode.anchored modifiers.flags segments,
        Piece.greatestDepth (mode.pieces modifiers.flags segments).reverse + 1, true⟩ := by
    change Piece.sequence _ = _
    rw [reversed, Piece.sequence, combine_several _ _ several, List.reverse_reverse]
    rfl
  have shallow := depth_bounded (mode.pieces modifiers.flags segments).reverse 2
    (fun piece member => piece_depth mode modifiers.flags segments piece (List.mem_reverse.mp member))
  have within : Piece.greatestDepth (mode.pieces modifiers.flags segments).reverse + 1 ≤ depthLimit := by
    have : depthLimit = 250 := rfl
    omega
  have closed : (after (.start modifiers.flags) (mode.pieces modifiers.flags segments)).outer = [] := rfl
  rw [ofText?, read_expression_text mode anchored]
  simp only [closed, read, within, if_true]

end PathPattern
