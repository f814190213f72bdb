import PathPattern.Proofs.Compile
import PathPattern.Proofs.Letters
import PathPattern.Proofs.Segmentation

set_option autoImplicit false

namespace PathPattern

open Expression

theorem join_apart (codes : List Nat) (first : Nat) (apart : (first :: codes).IsChain fun a b => a + 1 < b) :
    CharSet.joinFrom first first (codes.map fun code => (code, code)) =
      (first :: codes).map fun code => (code, code) := by
  induction codes generalizing first with
  | nil => rfl
  | cons second codes ih =>
      obtain ⟨gap, later⟩ := List.isChain_cons_cons.mp apart
      have beyond : ¬ second ≤ first + 1 := by omega
      rw [List.map_cons, CharSet.joinFrom, if_neg beyond, ih second later]
      rfl

theorem tidy_apart (codes : List Nat) (apart : codes.IsChain fun a b => a + 1 < b) :
    (CharSet.ofCodes codes).tidy = .ofCodes codes := by
  have ordered : (codes.map fun code => (code, code)).mergeSort (fun a b => a.1 ≤ b.1) =
      codes.map fun code => (code, code) := by
    apply List.mergeSort_of_pairwise
    have chain : codes.IsChain (· < ·) := apart.imp fun a b gap => by omega
    rw [List.pairwise_map]
    exact (List.isChain_iff_pairwise.mp chain).imp fun less => by simpa using Nat.le_of_lt less
  rw [CharSet.tidy, CharSet.ofCodes, ordered]
  cases codes with
  | nil => rfl
  | cons first codes => exact congrArg CharSet.mk (join_apart codes first apart)

theorem tidy_except_line_feed : CharSet.exceptLineFeed.tidy = .exceptLineFeed := by
  simp [CharSet.tidy, CharSet.exceptLineFeed, List.mergeSort, CharSet.joinFrom]

theorem single_weight (backward : Bool) (c : Char) : setWeight backward (.single c) ≤ 128 := by
  have chain : setWeight backward (.single c) = 32 * (Char.ofNat c.toNat).utf8Size := by
    rw [setWeight, CharSet.single, tidy_apart [c.toNat] (.singleton _)]
    simp [CharSet.ofCodes]
  have bytes := (Char.ofNat c.toNat).utf8Size_le_four
  omega

theorem optional_weight (backward : Bool) (c : Char) :
    (Expression.repeated (.oneOf (.single c)) 0 (some 1)).weight backward ≤ 200 := by
  have bound := single_weight backward c
  have known : (Expression.repeated (.oneOf (.single c)) 0 (some 1)).weight backward =
      0 * setWeight backward (.single c) + 32 + (1 - 0) * (setWeight backward (.single c) + 32 + 8) := by rfl
  omega

theorem any_run_weight (backward : Bool) : anyRun.expression.weight backward ≤ 1040 := by
  have set : setWeight backward .exceptLineFeed ≤ 1000 := by
    simp only [setWeight, forwardSetWeight, backwardSetWeight, encodings, tidy_except_line_feed]
    cases backward <;> decide +kernel
  have known : anyRun.expression.weight backward = setWeight backward .exceptLineFeed + 32 + 8 := by rfl
  omega

def totalWeight (backward : Bool) : List Piece → Nat
  | [] => 0
  | piece :: pieces => piece.expression.weight backward + totalWeight backward pieces

theorem total_weight_append (backward : Bool) (first second : List Piece) :
    totalWeight backward (first ++ second) = totalWeight backward first + totalWeight backward second := by
  induction first with
  | nil => exact (Nat.zero_add _).symm
  | cons piece first ih => rw [List.cons_append, totalWeight, totalWeight, ih, Nat.add_assoc]

theorem weight_all (backward : Bool) (pieces : List Piece) :
    (Expression.all (pieces.map Piece.expression)).weight backward ≤ 32 + totalWeight backward pieces := by
  induction pieces with
  | nil => exact Nat.le_refl 32
  | cons piece pieces ih =>
      cases pieces with
      | nil => simp [Expression.all, totalWeight]
      | cons next pieces =>
          have split : (Expression.all ((piece :: next :: pieces).map Piece.expression)).weight backward =
              piece.expression.weight backward +
                (Expression.all ((next :: pieces).map Piece.expression)).weight backward := by rfl
          have sum : totalWeight backward (piece :: next :: pieces) =
              piece.expression.weight backward + totalWeight backward (next :: pieces) := by rfl
          omega

-- What a literal character takes depends on its case variants, so the bound on it is left to the callers.
theorem segment_weight (backward : Bool) (modifiers : Modifiers) (segment : Segment) (written : segment.text ≠ [])
    (light : ∀ c ∈ segment.text, setWeight backward (modifiers.flags.charSet c) ≤ 1040) :
    totalWeight backward (segment.pieces modifiers.flags) ≤ 1040 * segment.text.length := by
  have once : 1 ≤ segment.text.length := List.length_pos_iff.mpr written
  have run := any_run_weight backward
  cases segment with
  | literal text =>
      clear written once
      simp only [Segment.pieces, Segment.text] at light ⊢
      induction text with
      | nil => exact Nat.le_refl 0
      | cons c text ih =>
          have here := light c (by simp)
          have later := ih fun other member => light other (by simp [member])
          simp only [totalWeight, List.map_cons, Piece.leaf, weight, List.length_cons] at later ⊢
          omega
  | wildcard =>
      simp only [Segment.pieces, totalWeight]
      omega
  | token name text =>
      simp only [Segment.pieces, totalWeight]
      omega

theorem segments_weight (backward : Bool) (modifiers : Modifiers) (segments : List Segment)
    (written : ∀ segment ∈ segments, segment.text ≠ [])
    (light : ∀ c ∈ texts segments, setWeight backward (modifiers.flags.charSet c) ≤ 1040) :
    totalWeight backward (segments.flatMap (Segment.pieces modifiers.flags)) ≤ 1040 * (texts segments).length := by
  induction segments with
  | nil => exact Nat.le_refl 0
  | cons segment segments ih =>
      rw [texts_cons] at light
      have here := segment_weight backward modifiers segment (written segment (by simp))
        fun c member => light c (by simp [member])
      have later := ih (fun other member => written other (by simp [member])) fun c member => light c (by simp [member])
      rw [List.flatMap_cons, total_weight_append, texts_cons, List.length_append]
      omega

theorem well_formed_written (mode : Mode) (segment : Segment) (wellFormed : mode.WellFormed segment) :
    segment.text ≠ [] := by
  cases segment with
  | literal text => exact wellFormed.1
  | wildcard => simp [Segment.text]
  | token name written =>
      cases mode with
      | template => simp [Segment.text, wellFormed.1]
      | symbolic => simp [Segment.text, wellFormed.1]
      | _ => cases wellFormed

theorem trailing_weight (backward : Bool) (modifiers : Modifiers) (mode : Mode) :
    totalWeight backward (mode.trailingPieces modifiers.flags) ≤ 200 := by
  have slash : modifiers.flags.charSet '/' = .single '/' := by
    simp [Flags.charSet, Modifiers.flags, CharSet.single, Unicode.caseless_below_letters]
  unfold Mode.trailingPieces
  split
  · rw [slash]
    exact optional_weight backward '/'
  · exact Nat.zero_le 200

theorem anchored_weight (backward : Bool) (modifiers : Modifiers) (mode : Mode) (pattern : Text)
    (light : ∀ c ∈ pattern, setWeight backward (modifiers.flags.charSet c) ≤ 1040) :
    (mode.anchored modifiers.flags (mode.segments pattern)).weight backward ≤ 296 + 1040 * pattern.length := by
  have written : ∀ segment ∈ mode.segments pattern, segment.text ≠ [] := fun segment member =>
    well_formed_written mode segment ((segments_normal mode pattern).wellFormed segment member)
  have inner := segments_weight backward modifiers (mode.segments pattern) written
  have ending := trailing_weight backward modifiers mode
  have look : ∀ condition, totalWeight backward [.leaf (.look condition)] = 32 := fun condition => rfl
  have total := weight_all backward (mode.pieces modifiers.flags (mode.segments pattern))
  rw [texts_of_segments] at inner
  have letters := inner light
  simp only [Mode.pieces, total_weight_append, look] at total
  rw [Mode.anchored, Mode.pieces]
  omega

theorem compiles_when_light (pattern letters : Text) (mode : Mode) (flags : Modifiers)
    (anchored : mode ≠ .expression) (parsed : Modifiers.parse letters = .ok flags)
    (allowed : mode = .strict → flags = .none) (short : pattern.length ≤ 10000)
    (light : ∀ backward, ∀ c ∈ pattern, setWeight backward (flags.flags.charSet c) ≤ 1040) :
    ∃ matcher, Matcher.compile pattern mode letters = .ok matcher := by
  have fits : (mode.anchored flags.flags (mode.segments pattern)).fits = true := by
    have forward := anchored_weight false flags mode pattern (light false)
    have backward := anchored_weight true flags mode pattern (light true)
    have limit : weightLimit = 10485760 := by rfl
    simp only [Expression.fits, Bool.and_eq_true, decide_eq_true_eq]
    omega
  have silent : mode = .strict → letters = [] := by
    intro strict
    exact (Modifiers.parsed_empty_iff flags letters parsed).mp ((Modifiers.is_empty_iff flags).mpr (allowed strict))
  have read := of_text_anchored mode anchored flags pattern (mode.segments pattern)
  exact ⟨_, Matcher.compile_ok_iff.mpr ⟨flags, parsed, silent, _, read, fits, rfl⟩⟩

theorem compiles_when_short (pattern letters : Text) (mode : Mode) (flags : Modifiers)
    (anchored : mode ≠ .expression) (parsed : Modifiers.parse letters = .ok flags)
    (allowed : mode = .strict → flags = .none) (sensitive : 'i' ∉ letters) (short : pattern.length ≤ 10000) :
    ∃ matcher, Matcher.compile pattern mode letters = .ok matcher := by
  have caseCounts : flags.ignoreCase = false := by
    have known := Modifiers.parse_has flags letters parsed 'i'
    simpa [Modifiers.has, sensitive] using known
  apply compiles_when_light pattern letters mode flags anchored parsed allowed short
  intro backward c _
  have set : flags.flags.charSet c = .single c := by
    simp [Flags.charSet, Modifiers.flags, caseCounts]
  have bound := single_weight backward c
  rw [set]
  omega

end PathPattern
