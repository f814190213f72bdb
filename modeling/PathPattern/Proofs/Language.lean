import Mathlib.Data.List.Forall2
import PathPattern.Proofs.Anchored
import PathPattern.Proofs.Letters
import PathPattern.Proofs.Search

set_option autoImplicit false

namespace PathPattern

namespace Expression

theorem spans_all_cons (text : Array Char) (e : Expression) (es : List Expression) (i k : Nat) :
    Spans text (.all (e :: es)) i k ↔ ∃ j, Spans text e i j ∧ Spans text (.all es) j k := by
  cases es with
  | nil =>
      constructor
      · intro spans
        exact ⟨k, spans, .empty k⟩
      · intro taken
        obtain ⟨j, spans, last⟩ := taken
        cases last with
        | empty => exact spans
  | cons next rest =>
      constructor
      · intro spans
        cases spans with
        | sequence first later => exact ⟨_, first, later⟩
      · intro taken
        obtain ⟨j, first, later⟩ := taken
        exact .sequence first later

def SpansFrom (e : Expression) (front rest : Text) (k : Nat) : Prop :=
  Spans (front ++ rest).toArray e front.length k

theorem spans_from_advance (e : Expression) (front part rest : Text) (k : Nat) :
    SpansFrom e (front ++ part) rest k ↔ Spans (front ++ (part ++ rest)).toArray e (front.length + part.length) k := by
  rw [SpansFrom, List.append_assoc, List.length_append]

theorem before_between (front rest : Text) : before (front ++ rest).toArray front.length = front.getLast? := by
  cases front with
  | nil => rfl
  | cons c front =>
      rw [List.getLast?_eq_getElem?, List.length_cons, before, List.getElem?_toArray,
        List.getElem?_append_left (by simp)]
      rfl

theorem next_between (front rest : Text) : (front ++ rest).toArray[front.length]? = rest.head? := by
  rw [List.getElem?_toArray, List.getElem?_append_right (Nat.le_refl _), Nat.sub_self, List.head?_eq_getElem?]

theorem spans_from_look (condition : Look) (es : List Expression) (front rest : Text) (k : Nat) :
    SpansFrom (.all (.look condition :: es)) front rest k ↔
      condition.holds front.getLast? rest.head? = true ∧ SpansFrom (.all es) front rest k := by
  rw [SpansFrom, spans_all_cons]
  constructor
  · intro taken
    obtain ⟨j, spans, later⟩ := taken
    cases spans with
    | look holds =>
        rw [before_between, next_between] at holds
        exact ⟨holds, later⟩
  · intro taken
    obtain ⟨holds, later⟩ := taken
    refine ⟨front.length, .look ?_, later⟩
    rw [before_between, next_between]
    exact holds

theorem spans_from_set (set : CharSet) (front rest : Text) (j : Nat) :
    Spans (front ++ rest).toArray (.oneOf set) front.length j ↔
      ∃ c after, rest = c :: after ∧ set.contains c = true ∧ j = front.length + 1 := by
  constructor
  · intro spans
    cases spans with
    | oneOf here member =>
        rw [next_between] at here
        obtain ⟨after, rfl⟩ := List.head?_eq_some_iff.mp here
        exact ⟨_, after, rfl, member, rfl⟩
  · intro taken
    obtain ⟨c, after, rfl, member, rfl⟩ := taken
    exact .oneOf (next_between front _) member

theorem spans_from_char (set : CharSet) (es : List Expression) (front rest : Text) (k : Nat) :
    SpansFrom (.all (.oneOf set :: es)) front rest k ↔
      ∃ c after, rest = c :: after ∧ set.contains c = true ∧ SpansFrom (.all es) (front ++ [c]) after k := by
  rw [SpansFrom, spans_all_cons]
  constructor
  · intro taken
    obtain ⟨j, spans, later⟩ := taken
    obtain ⟨c, after, rfl, member, rfl⟩ := (spans_from_set set front rest j).mp spans
    exact ⟨c, after, rfl, member, (spans_from_advance _ front [c] after k).mpr later⟩
  · intro taken
    obtain ⟨c, after, rfl, member, later⟩ := taken
    exact ⟨front.length + 1, (spans_from_set set front _ _).mpr ⟨c, after, rfl, member, rfl⟩,
      (spans_from_advance _ front [c] after k).mp later⟩

theorem turns_from_set (set : CharSet) (n : Nat) (front rest : Text) (j : Nat) :
    Turns (Spans (front ++ rest).toArray (.oneOf set)) n front.length j ↔
      ∃ part after, rest = part ++ after ∧ part.length = n ∧ (∀ c ∈ part, set.contains c = true) ∧
        j = front.length + part.length := by
  induction n generalizing front rest with
  | zero =>
      constructor
      · intro stays
        exact ⟨[], rest, rfl, rfl, by simp, stays.symm⟩
      · intro taken
        obtain ⟨part, after, rfl, none, -, rfl⟩ := taken
        simp [Turns, none]
  | succ n ih =>
      constructor
      · intro taken
        obtain ⟨j', spans, later⟩ := taken
        obtain ⟨c, after, rfl, member, rfl⟩ := (spans_from_set set front rest j').mp spans
        have shifted := ih (front ++ [c]) after
        rw [List.append_assoc, List.length_append] at shifted
        obtain ⟨part, last, rfl, length, members, ends⟩ := shifted.mp later
        refine ⟨c :: part, last, rfl, congrArg (· + 1) length, by simpa using ⟨member, members⟩, ?_⟩
        simp only [List.length_cons, List.length_nil] at ends ⊢
        omega
      · intro taken
        obtain ⟨part, after, rfl, length, members, ends⟩ := taken
        cases part with
        | nil => cases length
        | cons c part =>
            have shifted := ih (front ++ [c]) (part ++ after)
            rw [List.append_assoc, List.length_append] at shifted
            refine ⟨front.length + 1, (spans_from_set set front _ _).mpr ⟨c, part ++ after, rfl, members c (by simp), rfl⟩,
              shifted.mpr ⟨part, after, rfl, Nat.succ.inj length, fun d member => members d (by simp [member]), ?_⟩⟩
            simp only [List.length_cons, List.length_nil] at ends ⊢
            omega

theorem spans_from_repeated (set : CharSet) (least : Nat) (most : Option Nat) (es : List Expression)
    (front rest : Text) (k : Nat) :
    SpansFrom (.all (.repeated (.oneOf set) least most :: es)) front rest k ↔
      ∃ part after, rest = part ++ after ∧ (∀ c ∈ part, set.contains c = true) ∧ least ≤ part.length ∧
        (∀ greatest, most = some greatest → part.length ≤ greatest) ∧ SpansFrom (.all es) (front ++ part) after k := by
  rw [SpansFrom, spans_all_cons]
  simp only [spans_repeated_iff]
  constructor
  · intro taken
    obtain ⟨j, ⟨n, enough, few, turns⟩, later⟩ := taken
    obtain ⟨part, after, rfl, rfl, members, rfl⟩ := (turns_from_set set n front rest j).mp turns
    exact ⟨part, after, rfl, members, enough, few, (spans_from_advance _ front part after k).mpr later⟩
  · intro taken
    obtain ⟨part, after, rfl, members, enough, few, later⟩ := taken
    exact ⟨_, ⟨part.length, enough, few, (turns_from_set set _ front _ _).mpr ⟨part, after, rfl, rfl, members, rfl⟩⟩,
      (spans_from_advance _ front part after k).mp later⟩

theorem occurs_iff_spans_from (e : Expression) (ordered : e.BoundsOrdered) (text : Text) :
    e.occursIn text = true ↔ ∃ front rest k, text = front ++ rest ∧ SpansFrom e front rest k := by
  rw [occurs_iff_spans e ordered]
  constructor
  · intro taken
    obtain ⟨i, k, bound, spans⟩ := taken
    refine ⟨text.take i, text.drop i, k, (List.take_append_drop i text).symm, ?_⟩
    rw [SpansFrom, List.take_append_drop, List.length_take_of_le bound]
    exact spans
  · intro taken
    obtain ⟨front, rest, k, rfl, spans⟩ := taken
    exact ⟨front.length, k, by simp, spans⟩

theorem ordered_all (es : List Expression) (ordered : ∀ e ∈ es, e.BoundsOrdered) : (all es).BoundsOrdered := by
  induction es with
  | nil => trivial
  | cons e es ih =>
      have rest := ih fun e member => ordered e (by simp [member])
      cases es with
      | nil => exact ordered e (by simp)
      | cons next es => exact ⟨ordered e (by simp), rest⟩

end Expression

def Segment.Admits (modifiers : Modifiers) : Segment → Text → Prop
  | .literal text, part => List.Forall₂ (fun c d => (modifiers.flags.charSet c).contains d = true) text part
  | .wildcard, part | .token _ _, part => '\n' ∉ part

def Segment.Stands : Segment → Text → Prop
  | .literal text, part => part = text
  | .wildcard, part | .token _ _, part => '\n' ∉ part

instance (segment : Segment) (part : Text) : Decidable (segment.Stands part) :=
  match segment with
  | .literal text => inferInstanceAs (Decidable (part = text))
  | .wildcard | .token _ _ => inferInstanceAs (Decidable ('\n' ∉ part))

theorem Segment.admits_iff_stands (modifiers : Modifiers) (sensitive : modifiers.ignoreCase = false)
    (segment : Segment) (part : Text) : segment.Admits modifiers part ↔ segment.Stands part := by
  cases segment with
  | literal text =>
      have same : (fun c d => (modifiers.flags.charSet c).contains d = true) = fun c d => c = d := by
        funext c d
        apply propext
        rw [Modifiers.char_set_cases, sensitive]
        exact eq_comm
      rw [Segment.Admits, Segment.Stands, same, List.forall₂_eq_eq_eq]
      exact eq_comm
  | wildcard => exact Iff.rfl
  | token name written => exact Iff.rfl

theorem Segment.admits_eq_stands (modifiers : Modifiers) (sensitive : modifiers.ignoreCase = false) :
    Segment.Admits modifiers = Segment.Stands := by
  funext segment part
  exact propext (admits_iff_stands modifiers sensitive segment part)

theorem Segment.admits_congr (first second : Modifiers) (same : first.ignoreCase = second.ignoreCase) :
    Segment.Admits first = Segment.Admits second := by
  have sets : first.flags.charSet = second.flags.charSet := by
    funext c
    simp only [Expression.Flags.charSet, Modifiers.flags, same]
  funext segment part
  cases segment with
  | literal text => simp only [Segment.Admits, sets]
  | wildcard => rfl
  | token name written => rfl

theorem Segment.stands_admitted (modifiers : Modifiers) (segment : Segment) (part : Text)
    (stands : segment.Stands part) : segment.Admits modifiers part := by
  cases segment with
  | literal text =>
      obtain rfl : part = text := stands
      exact List.forall₂_same.mpr fun c _ => modifiers.char_set_self c
  | wildcard => exact stands
  | token name written => exact stands

namespace Expression

variable (modifiers : Modifiers)

theorem spans_from_literal (text : Text) (es : List Expression) (front rest : Text) (k : Nat) :
    SpansFrom (.all (text.map (fun c => .oneOf (modifiers.flags.charSet c)) ++ es)) front rest k ↔
      ∃ part after, rest = part ++ after ∧ (Segment.literal text).Admits modifiers part ∧
        SpansFrom (.all es) (front ++ part) after k := by
  induction text generalizing front rest with
  | nil =>
      constructor
      · intro later
        exact ⟨[], rest, rfl, .nil, by simpa using later⟩
      · intro taken
        obtain ⟨part, after, rfl, admitted, later⟩ := taken
        cases admitted with
        | nil => simpa using later
  | cons c text ih =>
      rw [List.map_cons, List.cons_append, spans_from_char]
      constructor
      · intro taken
        obtain ⟨d, after, rfl, member, later⟩ := taken
        obtain ⟨part, last, rfl, admitted, final⟩ := (ih _ _).mp later
        exact ⟨d :: part, last, rfl, .cons member admitted, by simpa using final⟩
      · intro taken
        obtain ⟨part, after, rfl, admitted, later⟩ := taken
        cases admitted with
        | @cons _ d _ part member admitted =>
            exact ⟨d, part ++ after, rfl, member, (ih _ _).mpr ⟨part, after, rfl, admitted, by simpa using later⟩⟩

theorem spans_from_any_run (es : List Expression) (front rest : Text) (k : Nat) :
    SpansFrom (.all (anyRun.expression :: es)) front rest k ↔
      ∃ part after, rest = part ++ after ∧ '\n' ∉ part ∧ SpansFrom (.all es) (front ++ part) after k := by
  have lineFree : ∀ part : Text, (∀ c ∈ part, CharSet.exceptLineFeed.contains c = true) ↔ '\n' ∉ part := by
    intro part
    simp only [CharSet.contains_except_line_feed]
    constructor
    · intro different member
      exact different _ member rfl
    · rintro absent c member rfl
      exact absent member
  rw [anyRun, spans_from_repeated]
  simp only [lineFree]
  constructor
  · intro taken
    obtain ⟨part, after, same, free, -, -, later⟩ := taken
    exact ⟨part, after, same, free, later⟩
  · intro taken
    obtain ⟨part, after, same, free, later⟩ := taken
    exact ⟨part, after, same, free, Nat.zero_le _, by simp, later⟩

theorem spans_from_segment (segment : Segment) (es : List Expression) (front rest : Text) (k : Nat) :
    SpansFrom (.all ((segment.pieces modifiers.flags).map Piece.expression ++ es)) front rest k ↔
      ∃ part after, rest = part ++ after ∧ segment.Admits modifiers part ∧
        SpansFrom (.all es) (front ++ part) after k := by
  cases segment with
  | literal text =>
      rw [Segment.pieces, List.map_map]
      exact spans_from_literal modifiers text es front rest k
  | wildcard => exact spans_from_any_run es front rest k
  | token name written => exact spans_from_any_run es front rest k

theorem spans_from_segments (segments : List Segment) (es : List Expression) (front rest : Text) (k : Nat) :
    SpansFrom (.all ((segments.flatMap (Segment.pieces modifiers.flags)).map Piece.expression ++ es)) front rest k ↔
      ∃ parts after, rest = parts.flatten ++ after ∧ List.Forall₂ (Segment.Admits modifiers) segments parts ∧
        SpansFrom (.all es) (front ++ parts.flatten) after k := by
  induction segments generalizing front rest with
  | nil =>
      constructor
      · intro later
        exact ⟨[], rest, rfl, .nil, by simpa using later⟩
      · intro taken
        obtain ⟨parts, after, rfl, admitted, later⟩ := taken
        cases admitted with
        | nil => simpa using later
  | cons segment segments ih =>
      rw [List.flatMap_cons, List.map_append, List.append_assoc, spans_from_segment]
      constructor
      · intro taken
        obtain ⟨part, after, rfl, here, later⟩ := taken
        obtain ⟨parts, last, rfl, admitted, final⟩ := (ih _ _).mp later
        exact ⟨part :: parts, last, by simp, .cons here admitted, by simpa using final⟩
      · intro taken
        obtain ⟨parts, after, rfl, admitted, later⟩ := taken
        cases admitted with
        | @cons _ part _ parts here admitted =>
            exact ⟨part, parts.flatten ++ after, by simp, here,
              (ih _ _).mpr ⟨parts, after, rfl, admitted, by simpa using later⟩⟩

end Expression

def Mode.Trails (mode : Mode) (tail : Text) : Prop := tail = [] ∨ mode = .static ∧ tail = ['/']

namespace Modifiers

def StartsAfter (modifiers : Modifiers) (front : Text) : Prop :=
  front = [] ∨ modifiers.multiline = true ∧ front.getLast? = some '\n'

def EndsBefore (modifiers : Modifiers) (rest : Text) : Prop :=
  rest = [] ∨ modifiers.multiline = true ∧ rest.head? = some '\n'

theorem line_start_holds (modifiers : Modifiers) (front : Text) (next : Option Char) :
    modifiers.flags.lineStart.holds front.getLast? next = true ↔ modifiers.StartsAfter front := by
  cases multiline : modifiers.multiline with
  | false => simp [Expression.Flags.lineStart, Modifiers.flags, multiline, Look.holds, StartsAfter]
  | true => simp [Expression.Flags.lineStart, Modifiers.flags, multiline, Look.holds, StartsAfter]

theorem line_end_holds (modifiers : Modifiers) (rest : Text) (before : Option Char) :
    modifiers.flags.lineEnd.holds before rest.head? = true ↔ modifiers.EndsBefore rest := by
  cases multiline : modifiers.multiline with
  | false => simp [Expression.Flags.lineEnd, Modifiers.flags, multiline, Look.holds, EndsBefore]
  | true => simp [Expression.Flags.lineEnd, Modifiers.flags, multiline, Look.holds, EndsBefore]

end Modifiers

namespace Expression

theorem spans_from_trailing (modifiers : Modifiers) (mode : Mode) (es : List Expression) (front rest : Text)
    (k : Nat) :
    SpansFrom (.all ((mode.trailingPieces modifiers.flags).map Piece.expression ++ es)) front rest k ↔
      ∃ tail after, rest = tail ++ after ∧ mode.Trails tail ∧ SpansFrom (.all es) (front ++ tail) after k := by
  by_cases static : mode = .static
  · rw [Mode.trailingPieces, if_pos static]
    change SpansFrom (.all (.repeated (.oneOf _) 0 (some 1) :: es)) front rest k ↔ _
    rw [spans_from_repeated]
    simp only [modifiers.char_set_slash]
    constructor
    · intro taken
      obtain ⟨tail, after, same, slashes, -, short, later⟩ := taken
      refine ⟨tail, after, same, ?_, later⟩
      have bound := short 1 rfl
      cases tail with
      | nil => exact Or.inl rfl
      | cons c tail =>
          obtain rfl : tail = [] := List.length_eq_zero_iff.mp (by simpa using bound)
          exact Or.inr ⟨static, by rw [slashes c (by simp)]⟩
    · intro taken
      rcases taken with ⟨tail, after, same, rfl | ⟨-, rfl⟩, later⟩
      · exact ⟨[], after, same, by simp, Nat.zero_le _, by simp, later⟩
      · exact ⟨['/'], after, same, by simp, Nat.zero_le _, by simp, later⟩
  · rw [Mode.trailingPieces, if_neg static]
    constructor
    · intro later
      exact ⟨[], rest, rfl, Or.inl rfl, by simpa using later⟩
    · intro taken
      rcases taken with ⟨tail, after, rfl, rfl | ⟨absent, -⟩, later⟩
      · simpa using later
      · exact absurd absent static

theorem anchored_ordered (modifiers : Modifiers) (mode : Mode) (segments : List Segment) :
    (mode.anchored modifiers.flags segments).BoundsOrdered := by
  apply ordered_all
  intro e member
  obtain ⟨piece, inside, rfl⟩ := List.mem_map.mp member
  rcases piece_kinds mode modifiers.flags segments piece inside with ⟨condition, rfl⟩ | ⟨c, rfl⟩ | rfl | rfl
  · trivial
  · trivial
  · exact ⟨trivial, by simp⟩
  · exact ⟨trivial, by simp⟩

theorem occurs_anchored_iff (modifiers : Modifiers) (mode : Mode) (segments : List Segment) (input : Text) :
    (mode.anchored modifiers.flags segments).occursIn input = true ↔
      ∃ front parts tail rest, input = front ++ (parts.flatten ++ (tail ++ rest)) ∧ modifiers.StartsAfter front ∧
        List.Forall₂ (Segment.Admits modifiers) segments parts ∧ mode.Trails tail ∧ modifiers.EndsBefore rest := by
  have parts : (mode.pieces modifiers.flags segments).map Piece.expression =
      .look modifiers.flags.lineStart :: ((segments.flatMap (Segment.pieces modifiers.flags)).map Piece.expression ++
        ((mode.trailingPieces modifiers.flags).map Piece.expression ++ [.look modifiers.flags.lineEnd])) := by
    simp [Mode.pieces, Piece.leaf]
  rw [occurs_iff_spans_from _ (anchored_ordered modifiers mode segments), Mode.anchored, parts]
  simp only [spans_from_look, spans_from_segments, spans_from_trailing, Modifiers.line_start_holds,
    Modifiers.line_end_holds]
  constructor
  · intro taken
    obtain ⟨front, rest, k, rfl, starts, parts, -, rfl, admitted, tail, after, rfl, trails, ends, -⟩ := taken
    exact ⟨front, parts, tail, after, rfl, starts, admitted, trails, ends⟩
  · intro taken
    obtain ⟨front, parts, tail, after, rfl, starts, admitted, trails, ends⟩ := taken
    exact ⟨front, _, _, rfl, starts, parts, _, rfl, admitted, tail, after, rfl, trails, ends, .empty _⟩

end Expression

end PathPattern
