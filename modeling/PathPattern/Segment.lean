import PathPattern.Mode

namespace PathPattern

inductive Segment where
  | literal (text : Text)
  | wildcard
  | token (name written : Text)
deriving DecidableEq, Repr

namespace Segment

def text : Segment → Text
  | literal text => text
  | wildcard => ['*']
  | token _ written => written

def name? : Segment → Option Text
  | token name _ => some name
  | _ => none

def consChar (c : Char) : List Segment → List Segment
  | literal text :: segments => literal (c :: text) :: segments
  | segments => literal [c] :: segments

end Segment

def isTemplateNameChar (c : Char) : Bool :=
  c ≠ '/' && c ≠ '.' && c ≠ '\x7b' && c ≠ '\x7d'

def isSymbolicNameChar (c : Char) : Bool :=
  ('a' ≤ c && c ≤ 'z') || ('0' ≤ c && c ≤ '9')

def closedName? : Text → Option (Text × Text)
  | [] => none
  | c :: rest =>
      if c = '\x7d' then some ([], rest)
      else if isTemplateNameChar c then
        (closedName? rest).map fun (name, after) => (c :: name, after)
      else none

def Mode.placeholder? : Mode → Text → Option (Segment × Text)
  | .wildcard, '*' :: rest => some (.wildcard, rest)
  | .template, '\x7b' :: rest =>
      (closedName? rest).map fun (name, after) => (.token name ('\x7b' :: name ++ ['\x7d']), after)
  | .symbolic, ':' :: rest =>
      let name := rest.takeWhile isSymbolicNameChar
      if name = [] then none else some (.token name (':' :: name), rest.dropWhile isSymbolicNameChar)
  | _, _ => none

theorem closed_name_length {text name after : Text} (found : closedName? text = some (name, after)) :
    after.length < text.length := by
  induction text generalizing name after with
  | nil => simp [closedName?] at found
  | cons c rest ih =>
      by_cases closing : c = '\x7d'
      · simp only [closedName?, if_pos closing, Option.some.injEq, Prod.mk.injEq] at found
        simp [found.2]
      · by_cases letter : isTemplateNameChar c = true
        · simp only [closedName?, if_neg closing, if_pos letter, Option.map_eq_some_iff] at found
          obtain ⟨⟨inner, tail⟩, inside, same⟩ := found
          have shorter := ih inside
          simp only [Prod.mk.injEq] at same
          rw [← same.2]
          simp only [List.length_cons]
          omega
        · simp [closedName?, closing, letter] at found

theorem Mode.placeholder_length {mode : Mode} {text after : Text} {segment : Segment}
    (found : mode.placeholder? text = some (segment, after)) : after.length < text.length := by
  unfold Mode.placeholder? at found
  split at found
  · simp only [Option.some.injEq, Prod.mk.injEq] at found
    simp [found.2]
  · simp only [Option.map_eq_some_iff, Prod.mk.injEq] at found
    obtain ⟨⟨name, tail⟩, inside, -, same⟩ := found
    have shorter := closed_name_length inside
    rw [← same]
    simp only [List.length_cons]
    omega
  · rename_i rest
    by_cases empty : rest.takeWhile isSymbolicNameChar = []
    · simp [empty] at found
    · simp only [if_neg empty, Option.some.injEq, Prod.mk.injEq] at found
      have shorter := (List.dropWhile_suffix isSymbolicNameChar (l := rest)).length_le
      rw [← found.2]
      simp only [List.length_cons]
      omega
  · simp at found

def Mode.segments (mode : Mode) (pattern : Text) : List Segment :=
  match _found : mode.placeholder? pattern with
  | some (segment, after) => segment :: mode.segments after
  | none =>
      match pattern with
      | [] => []
      | c :: rest => Segment.consChar c (mode.segments rest)
termination_by pattern.length
decreasing_by
  · exact Mode.placeholder_length (by assumption)
  · simp

def tokenNames (segments : List Segment) : List Text := segments.filterMap Segment.name?

end PathPattern
