import Mathlib.Data.List.Chain
import PathPattern.Segment

set_option autoImplicit false

namespace PathPattern

def texts (segments : List Segment) : Text := segments.flatMap Segment.text

theorem texts_cons (segment : Segment) (segments : List Segment) :
    texts (segment :: segments) = segment.text ++ texts segments := by
  rfl

namespace Mode

def Placeholder : Mode → Segment → Prop
  | .wildcard, .wildcard => True
  | .template, .token name written =>
      written = '\x7b' :: name ++ ['\x7d'] ∧ ∀ c ∈ name, isTemplateNameChar c = true
  | .symbolic, .token name written =>
      written = ':' :: name ∧ name ≠ [] ∧ ∀ c ∈ name, isSymbolicNameChar c = true
  | _, _ => False

def Mark : Mode → Text → Prop
  | .wildcard, mark => mark = ['*']
  | .template, mark => ∃ name, (∀ c ∈ name, isTemplateNameChar c = true) ∧ mark = '\x7b' :: name ++ ['\x7d']
  | .symbolic, mark => ∃ c, isSymbolicNameChar c = true ∧ mark = [':', c]
  | _, _ => False

def Free (mode : Mode) (text : Text) : Prop := ∀ mark, mode.Mark mark → ¬ mark <:+: text

def EndsName (mode : Mode) (after : Text) : Prop :=
  mode = .symbolic → ∀ c ∈ after.head?, isSymbolicNameChar c = false

def WellFormed (mode : Mode) : Segment → Prop
  | .literal text => text ≠ [] ∧ mode.Free text
  | .wildcard => mode.Placeholder .wildcard
  | .token name written => mode.Placeholder (.token name written)

def Apart (mode : Mode) : Segment → Segment → Prop
  | .literal _, .literal _ => False
  | .token _ _, .literal text => mode.EndsName text
  | _, _ => True

structure Normal (mode : Mode) (segments : List Segment) : Prop where
  wellFormed : ∀ segment ∈ segments, mode.WellFormed segment
  apart : segments.IsChain mode.Apart

end Mode

theorem closed_name_iff (text name after : Text) :
    closedName? text = some (name, after) ↔
      (∀ c ∈ name, isTemplateNameChar c = true) ∧ text = name ++ '\x7d' :: after := by
  induction text generalizing name with
  | nil => simp [closedName?]
  | cons c rest ih =>
      by_cases closing : c = '\x7d'
      · subst closing
        simp only [closedName?, if_true, Option.some.injEq, Prod.mk.injEq]
        constructor
        · intro cut
          obtain ⟨rfl, rfl⟩ := cut
          exact ⟨by simp, rfl⟩
        · intro cut
          obtain ⟨letters, same⟩ := cut
          cases name with
          | nil => exact ⟨rfl, (List.cons.inj same).2⟩
          | cons d name =>
              have brace := letters d (by simp)
              rw [← (List.cons.inj same).1] at brace
              exact absurd brace (by decide)
      · by_cases letter : isTemplateNameChar c = true
        · simp only [closedName?, if_neg closing, if_pos letter, Option.map_eq_some_iff, Prod.exists,
            Prod.mk.injEq]
          constructor
          · intro cut
            obtain ⟨inner, tail, found, rfl, rfl⟩ := cut
            obtain ⟨letters, rfl⟩ := (ih inner).mp found
            exact ⟨by simpa using ⟨letter, letters⟩, rfl⟩
          · intro cut
            obtain ⟨letters, same⟩ := cut
            cases name with
            | nil => exact absurd (List.cons.inj same).1 closing
            | cons d name =>
                obtain ⟨rfl, rest⟩ := List.cons.inj same
                exact ⟨name, after, (ih name).mpr ⟨fun e member => letters e (by simp [member]), rest⟩, rfl, rfl⟩
        · simp only [closedName?, if_neg closing, if_neg letter]
          constructor
          · intro impossible
            cases impossible
          · intro cut
            obtain ⟨letters, same⟩ := cut
            cases name with
            | nil => exact absurd (List.cons.inj same).1 closing
            | cons d name =>
                obtain ⟨rfl, same⟩ := List.cons.inj same
                exact absurd (letters c (by simp)) letter

theorem taken_name_iff (accepts : Char → Bool) (rest name after : Text) :
    rest.takeWhile accepts = name ∧ rest.dropWhile accepts = after ↔
      (∀ c ∈ name, accepts c = true) ∧ rest = name ++ after ∧ ∀ c ∈ after.head?, accepts c = false := by
  constructor
  · intro cut
    obtain ⟨rfl, rfl⟩ := cut
    refine ⟨fun c member => ?_, List.takeWhile_append_dropWhile.symm, fun c member => ?_⟩
    · exact List.all_eq_true.mp List.all_takeWhile c member
    · have stopped := List.head?_dropWhile_not accepts rest
      rw [Option.mem_def.mp member] at stopped
      simpa using stopped
  · intro cut
    obtain ⟨letters, rfl, stopped⟩ := cut
    rw [List.takeWhile_append_of_pos letters, List.dropWhile_append_of_pos letters]
    cases after with
    | nil => simp
    | cons c after =>
        have outside : accepts c = false := stopped c rfl
        simp [outside]

theorem placeholder_nil (mode : Mode) : mode.placeholder? [] = none := by
  cases mode <;> rfl

theorem wildcard_placeholder_iff (text after : Text) (segment : Segment) :
    Mode.wildcard.placeholder? text = some (segment, after) ↔ text = '*' :: after ∧ segment = .wildcard := by
  constructor
  · intro found
    unfold Mode.placeholder? at found
    split at found
    · obtain ⟨rfl, rfl⟩ := Prod.mk.inj (Option.some.inj found)
      exact ⟨rfl, rfl⟩
    all_goals simp at *
  · intro cut
    obtain ⟨rfl, rfl⟩ := cut
    rfl

theorem template_placeholder_iff (text after : Text) (segment : Segment) :
    Mode.template.placeholder? text = some (segment, after) ↔
      ∃ name, (∀ c ∈ name, isTemplateNameChar c = true) ∧ text = '\x7b' :: (name ++ '\x7d' :: after) ∧
        segment = .token name ('\x7b' :: name ++ ['\x7d']) := by
  constructor
  · intro found
    unfold Mode.placeholder? at found
    split at found
    case h_2 rest _ =>
        obtain ⟨⟨name, tail⟩, closed, same⟩ := Option.map_eq_some_iff.mp found
        obtain ⟨rfl, rfl⟩ := Prod.mk.inj same
        obtain ⟨letters, rfl⟩ := (closed_name_iff _ _ _).mp closed
        exact ⟨name, letters, rfl, rfl⟩
    all_goals simp at *
  · intro cut
    obtain ⟨name, letters, rfl, rfl⟩ := cut
    have closed := (closed_name_iff _ name after).mpr ⟨letters, rfl⟩
    simp [Mode.placeholder?, closed]

theorem symbolic_placeholder_iff (text after : Text) (segment : Segment) :
    Mode.symbolic.placeholder? text = some (segment, after) ↔
      ∃ name, name ≠ [] ∧ (∀ c ∈ name, isSymbolicNameChar c = true) ∧ text = ':' :: (name ++ after) ∧
        (∀ c ∈ after.head?, isSymbolicNameChar c = false) ∧ segment = .token name (':' :: name) := by
  constructor
  · intro found
    unfold Mode.placeholder? at found
    split at found
    case h_3 rest _ =>
        obtain ⟨named, same⟩ := Option.ite_none_left_eq_some.mp found
        obtain ⟨rfl, rfl⟩ := Prod.mk.inj (Option.some.inj same)
        obtain ⟨letters, cut, stopped⟩ := (taken_name_iff isSymbolicNameChar rest _ _).mp ⟨rfl, rfl⟩
        exact ⟨_, named, letters, congrArg _ cut, stopped, rfl⟩
    all_goals simp at *
  · intro shape
    obtain ⟨name, named, letters, rfl, stopped, rfl⟩ := shape
    obtain ⟨taken, left⟩ := (taken_name_iff isSymbolicNameChar _ name after).mpr ⟨letters, rfl, stopped⟩
    simp only [Mode.placeholder?, taken, left, if_neg named]

theorem no_placeholder (mode : Mode) (literal : mode = .strict ∨ mode = .static ∨ mode = .expression) (text : Text) :
    mode.placeholder? text = none := by
  rcases literal with rfl | rfl | rfl <;> simp [Mode.placeholder?]

theorem placeholder_iff (mode : Mode) (text after : Text) (segment : Segment) :
    mode.placeholder? text = some (segment, after) ↔
      mode.Placeholder segment ∧ text = segment.text ++ after ∧ mode.EndsName after := by
  cases mode with
  | wildcard =>
      rw [wildcard_placeholder_iff]
      constructor
      · intro cut
        obtain ⟨rfl, rfl⟩ := cut
        exact ⟨trivial, rfl, by simp [Mode.EndsName]⟩
      · intro cut
        obtain ⟨form, rfl, -⟩ := cut
        cases segment with
        | wildcard => exact ⟨rfl, rfl⟩
        | _ => cases form
  | template =>
      rw [template_placeholder_iff]
      constructor
      · intro cut
        obtain ⟨name, letters, rfl, rfl⟩ := cut
        exact ⟨⟨rfl, letters⟩, by simp [Segment.text], by simp [Mode.EndsName]⟩
      · intro cut
        obtain ⟨form, rfl, -⟩ := cut
        cases segment with
        | token name written =>
            obtain ⟨rfl, letters⟩ := form
            exact ⟨name, letters, by simp [Segment.text], rfl⟩
        | _ => cases form
  | symbolic =>
      rw [symbolic_placeholder_iff]
      constructor
      · intro cut
        obtain ⟨name, named, letters, rfl, stopped, rfl⟩ := cut
        exact ⟨⟨rfl, named, letters⟩, rfl, fun _ => stopped⟩
      · intro cut
        obtain ⟨form, rfl, stopped⟩ := cut
        cases segment with
        | token name written =>
            obtain ⟨rfl, named, letters⟩ := form
            exact ⟨name, named, letters, rfl, stopped rfl, rfl⟩
        | _ => cases form
  | _ => simp [no_placeholder, Mode.Placeholder]

theorem mark_opens (mode : Mode) (mark : Text) (isMark : mode.Mark mark) :
    ∃ opener tail, mark = opener :: tail ∧ opener ∉ tail ∧
      ∀ segment, mode.Placeholder segment → ∃ more, segment.text = opener :: more := by
  cases mode with
  | wildcard =>
      refine ⟨'*', [], isMark, by simp, ?_⟩
      intro segment form
      cases segment with
      | wildcard => exact ⟨[], rfl⟩
      | _ => cases form
  | template =>
      obtain ⟨name, letters, rfl⟩ := isMark
      refine ⟨'\x7b', name ++ ['\x7d'], rfl, ?_, ?_⟩
      · intro member
        rcases List.mem_append.mp member with inside | closing
        · exact absurd (letters _ inside) (by decide)
        · exact absurd closing (by decide)
      · intro segment form
        cases segment with
        | token name written => exact ⟨name ++ ['\x7d'], form.1⟩
        | _ => cases form
  | symbolic =>
      obtain ⟨c, letter, rfl⟩ := isMark
      refine ⟨':', [c], rfl, ?_, ?_⟩
      · intro member
        rw [← List.mem_singleton.mp member] at letter
        exact absurd letter (by decide)
      · intro segment form
        cases segment with
        | token name written => exact ⟨name, form.1⟩
        | _ => cases form
  | _ => cases isMark

theorem placeholder_of_mark (mode : Mode) (mark : Text) (isMark : mode.Mark mark) (rest : Text) :
    mode.placeholder? (mark ++ rest) ≠ none := by
  cases mode with
  | wildcard =>
      obtain rfl : mark = ['*'] := isMark
      simp [Mode.placeholder?]
  | template =>
      obtain ⟨name, letters, rfl⟩ := isMark
      rw [(template_placeholder_iff _ rest _).mpr ⟨name, letters, by simp, rfl⟩]
      simp
  | symbolic =>
      obtain ⟨c, letter, rfl⟩ := isMark
      intro absent
      simp [Mode.placeholder?, letter] at absent
  | _ => cases isMark

theorem mark_of_placeholder (mode : Mode) (text : Text) (found : mode.placeholder? text ≠ none) :
    ∃ mark, mode.Mark mark ∧ mark <+: text := by
  obtain ⟨⟨segment, after⟩, found⟩ := Option.ne_none_iff_exists'.mp found
  cases mode with
  | wildcard =>
      obtain ⟨rfl, -⟩ := (wildcard_placeholder_iff _ _ _).mp found
      exact ⟨['*'], rfl, after, rfl⟩
  | template =>
      obtain ⟨name, letters, rfl, -⟩ := (template_placeholder_iff _ _ _).mp found
      exact ⟨_, ⟨name, letters, rfl⟩, after, by simp⟩
  | symbolic =>
      obtain ⟨name, named, letters, rfl, -⟩ := (symbolic_placeholder_iff _ _ _).mp found
      cases name with
      | nil => exact absurd rfl named
      | cons c name => exact ⟨[':', c], ⟨c, letters c (by simp), rfl⟩, name ++ after, by simp⟩
  | _ => simp [no_placeholder] at found

theorem free_append (mode : Mode) (c : Char) (text after : Text) (free : mode.Free (c :: text))
    (boundary : after = [] ∨ ∃ segment rest, mode.Placeholder segment ∧ after = segment.text ++ rest) :
    mode.placeholder? (c :: text ++ after) = none := by
  by_cases found : mode.placeholder? (c :: text ++ after) = none
  · exact found
  · obtain ⟨mark, isMark, starts⟩ := mark_of_placeholder mode _ found
    rcases List.prefix_or_prefix_of_prefix starts (List.prefix_append (c :: text) after) with within | beyond
    · exact absurd within.isInfix (free mark isMark)
    · obtain ⟨more, rfl⟩ := beyond
      have continues : more <+: after := (List.prefix_append_right_inj (c :: text)).mp starts
      cases more with
      | nil =>
          rw [List.append_nil] at isMark
          exact absurd List.infix_rfl (free _ isMark)
      | cons d more =>
          -- The mark reaches beyond the text into the next placeholder, whose opener it has only in front.
          obtain ⟨rest, rfl⟩ := continues
          obtain ⟨opener, tail, same, once, opens⟩ := mark_opens mode _ isMark
          obtain ⟨rfl, rfl⟩ := List.cons.inj same
          rcases boundary with none | ⟨segment, last, form, joined⟩
          · cases none
          · obtain ⟨written, known⟩ := opens segment form
            rw [known] at joined
            obtain ⟨rfl, -⟩ := List.cons.inj joined
            exact absurd (by simp) once

theorem segments_of_placeholder (mode : Mode) (text after : Text) (segment : Segment)
    (found : mode.placeholder? text = some (segment, after)) :
    mode.segments text = segment :: mode.segments after := by
  rw [Mode.segments]
  split
  · rename_i other left known
    obtain ⟨rfl, rfl⟩ := Prod.mk.inj (Option.some.inj (found.symm.trans known))
    rfl
  · rename_i absent
    rw [absent] at found
    cases found

theorem segments_nil (mode : Mode) : mode.segments [] = [] := by
  rw [Mode.segments]
  split
  · rename_i known
    rw [placeholder_nil] at known
    cases known
  · rfl

theorem segments_of_char (mode : Mode) (c : Char) (rest : Text) (absent : mode.placeholder? (c :: rest) = none) :
    mode.segments (c :: rest) = Segment.consChar c (mode.segments rest) := by
  rw [Mode.segments]
  split
  · rename_i known
    rw [absent] at known
    cases known
  · rfl

theorem segments_of_free (mode : Mode) (text after : Text) (free : mode.Free text)
    (boundary : after = [] ∨ ∃ segment rest, mode.Placeholder segment ∧ after = segment.text ++ rest) :
    mode.segments (text ++ after) = text.foldr Segment.consChar (mode.segments after) := by
  induction text with
  | nil => rfl
  | cons c text ih =>
      have later : mode.Free text := fun mark isMark inside =>
        free mark isMark (inside.trans (List.suffix_cons c text).isInfix)
      have absent : mode.placeholder? (c :: (text ++ after)) = none := free_append mode c text after free boundary
      rw [List.cons_append, segments_of_char mode c _ absent, ih later]
      rfl

def Opens (segments : List Segment) : Prop := ∀ text, segments.head? ≠ some (.literal text)

theorem opens_or_literal (segments : List Segment) :
    Opens segments ∨ ∃ text later, segments = .literal text :: later := by
  cases segments with
  | nil => exact Or.inl (by simp [Opens])
  | cons segment later =>
      cases segment with
      | literal text => exact Or.inr ⟨text, later, rfl⟩
      | _ => exact Or.inl (by simp [Opens])

theorem cons_char_opens (c : Char) (segments : List Segment) (opens : Opens segments) :
    Segment.consChar c segments = .literal [c] :: segments := by
  cases segments with
  | nil => rfl
  | cons segment later =>
      cases segment with
      | literal text => exact absurd rfl (opens text)
      | _ => rfl

theorem cons_text (text : Text) (nonempty : text ≠ []) (segments : List Segment) (opens : Opens segments) :
    text.foldr Segment.consChar segments = .literal text :: segments := by
  induction text with
  | nil => exact absurd rfl nonempty
  | cons c text ih =>
      cases text with
      | nil => exact cons_char_opens c segments opens
      | cons d text =>
          rw [List.foldr_cons, ih (by simp)]
          rfl

theorem literal_apart_iff (mode : Mode) (text : Text) (segments : List Segment) :
    (∀ next ∈ segments.head?, mode.Apart (.literal text) next) ↔ Opens segments := by
  constructor
  · intro apart other first
    exact apart _ first
  · intro opens next first
    cases next with
    | literal other => exact absurd first (opens other)
    | _ => trivial

theorem normal_cons_iff (mode : Mode) (segment : Segment) (segments : List Segment) :
    mode.Normal (segment :: segments) ↔
      mode.WellFormed segment ∧ (∀ next ∈ segments.head?, mode.Apart segment next) ∧ mode.Normal segments := by
  constructor
  · intro cut
    obtain ⟨wellFormed, apart⟩ := cut
    obtain ⟨here, later⟩ := List.isChain_cons.mp apart
    exact ⟨wellFormed _ (by simp), here, fun other member => wellFormed other (by simp [member]), later⟩
  · intro cut
    obtain ⟨here, next, later⟩ := cut
    refine ⟨?_, List.isChain_cons.mpr ⟨next, later.apart⟩⟩
    intro other member
    rcases List.mem_cons.mp member with rfl | inside
    · exact here
    · exact later.wellFormed other inside

theorem placeholder_of_form (mode : Mode) (segment : Segment) (wellFormed : mode.WellFormed segment)
    (notLiteral : ∀ text, segment ≠ .literal text) : mode.Placeholder segment := by
  cases segment with
  | literal text => exact absurd rfl (notLiteral text)
  | wildcard => exact wellFormed
  | token name written => exact wellFormed

theorem normal_boundary (mode : Mode) (segments : List Segment) (normal : mode.Normal segments)
    (opens : Opens segments) :
    texts segments = [] ∨ ∃ segment rest, mode.Placeholder segment ∧ texts segments = segment.text ++ rest := by
  cases segments with
  | nil => exact Or.inl rfl
  | cons segment segments =>
      have form := placeholder_of_form mode segment (normal.wellFormed segment (by simp))
        (fun text same => opens text (congrArg some same))
      exact Or.inr ⟨segment, texts segments, form, rfl⟩

-- Behind a symbolic name comes a literal that cannot continue it, or the colon of the next name.
theorem name_ends (mode : Mode) (name written : Text) (segments : List Segment) (normal : mode.Normal segments)
    (next : ∀ other ∈ segments.head?, mode.Apart (.token name written) other) : mode.EndsName (texts segments) := by
  rintro rfl
  cases segments with
  | nil => simp [texts]
  | cons segment segments =>
      have wellFormed := normal.wellFormed segment (by simp)
      intro c member
      cases segment with
      | literal text =>
          cases text with
          | nil => exact absurd rfl wellFormed.1
          | cons d text => exact next _ rfl rfl c member
      | wildcard => cases wellFormed
      | token other text =>
          obtain ⟨rfl, -, -⟩ := wellFormed
          obtain rfl := Option.some.inj member
          decide

theorem segments_of_texts (mode : Mode) (segments : List Segment) (normal : mode.Normal segments) :
    mode.segments (texts segments) = segments := by
  induction segments with
  | nil => exact segments_nil mode
  | cons segment segments ih =>
      obtain ⟨here, next, later⟩ := (normal_cons_iff mode segment segments).mp normal
      have again := ih later
      rw [texts_cons]
      cases segment with
      | literal text =>
          have opens := (literal_apart_iff mode text segments).mp next
          have cut := segments_of_free mode text (texts segments) here.2 (normal_boundary mode segments later opens)
          rw [again, cons_text text here.1 segments opens] at cut
          exact cut
      | wildcard =>
          have ends : mode.EndsName (texts segments) := by
            rintro rfl
            cases here
          rw [segments_of_placeholder mode _ _ _ ((placeholder_iff mode _ _ _).mpr ⟨here, rfl, ends⟩), again]
      | token name written =>
          have ends := name_ends mode name written segments later next
          rw [segments_of_placeholder mode _ _ _ ((placeholder_iff mode _ _ _).mpr ⟨here, rfl, ends⟩), again]

theorem texts_cons_char (c : Char) (segments : List Segment) :
    texts (Segment.consChar c segments) = c :: texts segments := by
  cases segments with
  | nil => rfl
  | cons segment segments =>
      cases segment with
      | literal text => rfl
      | _ => rfl

theorem texts_of_segments (mode : Mode) (pattern : Text) : texts (mode.segments pattern) = pattern := by
  fun_induction Mode.segments mode pattern with
  | case1 pattern segment after found ih =>
      obtain ⟨-, rfl, -⟩ := (placeholder_iff mode pattern after segment).mp found
      rw [texts_cons, ih]
  | case2 => rfl
  | case3 c rest absent ih => rw [texts_cons_char, ih]

-- A mark that the new character completes would have been found as a placeholder.
theorem free_cons (mode : Mode) (c : Char) (text rest : Text) (free : mode.Free text)
    (absent : mode.placeholder? (c :: (text ++ rest)) = none) : mode.Free (c :: text) := by
  intro mark isMark inside
  rcases List.infix_cons_iff.mp inside with starts | later
  · obtain ⟨more, same⟩ := starts
    have found := placeholder_of_mark mode mark isMark (more ++ rest)
    rw [← List.append_assoc, same] at found
    exact found absent
  · exact free mark isMark later

theorem normal_cons_char (mode : Mode) (c : Char) (segments : List Segment) (normal : mode.Normal segments)
    (absent : mode.placeholder? (c :: texts segments) = none) : mode.Normal (Segment.consChar c segments) := by
  have alone : mode.Free [] := by
    intro mark isMark inside
    obtain ⟨opener, tail, rfl, -⟩ := mark_opens mode mark isMark
    exact absurd (List.infix_nil.mp inside) (by simp)
  rcases opens_or_literal segments with opens | ⟨text, later, rfl⟩
  · rw [cons_char_opens c segments opens]
    apply (normal_cons_iff mode _ segments).mpr
    exact ⟨⟨by simp, free_cons mode c [] _ alone absent⟩, (literal_apart_iff mode [c] segments).mpr opens, normal⟩
  · obtain ⟨here, next, normal⟩ := (normal_cons_iff mode _ later).mp normal
    have opens := (literal_apart_iff mode text later).mp next
    apply (normal_cons_iff mode _ later).mpr
    exact ⟨⟨by simp, free_cons mode c text _ here.2 absent⟩, (literal_apart_iff mode (c :: text) later).mpr opens,
      normal⟩

theorem normal_cons_placeholder (mode : Mode) (segment : Segment) (segments : List Segment)
    (normal : mode.Normal segments) (form : mode.Placeholder segment) (ends : mode.EndsName (texts segments)) :
    mode.Normal (segment :: segments) := by
  apply (normal_cons_iff mode segment segments).mpr
  refine ⟨?_, ?_, normal⟩
  · cases segment with
    | literal text => cases mode <;> cases form
    | wildcard => exact form
    | token name written => exact form
  · intro other member
    cases segment with
    | literal text => cases mode <;> cases form
    | wildcard => trivial
    | token name written =>
        cases other with
        | literal text =>
            rintro rfl c first
            obtain ⟨more, rfl⟩ := List.head?_eq_some_iff.mp member
            obtain ⟨tail, rfl⟩ := List.head?_eq_some_iff.mp first
            exact ends rfl c rfl
        | _ => trivial

theorem segments_normal (mode : Mode) (pattern : Text) : mode.Normal (mode.segments pattern) := by
  fun_induction Mode.segments mode pattern with
  | case1 pattern segment after found ih =>
      obtain ⟨form, -, ends⟩ := (placeholder_iff mode pattern after segment).mp found
      rw [← texts_of_segments mode after] at ends
      exact normal_cons_placeholder mode segment _ ih form ends
  | case2 => exact ⟨by simp, .nil⟩
  | case3 c rest absent ih =>
      rw [← texts_of_segments mode rest] at absent
      exact normal_cons_char mode c _ ih absent

-- Reading from left to right leaves no choice: whatever else has the text of the pattern is not in normal form.
theorem segments_iff_normal (mode : Mode) (pattern : Text) (segments : List Segment) :
    mode.segments pattern = segments ↔ texts segments = pattern ∧ mode.Normal segments := by
  apply Iff.intro
  · intro cut
    subst cut
    exact ⟨texts_of_segments mode pattern, segments_normal mode pattern⟩
  · intro form
    obtain ⟨rejoined, normal⟩ := form
    rw [← rejoined]
    exact segments_of_texts mode segments normal

example : Mode.template.segments "\x7b\x7ba\x7d\x7d".toList =
    [.literal ['\x7b'], .token ['a'] "\x7ba\x7d".toList, .literal ['\x7d']] := by decide +kernel

theorem normal_append (mode : Mode) (first second : List Segment) (normal : mode.Normal (first ++ second)) :
    mode.Normal first ∧ mode.Normal second := by
  constructor
  · exact ⟨fun segment member => normal.wellFormed segment (List.mem_append_left _ member),
      normal.apart.left_of_append⟩
  · exact ⟨fun segment member => normal.wellFormed segment (List.mem_append_right _ member),
      normal.apart.right_of_append⟩

theorem literal_segments (mode : Mode) (literal : mode = .strict ∨ mode = .static) (pattern : Text) :
    mode.segments pattern = if pattern = [] then [] else [.literal pattern] := by
  by_cases empty : pattern = []
  · rw [if_pos empty, empty]
    exact segments_nil mode
  · have normal : mode.Normal [.literal pattern] := by
      apply (normal_cons_iff mode _ []).mpr
      refine ⟨⟨empty, fun mark isMark => ?_⟩, by simp, by simp, .nil⟩
      rcases literal with rfl | rfl <;> cases isMark
    have again := segments_of_texts mode _ normal
    rw [if_neg empty]
    simpa [texts, Segment.text] using again

end PathPattern
