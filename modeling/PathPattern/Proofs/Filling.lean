import PathPattern.Proofs.Slots
import PathPattern.Proofs.Scrubbing
import PathPattern.Proofs.Weight

set_option autoImplicit false

namespace PathPattern

structure Pass where
  written : Text
  dropping : Bool

namespace Pass

def start : Pass := ⟨[], false⟩

def letter (pass : Pass) (c : Char) : Pass :=
  if c = ':' then ⟨pass.written, true⟩
  else if c = '/' ∨ c = '.' then ⟨pass.written ++ [c], false⟩
  else if pass.dropping then pass
  else ⟨pass.written ++ [c], false⟩

def segment (bindings : Bindings) (pass : Pass) : Segment → Pass
  | .token name _ =>
      match bindings name with
      | some value => ⟨pass.written ++ value, false⟩
      | none => ⟨pass.written, true⟩
  | other => other.text.foldl letter pass

end Pass

def filledText (bindings : Bindings) : Segment → Text
  | .token name _ => (bindings name).getD []
  | other => other.text

def Mode.onePass (mode : Mode) (bindings : Bindings) (segments : List Segment) : Text :=
  if mode = .symbolic then (segments.foldl (Pass.segment bindings) .start).written
  else segments.flatMap (filledText bindings)

namespace Pass

theorem letter_eq (pass : Pass) (c : Char) :
    pass.letter c =
      if !isSeparator c && (pass.dropping || c == ':') then ⟨pass.written, true⟩ else ⟨pass.written ++ [c], false⟩ := by
  obtain ⟨written, dropping⟩ := pass
  by_cases colon : c = ':'
  · subst colon
    simp [letter, isSeparator]
  · by_cases separator : c = '/' ∨ c = '.'
    · rw [letter, if_neg colon, if_pos separator, (separator_iff c).mpr separator]
      rfl
    · have inside : isSeparator c = false := by simpa [← separator_iff] using separator
      rw [letter, if_neg colon, if_neg separator, inside]
      cases dropping <;> simp [colon]

theorem letters_scrub (text out : Text) :
    (text.foldl letter ⟨out, false⟩).written = out ++ Mode.symbolic.scrub text ∧
      (text.foldl letter ⟨out, true⟩).written =
        out ++ Mode.symbolic.scrub (text.dropWhile fun c => !isSeparator c) := by
  -- Both states at once: a colon leads from the first to the second, a separator back.
  induction text generalizing out with
  | nil => simp [scrub_nil]
  | cons c text ih =>
      by_cases colon : c = ':'
      · subst colon
        have erased : Mode.symbolic.scrub (':' :: text) =
            Mode.symbolic.scrub (text.dropWhile fun c => !isSeparator c) := scrub_leftover _ _ _ rfl
        have turned : ∀ dropping, letter ⟨out, dropping⟩ ':' = ⟨out, true⟩ := fun _ => rfl
        rw [List.foldl_cons, List.foldl_cons, turned, turned, (ih out).2, erased]
        exact ⟨rfl, rfl⟩
      · have kept := scrub_char .symbolic c text (symbolic_leftover c text colon)
        cases separator : isSeparator c with
        | true =>
            have turned : ∀ dropping, letter ⟨out, dropping⟩ c = ⟨out ++ [c], false⟩ := by simp [letter_eq, separator]
            have stays : (c :: text).dropWhile (fun c => !isSeparator c) = c :: text := by simp [separator]
            rw [List.foldl_cons, List.foldl_cons, turned, turned, (ih _).1, stays, kept]
            simp
        | false =>
            have written : letter ⟨out, false⟩ c = ⟨out ++ [c], false⟩ := by simp [letter_eq, colon]
            have dropped : letter ⟨out, true⟩ c = ⟨out, true⟩ := by simp [letter_eq, separator]
            have goes : (c :: text).dropWhile (fun c => !isSeparator c) =
                text.dropWhile (fun c => !isSeparator c) := by simp [separator]
            rw [List.foldl_cons, List.foldl_cons, written, dropped, (ih _).1, (ih _).2, goes, kept]
            simp

theorem name_dropped (name : Text) (letters : ∀ c ∈ name, isSymbolicNameChar c = true) (out : Text) :
    name.foldl letter ⟨out, true⟩ = ⟨out, true⟩ := by
  induction name with
  | nil => rfl
  | cons c name ih =>
      have inside := symbolic_letter_inside c (letters c List.mem_cons_self)
      have dropped : letter ⟨out, true⟩ c = ⟨out, true⟩ := by simp [letter_eq, inside]
      rw [List.foldl_cons, dropped]
      exact ih fun other member => letters other (List.mem_cons_of_mem c member)

theorem unbound_text (bindings : Bindings) (segment : Segment) (wellFormed : Mode.symbolic.WellFormed segment)
    (unbound : segment.name?.bind bindings = none) (pass : Pass) :
    segment.text.foldl letter pass = pass.segment bindings segment := by
  cases segment with
  | literal text => rfl
  | wildcard => rfl
  | token name written =>
      obtain ⟨rfl, -, letters⟩ := wellFormed
      have missing : bindings name = none := unbound
      rw [Pass.segment, missing]
      exact name_dropped name letters pass.written

end Pass

theorem bound_segment (bindings : Bindings) (segment : Segment) (value : Text)
    (bound : segment.name?.bind bindings = some value) :
    ∃ name written, segment = .token name written ∧ bindings name = some value := by
  cases segment with
  | token name written => exact ⟨name, written, rfl, bound⟩
  | _ => cases bound

section

variable (mode : Mode) (bindings : Bindings) (segment : Segment) (segments : List Segment) (waiting : Text)

theorem write_unbound (unbound : segment.name?.bind bindings = none) :
    Slot.write mode waiting ((segment :: segments).map bindings.slot) =
      Slot.write mode (waiting ++ segment.text) (segments.map bindings.slot) := by
  simp only [List.map_cons, Slot.write, Bindings.slot, unbound]

theorem write_bound (value : Text) (bound : segment.name?.bind bindings = some value) :
    Slot.write mode waiting ((segment :: segments).map bindings.slot) =
      mode.scrub waiting ++ value ++ Slot.write mode [] (segments.map bindings.slot) := by
  simp only [List.map_cons, Slot.write, Bindings.slot, bound]

theorem bound_filled (value : Text) (bound : segment.name?.bind bindings = some value) :
    filledText bindings segment = value := by
  obtain ⟨name, written, rfl, known⟩ := bound_segment bindings segment value bound
  rw [filledText, known, Option.getD_some]

end

-- The pass has gone over `waiting` behind the text `out`, which no later segment can change.
theorem symbolic_write (bindings : Bindings) (segments : List Segment)
    (wellFormed : ∀ segment ∈ segments, Mode.symbolic.WellFormed segment) (waiting out : Text) :
    (segments.foldl (Pass.segment bindings) (waiting.foldl Pass.letter ⟨out, false⟩)).written =
      out ++ Slot.write .symbolic waiting (segments.map bindings.slot) := by
  induction segments generalizing waiting out with
  | nil => exact (Pass.letters_scrub waiting out).1
  | cons segment segments ih =>
      have later := ih fun other member => wellFormed other (List.mem_cons_of_mem segment member)
      cases bound : segment.name?.bind bindings with
      | none =>
          have again := later (waiting ++ segment.text) out
          rw [List.foldl_append, Pass.unbound_text bindings segment (wellFormed segment List.mem_cons_self) bound] at again
          rw [List.foldl_cons, again, write_unbound _ _ _ _ _ bound]
      | some value =>
          -- A value settles what waits, and the rest starts from a pass that drops nothing.
          have rest := write_bound .symbolic bindings segment segments waiting value bound
          obtain ⟨name, written, rfl, known⟩ := bound_segment bindings segment value bound
          have again := later [] (out ++ Mode.symbolic.scrub waiting ++ value)
          have step : (waiting.foldl Pass.letter ⟨out, false⟩).segment bindings (.token name written) =
              ⟨out ++ Mode.symbolic.scrub waiting ++ value, false⟩ := by
            simp only [Pass.segment, known, (Pass.letters_scrub waiting out).1]
          rw [List.foldl_nil] at again
          rw [List.foldl_cons, step, again, rest]
          simp only [List.append_assoc]

theorem filled_cons_char (bindings : Bindings) (c : Char) (segments : List Segment) :
    (Segment.consChar c segments).flatMap (filledText bindings) = c :: segments.flatMap (filledText bindings) := by
  cases segments with
  | nil => rfl
  | cons segment segments =>
      cases segment with
      | literal text => rfl
      | _ => rfl

theorem template_scrub (text : Text) :
    Mode.template.scrub text = (Mode.template.segments text).flatMap (filledText fun _ => none) := by
  fun_induction Mode.segments Mode.template text with
  | case1 text segment after found ih =>
      have erased : Mode.template.leftover? text = some after := by rw [template_leftover, found]; rfl
      obtain ⟨name, -, -, rfl⟩ := (template_placeholder_iff _ _ _).mp found
      rw [scrub_leftover _ _ _ erased, ih]
      rfl
  | case2 => exact scrub_nil _
  | case3 c rest absent ih =>
      have kept : Mode.template.leftover? (c :: rest) = none := by rw [template_leftover, absent]; rfl
      rw [scrub_char _ c rest kept, ih, filled_cons_char]

theorem unbound_filled (bindings : Bindings) (segment : Segment) (unbound : segment.name?.bind bindings = none) :
    filledText (fun _ => none) segment = filledText bindings segment := by
  cases segment with
  | token name written =>
      have missing : bindings name = none := unbound
      rw [filledText, filledText, missing]
  | _ => rfl

-- Segments joined again are cut into the same segments, because a stretch of a pattern is in normal form too.
theorem template_run_scrub (bindings : Bindings) (run : List Segment) (normal : Mode.template.Normal run)
    (unbound : ∀ segment ∈ run, segment.name?.bind bindings = none) :
    Mode.template.scrub (texts run) = run.flatMap (filledText bindings) := by
  rw [template_scrub, segments_of_texts .template run normal]
  apply List.flatMap_congr
  intro segment member
  exact unbound_filled bindings segment (unbound segment member)

-- `run` holds the segments without a value since the last value: what waits to be written is their text.
theorem template_write (bindings : Bindings) (run segments : List Segment)
    (normal : Mode.template.Normal (run ++ segments)) (unbound : ∀ segment ∈ run, segment.name?.bind bindings = none) :
    Slot.write .template (texts run) (segments.map bindings.slot) =
      (run ++ segments).flatMap (filledText bindings) := by
  induction segments generalizing run with
  | nil =>
      rw [List.append_nil] at normal ⊢
      exact template_run_scrub bindings run normal unbound
  | cons segment segments ih =>
      rw [List.append_cons] at normal
      cases bound : segment.name?.bind bindings with
      | none =>
          have still : ∀ other ∈ run ++ [segment], other.name?.bind bindings = none := by
            intro other member
            rcases List.mem_append.mp member with before | here
            · exact unbound other before
            · rw [List.mem_singleton.mp here]
              exact bound
          have joined : texts (run ++ [segment]) = texts run ++ segment.text := by
            simp [texts]
          have again := ih (run ++ [segment]) normal still
          rw [joined, ← List.append_cons] at again
          rw [write_unbound _ _ _ _ _ bound, again]
      | some value =>
          obtain ⟨normalRun, normalRest⟩ := normal_append _ _ _ normal
          have here := template_run_scrub bindings run (normal_append _ run _ normalRun).1 unbound
          have again : Slot.write .template [] (segments.map bindings.slot) = segments.flatMap (filledText bindings) :=
            ih [] normalRest (fun other member => by cases member)
          rw [write_bound _ _ _ _ _ value bound, here, again, List.flatMap_append, List.flatMap_cons,
            bound_filled bindings segment value bound, List.append_assoc]

theorem write_one_pass (mode : Mode) (tokens : mode = .template ∨ mode = .symbolic) (bindings : Bindings)
    (segments : List Segment) (normal : mode.Normal segments) :
    Slot.write mode [] (segments.map bindings.slot) = mode.onePass bindings segments := by
  rcases tokens with rfl | rfl
  · exact template_write bindings [] segments normal (fun segment member => by cases member)
  · exact (symbolic_write bindings segments normal.wellFormed [] []).symm

theorem slots_congr (bindings other : Bindings) (segments : List Segment)
    (agree : ∀ name ∈ tokenNames segments, other name = bindings name) :
    segments.map other.slot = segments.map bindings.slot := by
  apply List.map_congr_left
  intro segment member
  rw [Bindings.slot, Bindings.slot]
  cases named : segment.name? with
  | none => rfl
  | some name =>
      have used : name ∈ tokenNames segments := List.mem_filterMap.mpr ⟨segment, member, named⟩
      rw [Option.bind_some, Option.bind_some, agree name used]

namespace Matcher

variable {pattern letters : Text} {mode : Mode} {matcher : Matcher}

theorem fill_slots (tokens : mode = .template ∨ mode = .symbolic)
    (compiled : compile pattern mode letters = .ok matcher) (bindings : Bindings) :
    matcher.fill bindings = .ok (Slot.write mode [] ((mode.segments pattern).map bindings.slot)) := by
  have anchored : mode ≠ .expression := by rcases tokens with rfl | rfl <;> simp
  have named : mode.hasTokens = true := by rcases tokens with rfl | rfl <;> rfl
  obtain ⟨flags, -, -, rfl⟩ := compiled_fields anchored compiled
  rw [fill, if_pos named, Slot.assign_slots]

theorem filling_rules_agree (pattern letters : Text) (mode : Mode) (matcher : Matcher)
    (tokens : mode = .template ∨ mode = .symbolic) (compiled : compile pattern mode letters = .ok matcher)
    (bindings : Bindings) :
    (Slot.assign matcher.mode matcher.segments bindings =
        (mode.segments pattern).map fun segment =>
          match segment with
          | .token name written => ⟨.token name written, bindings name⟩
          | .literal text => ⟨.literal text, none⟩
          | .wildcard => ⟨.wildcard, none⟩) ∧
      ∀ segments, Slot.assign .template segments bindings = Slot.assign .symbolic segments bindings := by
  refine ⟨?_, ?_⟩
  · have anchored : mode ≠ .expression := by rcases tokens with rfl | rfl <;> simp
    obtain ⟨flags, -, -, rfl⟩ := compiled_fields anchored compiled
    rw [Slot.assign_slots]
    apply List.map_congr_left
    intro segment _
    cases segment with
    | literal text => rfl
    | wildcard => rfl
    | token name written => rfl
  · intro segments
    rw [Slot.assign_slots, Slot.assign_slots]

theorem filling_rules_agree_repeated :
    ∃ matcher, compile "{a}{b}/{a}".toList .template [] = .ok matcher ∧
      Slot.assign matcher.mode matcher.segments (Bindings.first [("a".toList, "{a}".toList)]) =
        [⟨.token ['a'] "{a}".toList, some "{a}".toList⟩, ⟨.token ['b'] "{b}".toList, none⟩, ⟨.literal ['/'], none⟩,
          ⟨.token ['a'] "{a}".toList, some "{a}".toList⟩] := by
  obtain ⟨matcher, compiled⟩ := compiles_when_short "{a}{b}/{a}".toList [] .template .none
    (by simp) rfl (by simp) (by simp) (by decide)
  have segments : Mode.template.segments "{a}{b}/{a}".toList =
      [.token ['a'] "{a}".toList, .token ['b'] "{b}".toList, .literal ['/'], .token ['a'] "{a}".toList] := by
    decide +kernel
  have assigned := (filling_rules_agree _ _ .template matcher (Or.inl rfl) compiled
    (Bindings.first [("a".toList, "{a}".toList)])).1
  rw [segments] at assigned
  exact ⟨matcher, compiled, assigned⟩

theorem fill_written (tokens : mode = .template ∨ mode = .symbolic)
    (compiled : compile pattern mode letters = .ok matcher) (bindings : Bindings) :
    matcher.fill bindings = .ok (mode.onePass bindings (mode.segments pattern)) := by
  rw [fill_slots tokens compiled, write_one_pass mode tokens bindings _ (segments_normal mode pattern)]

theorem fill_one_pass (pattern letters : Text) (mode : Mode) (matcher : Matcher)
    (tokens : mode = .template ∨ mode = .symbolic) (compiled : compile pattern mode letters = .ok matcher)
    (bindings : Bindings) :
    matcher.fill bindings = .ok (mode.onePass bindings (mode.segments pattern)) ∧
      ∀ other : Bindings, (∀ name ∈ tokenNames (mode.segments pattern), other name = bindings name) →
        matcher.fill other = matcher.fill bindings := by
  refine ⟨fill_written tokens compiled bindings, ?_⟩
  intro other agree
  rw [fill_slots tokens compiled, fill_slots tokens compiled, slots_congr bindings other _ agree]

theorem fill_one_pass_drops_to_dot :
    (∃ matcher, compile "/:id/a:B.c:d".toList .symbolic [] = .ok matcher ∧
      matcher.fill (Bindings.first [("id".toList, ":x/{y}".toList)]) = .ok "/:x/{y}/a.c".toList) ∧
    ∃ matcher, compile "{a}:{{b}}{a}".toList .template [] = .ok matcher ∧
      matcher.fill (Bindings.first [("a".toList, "{b}".toList), ("c".toList, "d".toList)]) =
        .ok "{b}:{}{b}".toList := by
  constructor
  · obtain ⟨matcher, compiled⟩ := compiles_when_short "/:id/a:B.c:d".toList [] .symbolic .none
      (by simp) rfl (by simp) (by simp) (by decide)
    have segments : Mode.symbolic.segments "/:id/a:B.c:d".toList =
        [.literal ['/'], .token "id".toList ":id".toList, .literal "/a:B.c".toList, .token ['d'] ":d".toList] := by
      decide +kernel
    have written := (fill_one_pass _ _ .symbolic matcher (Or.inr rfl) compiled
      (Bindings.first [("id".toList, ":x/{y}".toList)])).1
    rw [segments] at written
    exact ⟨matcher, compiled, written⟩
  · obtain ⟨matcher, compiled⟩ := compiles_when_short "{a}:{{b}}{a}".toList [] .template .none
      (by simp) rfl (by simp) (by simp) (by decide)
    have segments : Mode.template.segments "{a}:{{b}}{a}".toList =
        [.token ['a'] "{a}".toList, .literal [':', '\x7b'], .token ['b'] "{b}".toList, .literal ['\x7d'],
          .token ['a'] "{a}".toList] := by
      decide +kernel
    have written := (fill_one_pass _ _ .template matcher (Or.inl rfl) compiled
      (Bindings.first [("a".toList, "{b}".toList), ("c".toList, "d".toList)])).1
    rw [segments] at written
    exact ⟨matcher, compiled, written⟩

end Matcher
end PathPattern
