import Mathlib.Logic.Basic
import Mathlib.Order.Bounds.Defs
import PathPattern.Modifiers

set_option autoImplicit false

namespace PathPattern.Modifiers

def flagLetters : List Char := ['i', 'g', 'm']

def has (flags : Modifiers) (letter : Char) : Bool :=
  if letter = 'i' then flags.ignoreCase
  else if letter = 'g' then flags.everywhere
  else if letter = 'm' then flags.multiline
  else false

def set (flags : Modifiers) (letter : Char) : Modifiers where
  ignoreCase := flags.ignoreCase || letter = 'i'
  everywhere := flags.everywhere || letter = 'g'
  multiline := flags.multiline || letter = 'm'

theorem has_none (letter : Char) : none.has letter = false := by
  simp [has, none]

theorem has_set (flags : Modifiers) (letter other : Char) (known : letter ∈ flagLetters) :
    (flags.set letter).has other = (flags.has other || decide (other = letter)) := by
  simp only [flagLetters, List.mem_cons, List.not_mem_nil, or_false] at known
  rcases known with rfl | rfl | rfl
  · by_cases same : other = 'i' <;> simp [has, set, same]
  · by_cases same : other = 'g' <;> simp [has, set, same]
  · by_cases same : other = 'm' <;> simp [has, set, same]

theorem add_letter (flags : Modifiers) (letter : Char) :
    flags.add? letter =
      if letter ∈ flagLetters ∧ flags.has letter = false then some (flags.set letter) else .none := by
  by_cases isI : letter = 'i'
  · subst isI
    cases on : flags.ignoreCase <;> simp [add?, has, set, flagLetters, on]
  · by_cases isG : letter = 'g'
    · subst isG
      cases on : flags.everywhere <;> simp [add?, has, set, flagLetters, on]
    · by_cases isM : letter = 'm'
      · subst isM
        cases on : flags.multiline <;> simp [add?, has, set, flagLetters, on]
      · simp [add?, flagLetters, isI, isG, isM]

theorem add_all_taken (flags : Modifiers) (letter : Char) (letters : Text)
    (fresh : letter ∈ flagLetters ∧ flags.has letter = false) :
    flags.addAll (letter :: letters) = (flags.set letter).addAll letters := by
  simp only [addAll, add_letter, if_pos fresh]

theorem add_all_refused (flags : Modifiers) (letter : Char) (letters : Text)
    (stale : ¬ (letter ∈ flagLetters ∧ flags.has letter = false)) :
    flags.addAll (letter :: letters) = .error letter := by
  simp only [addAll, add_letter, if_neg stale]

theorem add_all_has (flags final : Modifiers) (letters : Text) (added : flags.addAll letters = .ok final)
    (other : Char) : final.has other = (flags.has other || decide (other ∈ letters)) := by
  induction letters generalizing flags with
  | nil =>
      obtain rfl := Except.ok.inj added
      simp
  | cons letter letters ih =>
      by_cases fresh : letter ∈ flagLetters ∧ flags.has letter = false
      · rw [add_all_taken flags letter letters fresh] at added
        rw [ih _ added, has_set flags letter other fresh.1]
        simp [Bool.or_assoc]
      · rw [add_all_refused flags letter letters fresh] at added
        cases added

theorem parse_has (flags : Modifiers) (letters : Text) (parsed : parse letters = .ok flags) (letter : Char) :
    flags.has letter = decide (letter ∈ letters) := by
  rw [add_all_has none flags letters parsed, has_none, Bool.false_or]

theorem parsed_empty_iff (flags : Modifiers) (letters : Text) (parsed : parse letters = .ok flags) :
    flags.isEmpty = true ↔ letters = [] := by
  rw [is_empty_iff]
  apply Iff.intro
  · intro empty
    subst empty
    cases letters with
    | nil => rfl
    | cons letter rest =>
        have flagged := parse_has none (letter :: rest) parsed letter
        simp [has_none] at flagged
  · intro blank
    subst blank
    exact (Except.ok.inj parsed).symm

def RefusedAt (flags : Modifiers) (letters : Text) (place : Nat) : Prop :=
  ∃ letter, letters[place]? = some letter ∧
    (letter ∉ flagLetters ∨ flags.has letter = true ∨ letter ∈ letters.take place)

theorem refused_first_iff (flags : Modifiers) (letter : Char) (letters : Text) :
    flags.RefusedAt (letter :: letters) 0 ↔ ¬ (letter ∈ flagLetters ∧ flags.has letter = false) := by
  simp only [RefusedAt, List.getElem?_cons_zero, Option.some.injEq, exists_eq_left', List.take_zero,
    List.not_mem_nil, or_false, not_and_or, Bool.not_eq_false]

-- A letter that is taken counts for those behind it as a flag that is set.
theorem refused_later_iff (flags : Modifiers) (letter : Char) (letters : Text) (known : letter ∈ flagLetters)
    (place : Nat) :
    flags.RefusedAt (letter :: letters) (place + 1) ↔ (flags.set letter).RefusedAt letters place := by
  simp only [RefusedAt, List.getElem?_cons_succ, List.take_succ_cons, List.mem_cons, has_set flags letter _ known,
    Bool.or_eq_true, decide_eq_true_eq, or_assoc]

theorem add_all_succeeds_iff (flags : Modifiers) (letters : Text) :
    (∃ final, flags.addAll letters = .ok final) ↔
      (∀ letter ∈ letters, letter ∈ flagLetters ∧ flags.has letter = false) ∧ letters.Nodup := by
  induction letters generalizing flags with
  | nil => simp [addAll]
  | cons letter letters ih =>
      by_cases fresh : letter ∈ flagLetters ∧ flags.has letter = false
      · rw [add_all_taken flags letter letters fresh, ih, List.forall_mem_cons, List.nodup_cons]
        simp only [has_set flags letter _ fresh.1, Bool.or_eq_false_iff, decide_eq_false_iff_not]
        apply Iff.intro
        · intro later
          obtain ⟨new, distinct⟩ := later
          exact ⟨⟨fresh, fun other member => ⟨(new other member).1, (new other member).2.1⟩⟩,
            fun again => (new letter again).2.2 rfl, distinct⟩
        · intro all
          obtain ⟨⟨-, known⟩, once, distinct⟩ := all
          refine ⟨?_, distinct⟩
          intro other member
          exact ⟨(known other member).1, (known other member).2, fun same => once (same ▸ member)⟩
      · rw [add_all_refused flags letter letters fresh]
        simp [fresh]

theorem add_all_error_iff (flags : Modifiers) (letters : Text) (refused : Char) :
    flags.addAll letters = .error refused ↔
      ∃ place, letters[place]? = some refused ∧ IsLeast {place | flags.RefusedAt letters place} place := by
  induction letters generalizing flags with
  | nil => simp [addAll]
  | cons letter letters ih =>
      by_cases fresh : letter ∈ flagLetters ∧ flags.has letter = false
      · have later := refused_later_iff flags letter letters fresh.1
        have notFirst : ¬ flags.RefusedAt (letter :: letters) 0 := by
          rw [refused_first_iff]
          exact not_not_intro fresh
        rw [add_all_taken flags letter letters fresh, ih]
        apply Iff.intro
        · intro found
          obtain ⟨place, here, refusal, least⟩ := found
          refine ⟨place + 1, here, (later place).mpr refusal, ?_⟩
          intro other also
          cases other with
          | zero => exact absurd also notFirst
          | succ other => exact Nat.succ_le_succ (least ((later other).mp also))
        · intro found
          obtain ⟨place, here, refusal, least⟩ := found
          cases place with
          | zero => exact absurd refusal notFirst
          | succ place =>
              refine ⟨place, here, (later place).mp refusal, ?_⟩
              intro other also
              exact Nat.le_of_succ_le_succ (least ((later other).mpr also))
      · have first := (refused_first_iff flags letter letters).mpr fresh
        rw [add_all_refused flags letter letters fresh]
        apply Iff.intro
        · intro same
          obtain rfl := Except.error.inj same
          exact ⟨0, rfl, first, fun _ _ => Nat.zero_le _⟩
        · intro found
          obtain ⟨place, here, -, least⟩ := found
          obtain rfl := Nat.le_zero.mp (least first)
          exact congrArg Except.error (Option.some.inj here)

theorem mem_letters_iff (flags : Modifiers) (letter : Char) : letter ∈ flags.letters ↔ flags.has letter = true := by
  rw [parse_has flags flags.letters flags.parse_letters letter, decide_eq_true_eq]

theorem parse_succeeds_iff (letters : Text) :
    (∃ flags, parse letters = .ok flags) ↔ (∀ letter ∈ letters, letter ∈ flagLetters) ∧ letters.Nodup := by
  rw [parse, add_all_succeeds_iff]
  simp only [has_none, and_true]

theorem parse_ok_iff (letters : Text) (flags : Modifiers) :
    parse letters = .ok flags ↔
      ((∀ letter ∈ letters, letter ∈ flagLetters) ∧ letters.Nodup) ∧
        flags.ignoreCase = decide ('i' ∈ letters) ∧ flags.everywhere = decide ('g' ∈ letters) ∧
        flags.multiline = decide ('m' ∈ letters) := by
  have shown : ∀ flags, parse letters = .ok flags → flags.ignoreCase = decide ('i' ∈ letters) ∧
      flags.everywhere = decide ('g' ∈ letters) ∧ flags.multiline = decide ('m' ∈ letters) := by
    intro flags parsed
    have has := parse_has flags letters parsed
    exact ⟨has 'i', has 'g', has 'm'⟩
  apply Iff.intro
  · intro parsed
    exact ⟨(parse_succeeds_iff letters).mp ⟨flags, parsed⟩, shown flags parsed⟩
  · intro known
    obtain ⟨plain, i, g, m⟩ := known
    obtain ⟨other, parsed⟩ := (parse_succeeds_iff letters).mpr plain
    obtain ⟨otherI, otherG, otherM⟩ := shown other parsed
    have same : other = flags := by
      cases flags
      cases other
      rw [mk.injEq]
      exact ⟨otherI.trans i.symm, otherG.trans g.symm, otherM.trans m.symm⟩
    rw [parsed, same]

theorem parse_perm (letters other : Text) (flags : Modifiers) (rearranged : letters.Perm other)
    (parsed : parse letters = .ok flags) : parse other = .ok flags := by
  rw [parse_ok_iff] at parsed ⊢
  simpa only [← rearranged.nodup_iff, ← rearranged.mem_iff] using parsed

theorem letters_perm (letters : Text) (flags : Modifiers) (parsed : parse letters = .ok flags) :
    flags.letters.Perm letters := by
  have distinct := ((parse_ok_iff flags.letters flags).mp flags.parse_letters).1.2
  have once := ((parse_ok_iff letters flags).mp parsed).1.2
  apply (List.perm_ext_iff_of_nodup distinct once).mpr
  intro letter
  rw [mem_letters_iff, parse_has flags letters parsed, decide_eq_true_eq]

theorem refused_iff_misplaced (letters : Text) (place : Nat) :
    none.RefusedAt letters place ↔
      ∃ letter, letters[place]? = some letter ∧ (letter ∉ flagLetters ∨ letter ∈ letters.take place) := by
  simp only [RefusedAt, has_none, Bool.false_eq_true, false_or]

theorem parse_exact (letters : Text) :
    (∀ flags, parse letters = .ok flags ↔
        ((∀ letter ∈ letters, letter ∈ flagLetters) ∧ letters.Nodup) ∧
          flags.ignoreCase = decide ('i' ∈ letters) ∧ flags.everywhere = decide ('g' ∈ letters) ∧
          flags.multiline = decide ('m' ∈ letters)) ∧
      (∀ flags, parse letters = .ok flags →
        (∀ other, letters.Perm other → parse other = .ok flags) ∧ flags.letters.Perm letters ∧
          parse flags.letters = .ok flags) ∧
      ∀ refused, parse letters = .error refused ↔
        ∃ place, letters[place]? = some refused ∧
          IsLeast {place | ∃ letter, letters[place]? = some letter ∧
            (letter ∉ flagLetters ∨ letter ∈ letters.take place)} place := by
  refine ⟨parse_ok_iff letters, ?_, ?_⟩
  · intro flags parsed
    exact ⟨fun other rearranged => parse_perm letters other flags rearranged parsed,
      letters_perm letters flags parsed, flags.parse_letters⟩
  · intro refused
    simp only [← refused_iff_misplaced]
    exact add_all_error_iff none letters refused

theorem parse_exact_mgi :
    parse "mgi".toList = .ok ⟨true, true, true⟩ ∧ parse "gmi".toList = .ok ⟨true, true, true⟩ ∧
      "igm".toList.Perm "mgi".toList ∧ parse "iix".toList = .error 'i' := by
  have parsed : parse "mgi".toList = .ok ⟨true, true, true⟩ :=
    ((parse_exact "mgi".toList).1 _).mpr ⟨⟨by simp [flagLetters], by decide⟩, by decide, by decide, by decide⟩
  obtain ⟨turned, shown, -⟩ := (parse_exact "mgi".toList).2.1 _ parsed
  refine ⟨parsed, turned _ (by decide), shown, ((parse_exact "iix".toList).2.2 'i').mpr ⟨1, rfl, ?_, ?_⟩⟩
  · exact ⟨'i', rfl, Or.inr (by decide)⟩
  · intro place misplaced
    cases place with
    | zero =>
        obtain ⟨letter, here, wrong⟩ := misplaced
        obtain rfl := Option.some.inj here
        exact absurd wrong (by decide)
    | succ place => exact Nat.succ_le_succ (Nat.zero_le place)

end PathPattern.Modifiers
