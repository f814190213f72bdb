import Mathlib.Data.List.Forall2
import PathPattern.Fill

set_option autoImplicit false

namespace PathPattern

def Bindings.slot (bindings : Bindings) (segment : Segment) : Slot := ⟨segment, segment.name?.bind bindings⟩

namespace Slot

def openCount (name : Text) (slots : List Slot) : Nat := slots.countP (isOpenFor name)

-- The names left always suffice: a name with a value has at least as many turns to come as it has open slots.
structure Filling (bindings : Bindings) (left : List Text) (slots : List Slot) : Prop where
  sound : ∀ slot ∈ slots, ∀ value ∈ slot.value, slot.segment.name?.bind bindings = some value
  enough : ∀ name, bindings name ≠ none → openCount name slots ≤ left.count name

theorem open_iff (name : Text) (slot : Slot) :
    slot.isOpenFor name = true ↔ slot.value = none ∧ slot.segment.name? = some name := by
  simp [isOpenFor]

theorem valued_not_open (name value : Text) (segment : Segment) :
    isOpenFor name ⟨segment, some value⟩ = false := by
  rfl

theorem not_open_for_other (name other : Text) (different : other ≠ name) (slot : Slot)
    (waits : slot.isOpenFor name = true) : slot.isOpenFor other = false := by
  obtain ⟨-, named⟩ := (open_iff name slot).mp waits
  by_cases also : slot.isOpenFor other = true
  · obtain ⟨-, same⟩ := (open_iff other slot).mp also
    exact absurd (Option.some.inj (same.symm.trans named)) different
  · exact Bool.eq_false_iff.mpr also

def Given (name value : Text) (before after : Slot) : Prop :=
  after = before ∨ before.isOpenFor name = true ∧ after = ⟨before.segment, some value⟩

section

variable {name value : Text} {before after : List Slot}

theorem given_segments (given : List.Forall₂ (Given name value) before after) :
    after.map segment = before.map segment := by
  induction given with
  | nil => rfl
  | cons here _ ih =>
      rw [List.map_cons, List.map_cons, ih]
      rcases here with rfl | ⟨-, rfl⟩
      · rfl
      · rfl

theorem given_member (given : List.Forall₂ (Given name value) before after) (slot : Slot) (member : slot ∈ after) :
    slot ∈ before ∨ slot.segment.name? = some name ∧ slot.value = some value := by
  induction given with
  | nil => cases member
  | cons here _ ih =>
      rcases List.mem_cons.mp member with rfl | later
      · rcases here with rfl | ⟨waits, rfl⟩
        · exact Or.inl List.mem_cons_self
        · exact Or.inr ⟨((open_iff name _).mp waits).2, rfl⟩
      · exact (ih later).imp_left (List.mem_cons_of_mem _)

theorem given_other_open (given : List.Forall₂ (Given name value) before after) (other : Text)
    (different : other ≠ name) : openCount other after = openCount other before := by
  induction given with
  | nil => rfl
  | cons here _ ih =>
      simp only [openCount] at ih
      rcases here with rfl | ⟨waits, rfl⟩
      · simp only [openCount, List.countP_cons, ih]
      · simp only [openCount, List.countP_cons, ih, valued_not_open,
          not_open_for_other name other different _ waits]

end

theorem first_given (name value : Text) (slots : List Slot) :
    List.Forall₂ (Given name value) slots (fillFirst name value slots) := by
  induction slots with
  | nil => exact .nil
  | cons slot slots ih =>
      by_cases waits : slot.isOpenFor name = true
      · rw [fillFirst, if_pos waits]
        exact .cons (Or.inr ⟨waits, rfl⟩) (List.forall₂_same.mpr fun _ _ => Or.inl rfl)
      · rw [fillFirst, if_neg waits]
        exact .cons (Or.inl rfl) ih

theorem every_given (name value : Text) (slots : List Slot) :
    List.Forall₂ (Given name value) slots (fillEvery name value slots) := by
  apply List.forall₂_map_right_iff.mpr
  apply List.forall₂_same.mpr
  intro slot _
  by_cases waits : slot.isOpenFor name = true
  · rw [if_pos waits]
    exact Or.inr ⟨waits, rfl⟩
  · rw [if_neg waits]
    exact Or.inl rfl

theorem open_after_first (name value : Text) (slots : List Slot) :
    openCount name (fillFirst name value slots) = openCount name slots - 1 := by
  induction slots with
  | nil => rfl
  | cons slot slots ih =>
      by_cases waits : slot.isOpenFor name = true
      · simp only [openCount, fillFirst, if_pos waits, List.countP_cons, valued_not_open]
        simp
      · simp only [openCount] at ih
        simp only [openCount, fillFirst, if_neg waits, List.countP_cons, ih, Nat.add_zero]

theorem open_after_every (name value : Text) (slots : List Slot) :
    openCount name (fillEvery name value slots) = 0 := by
  apply List.countP_eq_zero.mpr
  intro slot member waits
  obtain ⟨before, -, rfl⟩ := List.mem_map.mp member
  by_cases waited : before.isOpenFor name = true
  · rw [if_pos waited, valued_not_open] at waits
    cases waits
  · rw [if_neg waited] at waits
    exact waited waits

theorem fill_unbound (mode : Mode) (bindings : Bindings) (name : Text) (unbound : bindings name = none)
    (slots : List Slot) : fill mode bindings slots name = slots := by
  simp only [fill, unbound]

-- The two rules differ in how many open slots of the name a turn closes, but both close one if there is one.
theorem fill_bound (mode : Mode) (bindings : Bindings) (name value : Text) (bound : bindings name = some value)
    (slots : List Slot) :
    List.Forall₂ (Given name value) slots (fill mode bindings slots name) ∧
      openCount name (fill mode bindings slots name) ≤ openCount name slots - 1 := by
  simp only [fill, bound]
  by_cases template : mode = .template
  · simp only [if_pos template]
    exact ⟨first_given name value slots, Nat.le_of_eq (open_after_first name value slots)⟩
  · simp only [if_neg template]
    refine ⟨every_given name value slots, ?_⟩
    rw [open_after_every]
    exact Nat.zero_le _

theorem fill_segments (mode : Mode) (bindings : Bindings) (name : Text) (slots : List Slot) :
    (fill mode bindings slots name).map segment = slots.map segment := by
  cases bound : bindings name with
  | none => rw [fill_unbound mode bindings name bound]
  | some value => exact given_segments (fill_bound mode bindings name value bound slots).1

theorem filling_turn (mode : Mode) (bindings : Bindings) (name : Text) (left : List Text) (slots : List Slot)
    (filling : Filling bindings (name :: left) slots) : Filling bindings left (fill mode bindings slots name) := by
  cases bound : bindings name with
  | none =>
      rw [fill_unbound mode bindings name bound]
      refine ⟨filling.sound, ?_⟩
      intro other known
      have different : name ≠ other := by
        rintro rfl
        exact known bound
      have enough := filling.enough other known
      rwa [List.count_cons_of_ne different] at enough
  | some value =>
      obtain ⟨given, fewer⟩ := fill_bound mode bindings name value bound slots
      constructor
      · intro slot member chosen valued
        rcases given_member given slot member with before | ⟨named, taken⟩
        · exact filling.sound slot before chosen valued
        · rw [named, Option.bind_some, bound, ← taken]
          exact valued
      · intro other known
        have enough := filling.enough other known
        by_cases same : other = name
        · subst same
          rw [List.count_cons_self] at enough
          omega
        · rw [given_other_open given other same]
          rwa [List.count_cons_of_ne (Ne.symm same)] at enough

theorem filling_run (mode : Mode) (bindings : Bindings) (names : List Text) (slots : List Slot)
    (filling : Filling bindings names slots) :
    Filling bindings [] (names.foldl (fill mode bindings) slots) ∧
      (names.foldl (fill mode bindings) slots).map segment = slots.map segment := by
  induction names generalizing slots with
  | nil => exact ⟨filling, rfl⟩
  | cons name names ih =>
      obtain ⟨done, segments⟩ := ih _ (filling_turn mode bindings name names slots filling)
      exact ⟨done, segments.trans (fill_segments mode bindings name slots)⟩

theorem filling_start (bindings : Bindings) (segments : List Segment) :
    Filling bindings (tokenNames segments) (segments.map fun segment => ⟨segment, none⟩) := by
  constructor
  · intro slot member value valued
    obtain ⟨segment, -, rfl⟩ := List.mem_map.mp member
    cases valued
  · intro name _
    -- Every mention is an open slot and has one turn.
    apply Nat.le_of_eq
    rw [openCount, List.countP_map, tokenNames, List.count, List.countP_filterMap]
    apply List.countP_congr
    intro segment _
    cases named : segment.name? with
    | none => simp [isOpenFor, named]
    | some other => simp [isOpenFor, named]

theorem filling_done (bindings : Bindings) (slots : List Slot) (done : Filling bindings [] slots) (slot : Slot)
    (member : slot ∈ slots) : slot.value = slot.segment.name?.bind bindings := by
  cases valued : slot.value with
  | some value => exact (done.sound slot member value valued).symm
  | none =>
      cases named : slot.segment.name? with
      | none => rfl
      | some name =>
          rw [Option.bind_some]
          by_cases bound : bindings name = none
          · exact bound.symm
          · have none_open := List.countP_eq_zero.mp (Nat.le_zero.mp (done.enough name bound))
            exact absurd ((open_iff name slot).mpr ⟨valued, named⟩) (none_open slot member)

theorem assign_slots (mode : Mode) (bindings : Bindings) (segments : List Segment) :
    assign mode segments bindings = segments.map bindings.slot := by
  obtain ⟨done, kept⟩ := filling_run mode bindings _ _ (filling_start bindings segments)
  have same : (assign mode segments bindings).map segment = segments := by
    rw [assign, kept, List.map_map]
    exact List.map_id segments
  have own : ∀ slot ∈ assign mode segments bindings, slot = bindings.slot slot.segment := by
    intro slot member
    rw [Bindings.slot, ← filling_done bindings _ done slot member]
  calc
    assign mode segments bindings = (assign mode segments bindings).map id := (List.map_id _).symm
    _ = (assign mode segments bindings).map (bindings.slot ∘ segment) := List.map_congr_left own
    _ = ((assign mode segments bindings).map segment).map bindings.slot := List.map_map.symm
    _ = segments.map bindings.slot := by rw [same]

end Slot
end PathPattern
