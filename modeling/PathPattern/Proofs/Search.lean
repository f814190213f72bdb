import PathPattern.Expression.Spans

set_option autoImplicit false

namespace PathPattern.Expression

theorem bit_added (seen place p : Nat) :
    (seen ||| (1 <<< place)).testBit p = (seen.testBit p || decide (p = place)) := by
  rw [Nat.testBit_or, Nat.one_shiftLeft, Nat.testBit_two_pow]
  simp only [eq_comm]

theorem bit_fresh (seen : Nat) (places : List Nat) (p : Nat) :
    (fresh seen places).2.testBit p = (seen.testBit p || decide (p ∈ places)) := by
  induction places generalizing seen with
  | nil => simp [fresh]
  | cons place rest ih =>
      by_cases visited : seen.testBit place = true
      · simp only [fresh, if_pos visited, ih, List.mem_cons]
        by_cases same : p = place
        · simp [same, visited]
        · simp [same]
      · simp only [fresh, if_neg visited, ih, bit_added, List.mem_cons, Bool.or_assoc, Bool.decide_or]

theorem mem_fresh (seen : Nat) (places : List Nat) (p : Nat) :
    p ∈ (fresh seen places).1 ↔ p ∈ places ∧ seen.testBit p = false := by
  induction places generalizing seen with
  | nil => simp [fresh]
  | cons place rest ih =>
      by_cases visited : seen.testBit place = true
      · simp only [fresh, if_pos visited, ih, List.mem_cons]
        by_cases same : p = place
        · simp [same, visited]
        · simp [same]
      · simp only [fresh, if_neg visited, ih, bit_added, List.mem_cons]
        by_cases same : p = place
        · simp [same, visited]
        · simp [same]

theorem nodup_fresh (seen : Nat) (places : List Nat) : (fresh seen places).1.Nodup := by
  induction places generalizing seen with
  | nil => exact .nil
  | cons place rest ih =>
      by_cases visited : seen.testBit place = true
      · simpa only [fresh, if_pos visited] using ih seen
      · simp only [fresh, if_neg visited, List.nodup_cons]
        refine ⟨fun again => ?_, ih _⟩
        have unmarked := ((mem_fresh _ _ _).mp again).2
        rw [bit_added, decide_eq_true rfl, Bool.or_true] at unmarked
        cases unmarked

theorem mem_distinct (places : List Nat) (p : Nat) : p ∈ distinct places ↔ p ∈ places := by
  simp [distinct, mem_fresh]

def Turns (moves : Nat → Nat → Prop) : Nat → Nat → Nat → Prop
  | 0, i, k => i = k
  | turns + 1, i, k => ∃ j, moves i j ∧ Turns moves turns j k

theorem turns_add (moves : Nat → Nat → Prop) (m n i k : Nat) :
    Turns moves (m + n) i k ↔ ∃ j, Turns moves m i j ∧ Turns moves n j k := by
  induction m generalizing i with
  | zero => simp [Turns]
  | succ m ih =>
      rw [Nat.succ_add]
      simp only [Turns, ih]
      constructor
      · intro found
        obtain ⟨j, first, l, before, after⟩ := found
        exact ⟨l, ⟨j, first, before⟩, after⟩
      · intro found
        obtain ⟨l, ⟨j, first, before⟩, after⟩ := found
        exact ⟨j, first, l, before, after⟩

-- Turns that take nothing can be left out, so no more turns are needed than there are places in between.
theorem turns_shorten (moves : Nat → Nat → Prop) (forward : ∀ i k, moves i k → i ≤ k) (n i k : Nat)
    (turns : Turns moves n i k) : i ≤ k ∧ ∃ m ≤ k - i, Turns moves m i k := by
  induction n generalizing i with
  | zero => exact ⟨Nat.le_of_eq turns, 0, Nat.zero_le _, turns⟩
  | succ n ih =>
      obtain ⟨j, first, later⟩ := turns
      obtain ⟨ordered, m, few, shorter⟩ := ih j later
      have step := forward i j first
      by_cases stays : i = j
      · subst stays
        exact ⟨ordered, m, few, shorter⟩
      · exact ⟨Nat.le_trans step ordered, m + 1, by omega, j, first, shorter⟩

structure Follows (move : List Nat → List Nat) (moves : Nat → Nat → Prop) (bound : Nat) : Prop where
  mem_move : ∀ places, (∀ i ∈ places, i ≤ bound) → ∀ k, k ∈ move places ↔ ∃ i ∈ places, moves i k
  inside : ∀ i k, moves i k → i ≤ bound → k ≤ bound

section

variable {move : List Nat → List Nat} {moves : Nat → Nat → Prop} {bound : Nat}

theorem turns_inside (follows : Follows move moves bound) (n i k : Nat) (turns : Turns moves n i k)
    (start : i ≤ bound) : k ≤ bound := by
  induction n generalizing i with
  | zero => exact turns ▸ start
  | succ n ih =>
      obtain ⟨j, first, later⟩ := turns
      exact ih j later (follows.inside i j first start)

theorem moved_inside (follows : Follows move moves bound) (places : List Nat)
    (start : ∀ i ∈ places, i ≤ bound) : ∀ k ∈ move places, k ≤ bound := by
  intro k member
  obtain ⟨i, first, step⟩ := (follows.mem_move places start k).mp member
  exact follows.inside i k step (start i first)

theorem mem_advance (follows : Follows move moves bound) (n : Nat) (places : List Nat)
    (start : ∀ i ∈ places, i ≤ bound) (k : Nat) :
    k ∈ advance move n places ↔ ∃ i ∈ places, Turns moves n i k := by
  induction n generalizing places with
  | zero => simp [advance, Turns]
  | succ n ih =>
      cases places with
      | nil => simp [advance]
      | cons place rest =>
          rw [advance, ih _ (moved_inside follows _ start)]
          · constructor
            · intro found
              obtain ⟨j, member, later⟩ := found
              obtain ⟨i, first, step⟩ := (follows.mem_move _ start j).mp member
              exact ⟨i, first, j, step, later⟩
            · intro found
              obtain ⟨i, first, j, step, later⟩ := found
              exact ⟨j, (follows.mem_move _ start j).mpr ⟨i, first, step⟩, later⟩
          · simp

theorem spread_succ (move : List Nat → List Nat) (n seen : Nat) (layer : List Nat) :
    spread move (n + 1) seen layer =
      if (fresh seen (move layer)).1 = [] then layer
      else layer ++ spread move n (fresh seen (move layer)).2 (fresh seen (move layer)).1 := by
  rw [spread]
  generalize fresh seen (move layer) = explored
  obtain ⟨next, all⟩ := explored
  cases next with
  | nil => rfl
  | cons place rest => rfl

theorem spread_nil (follows : Follows move moves bound) (n seen : Nat) : spread move n seen [] = [] := by
  cases n with
  | zero => rfl
  | succ n =>
      have nowhere : (fresh seen (move [])).1 = [] := by
        apply List.eq_nil_iff_forall_not_mem.mpr
        intro j new
        have moved := ((mem_fresh _ _ _).mp new).1
        simp [follows.mem_move [] (by simp)] at moved
      rw [spread_succ, if_pos nowhere]

theorem mem_spread_succ (follows : Follows move moves bound) (n seen : Nat) (layer : List Nat) (k : Nat) :
    k ∈ spread move (n + 1) seen layer ↔
      k ∈ layer ∨ k ∈ spread move n (fresh seen (move layer)).2 (fresh seen (move layer)).1 := by
  rw [spread_succ]
  by_cases stuck : (fresh seen (move layer)).1 = []
  · simp [stuck, spread_nil follows]
  · simp [stuck]

theorem layer_subset_spread (follows : Follows move moves bound) (n seen : Nat) (layer : List Nat) (k : Nat)
    (member : k ∈ layer) : k ∈ spread move n seen layer := by
  cases n with
  | zero => exact member
  | succ n => exact (mem_spread_succ follows n seen layer k).mpr (Or.inl member)

theorem fresh_inside (follows : Follows move moves bound) (seen : Nat) (layer : List Nat)
    (start : ∀ i ∈ layer, i ≤ bound) : ∀ j ∈ (fresh seen (move layer)).1, j ≤ bound := by
  intro j new
  exact moved_inside follows layer start j ((mem_fresh _ _ _).mp new).1

theorem spread_sound (follows : Follows move moves bound) (n seen : Nat) (layer : List Nat)
    (start : ∀ i ∈ layer, i ≤ bound) (k : Nat) (member : k ∈ spread move n seen layer) :
    ∃ i ∈ layer, ∃ m ≤ n, Turns moves m i k := by
  induction n generalizing seen layer with
  | zero => exact ⟨k, member, 0, Nat.le_refl 0, rfl⟩
  | succ n ih =>
      rcases (mem_spread_succ follows n seen layer k).mp member with here | further
      · exact ⟨k, here, 0, Nat.zero_le _, rfl⟩
      · obtain ⟨j, new, m, few, later⟩ := ih _ _ (fresh_inside follows seen layer start) further
        obtain ⟨i, first, step⟩ := (follows.mem_move layer start j).mp ((mem_fresh _ _ _).mp new).1
        exact ⟨i, first, m + 1, Nat.succ_le_succ few, j, step, later⟩

-- What has been seen is closed under moves except at the newest layer; exploring that layer keeps this.
def Explored (moves : Nat → Nat → Prop) (seen : Nat) (layer : List Nat) : Prop :=
  ∀ i, seen.testBit i = true → i ∉ layer → ∀ j, moves i j → seen.testBit j = true

theorem explored_fresh (follows : Follows move moves bound) (seen : Nat) (layer : List Nat)
    (start : ∀ i ∈ layer, i ≤ bound) (explored : Explored moves seen layer) :
    Explored moves (fresh seen (move layer)).2 (fresh seen (move layer)).1 := by
  intro i marked old j step
  by_cases before : seen.testBit i = true
  · by_cases newest : i ∈ layer
    · have moved : j ∈ move layer := (follows.mem_move layer start j).mpr ⟨i, newest, step⟩
      simp [bit_fresh, moved]
    · simp [bit_fresh, explored i before newest j step]
  · have moved : i ∈ move layer := by simpa [bit_fresh, before] using marked
    exact absurd ((mem_fresh _ _ _).mpr ⟨moved, by simpa using before⟩) old

theorem spread_complete (follows : Follows move moves bound) (n seen : Nat) (layer : List Nat)
    (start : ∀ i ∈ layer, i ≤ bound) (explored : Explored moves seen layer) (m i k : Nat) (few : m ≤ n)
    (marked : seen.testBit i = true) (turns : Turns moves m i k) :
    seen.testBit k = true ∨ k ∈ spread move n seen layer := by
  -- A turn out of the newest layer uses up one layer. A turn out of an older place leads to a place that was
  -- seen, so the inner induction on the turns stays with the same layer.
  induction n generalizing seen layer m i with
  | zero =>
      have none : m = 0 := by omega
      subst none
      exact Or.inl (turns ▸ marked)
  | succ n ih =>
      induction m generalizing i with
      | zero => exact Or.inl (turns ▸ marked)
      | succ m inner =>
          obtain ⟨j, step, later⟩ := turns
          by_cases newest : i ∈ layer
          · have moved : j ∈ move layer := (follows.mem_move layer start j).mpr ⟨i, newest, step⟩
            have found := ih _ _ (fresh_inside follows seen layer start)
              (explored_fresh follows seen layer start explored) m j (by omega) (by simp [bit_fresh, moved]) later
            by_cases before : seen.testBit k = true
            · exact Or.inl before
            · right
              apply (mem_spread_succ follows n seen layer k).mpr
              right
              rcases found with marked | deeper
              · have new : k ∈ move layer := by simpa [bit_fresh, before] using marked
                exact layer_subset_spread follows n _ _ k ((mem_fresh _ _ _).mpr ⟨new, by simpa using before⟩)
              · exact deeper
          · exact inner j (by omega) (explored i marked newest j step) later

theorem mem_reach (follows : Follows move moves bound) (n : Nat) (places : List Nat)
    (start : ∀ i ∈ places, i ≤ bound) (k : Nat) :
    k ∈ reach move n places ↔ ∃ i ∈ places, ∃ m ≤ n, Turns moves m i k := by
  have once : ∀ i, i ∈ (fresh 0 places).1 ↔ i ∈ places := by simp [mem_fresh]
  have seen : ∀ i, (fresh 0 places).2.testBit i = true ↔ i ∈ places := by simp [bit_fresh]
  have inside : ∀ i ∈ (fresh 0 places).1, i ≤ bound := fun i member => start i ((once i).mp member)
  have explored : Explored moves (fresh 0 places).2 (fresh 0 places).1 := by
    intro i marked old
    exact absurd ((once i).mpr ((seen i).mp marked)) old
  constructor
  · intro member
    obtain ⟨i, first, turns⟩ := spread_sound follows n _ _ inside k member
    exact ⟨i, (once i).mp first, turns⟩
  · intro found
    obtain ⟨i, first, m, few, turns⟩ := found
    rcases spread_complete follows n _ _ inside explored m i k few ((seen i).mpr first) turns with marked | member
    · exact layer_subset_spread follows n _ _ k ((once k).mpr ((seen k).mp marked))
    · exact member

end

-- Repetitions with a least number of turns above the greatest span nothing; readers never build them.
def BoundsOrdered : Expression → Prop
  | empty | oneOf _ | look _ => True
  | sequence first second | either first second => first.BoundsOrdered ∧ second.BoundsOrdered
  | repeated body least most => body.BoundsOrdered ∧ ∀ greatest, most = some greatest → least ≤ greatest
  | group body => body.BoundsOrdered

section

variable {text : Array Char}

theorem spans_inside (e : Expression) (i k : Nat) (spans : Spans text e i k) :
    i ≤ k ∧ (i ≤ text.size → k ≤ text.size) := by
  induction spans with
  | empty i => exact ⟨Nat.le_refl i, id⟩
  | @oneOf set i c here member =>
      have bound : i < text.size := (Array.getElem?_eq_some_iff.mp here).1
      exact ⟨Nat.le_succ i, fun _ => bound⟩
  | look holds => exact ⟨Nat.le_refl _, id⟩
  | sequence _ _ first second => exact ⟨Nat.le_trans first.1 second.1, fun start => second.2 (first.2 start)⟩
  | eitherLeft _ ih => exact ih
  | eitherRight _ ih => exact ih
  | stop i => exact ⟨Nat.le_refl i, id⟩
  | turn _ _ _ first later => exact ⟨Nat.le_trans first.1 later.1, fun start => later.2 (first.2 start)⟩
  | group _ ih => exact ih

-- For any expression equal to the repetition, so that the induction on the span keeps both bounds general.
theorem turns_of_spans (e body : Expression) (least : Nat) (most : Option Nat) (i k : Nat)
    (spans : Spans text e i k) (same : e = .repeated body least most) :
    ∃ n, least ≤ n ∧ (∀ greatest, most = some greatest → n ≤ greatest) ∧ Turns (Spans text body) n i k := by
  induction spans generalizing least most with
  | stop i =>
      obtain ⟨-, rfl, -⟩ := Expression.repeated.inj same
      exact ⟨0, Nat.le_refl 0, fun _ _ => Nat.zero_le _, rfl⟩
  | turn room first _ _ ih =>
      obtain ⟨rfl, rfl, rfl⟩ := Expression.repeated.inj same
      obtain ⟨n, enough, few, later⟩ := ih _ _ rfl
      refine ⟨n + 1, by omega, ?_, _, first, later⟩
      intro greatest limit
      subst limit
      have positive : greatest ≠ 0 := fun zero => room (congrArg some zero)
      have bounded := few (greatest - 1) rfl
      omega
  | _ => cases same

theorem spans_of_turns (body : Expression) (n least : Nat) (most : Option Nat) (i k : Nat)
    (turns : Turns (Spans text body) n i k) (enough : least ≤ n)
    (few : ∀ greatest, most = some greatest → n ≤ greatest) : Spans text (.repeated body least most) i k := by
  induction n generalizing least most i with
  | zero =>
      obtain rfl : i = k := turns
      obtain rfl : least = 0 := by omega
      exact .stop i
  | succ n ih =>
      obtain ⟨j, first, later⟩ := turns
      refine .turn ?_ first (ih (least - 1) (most.map (· - 1)) j later (by omega) ?_)
      · intro none
        have bounded := few 0 none
        omega
      · intro greatest limit
        obtain ⟨limit', known, rfl⟩ := Option.map_eq_some_iff.mp limit
        have bounded := few limit' known
        omega

theorem spans_repeated_iff (body : Expression) (least : Nat) (most : Option Nat) (i k : Nat) :
    Spans text (.repeated body least most) i k ↔
      ∃ n, least ≤ n ∧ (∀ greatest, most = some greatest → n ≤ greatest) ∧ Turns (Spans text body) n i k := by
  constructor
  · intro spans
    exact turns_of_spans _ body least most i k spans rfl
  · intro found
    obtain ⟨n, enough, few, turns⟩ := found
    exact spans_of_turns body n least most i k turns enough few

theorem mem_ends_one_of (set : CharSet) (places : List Nat) (k : Nat) :
    k ∈ ends text (.oneOf set) places ↔ ∃ i ∈ places, Spans text (.oneOf set) i k := by
  simp only [ends, List.mem_filterMap]
  constructor
  · intro found
    obtain ⟨i, first, taken⟩ := found
    cases here : text[i]? with
    | none => simp [here] at taken
    | some c =>
        simp only [here] at taken
        by_cases member : set.contains c = true
        · obtain rfl : i + 1 = k := by simpa [member] using taken
          exact ⟨i, first, .oneOf here member⟩
        · simp [member] at taken
  · intro found
    obtain ⟨i, first, spans⟩ := found
    cases spans with
    | oneOf here member => exact ⟨i, first, by simp [here, member]⟩

-- With an upper bound the turns behind the least number fill up to it; without one, a turn for each place suffices.
theorem mem_ends_repeated (body : Expression) (least : Nat) (most : Option Nat)
    (ordered : ∀ greatest, most = some greatest → least ≤ greatest)
    (follows : Follows (ends text body) (Spans text body) text.size) (places : List Nat)
    (start : ∀ i ∈ places, i ≤ text.size) (k : Nat) :
    k ∈ ends text (.repeated body least most) places ↔ ∃ i ∈ places, Spans text (.repeated body least most) i k := by
  have advanced := mem_advance follows least places start
  have inside : ∀ j ∈ advance (ends text body) least places, j ≤ text.size := by
    intro j member
    obtain ⟨i, first, turns⟩ := (advanced j).mp member
    exact turns_inside follows least i j turns (start i first)
  change k ∈ reach (ends text body) _ (advance (ends text body) least places) ↔ _
  rw [mem_reach follows _ _ inside]
  simp only [spans_repeated_iff]
  constructor
  · intro found
    obtain ⟨j, member, m, few, later⟩ := found
    obtain ⟨i, first, turns⟩ := (advanced j).mp member
    refine ⟨i, first, least + m, by omega, ?_, (turns_add _ least m i k).mpr ⟨j, turns, later⟩⟩
    intro greatest limit
    have bounded := ordered greatest limit
    subst limit
    have : m ≤ greatest - least := few
    omega
  · intro found
    obtain ⟨i, first, n, enough, few, turns⟩ := found
    obtain ⟨extra, rfl⟩ := Nat.exists_eq_add_of_le enough
    obtain ⟨j, before, later⟩ := (turns_add _ least extra i k).mp turns
    have reached := (advanced j).mpr ⟨i, first, before⟩
    cases most with
    | some greatest =>
        have bounded := few greatest rfl
        exact ⟨j, reached, extra, by dsimp only; omega, later⟩
    | none =>
        -- Turns that stay at their place are left out; the others fit into the text.
        have forward : ∀ i k, Spans text body i k → i ≤ k := fun i k spans => (spans_inside body i k spans).1
        obtain ⟨_, m, short, shorter⟩ := turns_shorten _ forward extra j k later
        have last := turns_inside follows m j k shorter (inside j reached)
        exact ⟨j, reached, m, by dsimp only; omega, shorter⟩

theorem follows_of_ends (e : Expression)
    (mem_ends : ∀ places, (∀ i ∈ places, i ≤ text.size) → ∀ k, k ∈ ends text e places ↔ ∃ i ∈ places, Spans text e i k) :
    Follows (ends text e) (Spans text e) text.size :=
  ⟨mem_ends, fun i k spans => (spans_inside e i k spans).2⟩

theorem ends_follow (e : Expression) (ordered : e.BoundsOrdered) :
    Follows (ends text e) (Spans text e) text.size := by
  apply follows_of_ends
  induction e with
  | empty =>
      intro places _ k
      constructor
      · intro member
        exact ⟨k, member, .empty k⟩
      · intro found
        obtain ⟨i, first, spans⟩ := found
        cases spans with
        | empty => exact first
  | oneOf set =>
      intro places _ k
      exact mem_ends_one_of set places k
  | look condition =>
      intro places _ k
      simp only [ends, List.mem_filter]
      constructor
      · intro found
        obtain ⟨member, holds⟩ := found
        exact ⟨k, member, .look holds⟩
      · intro found
        obtain ⟨i, first, spans⟩ := found
        cases spans with
        | look holds => exact ⟨first, holds⟩
  | sequence first second ihFirst ihSecond =>
      intro places start k
      have before := follows_of_ends first (ihFirst ordered.1)
      rw [ends, ihSecond ordered.2 _ (moved_inside before places start)]
      constructor
      · intro found
        obtain ⟨j, member, later⟩ := found
        obtain ⟨i, here, earlier⟩ := (before.mem_move places start j).mp member
        exact ⟨i, here, .sequence earlier later⟩
      · intro found
        obtain ⟨i, here, spans⟩ := found
        cases spans with
        | sequence earlier later => exact ⟨_, (before.mem_move places start _).mpr ⟨i, here, earlier⟩, later⟩
  | either first second ihFirst ihSecond =>
      intro places start k
      rw [ends, mem_distinct, List.mem_append, ihFirst ordered.1 places start, ihSecond ordered.2 places start]
      constructor
      · intro found
        rcases found with ⟨i, here, spans⟩ | ⟨i, here, spans⟩
        · exact ⟨i, here, .eitherLeft spans⟩
        · exact ⟨i, here, .eitherRight spans⟩
      · intro found
        obtain ⟨i, here, spans⟩ := found
        cases spans with
        | eitherLeft left => exact Or.inl ⟨i, here, left⟩
        | eitherRight right => exact Or.inr ⟨i, here, right⟩
  | repeated body least most ih =>
      intro places start k
      have follows := follows_of_ends body (ih ordered.1)
      exact mem_ends_repeated body least most ordered.2 follows places start k
  | group body ih =>
      intro places start k
      rw [ends, ih ordered places start]
      constructor
      · intro found
        obtain ⟨i, here, spans⟩ := found
        exact ⟨i, here, .group spans⟩
      · intro found
        obtain ⟨i, here, spans⟩ := found
        cases spans with
        | group inner => exact ⟨i, here, inner⟩

end

theorem occurs_iff_spans (e : Expression) (ordered : e.BoundsOrdered) (text : Text) :
    e.occursIn text = true ↔ ∃ i k, i ≤ text.length ∧ Spans text.toArray e i k := by
  have start : ∀ i ∈ List.range (text.length + 1), i ≤ text.toArray.size := by
    intro i member
    have bound := List.mem_range.mp member
    simp only [List.size_toArray]
    omega
  have found := (ends_follow e ordered).mem_move (List.range (text.length + 1)) start
  simp only [occursIn, Bool.not_eq_true', List.isEmpty_eq_false_iff_exists_mem, found, List.mem_range]
  constructor
  · intro taken
    obtain ⟨k, i, bound, spans⟩ := taken
    exact ⟨i, k, by omega, spans⟩
  · intro taken
    obtain ⟨i, k, bound, spans⟩ := taken
    exact ⟨k, i, by omega, spans⟩

end PathPattern.Expression
