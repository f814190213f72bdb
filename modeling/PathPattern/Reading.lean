import PathPattern.Text

/-!
Readers: they take something off the front of a text and return what is left, or refuse the text.

The rest carries a proof that it is no longer than the text it came from, so loops over a text end without a
bound given from outside, and readers compose without obligations.
-/

namespace PathPattern

abbrev Rest (input : Text) := { rest : Text // rest.length ≤ input.length }

def Rest.all (input : Text) : Rest input := ⟨input, Nat.le_refl _⟩

@[simp]
theorem Rest.val_all (input : Text) : (Rest.all input).1 = input := rfl

def Reading (α : Type) := (input : Text) → Option (α × Rest input)

namespace Reading

variable {α β σ : Type}

instance : Monad Reading where
  pure a := fun input => some (a, .all input)
  bind first next := fun input =>
    match first input with
    | none => none
    | some (a, rest) =>
        match next a rest.1 with
        | none => none
        | some (b, last) => some (b, ⟨last.1, Nat.le_trans last.2 rest.2⟩)

def refuse : Reading α := fun _ => none

def require (condition : Bool) : Reading Unit := if condition then pure () else refuse

def given : Option α → Reading α
  | some a => pure a
  | none => refuse

def next : Reading Char
  | [] => none
  | c :: rest => some (c, ⟨rest, Nat.le_succ _⟩)

def ahead (view : Text → α) : Reading α := fun input => some (view input, .all input)

def skip? (expected : Text) : Reading Bool := fun input =>
  if expected.isPrefixOf input then some (true, ⟨input.drop expected.length, by simp⟩)
  else some (false, .all input)

def skip (expected : Text) : Reading Unit := do require (← skip? expected)

def takeWhile (accepts : Char → Bool) : Reading Text := fun input =>
  some (input.takeWhile accepts,
    ⟨input.dropWhile accepts, (List.dropWhile_suffix accepts).length_le⟩)

def trim (drop : (input : Text) → Rest input) : Reading Unit := fun input => some ((), drop input)

def takeSpaced (drop : (input : Text) → Rest input) (accepts : Char → Bool) (input : Text) :
    Option (Text × Rest input) :=
  match input with
  | [] => some ([], .all [])
  | c :: rest =>
      if accepts c then
        have shorter := (drop rest).2
        match takeSpaced drop accepts (drop rest).1 with
        | none => none
        | some (taken, last) => some (c :: taken, ⟨last.1, Nat.le_succ_of_le (Nat.le_trans last.2 shorter)⟩)
      else some ([], .all (c :: rest))
termination_by input.length
decreasing_by simp only [List.length_cons]; omega

def loop (atEnd : σ → Option β) (step : σ → Char → Reading (σ ⊕ β)) (state : σ) (input : Text) :
    Option (β × Rest input) :=
  match input with
  | [] => (atEnd state).map fun b => (b, .all [])
  | c :: rest =>
      match step state c rest with
      | none => none
      | some (.inr b, after) => some (b, ⟨after.1, Nat.le_succ_of_le after.2⟩)
      | some (.inl later, after) =>
          have shorter : after.1.length ≤ rest.length := after.2
          match loop atEnd step later after.1 with
          | none => none
          | some (b, last) => some (b, ⟨last.1, Nat.le_succ_of_le (Nat.le_trans last.2 shorter)⟩)
termination_by input.length
decreasing_by simp only [List.length_cons]; omega

def fold (step : σ → Char → Reading σ) (state : σ) (input : Text) : Option σ :=
  match input with
  | [] => some state
  | c :: rest =>
      match step state c rest with
      | none => none
      | some (later, after) =>
          have _shorter : after.1.length ≤ rest.length := after.2
          fold step later after.1
termination_by input.length
decreasing_by simp only [List.length_cons]; omega

theorem fold_nil (step : σ → Char → Reading σ) (state : σ) : fold step state [] = some state := by
  rw [fold]

theorem fold_cons_of_step {step : σ → Char → Reading σ} {state later : σ} {c : Char} {rest : Text}
    {after : Rest rest} (stepped : step state c rest = some (later, after)) :
    fold step state (c :: rest) = fold step later after.1 := by
  rw [fold, stepped]

end Reading
end PathPattern
