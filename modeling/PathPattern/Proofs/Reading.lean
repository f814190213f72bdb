import PathPattern.Reading

set_option autoImplicit false

namespace PathPattern.Reading

variable {α β σ : Type}

def run (reader : Reading α) (input : Text) : Option (α × Text) :=
  (reader input).map fun (a, rest) => (a, rest.1)

@[simp]
theorem run_pure (a : α) (input : Text) : run (pure a) input = some (a, input) := by
  rfl

@[simp]
theorem run_bind (first : Reading α) (next : α → Reading β) (input : Text) :
    run (first >>= next) input = (run first input).bind fun (a, rest) => run (next a) rest := by
  simp only [run, bind]
  cases first input with
  | none => rfl
  | some taken =>
      obtain ⟨a, rest⟩ := taken
      simp only [Option.map_some, Option.bind_some]
      cases next a rest.1 with
      | none => rfl
      | some last => rfl

@[simp]
theorem run_require (condition : Bool) (input : Text) :
    run (require condition) input = if condition then some ((), input) else none := by
  cases condition with
  | false => rfl
  | true => rfl

@[simp]
theorem run_given (value : Option α) (input : Text) : run (given value) input = value.map fun a => (a, input) := by
  cases value with
  | none => rfl
  | some a => rfl

@[simp]
theorem run_ahead (view : Text → α) (input : Text) : run (ahead view) input = some (view input, input) := by
  rfl

@[simp]
theorem run_skip (expected input : Text) :
    run (skip? expected) input =
      if expected.isPrefixOf input then some (true, input.drop expected.length) else some (false, input) := by
  unfold run skip?
  split
  · rfl
  · rfl

theorem fold_of_run (step : σ → Char → Reading σ) (state later : σ) (c : Char) (rest after : Text)
    (stepped : run (step state c) rest = some (later, after)) :
    fold step state (c :: rest) = fold step later after := by
  obtain ⟨⟨result, left⟩, taken, same⟩ := Option.map_eq_some_iff.mp stepped
  obtain ⟨rfl, rfl⟩ := Prod.mk.inj same
  exact fold_cons_of_step taken

end PathPattern.Reading
