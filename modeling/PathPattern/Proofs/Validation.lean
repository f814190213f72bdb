import Mathlib.Data.List.Nodup
import Mathlib.Order.Nat
import PathPattern.Configuration.OfText
import PathPattern.Proofs.Weight

set_option autoImplicit false

namespace PathPattern

def Declaration.IsPlain (declaration : Declaration) : Prop :=
  declaration.mode ≠ .expression ∧ declaration.modifiers = none ∧ declaration.pattern.length ≤ 10000

instance (declaration : Declaration) : Decidable declaration.IsPlain :=
  inferInstanceAs (Decidable (_ ∧ _ ∧ _))

theorem Declaration.plain_compiles (declaration : Declaration) (plain : declaration.IsPlain) :
    ∃ matcher, declaration.compile = .ok matcher := by
  obtain ⟨anchored, unmodified, short⟩ := plain
  rw [Declaration.compile, unmodified]
  exact compiles_when_short declaration.pattern [] declaration.mode .none anchored rfl (fun _ => rfl) (by simp) short

namespace Configuration

theorem check_ok_iff (path : FilePath) (before : List Text) (declarations : List Declaration) :
    check path before declarations = .ok () ↔
      (declarations.map Declaration.name).Nodup ∧ (∀ declaration ∈ declarations, declaration.name ∉ before) ∧
        ∀ declaration ∈ declarations, ∃ matcher, declaration.compile = .ok matcher := by
  induction declarations generalizing before with
  | nil => simp [check]
  | cons declaration rest ih =>
      rw [check]
      by_cases taken : declaration.name ∈ before
      · simp [taken]
      · rw [if_neg taken]
        cases compiled : declaration.compile with
        | error cause => simp [compiled]
        | ok matcher =>
            simp only [ih, List.map_cons, List.nodup_cons, List.forall_mem_cons]
            apply Iff.intro
            · intro accepted
              obtain ⟨distinct, fresh, compile⟩ := accepted
              refine ⟨⟨?_, distinct⟩, ⟨taken, ?_⟩, ⟨matcher, compiled⟩, compile⟩
              · intro repeated
                obtain ⟨later, member, same⟩ := List.mem_map.mp repeated
                exact List.ne_of_not_mem_cons (fresh later member) same
              · exact fun later member => List.not_mem_of_not_mem_cons (fresh later member)
            · intro valid
              obtain ⟨⟨once, distinct⟩, ⟨-, fresh⟩, -, compile⟩ := valid
              refine ⟨distinct, ?_, compile⟩
              intro later member
              have apart : later.name ≠ declaration.name := fun same => once (List.mem_map.mpr ⟨later, member, same⟩)
              exact List.not_mem_cons_of_ne_of_not_mem apart (fresh later member)

theorem validate_ok_iff (configuration : Configuration) (path : FilePath) :
    configuration.validate path = .ok () ↔
      (configuration.declarations.map Declaration.name).Nodup ∧
        ∀ declaration ∈ configuration.declarations, ∃ matcher, declaration.compile = .ok matcher := by
  rw [validate, check_ok_iff]
  simp

theorem parse_ok_iff (content : Text) (path : FilePath) (configuration : Configuration) :
    parse content path = .ok configuration ↔
      ofText? content = some configuration ∧ configuration.validate path = .ok () := by
  rw [parse]
  cases ofText? content with
  | none => simp
  | some read =>
      by_cases same : read = configuration
      · subst read
        dsimp only
        cases configuration.validate path <;> simp
      · dsimp only
        cases read.validate path <;> simp [same]

theorem parse_plain (content : Text) (path : FilePath) (configuration : Configuration)
    (read : ofText? content = some configuration) (distinct : (configuration.declarations.map Declaration.name).Nodup)
    (plain : ∀ declaration ∈ configuration.declarations, declaration.IsPlain) :
    parse content path = .ok configuration := by
  have compile := fun declaration member => Declaration.plain_compiles declaration (plain declaration member)
  exact (parse_ok_iff content path configuration).mpr
    ⟨read, (validate_ok_iff configuration path).mpr ⟨distinct, compile⟩⟩

inductive Objection (path : FilePath) (before : List Declaration) (declaration : Declaration) : Fault → Prop where
  | repeated (known : declaration.name ∈ before.map Declaration.name) :
      Objection path before declaration (.duplicateName declaration.name path)
  | refused {cause : Fault} (new : declaration.name ∉ before.map Declaration.name)
      (failed : declaration.compile = .error cause) :
      Objection path before declaration (.badDeclaration declaration.name path cause)

def FaultyAt (declarations : List Declaration) (place : Nat) : Prop :=
  ∃ declaration, declarations[place]? = some declaration ∧
    (declaration.name ∈ (declarations.take place).map Declaration.name ∨
      ∀ matcher, declaration.compile ≠ .ok matcher)

theorem objection_iff (path : FilePath) (before : List Declaration) (declaration : Declaration) :
    (∃ fault, Objection path before declaration fault) ↔
      declaration.name ∈ before.map Declaration.name ∨ ∀ matcher, declaration.compile ≠ .ok matcher := by
  apply Iff.intro
  · intro objected
    obtain ⟨fault, objection⟩ := objected
    cases objection with
    | repeated known => exact Or.inl known
    | refused new failed =>
        rw [failed]
        exact Or.inr (by simp)
  · intro faulty
    by_cases known : declaration.name ∈ before.map Declaration.name
    · exact ⟨_, .repeated known⟩
    · cases compiled : declaration.compile with
      | error cause => exact ⟨_, .refused known compiled⟩
      | ok matcher => exact absurd compiled (faulty.resolve_left known matcher)

theorem faulty_before (before after : List Declaration) (place : Nat) (inside : place < before.length) :
    FaultyAt (before ++ after) place ↔ FaultyAt before place := by
  rw [FaultyAt, FaultyAt, List.getElem?_append_left inside, List.take_append_of_le_length (Nat.le_of_lt inside)]

theorem faulty_here (before after : List Declaration) (declaration : Declaration) :
    FaultyAt (before ++ declaration :: after) before.length ↔
      declaration.name ∈ before.map Declaration.name ∨ ∀ matcher, declaration.compile ≠ .ok matcher := by
  simp [FaultyAt]

theorem faulty_inside (declarations : List Declaration) (place : Nat) (faulty : FaultyAt declarations place) :
    place < declarations.length := by
  obtain ⟨declaration, here, -⟩ := faulty
  exact (List.getElem?_eq_some_iff.mp here).1

theorem never_faulty_iff (declarations : List Declaration) :
    (∀ place, ¬ FaultyAt declarations place) ↔
      (declarations.map Declaration.name).Nodup ∧
        ∀ declaration ∈ declarations, ∃ matcher, declaration.compile = .ok matcher := by
  -- From the end, since a declaration is judged by those before it.
  induction declarations using List.reverseRecOn with
  | nil => simp [FaultyAt]
  | append_singleton before last ih =>
      have split : (∀ place, ¬ FaultyAt (before ++ [last]) place) ↔
          (∀ place, ¬ FaultyAt before place) ∧ ¬ FaultyAt (before ++ [last]) before.length := by
        apply Iff.intro
        · intro never
          refine ⟨?_, never before.length⟩
          intro place faulty
          exact never place ((faulty_before before [last] place (faulty_inside before place faulty)).mpr faulty)
        · intro never place faulty
          have inside := faulty_inside _ place faulty
          rw [List.length_append, List.length_singleton] at inside
          rcases Nat.lt_succ_iff_lt_or_eq.mp inside with earlier | rfl
          · exact never.1 place ((faulty_before before [last] place earlier).mp faulty)
          · exact never.2 faulty
      have names : (before ++ [last]).map Declaration.name = (before.map Declaration.name).concat last.name := by simp
      rw [split, ih, faulty_here, names, List.nodup_concat, List.forall_mem_append, List.forall_mem_singleton,
        and_comm (a := last.name ∉ _), not_or, not_forall_not]
      exact and_and_and_comm

theorem check_append (path : FilePath) (known : List Text) (before after : List Declaration)
    (accepted : check path known before = .ok ()) :
    check path known (before ++ after) = check path ((before.map Declaration.name).reverse ++ known) after := by
  induction before generalizing known with
  | nil => rfl
  | cons declaration rest ih =>
      rw [check] at accepted
      rw [List.cons_append, check]
      by_cases taken : declaration.name ∈ known
      · rw [if_pos taken] at accepted
        cases accepted
      · rw [if_neg taken] at accepted ⊢
        cases compiled : declaration.compile with
        | error cause =>
            rw [compiled] at accepted
            cases accepted
        | ok matcher =>
            rw [compiled] at accepted
            simp [ih _ accepted]

theorem validate_of_objection (configuration : Configuration) (path : FilePath) (place : Nat)
    (declaration : Declaration) (fault : Fault)
    (least : IsLeast {place | FaultyAt configuration.declarations place} place)
    (here : configuration.declarations[place]? = some declaration)
    (objection : Objection path (configuration.declarations.take place) declaration fault) :
    configuration.validate path = .error fault := by
  obtain ⟨inside, same⟩ := List.getElem?_eq_some_iff.mp here
  have cut : configuration.declarations =
      configuration.declarations.take place ++ declaration :: configuration.declarations.drop (place + 1) := by
    rw [← same, ← List.drop_eq_getElem_cons inside, List.take_append_drop]
  have sound : ∀ earlier, ¬ FaultyAt (configuration.declarations.take place) earlier := by
    intro earlier faulty
    have within := faulty_inside _ earlier faulty
    have known := (faulty_before _ (declaration :: configuration.declarations.drop (place + 1)) earlier within).mpr faulty
    rw [← cut] at known
    have bound := least.2 known
    rw [List.length_take] at within
    omega
  obtain ⟨distinct, compile⟩ := (never_faulty_iff _).mp sound
  have accepted := (check_ok_iff path [] (configuration.declarations.take place)).mpr ⟨distinct, by simp, compile⟩
  rw [validate, cut, check_append path [] _ _ accepted, check]
  cases objection with
  | repeated known => rw [if_pos (by simpa using known)]
  | refused new failed => rw [if_neg (by simpa using new), failed]

theorem validate_reports_earliest (configuration : Configuration) (path : FilePath) :
    (configuration.validate path = .ok () ↔
        (configuration.declarations.map Declaration.name).Nodup ∧
          ∀ declaration ∈ configuration.declarations, ∃ matcher, declaration.compile = .ok matcher) ∧
      ∀ fault, configuration.validate path = .error fault ↔
        ∃ place declaration, IsLeast {place | FaultyAt configuration.declarations place} place ∧
          configuration.declarations[place]? = some declaration ∧
          Objection path (configuration.declarations.take place) declaration fault := by
  refine ⟨validate_ok_iff configuration path, ?_⟩
  intro fault
  apply Iff.intro
  · intro refused
    have unsound : ∃ place, FaultyAt configuration.declarations place := by
      by_contra sound
      have accepted := (validate_ok_iff configuration path).mpr ((never_faulty_iff _).mp (not_exists.mp sound))
      rw [refused] at accepted
      cases accepted
    -- What the check reports at the least place at fault is all that it can have reported.
    classical
    have least := Nat.isLeast_find unsound
    obtain ⟨declaration, here, faulty⟩ := Nat.find_spec unsound
    obtain ⟨other, objection⟩ := (objection_iff path _ declaration).mpr faulty
    have reported := validate_of_objection configuration path _ declaration other least here objection
    obtain rfl := Except.error.inj (refused.symm.trans reported)
    exact ⟨_, declaration, least, here, objection⟩
  · intro found
    obtain ⟨place, declaration, least, here, objection⟩ := found
    exact validate_of_objection configuration path place declaration fault least here objection

example : validate ⟨false, [⟨['a'], ['/'], .strict, none⟩, ⟨['a'], ['/'], .strict, some ['g']⟩]⟩ ⟨['p']⟩ =
    .error (.duplicateName ['a'] ⟨['p']⟩) := by decide +kernel

end Configuration
end PathPattern
