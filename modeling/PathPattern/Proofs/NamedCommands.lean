import PathPattern.Command
import PathPattern.Proofs.Isolation

set_option autoImplicit false

namespace PathPattern

theorem Cascade.discovered_accepted (surroundings : Surroundings) (cascade : List Loaded)
    (discovered : Cascade.discover surroundings = .ok cascade) (loaded : Loaded) (member : loaded ∈ cascade) :
    loaded.Accepted := by
  have parsed := Cascade.discovered_parsed surroundings cascade discovered loaded member
  rw [Files.configuration] at parsed
  split at parsed
  · rename_i content read
    exact ⟨content, loaded.path, parsed⟩
  · cases parsed

namespace Command

theorem during_ok_iff {α : Type} (activity : Activity) (result : Except Fault α) (value : α) :
    during activity result = .ok value ↔ result = .ok value := by
  cases result <;> simp [during]

variable (surroundings : Surroundings)

theorem run_failed (command : Command) (failure : Failure) (fails : attempt surroundings command = .error failure) :
    run surroundings command = ⟨1, [], failure.text⟩ := by
  rw [run, fails]

theorem matcher_named (name : Text) (cascade : List Loaded)
    (discovered : Cascade.discover surroundings = .ok cascade) :
    matcher surroundings (.named name) = during (.resolving name) ((Catalogue.merge cascade).compile name) := by
  rw [matcher, (Cascade.catalogue_ok_iff surroundings _).mpr ⟨cascade, discovered, rfl⟩]
  rfl

theorem matcher_named_refused (name : Text) (fault : Fault)
    (refused : Cascade.discover surroundings = .error fault) :
    matcher surroundings (.named name) = .error ⟨.loading, fault⟩ := by
  rw [matcher, (Cascade.catalogue_error_iff surroundings fault).mpr refused]
  rfl

theorem matcher_found (name : Text) (cascade : List Loaded) (sourced : Sourced)
    (discovered : Cascade.discover surroundings = .ok cascade)
    (found : (Catalogue.merge cascade).find? name = some sourced) :
    ∃ compiled, matcher surroundings (.named name) = .ok compiled ∧
      matcher surroundings
        (.given sourced.declaration.pattern sourced.declaration.mode sourced.declaration.modifiers) = .ok compiled := by
  have accepted := Cascade.discovered_accepted surroundings cascade discovered
  obtain ⟨compiled, given, resolved⟩ := Catalogue.compile_found cascade accepted name sourced found
  refine ⟨compiled, ?_, ?_⟩
  · rw [matcher_named surroundings name cascade discovered, during_ok_iff]
    exact resolved
  · rw [matcher, during_ok_iff, ← Declaration.compile]
    exact given

def targeted (target : Target) (inputs : List Text) (bindings : List (Text × Text)) : List Command :=
  [.test target inputs, .fill target bindings, .inspect target]

theorem attempt_without_matcher (target : Target) (inputs : List Text) (bindings : List (Text × Text))
    (failure : Failure) (refused : matcher surroundings target = .error failure) (command : Command)
    (member : command ∈ targeted target inputs bindings) : attempt surroundings command = .error failure := by
  simp only [targeted, List.mem_cons, List.not_mem_nil, or_false] at member
  rcases member with rfl | rfl | rfl <;> rw [attempt, refused] <;> rfl

theorem validation_valid_iff :
    (run surroundings .validateConfigurations).code = 0 ↔
      ∃ cascade, Cascade.discover surroundings = .ok cascade := by
  rw [run, attempt]
  cases Cascade.discover surroundings <;> simp [during, bind, Except.bind, pure, Except.pure]

theorem validation_invalid_iff :
    (run surroundings .validateConfigurations).code = 1 ↔
      ∃ fault, Cascade.discover surroundings = .error fault := by
  rw [run, attempt]
  cases Cascade.discover surroundings <;> simp [during, bind, Except.bind, pure, Except.pure]

theorem run_same_matcher (target other : Target) (inputs : List Text) (bindings : List (Text × Text))
    (same : matcher surroundings target = matcher surroundings other) :
    run surroundings (.test target inputs) = run surroundings (.test other inputs) ∧
      run surroundings (.fill target bindings) = run surroundings (.fill other bindings) ∧
      run surroundings (.inspect target) = run surroundings (.inspect other) := by
  simp only [run, attempt, same, and_self]

theorem fill_without_tokens (pattern : Text) (mode : Mode) (modifiers : Option Text) (compiled : Matcher)
    (bindings : List (Text × Text)) (given : matcher surroundings (.given pattern mode modifiers) = .ok compiled)
    (tokenless : mode.hasTokens = false) :
    attempt surroundings (.fill (.given pattern mode modifiers) bindings) =
      .error ⟨.filling pattern, .noTokens mode⟩ := by
  have origin : Matcher.compile pattern mode (modifiers.getD []) = .ok compiled := by
    rw [matcher, during_ok_iff] at given
    exact given
  obtain ⟨rfl, rfl⟩ := Matcher.compiled_origin origin
  rw [attempt, given]
  simp only [bind, Except.bind, Matcher.fill, tokenless, during]
  rfl

theorem named_runs_as_given (name : Text) (known : Catalogue) (sourced : Sourced)
    (loads : Cascade.catalogue surroundings = .ok known) (found : known.find? name = some sourced)
    (inputs : List Text) (bindings : List (Text × Text)) :
    let declaration := sourced.declaration
    let given := Target.given declaration.pattern declaration.mode declaration.modifiers
    run surroundings (.test (.named name) inputs) = run surroundings (.test given inputs) ∧
      run surroundings (.fill (.named name) bindings) = run surroundings (.fill given bindings) ∧
      run surroundings (.inspect (.named name)) = run surroundings (.inspect given) ∧
      (declaration.mode.hasTokens = false →
        run surroundings (.fill (.named name) bindings) =
          ⟨1, [], Failure.text ⟨.filling declaration.pattern, .noTokens declaration.mode⟩⟩) := by
  intro declaration given
  obtain ⟨cascade, discovered, rfl⟩ := (Cascade.catalogue_ok_iff surroundings known).mp loads
  obtain ⟨compiled, resolved, direct⟩ := matcher_found surroundings name cascade sourced discovered found
  obtain ⟨tested, filled, inspected⟩ :=
    run_same_matcher surroundings (.named name) given inputs bindings (resolved.trans direct.symm)
  refine ⟨tested, filled, inspected, ?_⟩
  intro tokenless
  rw [filled]
  exact run_failed surroundings _ _ (fill_without_tokens surroundings _ _ _ compiled bindings direct tokenless)

theorem named_runs_as_given_static :
    ∃ surroundings : Surroundings, surroundings.files = .ofList
        [(⟨".matchstick.toml".toList⟩, .text
          "[[patterns]]\nname = \"x\"\npattern = \"/x\"\nmode = \"static\"\nmodifiers = \"m\"\n".toList)] ∧
      run surroundings (.test (.named ['x']) ["/x/\ny".toList, "x".toList]) =
        ⟨1, "match\t/x/\ny\nno match\tx\n".toList, []⟩ ∧
      run surroundings (.fill (.named ['x']) []) = ⟨1, [], Failure.text ⟨.filling "/x".toList, .noTokens .static⟩⟩ ∧
      run surroundings (.inspect (.named ['x'])) =
        ⟨0, "pattern:    /x\nmode:       static\nmodifiers:  m\nexpression: ^\\/x/?$\n".toList, []⟩ := by
  let files : Files := .ofList [(⟨".matchstick.toml".toList⟩, .text
    "[[patterns]]\nname = \"x\"\npattern = \"/x\"\nmode = \"static\"\nmodifiers = \"m\"\n".toList)]
  let surroundings : Surroundings := ⟨files, ⟨"a/b".toList⟩, ⟨['h']⟩, none⟩
  let declaration : Declaration := ⟨['x'], "/x".toList, .static, some ['m']⟩
  have discovered : Cascade.discover surroundings = .ok [⟨⟨false, [declaration]⟩, ⟨".matchstick.toml".toList⟩⟩] := by
    decide +kernel
  have loads := (Cascade.catalogue_ok_iff _ _).mpr ⟨_, discovered, rfl⟩
  obtain ⟨tested, -, inspected, refused⟩ := named_runs_as_given surroundings ['x'] _
    ⟨declaration, ⟨".matchstick.toml".toList⟩⟩ loads rfl ["/x/\ny".toList, "x".toList] []
  refine ⟨surroundings, rfl, tested.trans ?_, refused rfl, inspected.trans ?_⟩
  · decide +kernel
  · decide +kernel

theorem validation_foretells_named :
    ((run surroundings .validateConfigurations).code = 0 →
        ∃ cascade, Cascade.discover surroundings = .ok cascade ∧ ∀ name,
          ((∃ loaded ∈ cascade, loaded.Declares name) → (run surroundings (.inspect (.named name))).code = 0) ∧
            ((∀ loaded ∈ cascade, ¬ loaded.Declares name) →
              attempt surroundings (.inspect (.named name)) = .error ⟨.resolving name, .unknownName name⟩ ∧
                run surroundings (.inspect (.named name)) =
                  ⟨1, [], Failure.text ⟨.resolving name, .unknownName name⟩⟩)) ∧
      ((run surroundings .validateConfigurations).code = 1 →
        ∃ fault, attempt surroundings .validateConfigurations = .error ⟨.validating, fault⟩ ∧
          run surroundings .validateConfigurations = ⟨1, [], Failure.text ⟨.validating, fault⟩⟩ ∧
          ∀ name inputs bindings, ∀ command ∈ targeted (.named name) inputs bindings,
            attempt surroundings command = .error ⟨.loading, fault⟩ ∧
              run surroundings command = ⟨1, [], Failure.text ⟨.loading, fault⟩⟩) := by
  refine ⟨?_, ?_⟩
  · intro valid
    obtain ⟨cascade, discovered⟩ := (validation_valid_iff surroundings).mp valid
    refine ⟨cascade, discovered, ?_⟩
    intro name
    refine ⟨?_, ?_⟩
    · intro somewhere
      obtain ⟨sourced, found⟩ := Catalogue.find_merge_declared cascade name somewhere
      obtain ⟨compiled, resolved, -⟩ := matcher_found surroundings name cascade sourced discovered found
      rw [run, attempt, resolved]
      rfl
    · intro nowhere
      have unknown := (Catalogue.find_merge_none_iff cascade name).mpr nowhere
      have refused := matcher_named surroundings name cascade discovered
      rw [Catalogue.compile_unknown _ name unknown] at refused
      have fails := attempt_without_matcher surroundings (.named name) [] [] _ refused (.inspect (.named name))
        (by simp [targeted])
      exact ⟨fails, run_failed surroundings _ _ fails⟩
  · intro invalid
    obtain ⟨fault, refused⟩ := (validation_invalid_iff surroundings).mp invalid
    have reported : attempt surroundings .validateConfigurations = .error ⟨.validating, fault⟩ := by
      rw [attempt, refused]
      rfl
    refine ⟨fault, reported, run_failed surroundings _ _ reported, ?_⟩
    · intro name inputs bindings command member
      have fails := attempt_without_matcher surroundings (.named name) inputs bindings _
        (matcher_named_refused surroundings name fault refused) command member
      exact ⟨fails, run_failed surroundings command _ fails⟩

theorem validation_foretells_named_twice :
    ∃ valid broken : Surroundings,
      valid.files = .ofList
          [(⟨".matchstick.toml".toList⟩, .text "[[patterns]]\nname = \"x\"\npattern = \"/x\"\n".toList)] ∧
        (run valid .validateConfigurations).code = 0 ∧ (run valid (.inspect (.named ['x']))).code = 0 ∧
        run valid (.inspect (.named ['y'])) = ⟨1, [], Failure.text ⟨.resolving ['y'], .unknownName ['y']⟩⟩ ∧
      broken.files = .ofList
          [(⟨".matchstick.toml".toList⟩, .text "[[patterns]]\nname = \"x\"\npattern = \"/x\"\n".toList),
            (⟨"h/.matchstick.toml".toList⟩, .text
              "[[patterns]]\nname = \"y\"\npattern = \"/\"\nmodifiers = \"g\"\n".toList)] ∧
        (run broken .validateConfigurations).code = 1 ∧
        run broken (.test (.named ['x']) ["/x".toList]) = ⟨1, [], Failure.text ⟨.loading,
          .badDeclaration ['y'] ⟨"h/.matchstick.toml".toList⟩ (.modifiersNotAllowed ['g'])⟩⟩ := by
  let path : FilePath := ⟨".matchstick.toml".toList⟩
  let home : FilePath := ⟨"h/.matchstick.toml".toList⟩
  let sound : Found := .text "[[patterns]]\nname = \"x\"\npattern = \"/x\"\n".toList
  let loud : Found := .text "[[patterns]]\nname = \"y\"\npattern = \"/\"\nmodifiers = \"g\"\n".toList
  let valid : Surroundings := ⟨.ofList [(path, sound)], ⟨[]⟩, ⟨['h']⟩, none⟩
  let broken : Surroundings := ⟨.ofList [(path, sound), (home, loud)], ⟨[]⟩, ⟨['h']⟩, none⟩
  have loaded : Cascade.discover valid = .ok [⟨⟨false, [⟨['x'], "/x".toList, .strict, none⟩]⟩, path⟩] := by
    decide +kernel
  have report : attempt broken .validateConfigurations =
      .error ⟨.validating, .badDeclaration ['y'] home (.modifiersNotAllowed ['g'])⟩ := by
    decide +kernel
  have validCode : (run valid .validateConfigurations).code = 0 := (validation_valid_iff valid).mpr ⟨_, loaded⟩
  have brokenCode : (run broken .validateConfigurations).code = 1 :=
    congrArg Outcome.code (run_failed broken _ _ report)
  obtain ⟨cascade, discovered, names⟩ := (validation_foretells_named valid).1 validCode
  obtain ⟨fault, reported, -, commands⟩ := (validation_foretells_named broken).2 brokenCode
  obtain rfl := Except.ok.inj (discovered.symm.trans loaded)
  obtain rfl : fault = _ := congrArg Failure.fault (Except.error.inj (reported.symm.trans report))
  refine ⟨valid, broken, rfl, validCode, (names ['x']).1 ?_, ?_, rfl, brokenCode, ?_⟩
  · exact ⟨_, List.mem_cons_self, _, List.mem_cons_self, rfl⟩
  · refine ((names ['y']).2 ?_).2
    simp only [Loaded.Declares]
    decide
  · exact (commands ['x'] ["/x".toList] [] _ List.mem_cons_self).2

end Command
end PathPattern
