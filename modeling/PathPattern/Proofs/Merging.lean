import PathPattern.Catalogue
import PathPattern.Proofs.Validation

set_option autoImplicit false

namespace PathPattern
namespace Loaded

def Declares (loaded : Loaded) (name : Text) : Prop :=
  ∃ declaration ∈ loaded.configuration.declarations, declaration.name = name

instance (loaded : Loaded) (name : Text) : Decidable (loaded.Declares name) :=
  inferInstanceAs (Decidable (∃ declaration ∈ loaded.configuration.declarations, declaration.name = name))

def Accepted (loaded : Loaded) : Prop :=
  ∃ content path, Configuration.parse content path = .ok loaded.configuration

theorem mem_sourced_iff (loaded : Loaded) (sourced : Sourced) :
    sourced ∈ loaded.sourced ↔
      sourced.declaration ∈ loaded.configuration.declarations ∧ sourced.source = loaded.path := by
  rw [Loaded.sourced, List.mem_map]
  apply Iff.intro
  · intro made
    obtain ⟨declaration, member, rfl⟩ := made
    exact ⟨member, rfl⟩
  · intro parts
    obtain ⟨member, source⟩ := parts
    exact ⟨sourced.declaration, member, by rw [← source]⟩

theorem declares_iff_sourced (loaded : Loaded) (name : Text) :
    loaded.Declares name ↔ ∃ sourced ∈ loaded.sourced, sourced.declaration.name = name := by
  apply Iff.intro
  · intro declares
    obtain ⟨declaration, member, named⟩ := declares
    exact ⟨⟨declaration, loaded.path⟩, (loaded.mem_sourced_iff _).mpr ⟨member, rfl⟩, named⟩
  · intro declares
    obtain ⟨sourced, member, named⟩ := declares
    exact ⟨sourced.declaration, ((loaded.mem_sourced_iff sourced).mp member).1, named⟩

theorem accepted_compiles (loaded : Loaded) (accepted : loaded.Accepted) (sourced : Sourced)
    (member : sourced ∈ loaded.sourced) : ∃ matcher, sourced.declaration.compile = .ok matcher := by
  obtain ⟨content, path, parsed⟩ := accepted
  have valid := ((Configuration.parse_ok_iff content path _).mp parsed).2
  have compiles := ((Configuration.validate_ok_iff loaded.configuration path).mp valid).2
  exact compiles _ ((loaded.mem_sourced_iff sourced).mp member).1

end Loaded

namespace Catalogue

def names (declared : List Sourced) : List Text := declared.map fun sourced => sourced.declaration.name

def firstOfName (declared : List Sourced) : List Sourced :=
  (declared.zipIdx.filter fun placed =>
    (declared.take placed.2).all fun earlier => earlier.declaration.name ≠ placed.1.declaration.name).map Prod.fst

theorem names_cons (sourced : Sourced) (rest : List Sourced) :
    names (sourced :: rest) = sourced.declaration.name :: names rest := rfl

theorem mem_names_iff (cascade : List Loaded) (name : Text) :
    name ∈ names (cascade.flatMap Loaded.sourced) ↔ ∃ loaded ∈ cascade, loaded.Declares name := by
  simp only [names, List.mem_map, List.mem_flatMap, Loaded.declares_iff_sourced]
  apply Iff.intro
  · intro named
    obtain ⟨sourced, ⟨loaded, member, inside⟩, same⟩ := named
    exact ⟨loaded, member, sourced, inside, same⟩
  · intro declared
    obtain ⟨loaded, member, sourced, inside, same⟩ := declared
    exact ⟨sourced, ⟨loaded, member, inside⟩, same⟩

theorem find_none_iff (name : Text) (declared : List Sourced) :
    declared.find? (·.declaration.name = name) = none ↔ name ∉ names declared := by
  simp [names, List.find?_eq_none]

theorem firsts_nil (taken : List Text) : firsts taken [] = [] := rfl

theorem firsts_cons (taken : List Text) (sourced : Sourced) (rest : List Sourced) :
    firsts taken (sourced :: rest) =
      if sourced.declaration.name ∈ taken then firsts taken rest
      else sourced :: firsts (sourced.declaration.name :: taken) rest := rfl

theorem find_firsts (name : Text) (taken : List Text) (declared : List Sourced) :
    (firsts taken declared).find? (·.declaration.name = name) =
      if name ∈ taken then none else declared.find? (·.declaration.name = name) := by
  induction declared generalizing taken with
  | nil => simp [firsts_nil]
  | cons sourced rest ih =>
      rw [firsts_cons]
      by_cases same : sourced.declaration.name = name
      · subst name
        by_cases known : sourced.declaration.name ∈ taken
        · rw [if_pos known, ih, if_pos known, if_pos known]
        · rw [if_neg known, if_neg known, List.find?_cons_of_pos (by simp), List.find?_cons_of_pos (by simp)]
      · have passes : ∀ others : List Sourced, (sourced :: others).find? (·.declaration.name = name) =
            others.find? (·.declaration.name = name) := fun others => List.find?_cons_of_neg (by simpa using same)
        rw [passes]
        by_cases known : sourced.declaration.name ∈ taken
        · rw [if_pos known, ih]
        · rw [if_neg known, passes, ih]
          simp [Ne.symm same]

theorem firsts_congr (taken others : List Text) (declared : List Sourced)
    (same : ∀ name, name ∈ taken ↔ name ∈ others) : firsts taken declared = firsts others declared := by
  induction declared generalizing taken others with
  | nil => rfl
  | cons sourced rest ih =>
      have later := ih (sourced.declaration.name :: taken) (sourced.declaration.name :: others) (by simp [same])
      rw [firsts_cons, firsts_cons, ih taken others same, later]
      simp only [same]

theorem firsts_again (name : Text) (taken : List Text) (declared : List Sourced) (known : name ∈ taken) :
    firsts (name :: taken) declared = firsts taken declared := by
  apply firsts_congr
  intro other
  rw [List.mem_cons]
  exact or_iff_right_of_imp fun same => same ▸ known

theorem firsts_middle (name : Text) (more taken : List Text) (declared : List Sourced) :
    firsts (more ++ name :: taken) declared = firsts (name :: (more ++ taken)) declared :=
  firsts_congr _ _ declared fun _ => List.perm_middle.mem_iff

theorem firsts_append (taken : List Text) (near far : List Sourced) :
    firsts taken (near ++ far) = firsts taken near ++ firsts (names near ++ taken) far := by
  induction near generalizing taken with
  | nil => rfl
  | cons sourced rest ih =>
      rw [List.cons_append, firsts_cons, firsts_cons, names_cons, List.cons_append]
      by_cases known : sourced.declaration.name ∈ taken
      · rw [if_pos known, if_pos known, ih, firsts_again _ _ far (List.mem_append_right _ known)]
      · rw [if_neg known, if_neg known, ih, firsts_middle, List.cons_append]

theorem firsts_taken (taken more : List Text) (declared : List Sourced) :
    firsts (more ++ taken) declared = (firsts taken declared).filter fun kept => kept.declaration.name ∉ more := by
  induction declared generalizing taken with
  | nil => rfl
  | cons sourced rest ih =>
      have later := ih (sourced.declaration.name :: taken)
      rw [firsts_middle] at later
      rw [firsts_cons, firsts_cons]
      by_cases known : sourced.declaration.name ∈ taken
      · rw [if_pos (List.mem_append_right more known), if_pos known, ih]
      · rw [if_neg known]
        by_cases left : sourced.declaration.name ∈ more
        · have also : sourced.declaration.name ∈ more ++ taken := List.mem_append_left taken left
          rw [if_pos also, List.filter_cons_of_neg (by simpa using left), ← later, firsts_again _ _ rest also]
        · have fresh : sourced.declaration.name ∉ more ++ taken := by simp [known, left]
          rw [if_neg fresh, List.filter_cons_of_pos (by simpa using left), later]

theorem names_firsts_nodup (taken : List Text) (declared : List Sourced) : (names (firsts taken declared)).Nodup := by
  induction declared generalizing taken with
  | nil => exact List.nodup_nil
  | cons sourced rest ih =>
      rw [firsts_cons]
      by_cases known : sourced.declaration.name ∈ taken
      · rw [if_pos known]
        exact ih taken
      · have gone := find_firsts sourced.declaration.name (sourced.declaration.name :: taken) rest
        rw [if_pos List.mem_cons_self, find_none_iff] at gone
        rw [if_neg known]
        exact List.nodup_cons.mpr ⟨gone, ih _⟩

theorem first_of_name_concat (declared : List Sourced) (sourced : Sourced) :
    firstOfName (declared ++ [sourced]) =
      firstOfName declared ++ if sourced.declaration.name ∈ names declared then [] else [sourced] := by
  -- No place before the last one sees the new declaration.
  have earlier : ∀ placed ∈ declared.zipIdx, (declared ++ [sourced]).take placed.2 = declared.take placed.2 := by
    intro placed member
    have inside : placed.2 < declared.length := by simpa using List.snd_lt_of_mem_zipIdx member
    exact List.take_append_of_le_length (Nat.le_of_lt inside)
  rw [firstOfName, List.zipIdx_append, List.filter_append, List.map_append, firstOfName]
  congr 1
  · congr 1
    apply List.filter_congr
    intro placed member
    rw [earlier placed member]
  · rw [List.zipIdx_singleton]
    by_cases known : sourced.declaration.name ∈ names declared
    · rw [if_pos known, List.filter_cons_of_neg (by simpa using List.mem_map.mp known)]
      rfl
    · rw [if_neg known, List.filter_cons_of_pos (by simpa [names] using known)]
      rfl

theorem firsts_eq_first_of_name (declared : List Sourced) : firsts [] declared = firstOfName declared := by
  -- From the end, since whether a declaration is kept depends on those before it.
  induction declared using List.reverseRecOn with
  | nil => rfl
  | append_singleton declared sourced ih =>
      rw [firsts_append, first_of_name_concat, ih, firsts_cons, firsts_nil, List.append_nil]
      rfl

theorem find_merge (cascade : List Loaded) (name : Text) :
    (merge cascade).find? name = (cascade.flatMap Loaded.sourced).find? (·.declaration.name = name) := by
  rw [find?, merge, find_firsts]
  exact if_neg List.not_mem_nil

theorem find_merge_none_iff (cascade : List Loaded) (name : Text) :
    (merge cascade).find? name = none ↔ ∀ loaded ∈ cascade, ¬ loaded.Declares name := by
  rw [find_merge, find_none_iff, mem_names_iff]
  simp

theorem find_merge_declared (cascade : List Loaded) (name : Text)
    (somewhere : ∃ loaded ∈ cascade, loaded.Declares name) : ∃ sourced, (merge cascade).find? name = some sourced := by
  cases found : (merge cascade).find? name with
  | some sourced => exact ⟨sourced, rfl⟩
  | none =>
      obtain ⟨loaded, member, declares⟩ := somewhere
      exact absurd declares ((find_merge_none_iff cascade name).mp found loaded member)

theorem find_merge_some_iff (cascade : List Loaded) (name : Text) (sourced : Sourced) :
    (merge cascade).find? name = some sourced ↔
      sourced.declaration.name = name ∧ ∃ before after, cascade.flatMap Loaded.sourced = before ++ sourced :: after ∧
        ∀ earlier ∈ before, earlier.declaration.name ≠ name := by
  rw [find_merge, List.find?_eq_some_iff_append]
  simp

theorem find_merge_append (near far : List Loaded) (name : Text) :
    (merge (near ++ far)).find? name = ((merge near).find? name).or ((merge far).find? name) := by
  rw [find_merge, find_merge, find_merge, List.flatMap_append, List.find?_append]

theorem find_merge_near (near far : List Loaded) (name : Text) (sourced : Sourced)
    (found : (merge (near ++ far)).find? name = some sourced) (loaded : Loaded) (member : loaded ∈ near)
    (inside : sourced ∈ loaded.sourced) : (merge near).find? name = some sourced := by
  obtain ⟨named, -⟩ := (find_merge_some_iff (near ++ far) name sourced).mp found
  have declares := (loaded.declares_iff_sourced name).mpr ⟨sourced, inside, named⟩
  obtain ⟨other, known⟩ := find_merge_declared near name ⟨loaded, member, declares⟩
  rw [find_merge_append, known] at found
  exact known.trans found

theorem merge_append (near far : List Loaded) :
    (merge (near ++ far)).entries = (merge near).entries ++
      (merge far).entries.filter fun kept => ∀ loaded ∈ near, ¬ loaded.Declares kept.declaration.name := by
  have elsewhere : ∀ name, name ∉ names (near.flatMap Loaded.sourced) ↔ ∀ loaded ∈ near, ¬ loaded.Declares name := by
    simp [mem_names_iff]
  simp only [merge, List.flatMap_append, firsts_append, firsts_taken, elsewhere]

theorem mem_names_merge_iff (cascade : List Loaded) (name : Text) :
    name ∈ names (merge cascade).entries ↔ ∃ loaded ∈ cascade, loaded.Declares name := by
  have absent := (find_none_iff name (merge cascade).entries).symm.trans (find_merge_none_iff cascade name)
  simpa using not_congr absent

theorem merge_keeps_firsts (cascade : List Loaded) :
    (merge cascade).entries = firstOfName (cascade.flatMap Loaded.sourced) ∧
      (names (merge cascade).entries).Nodup ∧
      (∀ name, name ∈ names (merge cascade).entries ↔ ∃ loaded ∈ cascade, loaded.Declares name) ∧
      (∀ name, (merge cascade).find? name = (cascade.flatMap Loaded.sourced).find? (·.declaration.name = name)) ∧
      (∀ name, (merge cascade).find? name = none ↔ ∀ loaded ∈ cascade, ¬ loaded.Declares name) ∧
      ∀ further, (merge (cascade ++ further)).entries = (merge cascade).entries ++
        (merge further).entries.filter fun kept => ∀ loaded ∈ cascade, ¬ loaded.Declares kept.declaration.name :=
  ⟨firsts_eq_first_of_name _, names_firsts_nodup [] _, mem_names_merge_iff cascade, find_merge cascade,
    find_merge_none_iff cascade, merge_append cascade⟩

theorem compile_unknown (catalogue : Catalogue) (name : Text) (unknown : catalogue.find? name = none) :
    catalogue.compile name = .error (.unknownName name) := by
  rw [compile, unknown]

theorem compile_found (cascade : List Loaded) (accepted : ∀ loaded ∈ cascade, loaded.Accepted) (name : Text)
    (sourced : Sourced) (found : (merge cascade).find? name = some sourced) :
    ∃ matcher, sourced.declaration.compile = .ok matcher ∧ (merge cascade).compile name = .ok matcher := by
  have member : sourced ∈ cascade.flatMap Loaded.sourced := by
    rw [find_merge] at found
    exact List.mem_of_find?_eq_some found
  obtain ⟨loaded, present, inside⟩ := List.mem_flatMap.mp member
  obtain ⟨matcher, compiled⟩ := loaded.accepted_compiles (accepted loaded present) sourced inside
  refine ⟨matcher, compiled, ?_⟩
  rw [compile, found]
  simp only [compiled]

theorem compile_accepted (cascade : List Loaded) (accepted : ∀ loaded ∈ cascade, loaded.Accepted) (name : Text) :
    ((merge cascade).compile name = .error (.unknownName name) ↔ ∀ loaded ∈ cascade, ¬ loaded.Declares name) ∧
      ((∃ loaded ∈ cascade, loaded.Declares name) →
        ∃ before sourced after matcher, cascade.flatMap Loaded.sourced = before ++ sourced :: after ∧
          sourced.declaration.name = name ∧ (∀ earlier ∈ before, earlier.declaration.name ≠ name) ∧
          sourced.declaration.compile = .ok matcher ∧ (merge cascade).compile name = .ok matcher) ∧
      ∀ fault, (merge cascade).compile name = .error fault → fault = .unknownName name := by
  refine ⟨⟨?_, ?_⟩, ?_, ?_⟩
  · intro failed loaded member declares
    obtain ⟨sourced, found⟩ := find_merge_declared cascade name ⟨loaded, member, declares⟩
    obtain ⟨matcher, -, result⟩ := compile_found cascade accepted name sourced found
    rw [result] at failed
    cases failed
  · intro nowhere
    exact compile_unknown _ name ((find_merge_none_iff cascade name).mpr nowhere)
  · intro somewhere
    obtain ⟨sourced, found⟩ := find_merge_declared cascade name somewhere
    obtain ⟨matcher, compiled, result⟩ := compile_found cascade accepted name sourced found
    obtain ⟨named, before, after, split, first⟩ := (find_merge_some_iff cascade name sourced).mp found
    exact ⟨before, sourced, after, matcher, split, named, first, compiled, result⟩
  · intro fault failed
    cases found : (merge cascade).find? name with
    | none =>
        rw [compile_unknown _ name found] at failed
        exact (Except.error.inj failed).symm
    | some sourced =>
        obtain ⟨matcher, -, result⟩ := compile_found cascade accepted name sourced found
        rw [result] at failed
        cases failed

theorem compile_accepted_shadowed :
    ∃ inner outer : Loaded,
      Configuration.parse "[[patterns]]\nname = \"task\"\npattern = \"/task/:id\"\nmode = \"symbolic\"\n".toList
          inner.path = .ok inner.configuration ∧
        Configuration.parse "[[patterns]]\nname = \"task\"\npattern = \"/\"\n".toList outer.path =
          .ok outer.configuration ∧
        (∃ matcher, Matcher.compile "/task/:id".toList .symbolic [] = .ok matcher ∧
          (merge [inner, outer]).compile "task".toList = .ok matcher) ∧
        (merge [inner, outer]).compile "home".toList = .error (.unknownName "home".toList) := by
  let inner : Loaded :=
    ⟨⟨false, [⟨"task".toList, "/task/:id".toList, .symbolic, none⟩]⟩, ⟨"a/.matchstick.toml".toList⟩⟩
  let outer : Loaded := ⟨⟨false, [⟨"task".toList, ['/'], .strict, none⟩]⟩, ⟨".matchstick.toml".toList⟩⟩
  have innerRead := Configuration.parse_plain
    "[[patterns]]\nname = \"task\"\npattern = \"/task/:id\"\nmode = \"symbolic\"\n".toList inner.path
    inner.configuration (by decide +kernel) (by decide) (by decide)
  have outerRead := Configuration.parse_plain "[[patterns]]\nname = \"task\"\npattern = \"/\"\n".toList outer.path
    outer.configuration (by decide +kernel) (by decide) (by decide)
  have accepted : ∀ loaded ∈ [inner, outer], loaded.Accepted := by
    intro loaded member
    simp only [List.mem_cons, List.not_mem_nil, or_false] at member
    rcases member with rfl | rfl
    · exact ⟨_, _, innerRead⟩
    · exact ⟨_, _, outerRead⟩
  refine ⟨inner, outer, innerRead, outerRead, ?_, ?_⟩
  · obtain ⟨before, sourced, after, matcher, split, -, fresh, compiled, result⟩ :=
      (compile_accepted [inner, outer] accepted "task".toList).2.1 ⟨inner, by simp, _, List.mem_cons_self, rfl⟩
    have first : sourced = ⟨⟨"task".toList, "/task/:id".toList, .symbolic, none⟩, inner.path⟩ := by
      cases before with
      | nil => exact (List.cons.inj split).1.symm
      | cons earlier _ =>
          obtain rfl := (List.cons.inj split).1
          exact absurd rfl (fresh _ List.mem_cons_self)
    subst first
    exact ⟨matcher, compiled, result⟩
  · refine (compile_accepted [inner, outer] accepted "home".toList).1.mpr ?_
    simp only [Loaded.Declares]
    decide

end Catalogue
end PathPattern
