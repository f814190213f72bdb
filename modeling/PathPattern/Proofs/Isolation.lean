import PathPattern.Proofs.Discovery
import PathPattern.Proofs.Merging

set_option autoImplicit false

namespace PathPattern

theorem Files.configuration_alike (files others : Files) (path : FilePath) (alike : others path = files path) :
    others.configuration path = files.configuration path := by
  rw [Files.configuration, Files.configuration, alike]

namespace Cascade

theorem walk_up_to_root (files others : Files) (before : List FilePath) (rooted : FilePath) (above : List FilePath)
    (root : files.isRoot rooted.configurationFile = true)
    (alike : ∀ directory ∈ before ++ [rooted],
      others directory.configurationFile = files directory.configurationFile) :
    walk others (before ++ rooted :: above) = walk files (before ++ rooted :: above) := by
  induction before with
  | nil =>
      have here := alike rooted (by simp)
      rw [List.nil_append, walk, walk, here, files.configuration_alike others _ here]
      have present : files rooted.configurationFile ≠ .nothing := by
        intro absent
        rw [Files.isRoot, Files.configuration, absent] at root
        cases root
      rw [if_neg present, if_neg present]
      rw [Files.isRoot] at root
      cases parsed : files.configuration rooted.configurationFile with
      | error fault => rfl
      | ok configuration =>
          rw [parsed] at root
          exact (if_pos root).trans (if_pos root).symm
  | cons directory before ih =>
      have here := alike directory (by simp)
      have later := ih fun other member => alike other (List.mem_cons_of_mem directory member)
      rw [List.cons_append, walk, walk, here, files.configuration_alike others _ here, later]

theorem loaded_alike (files others : Files) (near nearElsewhere : List Loaded)
    (parsed : ∀ loaded ∈ near, files.configuration loaded.path = .ok loaded.configuration)
    (parsedElsewhere : ∀ loaded ∈ nearElsewhere, others.configuration loaded.path = .ok loaded.configuration)
    (paths : near.map Loaded.path = nearElsewhere.map Loaded.path)
    (alike : ∀ loaded ∈ near, others loaded.path = files loaded.path) : near = nearElsewhere := by
  induction near generalizing nearElsewhere with
  | nil => exact (List.map_eq_nil_iff.mp paths.symm).symm
  | cons loaded near ih =>
      cases nearElsewhere with
      | nil => cases paths
      | cons other nearElsewhere =>
          obtain ⟨path, paths⟩ := List.cons.inj paths
          have here := parsed loaded List.mem_cons_self
          have there := parsedElsewhere other List.mem_cons_self
          rw [← path, files.configuration_alike others _ (alike loaded List.mem_cons_self), here] at there
          have same : loaded = other := by
            cases loaded
            cases other
            cases Except.ok.inj there
            cases path
            rfl
          rw [same, ih nearElsewhere (fun next member => parsed next (List.mem_cons_of_mem _ member))
            (fun next member => parsedElsewhere next (List.mem_cons_of_mem _ member)) paths
            fun next member => alike next (List.mem_cons_of_mem _ member)]

theorem wants_home_alike (surroundings : Surroundings) (others : Files) (found : List Loaded)
    (home : others surroundings.home.configurationFile = surroundings.files surroundings.home.configurationFile) :
    wantsHome { surroundings with files := others } found = wantsHome surroundings found := by
  rw [wantsHome, wantsHome]
  simp only [home]

theorem discover_up_to_root (surroundings : Surroundings) (others : Files) (before : List FilePath)
    (rooted : FilePath) (above : List FilePath) (climbs : surroundings.directory.Climbs (before ++ rooted :: above))
    (root : surroundings.files.isRoot rooted.configurationFile = true)
    (alike : ∀ directory ∈ before ++ [rooted],
      others directory.configurationFile = surroundings.files directory.configurationFile)
    (home : others surroundings.home.configurationFile = surroundings.files surroundings.home.configurationFile) :
    discover { surroundings with files := others } = discover surroundings := by
  have way := (surroundings.directory.climbs_iff _).mp climbs
  have walked := walk_up_to_root surroundings.files others before rooted above root alike
  have read := surroundings.files.configuration_alike others _ home
  rw [discover, discover]
  simp only [← way, walked, wants_home_alike surroundings others _ home, read]

theorem catalogue_isolated (surroundings : Surroundings) (others : Files) :
    (∀ before rooted above, surroundings.directory.Climbs (before ++ rooted :: above) →
        surroundings.files.isRoot rooted.configurationFile = true →
        (∀ directory ∈ before ++ [rooted],
          others directory.configurationFile = surroundings.files directory.configurationFile) →
        others surroundings.home.configurationFile = surroundings.files surroundings.home.configurationFile →
        catalogue { surroundings with files := others } = catalogue surroundings) ∧
      ∀ found foundElsewhere known knownElsewhere,
        discover surroundings = .ok found → catalogue surroundings = .ok known →
        discover { surroundings with files := others } = .ok foundElsewhere →
        catalogue { surroundings with files := others } = .ok knownElsewhere →
        ∀ name sourced k loaded, known.find? name = some sourced → found[k]? = some loaded →
          sourced ∈ loaded.sourced →
          (found.take (k + 1)).map Loaded.path = (foundElsewhere.take (k + 1)).map Loaded.path →
          (∀ near ∈ found.take (k + 1), others near.path = surroundings.files near.path) →
          knownElsewhere.find? name = some sourced := by
  refine ⟨?_, ?_⟩
  · intro before rooted above climbs root alike home
    rw [catalogue, catalogue, discover_up_to_root surroundings others before rooted above climbs root alike home]
  · intro found foundElsewhere known knownElsewhere discovered loads discoveredElsewhere loadsElsewhere
      name sourced k loaded resolves kth inside paths alike
    have merged := (catalogue_ok_iff _ _).mpr ⟨found, discovered, rfl⟩
    have mergedElsewhere := (catalogue_ok_iff _ _).mpr ⟨foundElsewhere, discoveredElsewhere, rfl⟩
    obtain rfl := Except.ok.inj (merged.symm.trans loads)
    obtain rfl := Except.ok.inj (mergedElsewhere.symm.trans loadsElsewhere)
    have same : found.take (k + 1) = foundElsewhere.take (k + 1) := by
      apply loaded_alike surroundings.files others _ _ _ _ paths alike
      · exact fun near member => discovered_parsed surroundings found discovered near (List.mem_of_mem_take member)
      · exact fun near member =>
          discovered_parsed _ foundElsewhere discoveredElsewhere near (List.mem_of_mem_take member)
    have near : loaded ∈ found.take (k + 1) := by
      apply List.mem_of_getElem?
      rw [List.getElem?_take_of_lt (Nat.lt_succ_self k), kth]
    rw [← List.take_append_drop (k + 1) found] at resolves
    have kept := Catalogue.find_merge_near _ _ name sourced resolves loaded near inside
    rw [← List.take_append_drop (k + 1) foundElsewhere, ← same, Catalogue.find_merge_append, kept]
    rfl

theorem catalogue_isolated_from_broken :
    ∃ (rooted : Found) (files broken shadowed : Files),
      rooted = .text "root = true\n[[patterns]]\nname = \"x\"\npattern = \"/x\"\n".toList ∧
        files = .ofList [(⟨"a/.matchstick.toml".toList⟩, rooted)] ∧
        broken = .ofList [(⟨".matchstick.toml".toList⟩, .unreadable), (⟨"a/.matchstick.toml".toList⟩, rooted)] ∧
        shadowed = .ofList
          [(⟨"h/.matchstick.toml".toList⟩, .text "[[patterns]]\nname = \"x\"\npattern = \"/y\"\n".toList),
            (⟨"a/.matchstick.toml".toList⟩, rooted)] ∧
        catalogue ⟨broken, ⟨"a/b".toList⟩, ⟨['h']⟩, none⟩ = catalogue ⟨files, ⟨"a/b".toList⟩, ⟨['h']⟩, none⟩ ∧
        ∃ known, catalogue ⟨shadowed, ⟨"a/b".toList⟩, ⟨['h']⟩, none⟩ = .ok known ∧
          known.find? ['x'] = some ⟨⟨['x'], "/x".toList, .strict, none⟩, ⟨"a/.matchstick.toml".toList⟩⟩ := by
  let inner : Loaded := ⟨⟨true, [⟨['x'], "/x".toList, .strict, none⟩]⟩, ⟨"a/.matchstick.toml".toList⟩⟩
  let home : Loaded := ⟨⟨false, [⟨['x'], "/y".toList, .strict, none⟩]⟩, ⟨"h/.matchstick.toml".toList⟩⟩
  let rooted : Found := .text "root = true\n[[patterns]]\nname = \"x\"\npattern = \"/x\"\n".toList
  let files : Files := .ofList [(inner.path, rooted)]
  let broken : Files := .ofList [(⟨".matchstick.toml".toList⟩, .unreadable), (inner.path, rooted)]
  let shadowed : Files := .ofList
    [(home.path, .text "[[patterns]]\nname = \"x\"\npattern = \"/y\"\n".toList), (inner.path, rooted)]
  let surroundings : Surroundings := ⟨files, ⟨"a/b".toList⟩, ⟨['h']⟩, none⟩
  have climbs : surroundings.directory.Climbs ([⟨"a/b".toList⟩] ++ ⟨['a']⟩ :: [⟨[]⟩]) :=
    .up _ _ _ (by decide) (.up _ _ _ (by decide) (.top _ (by decide)))
  have discovered : discover surroundings = .ok [inner] := by decide +kernel
  have discoveredElsewhere : discover { surroundings with files := shadowed } = .ok [inner, home] := by decide +kernel
  have loads := (catalogue_ok_iff _ _).mpr ⟨_, discovered, rfl⟩
  have loadsElsewhere := (catalogue_ok_iff _ _).mpr ⟨_, discoveredElsewhere, rfl⟩
  refine ⟨rooted, files, broken, shadowed, rfl, rfl, rfl, rfl, ?_, .merge [inner, home], loadsElsewhere, ?_⟩
  · exact (catalogue_isolated surroundings broken).1 _ _ _ climbs (by decide +kernel) (by decide) (by decide)
  · exact (catalogue_isolated surroundings shadowed).2 _ _ _ _ discovered loads discoveredElsewhere loadsElsewhere
      ['x'] _ 0 inner rfl rfl List.mem_cons_self rfl (by decide)

end Cascade
end PathPattern
