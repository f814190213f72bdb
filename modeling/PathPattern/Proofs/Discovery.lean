import Mathlib.Data.List.Forall2
import PathPattern.Cascade

set_option autoImplicit false

namespace PathPattern

section Traversal

variable {α β ε : Type}

theorem bind_ok_iff (first : Except ε α) (next : α → Except ε β) (result : β) :
    (first >>= next) = .ok result ↔ ∃ value, first = .ok value ∧ next value = .ok result := by
  cases first <;> simp [bind, Except.bind]

theorem bind_error_iff (first : Except ε α) (next : α → Except ε β) (fault : ε) :
    (first >>= next) = .error fault ↔
      first = .error fault ∨ ∃ value, first = .ok value ∧ next value = .error fault := by
  cases first <;> simp [bind, Except.bind]

variable (f : α → Except ε β)

theorem traversal_ok_iff (xs : List α) (ys : List β) :
    xs.mapM f = .ok ys ↔ List.Forall₂ (fun x y => f x = .ok y) xs ys := by
  induction xs generalizing ys with
  | nil =>
      rw [List.mapM_nil, List.forall₂_nil_left_iff]
      exact ⟨fun computed => (Except.ok.inj computed).symm, fun empty => congrArg Except.ok empty.symm⟩
  | cons x xs ih =>
      simp only [List.mapM_cons, bind_ok_iff, ih, List.forall₂_cons_left_iff]
      apply Iff.intro
      · intro computed
        obtain ⟨y, here, rest, later, joined⟩ := computed
        exact ⟨y, rest, here, later, (Except.ok.inj joined).symm⟩
      · intro pointwise
        obtain ⟨y, rest, here, later, rfl⟩ := pointwise
        exact ⟨y, here, rest, later, rfl⟩

theorem traversal_error_iff (xs : List α) (fault : ε) :
    xs.mapM f = .error fault ↔
      ∃ before x after, xs = before ++ x :: after ∧ (∀ earlier ∈ before, ∃ y, f earlier = .ok y) ∧
        f x = .error fault := by
  induction xs with
  | nil => simp [pure, Except.pure]
  | cons x xs ih =>
      have joined : ∀ values : List β, (pure values : Except ε (List β)) ≠ .error fault := by
        simp [pure, Except.pure]
      simp only [List.mapM_cons, bind_error_iff, joined, and_false, exists_false, or_false, ih]
      apply Iff.intro
      · intro failed
        rcases failed with here | ⟨y, here, before, culprit, after, rfl, fine, fails⟩
        · exact ⟨[], x, xs, rfl, by simp, here⟩
        · exact ⟨x :: before, culprit, after, rfl, by simpa using ⟨⟨y, here⟩, fine⟩, fails⟩
      · intro split
        obtain ⟨before, culprit, after, shape, fine, fails⟩ := split
        cases before with
        | nil =>
            obtain ⟨rfl, rfl⟩ := List.cons.inj shape
            exact Or.inl fails
        | cons first before =>
            obtain ⟨rfl, rfl⟩ := List.cons.inj shape
            obtain ⟨y, here⟩ := fine x (by simp)
            have others := fun earlier member => fine earlier (List.mem_cons_of_mem x member)
            exact Or.inr ⟨y, here, before, culprit, after, rfl, others, fails⟩

end Traversal

namespace FilePath

inductive Climbs : FilePath → List FilePath → Prop where
  | top (directory : FilePath) (last : directory.parent? = none) : Climbs directory [directory]
  | up (directory above : FilePath) (directories : List FilePath) (next : directory.parent? = some above)
      (later : Climbs above directories) : Climbs directory (directory :: directories)

theorem climbs_ascent (directory : FilePath) : directory.Climbs directory.ascent := by
  rw [ascent]
  split
  · rename_i last
    exact .top directory last
  · rename_i above next
    exact .up directory above above.ascent next (climbs_ascent above)
termination_by directory.components.length
decreasing_by
  exact parent_shorter directory _ ‹_›

theorem climbs_iff (directory : FilePath) (directories : List FilePath) :
    directory.Climbs directories ↔ directories = directory.ascent := by
  apply Iff.intro
  · intro climbs
    induction climbs with
    | top directory last =>
        rw [ascent]
        split
        · rfl
        · rename_i above found
          rw [last] at found
          cases found
    | up directory above directories next later ih =>
        rw [ascent]
        split
        · rename_i none
          rw [next] at none
          cases none
        · rename_i other found
          obtain rfl : above = other := Option.some.inj (next.symm.trans found)
          rw [ih]
  · rintro rfl
    exact climbs_ascent directory

end FilePath

namespace Files

variable (files : Files)

def isRoot (path : FilePath) : Bool :=
  match files.configuration path with
  | .ok configuration => configuration.root
  | .error _ => false

def upToRoot (paths : List FilePath) : List FilePath :=
  paths.takeWhile (!files.isRoot ·) ++ (paths.dropWhile (!files.isRoot ·)).take 1

theorem up_to_root_last (path : FilePath) (paths : List FilePath) (root : files.isRoot path = true) :
    files.upToRoot (path :: paths) = [path] := by
  simp [upToRoot, root]

theorem up_to_root_next (path : FilePath) (paths : List FilePath) (inner : files.isRoot path = false) :
    files.upToRoot (path :: paths) = path :: files.upToRoot paths := by
  simp [upToRoot, inner]

theorem up_to_root_sublist (paths : List FilePath) : (files.upToRoot paths).Sublist paths := by
  have whole := List.takeWhile_append_dropWhile (p := (!files.isRoot ·)) (l := paths)
  conv_rhs => rw [← whole]
  exact (List.Sublist.refl _).append (List.take_sublist 1 _)

def load (path : FilePath) : Except Fault Loaded := do
  return ⟨← files.configuration path, path⟩

theorem load_ok_iff (path : FilePath) (loaded : Loaded) :
    files.load path = .ok loaded ↔ loaded.path = path ∧ files.configuration path = .ok loaded.configuration := by
  rw [load, bind_ok_iff]
  apply Iff.intro
  · intro computed
    obtain ⟨configuration, parsed, joined⟩ := computed
    obtain rfl := Except.ok.inj joined
    exact ⟨rfl, parsed⟩
  · intro parts
    obtain ⟨rfl, parsed⟩ := parts
    exact ⟨loaded.configuration, parsed, rfl⟩

theorem loads_paths (paths : List FilePath) (found : List Loaded)
    (loads : List.Forall₂ (fun path loaded => files.load path = .ok loaded) paths found) :
    found.map Loaded.path = paths := by
  induction loads with
  | nil => rfl
  | @cons path loaded _ _ here later ih =>
      obtain ⟨source, -⟩ := (files.load_ok_iff path loaded).mp here
      rw [List.map_cons, source, ih]

theorem load_succeeds_iff (path : FilePath) :
    (∃ loaded, files.load path = .ok loaded) ↔ ∃ configuration, files.configuration path = .ok configuration := by
  simp only [load_ok_iff]
  apply Iff.intro
  · intro succeeds
    obtain ⟨loaded, -, parsed⟩ := succeeds
    exact ⟨loaded.configuration, parsed⟩
  · intro succeeds
    obtain ⟨configuration, parsed⟩ := succeeds
    exact ⟨⟨configuration, path⟩, rfl, parsed⟩

theorem load_error_iff (path : FilePath) (fault : Fault) :
    files.load path = .error fault ↔ files.configuration path = .error fault := by
  rw [load, bind_error_iff]
  simp [pure, Except.pure]

end Files

namespace Surroundings

variable (surroundings : Surroundings)

def kept (directories : List FilePath) : List FilePath :=
  surroundings.files.upToRoot
    ((directories.map FilePath.configurationFile).filter fun path => surroundings.files path ≠ .nothing)

theorem kept_sublist (directories : List FilePath) :
    (surroundings.kept directories).Sublist (directories.map FilePath.configurationFile) :=
  (surroundings.files.up_to_root_sublist _).trans List.filter_sublist

def HomeCounts (kept : List FilePath) : Prop :=
  isOn surroundings.withoutHome = false ∧ surroundings.files surroundings.home.configurationFile ≠ .nothing ∧
    ∀ path ∈ kept, path.components ≠ surroundings.home.configurationFile.components

instance (kept : List FilePath) : Decidable (surroundings.HomeCounts kept) :=
  inferInstanceAs (Decidable (_ ∧ _ ∧ _))

def configurationFiles (directories : List FilePath) : List FilePath :=
  let kept := surroundings.kept directories
  if surroundings.HomeCounts kept then kept ++ [surroundings.home.configurationFile] else kept

end Surroundings

namespace Cascade

theorem walk_loads (files : Files) (directories : List FilePath) :
    walk files directories =
      (files.upToRoot ((directories.map FilePath.configurationFile).filter fun path => files path ≠ .nothing)).mapM
        files.load := by
  induction directories with
  | nil => rfl
  | cons directory above ih =>
      rw [walk, List.map_cons, List.filter_cons]
      by_cases absent : files directory.configurationFile = .nothing
      · simpa [absent] using ih
      · have present : decide (files directory.configurationFile ≠ .nothing) = true := decide_eq_true absent
        rw [if_neg absent, if_pos present]
        generalize directory.configurationFile = path
        cases parsed : files.configuration path with
        | error fault =>
            have inner : files.isRoot path = false := by rw [Files.isRoot, parsed]
            have failed := (files.load_error_iff path fault).mpr parsed
            rw [files.up_to_root_next _ _ inner, List.mapM_cons, failed]
            rfl
        | ok configuration =>
            have kind : files.isRoot path = configuration.root := by rw [Files.isRoot, parsed]
            have loaded := (files.load_ok_iff path ⟨configuration, path⟩).mpr ⟨rfl, parsed⟩
            cases root : configuration.root with
            | true =>
                rw [files.up_to_root_last _ _ (kind.trans root), List.mapM_cons, loaded]
                exact if_pos root
            | false =>
                rw [files.up_to_root_next _ _ (kind.trans root), List.mapM_cons, loaded, ← ih]
                exact if_neg (by simp [root])

theorem wants_home_iff (surroundings : Surroundings) (kept : List FilePath) (found : List Loaded)
    (loads : List.Forall₂ (fun path loaded => surroundings.files.load path = .ok loaded) kept found) :
    wantsHome surroundings found = true ↔ surroundings.HomeCounts kept := by
  rw [← surroundings.files.loads_paths kept found loads]
  simp [wantsHome, Surroundings.HomeCounts, FilePath.sameComponents, and_assoc]

theorem discover_loads (surroundings : Surroundings) :
    discover surroundings =
      (surroundings.configurationFiles surroundings.directory.ascent).mapM surroundings.files.load := by
  rw [discover, walk_loads, Surroundings.configurationFiles]
  change (surroundings.kept surroundings.directory.ascent).mapM surroundings.files.load >>= _ = _
  generalize surroundings.kept surroundings.directory.ascent = kept
  cases walked : kept.mapM surroundings.files.load with
  | error fault =>
      by_cases counts : surroundings.HomeCounts kept
      · simp only [if_pos counts, List.mapM_append, walked]
        rfl
      · simp only [if_neg counts, walked]
        rfl
  | ok found =>
      have home := wants_home_iff surroundings kept found ((traversal_ok_iff _ _ _).mp walked)
      by_cases counts : surroundings.HomeCounts kept
      · rw [if_pos counts, List.mapM_append, walked]
        refine (if_pos (home.mpr counts)).trans ?_
        cases parsed : surroundings.files.configuration surroundings.home.configurationFile with
        | error fault => simp [Files.load, parsed, bind, Except.bind]
        | ok configuration => simp [Files.load, parsed, bind, Except.bind, pure, Except.pure]
      · rw [if_neg counts, walked]
        exact if_neg fun wanted => counts (home.mp wanted)

theorem discovered_paths (surroundings : Surroundings) (found : List Loaded)
    (discovered : discover surroundings = .ok found) :
    found.map Loaded.path = surroundings.configurationFiles surroundings.directory.ascent := by
  rw [discover_loads, traversal_ok_iff] at discovered
  exact surroundings.files.loads_paths _ found discovered

theorem discovered_parsed (surroundings : Surroundings) (found : List Loaded)
    (discovered : discover surroundings = .ok found) (loaded : Loaded) (member : loaded ∈ found) :
    surroundings.files.configuration loaded.path = .ok loaded.configuration := by
  rw [discover_loads, traversal_ok_iff] at discovered
  generalize surroundings.configurationFiles surroundings.directory.ascent = paths at discovered
  induction discovered with
  | nil => cases member
  | @cons path first _ _ loads _ ih =>
      rcases List.mem_cons.mp member with rfl | later
      · obtain ⟨rfl, parsed⟩ := (surroundings.files.load_ok_iff path loaded).mp loads
        exact parsed
      · exact ih later

theorem catalogue_ok_iff (surroundings : Surroundings) (known : Catalogue) :
    catalogue surroundings = .ok known ↔ ∃ found, discover surroundings = .ok found ∧ .merge found = known := by
  rw [catalogue, bind_ok_iff]
  simp only [pure, Except.pure, Except.ok.injEq]

theorem catalogue_error_iff (surroundings : Surroundings) (fault : Fault) :
    catalogue surroundings = .error fault ↔ discover surroundings = .error fault := by
  rw [catalogue, bind_error_iff]
  simp [pure, Except.pure]

theorem discover_exact (surroundings : Surroundings) :
    ∃ directories, (∀ others, surroundings.directory.Climbs others ↔ others = directories) ∧
      (∀ found, discover surroundings = .ok found ↔
        List.Forall₂ (fun path (loaded : Loaded) =>
            loaded.path = path ∧ surroundings.files.configuration path = .ok loaded.configuration)
          (surroundings.configurationFiles directories) found) ∧
      ∀ fault, discover surroundings = .error fault ↔
        ∃ before path after, surroundings.configurationFiles directories = before ++ path :: after ∧
          (∀ earlier ∈ before, ∃ configuration, surroundings.files.configuration earlier = .ok configuration) ∧
          surroundings.files.configuration path = .error fault := by
  refine ⟨surroundings.directory.ascent, surroundings.directory.climbs_iff, ?_, ?_⟩
  · intro found
    simp only [discover_loads, traversal_ok_iff, Files.load_ok_iff]
  · intro fault
    simp only [discover_loads, traversal_error_iff, Files.load_error_iff, Files.load_succeeds_iff]

end Cascade
end PathPattern
