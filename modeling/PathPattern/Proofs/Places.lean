import Mathlib.Data.List.Nodup
import PathPattern.Proofs.Components
import PathPattern.Proofs.Discovery

set_option autoImplicit false

namespace PathPattern
namespace FilePath

namespace Component

def follow (location : Location) : Component → Location
  | root => []
  | here => location
  | up => location.dropLast
  | name piece => location ++ [piece]

end Component

def place (directory : Location) (path : FilePath) : Location := path.components.foldl Component.follow directory

theorem lead_follow (first : Text) (location : Location) (relative : first ≠ []) :
    (lead first).foldl Component.follow location = (trail [first]).foldl Component.follow location := by
  by_cases dot : first = ['.']
  · rw [dot]
    rfl
  · have busy : isIdle first = false := by simp [isIdle, relative, dot]
    rw [lead_busy first busy, trail_single first busy]

end FilePath

namespace FileTree

open FilePath

theorem enter_follows (tree : FileTree) (location next : Location) (piece : Text)
    (entered : tree.enter? location piece = some next) :
    next = (trail [piece]).foldl Component.follow location := by
  rw [enter?] at entered
  by_cases inside : tree.isDirectory location = true
  · rw [if_neg (by simp [inside])] at entered
    cases busy : isIdle piece with
    | true =>
        rw [trail_idle [piece] (by simp [busy])]
        simpa [busy] using entered.symm
    | false =>
        rw [if_neg (by simp [busy])] at entered
        rw [trail_single piece busy]
        by_cases double : piece = ['.', '.']
        · rw [if_pos double] at entered
          simpa [componentOf, double, Component.follow] using (Option.some.inj entered).symm
        · rw [if_neg double] at entered
          obtain ⟨-, reached⟩ := Option.ite_none_right_eq_some.mp entered
          simpa [componentOf, double, Component.follow] using (Option.some.inj reached).symm
  · rw [if_pos (by simpa using inside)] at entered
    cases entered

theorem enter_all_follows (tree : FileTree) (pieces : List Text) (location last : Location)
    (entered : pieces.foldlM tree.enter? location = some last) :
    last = (trail pieces).foldl Component.follow location := by
  induction pieces generalizing location with
  | nil => exact (Option.some.inj entered).symm
  | cons piece pieces ih =>
      rw [List.foldlM_cons] at entered
      obtain ⟨next, here, later⟩ := Option.bind_eq_some_iff.mp entered
      have first := tree.enter_follows location next piece here
      rw [← List.singleton_append, trail_append, List.foldl_append, ← first]
      exact ih next later

theorem resolve_place (tree : FileTree) (directory location : Location) (path : FilePath)
    (resolved : tree.resolve? directory path = some location) : location = path.place directory := by
  cases text : path.text with
  | nil =>
      rw [resolve?, text] at resolved
      cases resolved
  | cons c later =>
      simp only [resolve?, text, List.head?_cons] at resolved
      have followed := tree.enter_all_follows path.pieces _ location resolved
      obtain ⟨first, rest, shape⟩ := path.pieces_shape
      have written := path.written_of_text first rest shape (by simp [text])
      rw [shape, ← List.singleton_append, trail_append, List.foldl_append] at followed
      rw [place, components_of_pieces path first rest shape written, List.foldl_append, followed]
      rw [pieces, text, List.splitOn_cons_eq_if_modifyHead] at shape
      by_cases absolute : c = '/'
      · rw [if_pos (beq_iff_eq.mpr absolute)] at shape
        rw [if_pos absolute]
        obtain rfl := (List.cons.inj shape).1
        rfl
      · rw [if_neg (mt beq_iff_eq.mp absolute)] at shape
        rw [if_neg absolute]
        have relative : first ≠ [] := by
          obtain ⟨piece, pieces, found⟩ := List.exists_cons_of_ne_nil (List.splitOn_ne_nil '/' later)
          rw [found, List.modifyHead_cons] at shape
          rw [← (List.cons.inj shape).1]
          exact List.cons_ne_nil c piece
        rw [lead_follow first directory relative]

end FileTree

namespace FilePath

theorem climbs_components (directory : FilePath) (directories : List FilePath) (climbs : directory.Climbs directories)
    (other : FilePath) (member : other ∈ directories) :
    other.components <+: directory.components ∧ (.root ∈ other.components ↔ .root ∈ directory.components) := by
  induction climbs with
  | top directory last =>
      rw [List.mem_singleton.mp member]
      exact ⟨List.prefix_rfl, Iff.rfl⟩
  | up directory above directories next later ih =>
      rcases List.mem_cons.mp member with rfl | higher
      · exact ⟨List.prefix_rfl, Iff.rfl⟩
      · obtain ⟨last, inner, longer⟩ := components_above directory above next
        obtain ⟨shorter, rooted⟩ := ih higher
        rw [longer]
        refine ⟨shorter.trans (List.prefix_append _ _), rooted.trans ?_⟩
        simp [Ne.symm inner]

theorem climbs_shorter (directory : FilePath) (directories : List FilePath) (climbs : directory.Climbs directories) :
    directories.Pairwise fun lower upper => upper.components.length < lower.components.length := by
  induction climbs with
  | top directory last => exact List.pairwise_singleton _ _
  | up directory above directories next later ih =>
      refine List.pairwise_cons.mpr ⟨?_, ih⟩
      intro other member
      have bound := (climbs_components above directories later other member).1.length_le
      exact Nat.lt_of_le_of_lt bound (parent_shorter directory above next)

theorem components_configuration_file (directory : FilePath) :
    directory.configurationFile.components = directory.components ++ [.name configurationName] :=
  components_join directory configurationName (by decide) (by decide)

theorem follow_names (location : Location) (names : List Text) :
    (names.map Component.name).foldl Component.follow location = location ++ names := by
  induction names generalizing location with
  | nil => exact (List.append_nil location).symm
  | cons piece names ih =>
      rw [List.map_cons, List.foldl_cons, ih, Component.follow, List.append_assoc]
      rfl

theorem place_dotted (directory : Location) (path dotted : FilePath)
    (dot : dotted.components = .here :: path.components) : dotted.place directory = path.place directory := by
  rw [place, place, dot]
  rfl

-- Without steps up, two spellings of one place differ by a dot in front at most.
theorem same_place_iff (directory : Location) (path other : FilePath) (direct : .up ∉ path.components)
    (directElsewhere : .up ∉ other.components) (rooted : .root ∈ path.components ↔ .root ∈ other.components) :
    path.place directory = other.place directory ↔
      path.components = other.components ∨ path.components = .here :: other.components ∨
        other.components = .here :: path.components := by
  apply Iff.intro
  · intro same
    obtain ⟨front, names, shape, kind⟩ := path.components_direct direct
    obtain ⟨frontElsewhere, others, shapeElsewhere, kindElsewhere⟩ := other.components_direct directElsewhere
    rw [place, place, shape, shapeElsewhere, List.foldl_append, List.foldl_append, follow_names, follow_names] at same
    rw [shape, shapeElsewhere] at rooted ⊢
    rcases kind with rfl | rfl | rfl <;> rcases kindElsewhere with rfl | rfl | rfl <;>
      simp_all [Component.follow]
  · intro spelled
    rcases spelled with same | dot | dot
    · rw [place, place, same]
    · exact place_dotted directory other path dot
    · exact (place_dotted directory path other dot).symm

theorem places_nodup_iff (directory : Location) (paths : List FilePath) (spelled : (paths.map components).Nodup)
    (direct : ∀ path ∈ paths, .up ∉ path.components) (rooted : Prop)
    (alike : ∀ path ∈ paths, .root ∈ path.components ↔ rooted) :
    (paths.map (place directory)).Nodup ↔
      ∀ path ∈ paths, ∀ other ∈ paths, path.components ≠ .here :: other.components := by
  apply Iff.intro
  · intro apart path member other memberElsewhere dot
    obtain rfl := List.inj_on_of_nodup_map apart member memberElsewhere (place_dotted directory other path dot)
    exact List.cons_ne_self _ _ dot.symm
  · intro undotted
    refine List.Nodup.map_on ?_ (List.Nodup.of_map _ spelled)
    intro path member other memberElsewhere same
    have shapes := (same_place_iff directory path other (direct path member) (direct other memberElsewhere)
      ((alike path member).trans (alike other memberElsewhere).symm)).mp same
    rcases shapes with equal | dot | dot
    · exact List.inj_on_of_nodup_map spelled member memberElsewhere equal
    · exact absurd dot (undotted path member other memberElsewhere)
    · exact absurd dot (undotted other memberElsewhere path member)

end FilePath

namespace Surroundings

variable (surroundings : Surroundings)

-- Every file on the way up has fewer components than those below it, and the user's file counts only if its
-- components are new.
theorem configuration_files_distinct :
    ((surroundings.configurationFiles surroundings.directory.ascent).map FilePath.components).Nodup := by
  have shorter := surroundings.directory.climbs_shorter _ surroundings.directory.climbs_ascent
  have way : ((surroundings.directory.ascent.map FilePath.configurationFile).map FilePath.components).Nodup := by
    rw [List.map_map]
    refine List.Pairwise.map _ ?_ shorter
    intro lower upper less same
    simp only [Function.comp_apply, FilePath.components_configuration_file, List.append_cancel_right_eq] at same
    rw [same] at less
    exact Nat.lt_irrefl _ less
  have kept := way.sublist ((surroundings.kept_sublist surroundings.directory.ascent).map FilePath.components)
  rw [configurationFiles]
  by_cases counts : surroundings.HomeCounts (surroundings.kept surroundings.directory.ascent)
  · rw [if_pos counts, List.map_append]
    refine List.nodup_append.mpr ⟨kept, List.nodup_singleton _, ?_⟩
    intro components member other last
    obtain ⟨path, inside, rfl⟩ := List.mem_map.mp member
    rw [List.mem_singleton.mp last]
    exact counts.2.2 path inside
  · rw [if_neg counts]
    exact kept

theorem mem_configuration_files (path : FilePath)
    (member : path ∈ surroundings.configurationFiles surroundings.directory.ascent) :
    ∃ directory ∈ surroundings.home :: surroundings.directory.ascent, path = directory.configurationFile := by
  have kept : ∀ inside ∈ surroundings.kept surroundings.directory.ascent,
      ∃ directory ∈ surroundings.home :: surroundings.directory.ascent, inside = directory.configurationFile := by
    intro inside found
    obtain ⟨directory, higher, rfl⟩ := List.mem_map.mp ((surroundings.kept_sublist _).subset found)
    exact ⟨directory, List.mem_cons_of_mem _ higher, rfl⟩
  rw [configurationFiles] at member
  by_cases counts : surroundings.HomeCounts (surroundings.kept surroundings.directory.ascent)
  · rw [if_pos counts] at member
    rcases List.mem_append.mp member with found | last
    · exact kept path found
    · exact ⟨surroundings.home, List.mem_cons_self, List.mem_singleton.mp last⟩
  · rw [if_neg counts] at member
    exact kept path member

theorem configuration_file_components (path : FilePath)
    (member : path ∈ surroundings.configurationFiles surroundings.directory.ascent) :
    ∃ directory : FilePath, path.components = directory.components ++ [.name configurationName] ∧
      (directory = surroundings.home ∨
        directory.components <+: surroundings.directory.components ∧
          (.root ∈ directory.components ↔ .root ∈ surroundings.directory.components)) := by
  obtain ⟨directory, found, rfl⟩ := surroundings.mem_configuration_files path member
  refine ⟨directory, directory.components_configuration_file, ?_⟩
  rcases List.mem_cons.mp found with user | higher
  · exact Or.inl user
  · exact Or.inr
      (surroundings.directory.climbs_components _ surroundings.directory.climbs_ascent directory higher)

theorem configuration_file_without (path : FilePath) (component : FilePath.Component)
    (member : path ∈ surroundings.configurationFiles surroundings.directory.ascent)
    (outside : component ∉ surroundings.directory.components) (outsideHome : component ∉ surroundings.home.components)
    (unnamed : component ≠ .name configurationName) : component ∉ path.components := by
  obtain ⟨directory, components, origin⟩ := surroundings.configuration_file_components path member
  rw [components]
  intro inside
  rcases List.mem_append.mp inside with above | last
  · rcases origin with rfl | ⟨higher, -⟩
    · exact outsideHome above
    · exact outside (higher.subset above)
  · exact unnamed (List.mem_singleton.mp last)

theorem configuration_file_rooted (path : FilePath)
    (member : path ∈ surroundings.configurationFiles surroundings.directory.ascent)
    (alike : .root ∈ surroundings.directory.components ↔ .root ∈ surroundings.home.components) :
    .root ∈ path.components ↔ .root ∈ surroundings.home.components := by
  obtain ⟨directory, components, origin⟩ := surroundings.configuration_file_components path member
  rw [components]
  rcases origin with rfl | ⟨-, rooted⟩
  · simp
  · simp [rooted, alike]

end Surroundings

namespace Cascade

def locations (tree : FileTree) (directory : Location) (found : List Loaded) : List (Option Location) :=
  found.map fun loaded => tree.resolve? directory loaded.path

theorem locations_places (tree : FileTree) (directory : Location) (surroundings : Surroundings)
    (reads : surroundings.files = tree.files directory) (found : List Loaded)
    (discovered : discover surroundings = .ok found) :
    locations tree directory found = found.map fun loaded => some (loaded.path.place directory) := by
  apply List.map_congr_left
  intro loaded member
  have parsed := discovered_parsed surroundings found discovered loaded member
  rw [Files.configuration, reads, FileTree.files] at parsed
  cases resolved : tree.resolve? directory loaded.path with
  | none =>
      rw [resolved] at parsed
      cases parsed
  | some location => rw [tree.resolve_place directory location loaded.path resolved]

-- Under one spelling no file is loaded twice, but two spellings of one file are not taken for the same.
theorem loaded_once (tree : FileTree) (directory : Location) (start home : FilePath) (withoutHome : Option Text)
    (found : List Loaded) (discovered : discover ⟨tree.files directory, start, home, withoutHome⟩ = .ok found) :
    locations tree directory found = (found.map fun loaded => some (loaded.path.place directory)) ∧
      (found.map fun loaded => loaded.path.components).Nodup ∧
      ((.root ∈ start.components ↔ .root ∈ home.components) → .up ∉ start.components → .up ∉ home.components →
        ((locations tree directory found).Nodup ↔
            ∀ loaded ∈ found, ∀ other ∈ found, loaded.path.components ≠ .here :: other.path.components) ∧
          (.here ∉ start.components → .here ∉ home.components → (locations tree directory found).Nodup)) := by
  let surroundings : Surroundings := ⟨tree.files directory, start, home, withoutHome⟩
  have paths : found.map Loaded.path = surroundings.configurationFiles start.ascent :=
    discovered_paths surroundings found discovered
  have listed : ∀ path ∈ found.map Loaded.path, path ∈ surroundings.configurationFiles start.ascent :=
    fun path member => paths ▸ member
  have places := locations_places tree directory surroundings rfl found discovered
  have spelled := surroundings.configuration_files_distinct
  rw [← paths] at spelled
  refine ⟨places, by rwa [List.map_map] at spelled, ?_⟩
  intro alike direct directHome
  have straight := fun path member =>
    surroundings.configuration_file_without path .up (listed path member) direct directHome (by simp)
  have rooted := fun path member => surroundings.configuration_file_rooted path (listed path member) alike
  have apart := FilePath.places_nodup_iff directory (found.map Loaded.path) spelled straight _ rooted
  simp only [List.forall_mem_map] at apart
  have twice : (locations tree directory found).Nodup ↔
      ∀ loaded ∈ found, ∀ other ∈ found, loaded.path.components ≠ .here :: other.path.components := by
    have wrapped : Function.Injective (some : Location → Option Location) := fun _ _ => Option.some.inj
    rw [places, ← apart, List.map_map, ← List.nodup_map_iff wrapped, List.map_map]
    rfl
  refine ⟨twice, fun dotless dotlessHome => twice.mpr ?_⟩
  intro loaded member other memberElsewhere dot
  have dotted := surroundings.configuration_file_without loaded.path .here
    (listed loaded.path (List.mem_map_of_mem member)) dotless dotlessHome (by simp)
  rw [dot] at dotted
  exact dotted List.mem_cons_self

theorem loaded_once_on_the_way_home :
    ∃ (tree : FileTree) (project user : Loaded),
      tree = (FileTree.empty.put [['u'], ['p'], configurationName] (.file "".toUTF8)).put
          [['u'], configurationName] (.file "".toUTF8) ∧
        project.path = ⟨"/u/p/.matchstick.toml".toList⟩ ∧ user.path = ⟨"/u/.matchstick.toml".toList⟩ ∧
        discover ⟨tree.files [], ⟨"/u/p".toList⟩, ⟨"/u/".toList⟩, none⟩ = .ok [project, user] ∧
        (locations tree [] [project, user]).Nodup := by
  let tree := (FileTree.empty.put [['u'], ['p'], configurationName] (.file "".toUTF8)).put
    [['u'], configurationName] (.file "".toUTF8)
  let project : Loaded := ⟨⟨false, []⟩, ⟨"/u/p/.matchstick.toml".toList⟩⟩
  let user : Loaded := ⟨⟨false, []⟩, ⟨"/u/.matchstick.toml".toList⟩⟩
  have discovered : discover ⟨tree.files [], ⟨"/u/p".toList⟩, ⟨"/u/".toList⟩, none⟩ = .ok [project, user] := by
    decide +kernel
  have straight := (loaded_once tree [] _ _ none [project, user] discovered).2.2 (by decide) (by decide) (by decide)
  exact ⟨tree, project, user, rfl, rfl, rfl, discovered, straight.2 (by decide) (by decide)⟩

theorem loaded_twice_behind_dot :
    ∃ (tree : FileTree) (dotted user : Loaded),
      tree = FileTree.empty.put ["home".toList, configurationName] (.file "".toUTF8) ∧
        dotted.path = ⟨"./home/.matchstick.toml".toList⟩ ∧ user.path = ⟨"home/.matchstick.toml".toList⟩ ∧
        discover ⟨tree.files [], ⟨"./home".toList⟩, ⟨"home".toList⟩, none⟩ = .ok [dotted, user] ∧
        locations tree [] [dotted, user] = List.replicate 2 (some ["home".toList, configurationName]) := by
  refine ⟨.put .empty ["home".toList, configurationName] (.file "".toUTF8),
    ⟨⟨false, []⟩, ⟨"./home/.matchstick.toml".toList⟩⟩, ⟨⟨false, []⟩, ⟨"home/.matchstick.toml".toList⟩⟩,
    rfl, rfl, rfl, ?_, ?_⟩
  · decide +kernel
  · decide +kernel

end Cascade
end PathPattern
