import PathPattern.Catalogue
import PathPattern.Configuration.OfText
import PathPattern.FilePath.Ascent
import PathPattern.FileTree

namespace PathPattern

structure Surroundings where
  files : Files
  directory : FilePath
  home : FilePath
  withoutHome : Option Text

def configurationName : Text := ".matchstick.toml".toList

def FilePath.configurationFile (directory : FilePath) : FilePath := directory.join configurationName

def offWords : List Text := ["0".toList, "false".toList, "no".toList]

def isOn : Option Text → Bool
  | none => false
  | some value => value ≠ [] && !offWords.contains (value.map Char.toLower)

def Files.configuration (files : Files) (path : FilePath) : Except Fault Configuration :=
  match files path with
  | .text content => Configuration.parse content path
  | _ => .error (.unreadableFile path)

def Files.ofList (found : List (FilePath × Found)) : Files := fun path =>
  ((found.find? fun (other, _) => other = path).map Prod.snd).getD .nothing

namespace Cascade

def walk (files : Files) : List FilePath → Except Fault (List Loaded)
  | [] => .ok []
  | directory :: above =>
      let path := directory.configurationFile
      if files path = .nothing then walk files above
      else do
        let configuration ← files.configuration path
        if configuration.root then return [⟨configuration, path⟩]
        else return ⟨configuration, path⟩ :: (← walk files above)

def wantsHome (surroundings : Surroundings) (found : List Loaded) : Bool :=
  let path := surroundings.home.configurationFile
  !isOn surroundings.withoutHome && surroundings.files path ≠ .nothing &&
    !found.any fun loaded => loaded.path.sameComponents path

def discover (surroundings : Surroundings) : Except Fault (List Loaded) := do
  let found ← walk surroundings.files surroundings.directory.ascent
  if wantsHome surroundings found then
    let path := surroundings.home.configurationFile
    return found ++ [⟨← surroundings.files.configuration path, path⟩]
  else return found

def candidates (directory home : FilePath) : List FilePath :=
  directory.ascent.map FilePath.configurationFile ++ [home.configurationFile]

def catalogue (surroundings : Surroundings) : Except Fault Catalogue := do
  return .merge (← discover surroundings)

end Cascade
end PathPattern
