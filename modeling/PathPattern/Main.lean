import PathPattern.Command.Arguments

namespace PathPattern.Program

def look (path : FilePath) : IO Found := do
  let written := String.ofList path.text
  let found ← try
      let _ ← IO.FS.realPath written
      pure true
    catch _ => pure false
  if !found then return .nothing
  try
    match String.fromUTF8? (← IO.FS.readBinFile written) with
    | some content => return .text content.toList
    | none => return .unreadable
  catch _ => return .unreadable

def surroundings : IO Surroundings := do
  let directory : FilePath := ⟨(← IO.currentDir).toString.toList⟩
  let home : FilePath := ⟨((← IO.getEnv "HOME").getD "/").toList⟩
  let withoutHome := (← IO.getEnv "MATCHSTICK_NO_USER_CONFIG").map String.toList
  let found ← (Cascade.candidates directory home).mapM fun path => do
    return (path, ← look path)
  return ⟨.ofList found, directory, home, withoutHome⟩

end PathPattern.Program

open PathPattern in
def main (arguments : List String) : IO UInt32 := do
  let outcome := Request.outcomeOf (← Program.surroundings) (arguments.map String.toList)
  IO.print (String.ofList outcome.output)
  IO.eprint (String.ofList outcome.complaint)
  return outcome.code.toUInt32
