import SkillScript.Simulation.Program
/-!
# Command line

Reads what the simulator needs of a content folder and prints what it answers. Of
the scripts only those are read that a skill of the catalog names; the others make
no difference.
-/
set_option autoImplicit false
namespace SkillScript
namespace CommandLine

/-- What stands at a path: a file, something else, which counts as a folder, or nothing. -/
def readAt (path : String) : IO (Option FileTree) := do
  try
    return some (.file (← IO.FS.readBinFile path))
  catch
    | .noFileOrDirectory _ _ _ => return none
    | _ => return some .empty

def scriptNames : FileTree → List String
  | .folder _ => []
  | .file bytes =>
    let skills := ((String.fromUTF8? bytes).bind Catalog.ofText?).getD []
    (skills.map (·.script)).filter fun name => !name.contains '/'

def openFolder (path : String) : IO FileTree := do
  let mut tree := FileTree.empty
  for name in ["settings.toml", "skills.ron", "scripts"] do
    if let some entry ← readAt (path ++ "/" ++ name) then
      tree := tree.put [name] entry
  if let .ok catalog := tree.child "skills.ron" then
    for name in scriptNames catalog do
      if let some entry ← readAt (path ++ "/scripts/" ++ name ++ ".ron") then
        tree := tree.put ["scripts", name ++ ".ron"] entry
  return tree

def openNamed (args : List String) : IO FileTree :=
  match Simulation.Options.read args with
  | .ok { dataDir := some path, .. } => openFolder path
  | _ => return .empty

end CommandLine
end SkillScript

def main (args : List String) : IO UInt32 := do
  let tree ← SkillScript.CommandLine.openNamed args
  let outcome := SkillScript.Simulation.program (fun _ => tree) args
  IO.print outcome.output
  IO.eprint outcome.errors
  return outcome.exit.toUInt32
