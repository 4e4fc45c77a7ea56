import GrantKeeper.Cipher.Nonce
import GrantKeeper.Command.Run
import GrantKeeper.Disk.Change
import Std.Time.DateTime.Timestamp

/-! The program. It looks at the part of the disk that a command can touch, lets
the command work on that, and then does to the disk what has changed. It has no
network, so every exchange ends without an answer. -/
namespace GrantKeeper.Program
open Disk (Place Tree Node Change)

def readEnvironment : IO Environment := do
  let values ← (Places.variableNames ++ Command.optionVariables).filterMapM fun name =>
    return (← IO.getEnv name).map (name,·)
  return fun name => values.lookup name

def observe (tree : Tree) (place : Place) : IO Tree := do
  let path := (← IO.currentDir) / Disk.Place.text place
  if ← path.isDir then return tree.put place (.directory Tree.newDirectoryMode)
  else if ← path.pathExists then
    let content ← IO.FS.readBinFile path
    return tree.put place (.file Tree.newFileMode content.data.toList)
  else return tree

def observePath (tree : Tree) (p : Disk.Path) : IO Tree := (p.stations tree.working).foldlM observe tree

def observeEntries (tree : Tree) (p : Disk.Path) : IO Tree := do
  match tree.find p with
  | .ok (place,.directory _) =>
    let path := (← IO.currentDir) / Disk.Place.text place
    (← path.readDir).foldlM (fun tree entry => observe tree (place ++ [entry.fileName])) tree
  | _ => return tree

def snapshot (env : Environment) (globals : Command.Globals) : IO Tree := do
  let working := (Disk.Path.mk (← IO.currentDir).toString).parts
  let tree ← observePath ⟨∅,working⟩ (globals.settingsPath env)
  let settings := (Settings.load (.ofTree tree 0) (globals.settingsPath env)).1
  let directory := globals.vaultPath env (settings.toOption.getD default)
  observeEntries (← observePath tree directory) directory

def rights (mode : Nat) : IO.FileRight :=
  let part (n : Nat) : IO.AccessRight := ⟨n.testBit 2,n.testBit 1,n.testBit 0⟩
  ⟨part (mode / 64),part (mode / 8),part mode⟩

def apply (change : Change) : IO Unit := do
  match change with
  | .erase place => IO.FS.removeFile (Disk.Place.text place)
  | .put place (.directory mode) =>
    IO.FS.createDirAll (Disk.Place.text place)
    IO.setAccessRights (Disk.Place.text place) (rights mode)
  | .put place (.file mode content) =>
    let temporary := Disk.Place.text place ++ ".new"
    IO.FS.writeBinFile temporary ⟨content.toArray⟩
    IO.setAccessRights temporary (rights mode)
    IO.FS.rename temporary (Disk.Place.text place)

def randomOctets (n : USize) : IO Text.Octets := return (← IO.getRandomBytes n).data.toList

def surroundings (env : Environment) : IO Command.Surroundings := do
  let now ← Std.Time.Timestamp.now
  let start ← randomOctets 12
  return {
    env
    now := (Time.Instant.ofNanos? now.toNanosecondsSinceUnixEpoch.val).getD default
    nonces := Cipher.Nonce.countFrom (Cipher.numberOf start)
    freshKey := (Cipher.Key.ofOctets? (← randomOctets 32)).getD (.ofPassphrase "")
    ask := Exchange.Refresher.exchange Exchange.unreachable }

def run (line : Command.Line) (env : Environment) : IO UInt32 := do
  let before ← snapshot env line.globals
  let process ← IO.rand 1 99999
  let (report,disk) := Command.run (← surroundings env) line (.ofTree before process)
  (before.changes disk.tree).forM apply
  IO.print report.output
  match report.result with
  | .ok () => return 0
  | .error failure =>
    IO.eprintln ("Error: " ++ failure.message)
    return 1

end GrantKeeper.Program

def main (args : List String) : IO UInt32 := do
  let env ← GrantKeeper.Program.readEnvironment
  match GrantKeeper.Command.Line.parse env args with
  | .ok line => GrantKeeper.Program.run line env
  | .error usage =>
    IO.eprintln ("error: " ++ usage.name)
    return usage.exitCode
