import GrantKeeper.Disk.Basic

/-! Replacing a file as a whole. The new contents go into a temporary file
beside it, which takes its place once they are on the medium. -/
namespace GrantKeeper.Disk
open Text (Octets)

def privateFileMode : Nat := 0o600

def temporaryLimit : Nat := 4294967296

def temporaryName (name : String) (process n : Nat) : String :=
  "." ++ name ++ "." ++ Text.ofNat process ++ "." ++ Text.ofNat n ++ ".tmp"

def temporaryPath (p : Path) (process n : Nat) : Path :=
  (p.parent?.getD ⟨"."⟩).join ⟨temporaryName (p.fileName?.getD "") process n⟩

def countTemporary (d : Disk) : Disk := { d with temporaries := (d.temporaries + 1) % temporaryLimit }

def replaceThrough (d : Disk) (temporary p : Path) (octets : Octets) : Step Unit :=
  (d.createNew temporary privateFileMode).andThen fun _ d =>
  (d.append temporary octets).andThen fun _ d =>
  (d.sync temporary).andThen fun _ d =>
  d.rename temporary p

def replace (d : Disk) (p : Path) (octets : Octets) : Step Unit :=
  let temporary := temporaryPath p d.process d.temporaries
  match replaceThrough d.countTemporary temporary p octets with
  | (.ok (),d) => (.ok (),d)
  | (.error fault,d) => (.error fault,(d.removeFile temporary).2)

end GrantKeeper.Disk
