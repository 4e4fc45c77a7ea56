import GrantKeeper.Vault.Basic
import GrantKeeper.Disk.Replacement
import GrantKeeper.Account.Validity
import GrantKeeper.Cipher.Passphrase

/-! A vault in a directory: one record file per account. With a key the file
holds the sealed record in Base64; a plain record is still read. -/
namespace GrantKeeper.Vault
open Text (Octets)

structure Folder where
  disk : Disk
  directory : Disk.Path
  key : Option Cipher.Key
  -- the nonces for all seals, in order
  nonces : Nat → Cipher.Nonce
  seals : Nat

namespace Folder

def extension : String := "json"

def directoryMode : Nat := 0o700

def establish (disk : Disk) (directory : Disk.Path) (key : Option Cipher.Key)
    (nonces : Nat → Cipher.Nonce) : Outcome Fault Folder Disk :=
  (((disk.ensureAll directory).andThen fun _ d => d.setMode directory directoryMode).andThen
    fun _ d => (.ok ⟨d,directory,key,nonces,0⟩,d)).mapFault Fault.disk

def recordName (id : String) : String := id ++ "." ++ extension

def recordPath (f : Folder) (id : String) : Except Fault Disk.Path :=
  if Enrollment.isUsableId id then .ok (f.directory.join ⟨recordName id⟩)
  else .error (.unusableId id)

def plainRecord (g : Grant) : Octets := Text.encode (g.document.pretty 0)

def record (key : Option Cipher.Key) (nonce : Cipher.Nonce) (g : Grant) : Octets :=
  match key with
  | some key => Text.Base64.encode (key.seal nonce (plainRecord g))
  | none => plainRecord g

def looksPlain (octets : Octets) : Bool := (octets.dropWhile Text.isBlankOctet).head? = some 0x7B

def readPlain (octets : Octets) : Except RecordDefect Grant :=
  match Json.decode Grant.reader octets with
  | .ok g => .ok g
  | .error fault => .error (.unreadable fault)

def readRecord (key : Option Cipher.Key) (octets : Octets) : Except RecordDefect Grant :=
  match key with
  | none => readPlain octets
  | some key =>
    if looksPlain octets then readPlain octets
    else
      match Text.Base64.decode? (Text.strip Text.isBlankOctet octets) with
      | none => .error .notBase64
      | some box =>
        match key.unseal box with
        | .error fault => .error (.sealing fault)
        | .ok plain => readPlain plain

def onto (f : Folder) {α : Type} (r : Outcome Disk.Fault α Disk) : Outcome Fault α Folder :=
  (r.mapFault Fault.disk).mapState fun disk => { f with disk }

def countSeal (f : Folder) : Folder := if f.key.isSome then { f with seals := f.seals + 1 } else f

def save (f : Folder) (id : String) (g : Grant) : Outcome Fault Unit Folder :=
  match f.recordPath id with
  | .error fault => (.error fault,f)
  | .ok p => f.countSeal.onto (f.disk.replace p (record f.key (f.nonces f.seals) g))

def load (f : Folder) (id : String) : Outcome Fault (Option Grant) Folder :=
  match f.recordPath id with
  | .error fault => (.error fault,f)
  | .ok p =>
    match f.disk.read p with
    | (.error .notFound,disk) => (.ok none,{ f with disk })
    | (.error fault,disk) => (.error (.disk fault),{ f with disk })
    | (.ok octets,disk) =>
      match readRecord f.key octets with
      | .ok g => (.ok (some g),{ f with disk })
      | .error defect => (.error (.corruptRecord id defect),{ f with disk })

def erase (f : Folder) (id : String) : Outcome Fault Unit Folder :=
  match f.recordPath id with
  | .error fault => (.error fault,f)
  | .ok p =>
    match f.disk.removeFile p with
    | (.error .notFound,disk) => (.ok (),{ f with disk })
    | (.error fault,disk) => (.error (.disk fault),{ f with disk })
    | (.ok (),disk) => (.ok (),{ f with disk })

def idOfName? (name : String) : Option String :=
  match Disk.Path.splitExtension name with
  | (stem,some ext) => if ext = extension && Enrollment.isUsableId stem then some stem else none
  | (_,none) => none

def idsAmong (f : Folder) (names : List String) : List String :=
  (names.filter fun name => f.disk.tree.isFile (f.directory.join ⟨name⟩)).filterMap idOfName?

def ids (f : Folder) : Outcome Fault (List String) Folder :=
  match f.disk.names f.directory with
  | (.error .notFound,disk) => (.ok [],{ f with disk })
  | (.error fault,disk) => (.error (.disk fault),{ f with disk })
  | (.ok names,disk) => (.ok ((f.idsAmong names).mergeSort (· ≤ ·)),{ f with disk })

instance : Vault Folder := ⟨save,load,erase,ids⟩

def inspect (f : Folder) : String :=
  Text.inspectRecord "FileTokenStore" [
    ("dir",Text.inspect f.directory.text),("encrypted",Text.inspectBool f.key.isSome)] true

end Folder

end GrantKeeper.Vault
