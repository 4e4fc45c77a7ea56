import GrantKeeper.Keeper.Basic
import GrantKeeper.Disk.Replacement

/-! Settings of the keeper and the accounts that it enrolls at the start, kept
in one JSON file. A missing file stands for the defaults. -/
namespace GrantKeeper

structure Settings where
  autoRefresh : Bool
  bufferMinutes : Int
  vaultDirectory : Option String
  accounts : List Enrollment
  deriving DecidableEq, Repr

namespace Settings
open Json (Layout Reader Document)

def default : Settings := ⟨true,Keeper.defaultBuffer,none,[]⟩

instance : Inhabited Settings := ⟨default⟩

def layout : Layout Settings where
  name := "Config"
  blank := default
  fields := [
    .of "auto_refresh" .never .boolean (fun s b => { s with autoRefresh := b }),
    .of "refresh_buffer_minutes" .never .word (fun s n => { s with bufferMinutes := n }),
    .of "token_dir" .never (.optional .path) (fun s p => { s with vaultDirectory := p }),
    .of "accounts" .never (.list Enrollment.reader) (fun s es => { s with accounts := es })]

def reader : Reader Settings := layout.reader

def document (s : Settings) : Document :=
  .object ([("auto_refresh",.boolean s.autoRefresh),
      ("refresh_buffer_minutes",.integer s.bufferMinutes)] ++
    (s.vaultDirectory.map fun p => ("token_dir",Document.text p)).toList ++
    [("accounts",.list (s.accounts.map Enrollment.document))])

def inspect (s : Settings) : String :=
  Text.inspectRecord "Config" [
    ("auto_refresh",Text.inspectBool s.autoRefresh),
    ("refresh_buffer_minutes",Text.ofInt s.bufferMinutes),
    ("token_dir",Text.inspectOption Text.inspect s.vaultDirectory),
    ("accounts",Text.inspectList (s.accounts.map Enrollment.inspect))] false

def account? (s : Settings) (id : String) : Option Enrollment := s.accounts.find? (·.id == id)

def enter (e : Enrollment) : List Enrollment → List Enrollment
  | [] => [e]
  | other :: others => if other.id = e.id then e :: others else other :: enter e others

def upsert (s : Settings) (e : Enrollment) : Settings := { s with accounts := enter e s.accounts }

def remove (s : Settings) (id : String) : Bool × Settings :=
  let rest := s.accounts.filter (·.id != id)
  (rest.length != s.accounts.length,{ s with accounts := rest })

def apply {ω τ : Type} [Vault ω] (s : Settings) (k : Keeper ω τ) : Nat × Keeper ω τ :=
  let k := (k.setAutoRefresh s.autoRefresh).setBuffer s.bufferMinutes
  s.accounts.foldl (fun (n,k) e =>
    let (taken,k) := k.register e
    (if taken then n + 1 else n,k)) (0,k)

def contents (s : Settings) : Text.Octets := Text.encode (s.document.pretty 0)

def ofContents (p : Disk.Path) (octets : Text.Octets) : Except Fault Settings :=
  match Text.decode? octets with
  | none => .error (.disk .invalidData)
  | some _ =>
    match Json.decode reader octets with
    | .ok s => .ok s
    | .error fault => .error (.settings p.text fault)

def load (d : Disk) (p : Disk.Path) : Outcome Fault Settings Disk :=
  match d.present p with
  | (false,d) => (.ok default,d)
  | (true,d) =>
    match d.read p with
    | (.error fault,d) => (.error (.disk fault),d)
    | (.ok octets,d) => (ofContents p octets,d)

def save (s : Settings) (d : Disk) (p : Disk.Path) : Outcome Fault Unit Disk :=
  let way := match p.parent? with
    | some parent => d.ensureAll parent
    | none => (.ok (),d)
  (way.andThen fun _ d => d.replace p s.contents).mapFault Fault.disk

end Settings

end GrantKeeper
