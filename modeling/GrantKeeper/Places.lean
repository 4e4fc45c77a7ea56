import GrantKeeper.Disk.Path

/-! Where settings and records lie when nothing else is said. -/
namespace GrantKeeper

abbrev Environment := String → Option String

namespace Places

def application : String := "mailsend"

def fallbackHome : String := "/root"

def home (env : Environment) : Disk.Path :=
  match env "HOME" with
  | some h => ⟨if h.isEmpty then fallbackHome else h⟩
  | none => ⟨fallbackHome⟩

def directory (env : Environment) (name : String) (atHome : Disk.Path) : Disk.Path :=
  match env name with
  | some p => if (Disk.Path.mk p).isAbsolute then ⟨p⟩ else (home env).join atHome
  | none => (home env).join atHome

def variableNames : List String := ["HOME","XDG_CONFIG_HOME","XDG_DATA_HOME"]

def settingsFile (env : Environment) : Disk.Path :=
  ((directory env "XDG_CONFIG_HOME" ⟨".config"⟩).join ⟨application⟩).join ⟨"oauth.json"⟩

def vaultDirectory (env : Environment) : Disk.Path :=
  ((directory env "XDG_DATA_HOME" ⟨".local/share"⟩).join ⟨application⟩).join ⟨"tokens"⟩

end Places

end GrantKeeper
