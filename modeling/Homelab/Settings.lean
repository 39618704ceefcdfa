import Homelab.Schema
import Homelab.Settings.EnvFile
import Homelab.Text.LetterCase
import Homelab.Vault

/-!
# Settings

Each setting goes by two names, one of the environment and a plain one.  It is taken
from the values that are given directly, else from the environment, else from a file
of variables named `.env`, else it has its usual value; within one of these places the
first name counts.  In the environment and in the file the case of a name does not
matter.
-/

namespace Homelab

/-- What an operator can set. -/
structure Settings where
  clientId : Option String
  clientSecret : Option String
  password : Option String
  directory : Option String
  program : String
  logLevel : String
  pollAttempts : Int
  pollInterval : Double
  verified : Bool
deriving DecidableEq

namespace Settings

/-- The name of the file of variables. -/
def envFile : String := ".env"

/-- The names of the settings, in their order. -/
def names : List (List String) :=
  [["BW_CLIENTID", "bw_client_id"], ["BW_CLIENTSECRET", "bw_client_secret"],
   ["BW_MASTERPASSWORD", "bw_master_password"], ["BW_DATA_DIR", "bw_data_dir"],
   ["BW_EXECUTABLE", "bw_executable"], ["PROVISIONER_LOG_LEVEL", "log_level"],
   ["PROVISIONER_ISO_POLL_ATTEMPTS", "iso_poll_attempts"],
   ["PROVISIONER_ISO_POLL_INTERVAL", "iso_poll_interval"],
   ["PROVISIONER_VERIFY_SSL", "verify_ssl"]]

/-- Variables by their names in lower case; of two that differ in case only the later
one counts. -/
def byLowerCase (vars : List (String × Option String)) : List (String × Option String) :=
  vars.reverse.map fun v => (Text.lower v.1, v.2)

/-- The value of a variable under one of several names. -/
def ofVariables (vars : List (String × Option String)) : List String →
    Option (String × Value)
  | [] => none
  | name :: rest =>
      match (vars.lookup (Text.lower name)).join with
      | some s => some (name, .str s)
      | none => ofVariables vars rest

/-- The entries from which the settings are read: for each setting the first place
that has it. -/
def entries (given : Entries) (environment file : List (String × Option String)) : Entries :=
  names.filterMap fun ns =>
    (Schema.given? ns given <|> ofVariables environment ns <|> ofVariables file ns).map
      fun p => (.str p.1, p.2)

/-- The settings in some entries. -/
def ofEntries (es : Entries) : Checked Settings :=
  Settings.mk
    <$> Schema.optional ["BW_CLIENTID", "bw_client_id"] Schema.text es
    <*> Schema.optional ["BW_CLIENTSECRET", "bw_client_secret"] Schema.text es
    <*> Schema.optional ["BW_MASTERPASSWORD", "bw_master_password"] Schema.text es
    <*> Schema.optional ["BW_DATA_DIR", "bw_data_dir"] Schema.text es
    <*> Schema.withDefault ["BW_EXECUTABLE", "bw_executable"] Schema.text "bw" es
    <*> Schema.withDefault ["PROVISIONER_LOG_LEVEL", "log_level"] Schema.text "INFO" es
    <*> Schema.withDefault ["PROVISIONER_ISO_POLL_ATTEMPTS", "iso_poll_attempts"]
      Schema.integer 24 es
    <*> Schema.withDefault ["PROVISIONER_ISO_POLL_INTERVAL", "iso_poll_interval"]
      Schema.number (Double.ofInt 5) es
    <*> Schema.withDefault ["PROVISIONER_VERIFY_SSL", "verify_ssl"] Schema.truth false es

/-- The settings of a site, with the values that are given directly. -/
def load (given : Entries) : Act Settings := do
  let site ← get
  let file ← match site.file? envFile with
    | none => pure []
    | some content => do
        let text ← Act.ofExcept content.read
        pure (EnvFile.read site.vars text)
  let environment := site.vars.map fun v => (v.1, some v.2)
  match ofEntries (entries given (byLowerCase environment) (byLowerCase file)) with
  | .ok settings => return settings
  | .bad issues => throw (.record issues)

/-- A text that is there and not empty. -/
def isSet : Option String → Bool
  | some s => s ≠ ""
  | none => false

/-- The vault can be opened. -/
def vaultEnabled (s : Settings) : Bool := isSet s.clientId && isSet s.clientSecret

/-- Who opens the vault. -/
def account (s : Settings) : VaultAccount :=
  ⟨s.clientId.getD "", s.clientSecret.getD "", s.password, s.directory, s.program⟩

/-- The items of the vault; none, with a word to the operator, if it cannot be
opened. -/
def fetchSecrets [DepthLimits] (s : Settings) : Act (Option (List Value)) := do
  if s.vaultEnabled then return some (← Vault.fetchItems s.account)
  else
    Act.note .warning "BW_CLIENTID/BW_CLIENTSECRET not set, skipping vault references"
    return none

end Settings
end Homelab
