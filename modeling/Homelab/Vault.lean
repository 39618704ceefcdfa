import Homelab.Resolution
import Homelab.Site
import Homelab.Text.Blank

/-!
# The vault

Secrets come from a vault that a client program opens.  A session logs in, unlocks
the vault, which gives a session key, and lists the items; whatever happens, it ends
with locking the vault and logging out.  If one of these two fails, the operator is
told and nothing else changes.

Logging in when that is done already, and locking what is locked, ends with the exit
status 1 and counts as done.

A call that the system does not take, or whose output is no text, has no result that a
step could read, and so is no failure of the vault.  It ends the session at once, also
where the session is being closed.
-/

namespace Homelab

/-- Who opens the vault, and how the client is started. -/
structure VaultAccount where
  clientId : String
  clientSecret : String
  password : Option String
  directory : Option String
  program : String
deriving DecidableEq

/-- The state of a session: the key and the items, while there are any. -/
structure VaultSession where
  key : Option String
  items : Option (List Value)

/-- What is done in a session of the vault. -/
abbrev VaultAct := ActOn VaultSession

namespace VaultSession

/-- The session before anything is done. -/
def start : VaultSession := ⟨none, none⟩

end VaultSession

namespace Vault

/-- The variables of the environment that concern the client. -/
def ownVariables (vars : List (String × String)) : List (String × String) :=
  vars.filter fun v => (Text.after? "BW_".toList v.1.toList).isSome

/-- The variables of a call: those of the environment, those of the step, and the
directory of the client. -/
def callVariables (account : VaultAccount) (site : Site) (own : List (String × String)) :
    List (String × String) :=
  let directory := match account.directory with
    | some d => if d = "" then [] else [("BW_DATA_DIR", d)]
    | none => []
  ownVariables
    ((own ++ directory).foldl (fun vs v => Site.setVariable v.1 v.2 vs) site.vars)

/-- The output of a call of the client; other exit statuses than those that count as
done are failures. -/
def call (account : VaultAccount) (step : String) (arguments : List String)
    (own : List (String × String)) (done : List Int) : Act String := do
  let vars := callVariables account (← get) own
  match ← Act.callVault ⟨account.program :: step :: arguments, vars⟩ with
  | .notStarted reason => throw (.vaultStart account.program reason)
  | .ended code stdout stderr =>
      if done.contains code then return Text.strip stdout
      else throw (.vaultStep step code (Text.strip stderr))
  | .refused reason => throw (.value reason)
  | .unreadable reason => throw (.notText reason)

/-- The variable that carries the session key. -/
def keyVariable (session : VaultSession) : List (String × String) :=
  match session.key with
  | some key => [("BW_SESSION", key)]
  | none => []

/-- The items in the output of the client. -/
def itemsOf [DepthLimits] (output : String) : Except Failure (List Value) :=
  match Json.read output with
  | .error fault => .error (Failure.ofFault (.vaultSyntax output) fault output)
  | .ok (.list items) => .ok items
  | .ok _ => .error .vaultNotList

/-- Log in with the client's own credentials. -/
def login (account : VaultAccount) : VaultAct Unit := do
  let _ ← ActOn.lift <| call account "login" ["--apikey"]
    [("BW_CLIENTID", account.clientId), ("BW_CLIENTSECRET", account.clientSecret)] [0, 1]

/-- Unlock the vault and keep the session key. -/
def unlock (account : VaultAccount) : VaultAct String := do
  let key ← ActOn.lift <| call account "unlock" ["--passwordenv", "BW_PASSWORD", "--raw"]
    [("BW_PASSWORD", account.password.getD "")] [0, 1]
  if key = "" then throw .vaultNoKey
  modify fun session => { session with key := some key }
  return key

/-- List the items and keep them. -/
def listItems [DepthLimits] (account : VaultAccount) : VaultAct (List Value) := do
  let output ← ActOn.lift <| call account "list" ["items"] (keyVariable (← get)) [0]
  let items ← ActOn.ofExcept (itemsOf output)
  modify fun session => { session with items := some items }
  return items

/-- A document with its secrets filled in; the items are listed if that has not been
done. -/
def fill [DepthLimits] (account : VaultAccount) (document : Value) : VaultAct Value := do
  let items ← match (← get).items with
    | some items => pure items
    | none => listItems account
  document.fillSecrets items

/-- Lock the vault and drop the session key. -/
def lock (account : VaultAccount) : VaultAct Unit := do
  let _ ← ActOn.lift <| call account "lock" [] (keyVariable (← get)) [0, 1]
  modify fun session => { session with key := none }

/-- Log out and drop the items. -/
def logout (account : VaultAccount) : VaultAct Unit := do
  let _ ← ActOn.lift <| call account "logout" [] (keyVariable (← get)) [0]
  modify fun session => { session with items := none }

/-- A step of which a failure of the vault is only told to the operator. -/
def quietly (name : String) (step : VaultAct Unit) : VaultAct Unit := fun session site =>
  match step session site with
  | ((.ok (), session), site) => ((.ok (), session), site)
  | ((.error e, session), site) =>
      if e.isVault then
        ((.ok (), session),
          site.note .warning ("Bitwarden " ++ name ++ " failed: " ++ e.message))
      else ((.error e, session), site)

/-- Lock and log out. -/
def close (account : VaultAccount) : VaultAct Unit := do
  quietly "lock" (lock account)
  quietly "logout" (logout account)

/-- What is done in between, and then the closing, whether it has failed or not; a failure
of the closing takes the place of what has come before. -/
def closing {α : Type} (account : VaultAccount) (body : VaultAct α) : VaultAct α :=
  fun session site =>
    let ((result, session), site) := body session site
    let ((closed, session), site) := close account session site
    ((closed.bind fun _ => result, session), site)

/-- A session: log in, unlock and list, then the body, then the closing. -/
def inSession [DepthLimits] {α : Type} (account : VaultAccount) (body : VaultAct α) : VaultAct α :=
  closing account do
    login account
    let _ ← unlock account
    let _ ← listItems account
    body

/-- The items of the vault, listed in a session of their own. -/
def fetchItems [DepthLimits] (account : VaultAccount) : Act (List Value) := fun site =>
  let body : VaultAct (List Value) := do return (← get).items.getD []
  let ((result, _), site) := inSession account body VaultSession.start site
  (result, site)

end Vault
end Homelab
