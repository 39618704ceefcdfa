import Homelab.Failure
import Homelab.Text.FilePath
import Homelab.Text.Pieces
import Homelab.Value.Display

/-!
# The site

A run works on a site: the files of the working directory, the variables of the
environment, and everything outside that answers requests, namely external commands,
the vault client and the cluster.

A site keeps a journal of what was asked and told, in order.  What is outside is a
function of the journal so far and of the request; nothing is assumed about it, so
a command may fail the first time and succeed the second.

An act on a site either gives a value or fails; in both cases what has happened to
the site by then has happened.
-/

namespace Homelab

/-- What a file holds: a text, or bytes of which it is not known whether they are
one. -/
inductive Content where
  | text (s : String)
  | raw (bytes : List UInt8)
deriving DecidableEq

/-- An external command: its words, the variables set for it, whether its output is
shown as it arrives, the directory it runs in, and the host if that is another. -/
structure Command where
  words : List String
  vars : List (String × String)
  shown : Bool
  directory : Option String
  host : Option String
deriving DecidableEq

/-- A call of the vault client: its words and the variables that concern it. -/
structure VaultCall where
  words : List String
  vars : List (String × String)
deriving DecidableEq

/-- Why a command gives no output: the system does not take it, or it has ended with a
status and an error output. -/
inductive CommandFault where
  | refused (reason : String)
  | failed (code : Int) (stderr : String)
deriving DecidableEq

/-- How a call of the vault client ends: it is not started, it ends with a status and its
outputs, or there is no result because the system does not take the call or an output is
no text. -/
inductive VaultReply where
  | notStarted (reason : String)
  | ended (code : Int) (stdout stderr : String)
  | refused (reason : String)
  | unreadable (reason : String)
deriving DecidableEq

/-- How the cluster is addressed. -/
structure ClusterAccess where
  host : String
  port : Int
  user : String
  tokenName : String
  token : Option String
  verified : Bool
deriving DecidableEq

/-- A call to the cluster. -/
inductive ClusterCall where
  | connect (access : ClusterAccess)
  | listContent (node storage : String)
  | download (node storage url file : String)
  | listMachines (node : String)
  | deleteMachine (node : String) (id : Int)
deriving DecidableEq

/-- How serious a note in the log is. -/
inductive NoteLevel where
  | warning
  | error
deriving DecidableEq

/-- The rank of a level among all levels of the log. -/
def NoteLevel.rank : NoteLevel → Nat
  | warning => 30
  | error => 40

/-- Something that was asked of the outside, or told to the operator. -/
inductive Event where
  | command (c : Command)
  | vault (c : VaultCall)
  | cluster (c : ClusterCall)
  | note (level : NoteLevel) (message : String)
  | slept (seconds : Double)
deriving DecidableEq

/-- How requests are answered, given the journal before the request. -/
structure Outside where
  /-- The output of a command, or why there is none. -/
  command : List Event → Command → Except CommandFault String
  /-- The end of a call of the vault client. -/
  vault : List Event → VaultCall → VaultReply
  /-- The answer of the cluster, or why there is none. -/
  cluster : List Event → ClusterCall → Except String Value
  /-- Why a file cannot be put in the place of another, if that is so. -/
  replaceFault : Option String
  /-- A directory that nobody else uses. -/
  scratch : String
  /-- The time in whole seconds. -/
  seconds : Int

/-- The place where a run happens.  Notes below the threshold are not taken down. -/
structure Site where
  files : List (String × Content)
  vars : List (String × String)
  threshold : Nat
  journal : List Event
  outside : Outside

/-- What is done on a site. -/
abbrev Act := ExceptT Failure (StateM Site)

/-- What is done on a site by something that has a state of its own. -/
abbrev ActOn (σ : Type) := ExceptT Failure (StateT σ (StateM Site))

namespace Content

/-- The text of a file; every line end becomes a line feed. -/
def read : Content → Except Failure String
  | text s => .ok (String.ofList (Text.plainNewlines s.toList))
  | raw bytes =>
      match Text.decode bytes with
      | .ok s => .ok (String.ofList (Text.plainNewlines s.toList))
      | .error fault => .error (.notText fault.message)

/-- The text of a file that is read in pieces. -/
def pieces : Content → Text.Pieces
  | text s => .whole (Text.plainNewlines s.toList)
  | raw bytes => .ofBytes bytes

end Content

namespace Site

/-- The most bytes in one name of a path, and in all of a path. -/
def nameLimits : Nat × Nat := (255, 4095)

/-- A path is too long to be looked up. -/
def isTooLong (path : String) : Bool :=
  nameLimits.2 < path.utf8ByteSize ||
    (Text.plainNames path).any fun name => nameLimits.1 < (String.ofList name).utf8ByteSize

/-- One path leads through another. -/
def leadsThrough (path folder : String) : Bool :=
  (folder ++ "/").toList.isPrefixOf path.toList

/-- The content of a file. -/
def file? (site : Site) (name : String) : Option Content :=
  site.files.lookup name

/-- A path is one of a folder: the working directory, one that this lies in, or one
that a file lies in. -/
def isFolder (site : Site) (path : String) : Bool :=
  (Text.plainNames path).all (· = ['.', '.']) || site.files.any fun f => leadsThrough f.1 path

/-- The content of the file at a path. -/
def contentOf (site : Site) (path : String) : Except Failure Content :=
  if path.toList.contains (Char.ofNat 0) then .error (.value "embedded null byte")
  else
    match site.file? path with
    | some content => .ok content
    | none =>
        if isTooLong path then .error (.nameTooLong path)
        else if site.isFolder path then .error (.isFolder path)
        else if site.files.any fun f => leadsThrough path f.1 then .error (.notFolder path)
        else .error (.fileNotFound path)

/-- The text of a file. -/
def read (site : Site) (path : String) : Except Failure String := do
  (← site.contentOf path).read

/-- The files with the content of one of them set. -/
def put (name : String) (content : Content) : List (String × Content) → List (String × Content)
  | [] => [(name, content)]
  | (n, c) :: rest => if n = name then (n, content) :: rest else (n, c) :: put name content rest

/-- The site with a file written. -/
def write (site : Site) (name : String) (content : Content) : Site :=
  { site with files := put name content site.files }

/-- The site without a file. -/
def remove (site : Site) (name : String) : Site :=
  { site with files := site.files.filter fun f => f.1 ≠ name }

/-- The site with an event added to its journal. -/
def record (site : Site) (e : Event) : Site :=
  { site with journal := site.journal ++ [e] }

/-- The site with a note in its journal, unless it is below the threshold. -/
def note (site : Site) (level : NoteLevel) (message : String) : Site :=
  if level.rank < site.threshold then site else site.record (.note level message)

/-- A variable of the environment. -/
def valueOf? (site : Site) (name : String) : Option String :=
  site.vars.lookup name

/-- A variable is set; one that is there keeps its place. -/
def setVariable (name value : String) : List (String × String) → List (String × String)
  | [] => [(name, value)]
  | (n, v) :: rest =>
      if n = name then (n, value) :: rest else (n, v) :: setVariable name value rest

end Site

namespace Act

/-- What a pure computation gives. -/
def ofExcept {α : Type} : Except Failure α → Act α
  | .ok a => pure a
  | .error e => throw e

/-- The text of a file. -/
def readFile (name : String) : Act String := do
  ofExcept ((← get).read name)

/-- What a file holds. -/
def contentOf (name : String) : Act Content := do
  ofExcept ((← get).contentOf name)

/-- A text is put in the place of a file in one step, or nothing changes. -/
def replaceFile (name text : String) : Act Unit := do
  match (← get).outside.replaceFault with
  | some reason => throw (.system reason)
  | none => modify fun site => site.write name (.text text)

/-- A note in the log. -/
def note (level : NoteLevel) (message : String) : Act Unit :=
  modify fun site => site.note level message

/-- Some time passes.  Waiting is taken to succeed, whatever the interval is. -/
def sleep (seconds : Double) : Act Unit :=
  modify fun site => site.record (.slept seconds)

/-- A call of the vault client. -/
def callVault (c : VaultCall) : Act VaultReply := do
  let site ← get
  set (site.record (.vault c))
  return site.outside.vault site.journal c

/-- A call to the cluster. -/
def callCluster (request : ClusterRequest) (c : ClusterCall) : Act Value := do
  let site ← get
  set (site.record (.cluster c))
  match site.outside.cluster site.journal c with
  | .ok v => pure v
  | .error reason => throw (.cluster request reason)

end Act

namespace ActOn

/-- An act that leaves the state alone. -/
def lift {σ α : Type} (a : Act α) : ActOn σ α :=
  fun state site => let (r, next) := a site; ((r, state), next)

/-- What a pure computation gives. -/
def ofExcept {σ α : Type} (r : Except Failure α) : ActOn σ α :=
  lift (Act.ofExcept r)

end ActOn
end Homelab
