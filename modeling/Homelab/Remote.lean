import Homelab.Manifest
import Homelab.Shell
import Homelab.Text.Blank

/-!
# Commands on the build host

A command on another host is sent as one line over a connection.  The connection is
opened by the first command and kept for the later ones until it is closed; an attempt
that fails leaves none open.  Because the other side ignores most variables that come
with a connection, they are set on the line, and so is the directory.

Connections are numbered by the attempts, so that what is sent can be told apart by
the connection that it is sent on.
-/

namespace Homelab

/-- How a build host is reached. -/
structure RemoteAccess where
  host : String
  port : Int
  user : String
  keyFile : Option String
deriving DecidableEq

/-- What passes over the network. -/
inductive Signal where
  | connect (connection : Nat) (access : RemoteAccess)
  | keepAlive (connection : Nat) (seconds : Nat)
  | send (connection : Nat) (line : String)
  | close (connection : Nat)
deriving DecidableEq

/-- How a command has ended on the other side. -/
structure RemoteEnd where
  code : Int
  stdout : String
  stderr : String
deriving DecidableEq

/-- What the other side does when a connection is attempted, with word on whether it
can be kept alive, and when a line is sent. -/
structure RemoteReply where
  connect : Except String Bool
  send : Except String RemoteEnd

/-- A build host, with the number of attempts made and the connection that is open. -/
structure Remote where
  host : BuildHost
  home : String
  attempts : Nat
  current : Option Nat

/-- What has come of a command: its result, what was shown while it ran, and what has
passed over the network. -/
structure RemoteRun where
  result : Except Failure String
  shown : String × String
  signals : List Signal
  remote : Remote

namespace Remote

/-- A build host that nothing has been sent to. -/
def start (host : BuildHost) (home : String) : Remote := ⟨host, home, 0, none⟩

/-- The seconds that an attempt to connect may take. -/
def connectSeconds : Nat := 10

/-- The seconds between signs of life. -/
def aliveSeconds : Nat := 60

/-- A path with the home directory in the place of a tilde in front. -/
def expandHome (home path : String) : String :=
  match path.toList with
  | ['~'] => home
  | '~' :: '/' :: rest => home ++ "/" ++ String.ofList rest
  | _ => path

/-- How the host of a run is reached. -/
def access (r : Remote) : RemoteAccess :=
  let key := match r.host.privateKey with
    | some k => if k = "" then none else some (expandHome r.home k)
    | none => none
  ⟨r.host.host, r.host.port, r.host.username, key⟩

/-- The line that is sent for a command: the directory to go to, the variables to set,
and the words. -/
def commandLine (vars : List (String × String)) (directory : Option String)
    (words : List String) : String :=
  let line := " ".intercalate
    (vars.map (fun v => v.1 ++ "=" ++ Shell.quote v.2) ++ [Shell.line words])
  match directory with
  | some d => if d = "" then line else "cd " ++ Shell.quote d ++ " && " ++ line
  | none => line

/-- The failure of a command that could not be sent. -/
def unreachable (r : Remote) (c : Command) (reason : String) : Failure :=
  .command (Shell.line c.words) 255 ("SSH to " ++ r.host.host ++ " failed: " ++ reason)

/-- The connection that is open, or a new one, with what has passed over the network. -/
def connection (r : Remote) (reply : RemoteReply) :
    List Signal × Remote × Except String Nat :=
  match r.current with
  | some n => ([], r, .ok n)
  | none =>
      let n := r.attempts
      let tried := { r with attempts := n + 1 }
      match reply.connect with
      | .error reason => ([.connect n r.access], tried, .error reason)
      | .ok alive =>
          (.connect n r.access :: (if alive then [.keepAlive n aliveSeconds] else []),
            { tried with current := some n }, .ok n)

/-- The result of a command that has ended. -/
def outcome (c : Command) (e : RemoteEnd) : Except Failure String :=
  if e.code = 0 then .ok (Text.strip e.stdout)
  else .error (.command (Shell.line c.words) e.code (Text.strip e.stderr))

/-- A command is run on the build host. -/
def run (r : Remote) (c : Command) (reply : RemoteReply) : RemoteRun :=
  let (signals, next, connection) := r.connection reply
  match connection with
  | .error reason => ⟨.error (r.unreachable c reason), ("", ""), signals, next⟩
  | .ok n =>
      let sent := signals ++ [.send n (commandLine c.vars c.directory c.words)]
      match reply.send with
      | .error reason => ⟨.error (r.unreachable c reason), ("", ""), sent, next⟩
      | .ok e =>
          let shown := if c.shown then (e.stdout, e.stderr) else ("", "")
          ⟨outcome c e, shown, sent, next⟩

/-- The connection is closed, if one is open. -/
def close (r : Remote) : List Signal × Remote :=
  match r.current with
  | some n => ([.close n], { r with current := none })
  | none => ([], r)

end Remote
end Homelab
