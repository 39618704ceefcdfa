import Homelab.Site
import Homelab.Value.Path

/-!
# Rehearsals

A rehearsal is a run for which the outside is written down beforehand: what commands
print and which of them fail, and what the vault client and the cluster answer.  What
is written down is a document, so a rehearsal can be kept in a file.

A rule for failing commands counts the commands that it applies to; it applies to all
of them or to the one of a given number.  Rules are tried in order, and those after
the one that holds do not count the command.  Answers of the vault client and of the
cluster stand in queues by the kind of the call; the last answer of a queue is
repeated.
-/

namespace Homelab

/-- A rule for failing commands: the program, a word that must be among the others, the
number of the command that fails if not all do, and how it fails. -/
structure FailureRule where
  program : String
  word : Option String
  nth : Option Int
  code : Int
  stderr : String
deriving DecidableEq

/-- What is written down for a rehearsal: the output of programs, the rules for those
that fail, and the queues of answers by the kind of the call. -/
structure Rehearsal where
  outputs : Value
  rules : List FailureRule
  vault : Value
  cluster : Value

namespace FailureRule

/-- The integer under a key of a document. -/
def intAt? (v : Value) (key : String) : Option Int :=
  match v.get? key with
  | some (.int n) => some n
  | _ => none

/-- The text under a key of a document. -/
def textAt? (v : Value) (key : String) : Option String := (v.get? key).bind Value.text?

/-- A rule from a document. -/
def ofValue (v : Value) : FailureRule :=
  ⟨(textAt? v "command").getD "", textAt? v "arg", intAt? v "nth", (intAt? v "code").getD 1,
    (textAt? v "stderr").getD ""⟩

/-- The rule applies to a command. -/
def applies (r : FailureRule) (c : Command) : Bool :=
  c.words.head? = some r.program && r.word.all c.words.contains

/-- The first rule that holds for a command, among rules with the number of commands
that each has counted, and the numbers after the command. -/
def fire (c : Command) : List (FailureRule × Int) →
    Option FailureRule × List (FailureRule × Int)
  | [] => (none, [])
  | (r, n) :: rest =>
      if r.applies c then
        if r.nth.all (· = n + 1) then (some r, (r, n + 1) :: rest)
        else
          let (found, more) := fire c rest
          (found, (r, n + 1) :: more)
      else
        let (found, more) := fire c rest
        (found, (r, n) :: more)

end FailureRule

namespace Rehearsal

/-- A part of a document. -/
def part (v : Value) (key : String) : Value := (v.get? key).getD .null

/-- A rehearsal from a document. -/
def ofValue (v : Value) : Rehearsal :=
  let rules := match part v "fail" with
    | .list items => items.map FailureRule.ofValue
    | _ => []
  ⟨part v "outputs", rules, part v "bw", part v "api"⟩

/-- The commands of a journal. -/
def commandsOf (events : List Event) : List Command :=
  events.filterMap fun e => match e with
    | .command c => some c
    | _ => none

/-- How a command ends. -/
def command (r : Rehearsal) (past : List Event) (c : Command) :
    Except CommandFault String :=
  let counted := (commandsOf past).foldl (fun rules old => (FailureRule.fire old rules).2)
    (r.rules.map fun rule => (rule, 0))
  match (FailureRule.fire c counted).1 with
  | some rule => .error (.failed rule.code rule.stderr)
  | none => .ok ((FailureRule.textAt? r.outputs (c.words.headD "")).getD "")

/-- The answer in a queue after some others; what is no queue is a queue of one. -/
def queued (queue : Value) (n : Nat) : Value :=
  match queue with
  | .list items => (items[min n (items.length - 1)]?).getD .null
  | v => v

/-- The kind of a call to the cluster. -/
def clusterKind : ClusterCall → String
  | .connect _ => "connect"
  | .listContent .. => "iso_list"
  | .download .. => "download"
  | .listMachines _ => "vm_list"
  | .deleteMachine .. => "delete"

/-- An answer of the cluster: a refusal has a status, a reason, a text and perhaps
errors, told in one line without blanks at its ends; a broken connection has a text. -/
def clusterReply (v : Value) : Except String Value :=
  match FailureRule.textAt? v "raise" with
  | none => .ok v
  | some "ResourceException" =>
      let errors := match part v "errors" with
        | .null => ""
        | e => " - " ++ e.display
      .error (Text.strip ((part v "status").display ++ " " ++ (part v "reason").display ++ ": " ++
        (part v "content").display ++ errors))
  | some _ => .error ((FailureRule.textAt? v "text").getD "")

/-- What the cluster answers. -/
def askCluster (r : Rehearsal) (past : List Event) (c : ClusterCall) : Except String Value :=
  let before := past.filter fun e => match e with
    | .cluster old => clusterKind old = clusterKind c
    | _ => false
  clusterReply (queued (part r.cluster (clusterKind c)) before.length)

/-- The kind of a call of the vault client. -/
def vaultKind (c : VaultCall) : String := (c.words.drop 1).headD ""

/-- An end of a call of the vault client. -/
def vaultReply (v : Value) : VaultReply :=
  match FailureRule.textAt? v "oserror" with
  | some reason => .notStarted reason
  | none => .ended ((FailureRule.intAt? v "code").getD 0)
      ((FailureRule.textAt? v "stdout").getD "") ((FailureRule.textAt? v "stderr").getD "")

/-- How a call of the vault client ends. -/
def askVault (r : Rehearsal) (past : List Event) (c : VaultCall) : VaultReply :=
  let before := past.filter fun e => match e with
    | .vault old => vaultKind old = vaultKind c
    | _ => false
  vaultReply (queued (part r.vault (vaultKind c)) before.length)

/-- The outside of a rehearsal, with a directory of its own at a given time. -/
def outside (r : Rehearsal) (scratch : String) (seconds : Int) : Outside :=
  ⟨r.command, r.askVault, r.askCluster, none, scratch, seconds⟩

end Rehearsal
end Homelab
