import Homelab.Proofs.Shell
import Homelab.Remote

/-!
# The line for the other side

What is sent for a command is one line, and the other side takes it apart again.  It gets the words
to go to the directory, the variables and the words of the command, whatever they hold, unless there
is something in the name of a variable that a shell acts on.
-/

namespace Homelab
namespace Remote

/-- The words that go to a directory. -/
def goingTo : Option String → List String
  | some d => if d = "" then [] else ["cd", d, "&&"]
  | none => []

/-- The words that the other side is to get for a command. -/
def wordsFor (c : Command) : List String :=
  goingTo c.directory ++ c.vars.map (fun v => v.1 ++ "=" ++ v.2) ++ c.words

/-- The line for a command that goes to no directory. -/
def lineHere (vars : List (String × String)) (words : List String) : String :=
  " ".intercalate (vars.map Shell.assignment ++ [Shell.line words])

theorem split?_lineHere
    (vars : List (String × String)) (words : List String) :
    Shell.split? (lineHere vars words) = some (vars.map (fun v => v.1 ++ "=" ++ v.2) ++ words) ↔
      ∀ v ∈ vars, ∀ x ∈ v.1.toList, x ∉ Shell.active := by
  rw [Shell.split?_eq_some_iff, List.map_append, List.map_map]
  exact Shell.splitFrom_assignments (Shell.splitFrom_line words) vars

theorem commandLine_of_directory
    {d : String}
    (hd : d ≠ "")
    (vars : List (String × String)) (words : List String) :
    commandLine vars (some d) words =
      "cd" ++ " " ++ (Shell.quote d ++ " " ++ ("&&" ++ " " ++ lineHere vars words)) := by
  have hcd : "cd " = "cd" ++ " " := by decide
  have hand : " && " = " " ++ "&&" ++ " " := by decide
  calc commandLine vars (some d) words
      = "cd " ++ Shell.quote d ++ " && " ++ lineHere vars words := if_neg hd
    _ = _ := by simp only [hcd, hand, String.append_assoc]

/-- Going to a directory stands for its words, and the rest of the line for its own. -/
theorem split?_commandLine_of_directory
    {d : String}
    (hd : d ≠ "")
    (vars : List (String × String)) (words ws : List String) :
    Shell.split? (commandLine vars (some d) words) = some ("cd" :: d :: "&&" :: ws) ↔
      Shell.split? (lineHere vars words) = some ws := by
  have hcd : Shell.Spells "cd".toList "cd".toList :=
    Shell.spells_self (by simp) (by simp [Shell.active])
  have hdirectory : Shell.Spells (Shell.quote d).toList d.toList := by
    simpa [Shell.quote] using Shell.spells_quoteChars d.toList
  have hand : Shell.Spells "&&".toList "&&".toList :=
    Shell.spells_self (by simp) (by simp [Shell.active])
  rw [commandLine_of_directory hd, Shell.split?_eq_some_iff, hcd.blank, hdirectory.blank,
    hand.blank, Shell.split?_eq_some_iff]
  simp

theorem split?_commandLine
    (c : Command) :
    Shell.split? (commandLine c.vars c.directory c.words) = some (wordsFor c) ↔
      ∀ v ∈ c.vars, ∀ x ∈ v.1.toList, x ∉ Shell.active := by
  rw [← split?_lineHere c.vars c.words, wordsFor]
  cases c.directory with
  | none => rfl
  | some d =>
      by_cases hd : d = ""
      · subst hd
        rfl
      · rw [goingTo, if_neg hd]
        exact split?_commandLine_of_directory hd c.vars c.words _

theorem line_of_mem_signals
    {r : Remote} {c : Command} {reply : RemoteReply} {n : Nat} {line : String}
    (h : .send n line ∈ (r.run c reply).signals) :
    line = commandLine c.vars c.directory c.words := by
  obtain ⟨host, home, k, current⟩ := r
  cases current with
  | some m =>
      cases hsend : reply.send <;> simp_all [run, connection]
  | none =>
      cases hconnect : reply.connect with
      | error reason => simp [run, connection, hconnect] at h
      | ok alive =>
          cases hsend : reply.send <;> cases alive <;> simp_all [run, connection]

/-- Whatever the words of a command, the values of its variables and its directory hold: the line
that is sent for it is taken apart into the directory to go to, the variables in their order and the
words, exactly if a shell acts on no character of a name. -/
theorem words_of_sent_line
    {r : Remote} {c : Command} {reply : RemoteReply} {n : Nat} {line : String}
    (h : .send n line ∈ (r.run c reply).signals) :
    Shell.split? line = some (wordsFor c) ↔
      ∀ v ∈ c.vars, ∀ x ∈ v.1.toList, x ∉ Shell.active := by
  rw [line_of_mem_signals h]
  exact split?_commandLine c

/-- A command with a variable of this name, and with all that needs quotes. -/
def quotedCommand (name : String) : Command where
  words := ["packer", "it's", "", "a\\b\n", "$HOME"]
  vars := [(name, "two words"), ("EMPTY", "")]
  shown := false
  directory := some "/srv/my images"
  host := none

theorem words_of_sent_line_quoted :
    let r := start ⟨"build.lan", "op", none, 22⟩ "/home/op"
    let reply : RemoteReply := ⟨.ok true, .error "closed"⟩
    (∃ line, .send 0 line ∈ (r.run (quotedCommand "PKR_VAR_node") reply).signals ∧
      Shell.split? line = some ["cd", "/srv/my images", "&&", "PKR_VAR_node=two words", "EMPTY=",
        "packer", "it's", "", "a\\b\n", "$HOME"]) ∧
    ∃ line, .send 0 line ∈ (r.run (quotedCommand "my 'node") reply).signals ∧
      Shell.split? line ≠ some (wordsFor (quotedCommand "my 'node")) := by
  intro r reply
  have hsent : ∀ name,
      .send 0 (commandLine (quotedCommand name).vars (quotedCommand name).directory
        (quotedCommand name).words) ∈ (r.run (quotedCommand name) reply).signals := by
    intro name
    simp [run, connection, r, start, reply]
  refine ⟨⟨_, hsent "PKR_VAR_node", ?_⟩, _, hsent "my 'node", ?_⟩
  · exact (words_of_sent_line (hsent _)).mpr (by simp [quotedCommand, Shell.active])
  · exact mt (words_of_sent_line (hsent _)).mp (by simp [quotedCommand, Shell.active])

end Remote
end Homelab
