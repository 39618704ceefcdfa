import Homelab.Proofs.Site
import Homelab.Shell.Local

/-!
# What comes of a command on this machine

A command that the machine is given comes to an output, or it is not taken, or it ends with a
status other than zero, and which of these it is decides how the failure is told.  Whoever runs the
command on a site behind which the machine stands is told exactly this.
-/

namespace Homelab
namespace Local

variable {vars : List (String × String)} {c : Command}

/-- A command that could be put to the system is not refused, and one that fails has not ended with
the status zero. -/
theorem fault_of_start
    {fault : CommandFault}
    (h : (start vars c).result = .error fault) :
    ∃ code stderr, code ≠ 0 ∧ fault = .failed code stderr := by
  have hnot : ∀ reason, (notStarted reason).result = .error fault →
      ∃ code stderr, code ≠ 0 ∧ fault = .failed code stderr := by
    intro reason h
    exact ⟨127, reason, by decide, (Except.error.inj h).symm⟩
  have houtcome : ∀ code output error, outcome code output error = .error fault →
      ∃ code stderr, code ≠ 0 ∧ fault = .failed code stderr := by
    intro code output error h
    rw [outcome] at h
    split at h
    · cases h
    · rename_i hcode
      exact ⟨code, _, hcode, (Except.error.inj h).symm⟩
  simp only [start] at h
  split at h
  · exact hnot _ h
  · exact hnot _ h
  · split at h
    · exact hnot _ h
    · exact hnot _ h
    · split at h
      · exact houtcome _ _ _ h
      · exact hnot _ h

/-- A command on this machine fails with a plain value exactly if the system does not take it, and
otherwise with its line and the status that it has ended with, which is not zero. -/
theorem result_run
    (vars : List (String × String)) (c : Command) :
    (∃ reason, Process.refusal? c.words c.vars c.directory = some reason ∧
      (run vars c).result = .error (.value reason)) ∨
    (Process.refusal? c.words c.vars c.directory = none ∧
      ((∃ output, (run vars c).result = .ok output) ∨
        ∃ code stderr, code ≠ 0 ∧
          (run vars c).result = .error (.command (Shell.line c.words) code stderr))) := by
  cases hrefusal : Process.refusal? c.words c.vars c.directory with
  | some reason =>
      refine .inl ⟨reason, rfl, ?_⟩
      rw [run, answer, hrefusal]
      rfl
  | none =>
      refine .inr ⟨rfl, ?_⟩
      have hrun :
          (run vars c).result = (start vars c).result.mapError (CommandFault.failure c) := by
        rw [run, answer, hrefusal]
      rw [hrun]
      cases hstart : (start vars c).result with
      | ok output => exact .inl ⟨output, rfl⟩
      | error fault =>
          obtain ⟨code, stderr, hcode, rfl⟩ := fault_of_start hstart
          exact .inr ⟨code, stderr, hcode, rfl⟩

/-- Running a command on a site behind which the machine stands is running it on the machine. -/
theorem outcome_runCommand_answer
    {site : Site}
    (h : site.outside.command site.journal c = (answer site.vars c).result) :
    Homelab.outcome (Act.runCommand c) site =
      ((run site.vars c).result, site.record (.command c)) := by
  rw [Act.outcome_runCommand, h, run]
  cases (answer site.vars c).result <;> rfl

end Local
end Homelab
