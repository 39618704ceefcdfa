import Homelab.Cluster
import Homelab.Proofs.Site

/-!
# What has been run

The journal of a site only grows, and how a command ends depends on what stands in the journal
before it.  So between two moments of a site certain commands have been run, each with its end.
Whatever asks only the cluster, or only waits, runs none and leaves the files alone.
-/

namespace Homelab

/-- How a command ends: with its output, or without one. -/
abbrev CommandEnd := Except CommandFault String

/-- An event that is a command, with its end after some events. -/
def Outside.commandOf (outside : Outside) (past : List Event) :
    Event → List (Command × CommandEnd)
  | .command c => [(c, outside.command past c)]
  | _ => []

/-- The commands among some events after those of the past, each with its end. -/
def Outside.commandsIn (outside : Outside) :
    (past events : List Event) → List (Command × CommandEnd)
  | _, [] => []
  | past, e :: rest => outside.commandOf past e ++ commandsIn outside (past ++ [e]) rest

theorem Outside.commandsIn_append
    (outside : Outside) (past events more : List Event) :
    outside.commandsIn past (events ++ more) =
      outside.commandsIn past events ++ outside.commandsIn (past ++ events) more := by
  induction events generalizing past with
  | nil => simp [commandsIn]
  | cons e rest ih =>
      rw [List.cons_append, commandsIn, commandsIn, ih, List.append_assoc, List.append_assoc,
        List.singleton_append]

namespace Site

/-- From one moment of a site to another exactly these commands have been run. -/
structure Ran (site next : Site) (commands : List (Command × CommandEnd)) : Prop where
  outside : next.outside = site.outside
  journal : ∃ events, next.journal = site.journal ++ events ∧
    site.outside.commandsIn site.journal events = commands

/-- Exactly these commands have been run, and the files are as before. -/
structure Passes (site next : Site) (commands : List (Command × CommandEnd)) : Prop
    extends site.Keeps next, site.Ran next commands

variable {site mid next : Site} {commands more : List (Command × CommandEnd)}

theorem Ran.trans
    (h : site.Ran mid commands)
    (h' : mid.Ran next more) :
    site.Ran next (commands ++ more) := by
  obtain ⟨events, hevents, rfl⟩ := h.journal
  obtain ⟨events', hevents', rfl⟩ := h'.journal
  refine ⟨h'.outside.trans h.outside, events ++ events', ?_, ?_⟩
  · rw [hevents', hevents, List.append_assoc]
  · rw [Outside.commandsIn_append, h.outside, hevents]

theorem Ran.write
    (site : Site) (name : String) (content : Content) :
    site.Ran (site.write name content) [] :=
  ⟨rfl, [], (List.append_nil _).symm, rfl⟩

/-- The journals tell which commands have been run. -/
theorem Ran.unique
    (h : site.Ran next commands)
    (h' : site.Ran next more) :
    commands = more := by
  obtain ⟨events, hevents, rfl⟩ := h.journal
  obtain ⟨events', hevents', rfl⟩ := h'.journal
  rw [List.append_cancel_left (hevents.symm.trans hevents')]

theorem Passes.refl
    (site : Site) :
    site.Passes site [] :=
  { Keeps.refl site with journal := ⟨[], (List.append_nil _).symm, rfl⟩ }

theorem Passes.trans
    (h : site.Passes mid commands)
    (h' : mid.Passes next more) :
    site.Passes next (commands ++ more) :=
  { h.toKeeps.trans h'.toKeeps, h.toRan.trans h'.toRan with }

theorem Passes.record
    (site : Site) (e : Event) :
    site.Passes (site.record e) (site.outside.commandsIn site.journal [e]) :=
  { Keeps.record site e with journal := ⟨[e], rfl, rfl⟩ }

theorem Passes.note
    (site : Site) (level : NoteLevel) (message : String) :
    site.Passes (site.note level message) [] := by
  unfold Site.note
  split
  · exact refl site
  · exact record site _

end Site

/-! ### Acts that run nothing -/

/-- An act that runs no command and leaves the files alone, however it ends. -/
def Act.Silent {α : Type} (a : Act α) : Prop :=
  ∀ site : Site, site.Passes (outcome a site).2 []

namespace Act

variable {α β : Type}

theorem Silent.leavesFiles
    {a : Act α}
    (h : a.Silent) :
    a.LeavesFiles :=
  fun site => (h site).toKeeps

theorem silent_pure
    (x : α) :
    (pure x : Act α).Silent :=
  Site.Passes.refl

theorem silent_throw
    (e : Failure) :
    (throw e : Act α).Silent :=
  Site.Passes.refl

theorem silent_ofExcept
    (r : Except Failure α) :
    (ofExcept r).Silent := by
  intro site
  rw [outcome_ofExcept]
  exact .refl site

theorem Silent.bind
    {a : Act α} {f : α → Act β}
    (h : a.Silent)
    (hf : ∀ x, (f x).Silent) :
    Silent (a >>= f) := by
  intro site
  have hfirst := h site
  rw [outcome_bind]
  rcases ha : outcome a site with ⟨e | x, next⟩
  · rwa [ha] at hfirst
  · rw [ha] at hfirst
    exact hfirst.trans (hf x next)

theorem silent_sleep
    (seconds : Double) :
    (sleep seconds).Silent :=
  fun site => .record site _

theorem outcome_callCluster
    (request : ClusterRequest) (c : ClusterCall) (site : Site) :
    outcome (callCluster request c) site =
      (match site.outside.cluster site.journal c with
        | .ok v => .ok v
        | .error reason => .error (.cluster request reason),
      site.record (.cluster c)) := by
  rw [callCluster, outcome_bind, outcome_get]
  simp only [outcome_bind, outcome_set]
  cases site.outside.cluster site.journal c <;> rfl

theorem silent_callCluster
    (request : ClusterRequest) (c : ClusterCall) :
    (callCluster request c).Silent := by
  intro site
  rw [outcome_callCluster]
  exact .record site _

end Act

namespace Cluster

open Act

variable (cluster : Cluster)

theorem silent_connect
    (c : ClusterConfig) (verified : Bool) :
    (connect c verified).Silent :=
  (silent_ofExcept _).bind fun _ => Silent.bind (fun site => .record site _) fun _ => silent_pure _

theorem silent_hasImage
    (storage image : String) :
    (cluster.hasImage storage image).Silent :=
  (silent_callCluster _ _).bind fun _ => (silent_ofExcept _).bind fun _ =>
    (silent_ofExcept _).bind fun _ => silent_pure _

theorem silent_download
    (storage image url : String) :
    (cluster.download storage image url).Silent :=
  silent_callCluster _ _

theorem silent_machine?
    (name : String) :
    (cluster.machine? name).Silent :=
  (silent_callCluster _ _).bind fun _ => (silent_ofExcept _).bind fun _ => silent_ofExcept _

theorem silent_delete
    (id : Int) :
    (cluster.delete id).Silent :=
  (silent_callCluster _ _).bind fun _ => silent_pure _

end Cluster

/-! ### One step after another -/

namespace ActOn

variable {σ α β : Type}

/-- An act that runs nothing fails, or what follows goes on. -/
theorem ending_silent_bind
    {a : Act α}
    (h : a.Silent)
    (f : α → ActOn σ β) (s : σ) (site : Site) :
    (∃ e after, site.Passes after [] ∧ ending (lift a >>= f) s site = ((.error e, s), after)) ∨
      ∃ x after, site.Passes after [] ∧ ending (lift a >>= f) s site = ending (f x) s after := by
  have hpasses := h site
  rw [ending_bind, ending_lift]
  generalize outcome a site = ends at hpasses ⊢
  obtain ⟨e | x, after⟩ := ends
  · exact .inl ⟨e, after, hpasses, rfl⟩
  · exact .inr ⟨x, after, hpasses, rfl⟩

/-- A command fails, or what follows goes on. -/
theorem ending_command_bind
    (c : Command) (f : String → ActOn σ β) (s : σ) (site : Site) :
    (∃ fault e after, site.Passes after [(c, .error fault)] ∧
      ending (lift (Act.runCommand c) >>= f) s site = ((.error e, s), after)) ∨
    ∃ output after, site.Passes after [(c, .ok output)] ∧
      ending (lift (Act.runCommand c) >>= f) s site = ending (f output) s after := by
  have hpasses :
      site.Passes (site.record (.command c)) [(c, site.outside.command site.journal c)] :=
    .record site _
  rw [ending_bind, ending_lift, Act.outcome_runCommand]
  cases hcommand : site.outside.command site.journal c with
  | error fault =>
      rw [hcommand] at hpasses
      exact .inl ⟨fault, _, _, hpasses, rfl⟩
  | ok output =>
      rw [hcommand] at hpasses
      exact .inr ⟨output, _, hpasses, rfl⟩

end ActOn
end Homelab
