import Homelab.Process
import Homelab.Proofs.Site

/-!
# Sessions of the vault

A session opens the vault in three steps and closes it in two.  Each step is one call of the
client, and its end tells whether the step has succeeded.  The steps that open the vault are taken
until one fails.  The steps that close it are taken until a call has no result: where every call
has one, as an exit status and outputs or as a call that is not started, both are taken, whatever
has happened before, what has failed in them is told to the operator, and the session ends as it
would have ended without them.

A call has no result if the system does not take it or if an output is no text.  The one way to
come to that which the client itself has is a session key with a null character: it stands among
the variables of every later call.
-/

namespace Homelab

/-- A call of the client has a result: it has ended with an exit status and outputs, or it has not
been started. -/
def VaultReply.HasResult : VaultReply → Prop
  | .notStarted _ => True
  | .ended .. => True
  | .refused _ => False
  | .unreadable _ => False

/-- Every call of the client has a result. -/
def Outside.GivesResults (outside : Outside) : Prop :=
  ∀ (past : List Event) (c : VaultCall), (outside.vault past c).HasResult

/-- Calls of the client are started by the system, which takes only what can be put to it. -/
def Outside.StartsProcesses (outside : Outside) : Prop :=
  ∀ (past : List Event) (c : VaultCall) (reason : String),
    Process.refusal? c.words c.vars none = some reason →
    outside.vault past c = .refused reason

namespace Vault

open ActOn

/-! ### Steps -/

/-- The steps of a session. -/
inductive Step where
  | login
  | unlock
  | list
  | lock
  | logout
deriving DecidableEq

namespace Step

/-- The word that stands for a step. -/
def name : Step → String
  | login => "login"
  | unlock => "unlock"
  | list => "list"
  | lock => "lock"
  | logout => "logout"

/-- The words after that. -/
def arguments : Step → List String
  | login => ["--apikey"]
  | unlock => ["--passwordenv", "BW_PASSWORD", "--raw"]
  | list => ["items"]
  | lock => []
  | logout => []

/-- The variables that a step sets. -/
def own (account : VaultAccount) (session : VaultSession) : Step → List (String × String)
  | login => [("BW_CLIENTID", account.clientId), ("BW_CLIENTSECRET", account.clientSecret)]
  | unlock => [("BW_PASSWORD", account.password.getD "")]
  | list => keyVariable session
  | lock => keyVariable session
  | logout => keyVariable session

/-- The exit statuses that count as done. -/
def done : Step → List Int
  | login => [0, 1]
  | unlock => [0, 1]
  | list => [0]
  | lock => [0, 1]
  | logout => [0]

/-- What is done in a step. -/
def act [DepthLimits] (account : VaultAccount) : Step → VaultAct Unit
  | login => Vault.login account
  | unlock => do let _ ← Vault.unlock account
  | list => do let _ ← listItems account
  | lock => Vault.lock account
  | logout => Vault.logout account

/-- A step has succeeded, by how its call has ended. -/
def Succeeds [DepthLimits] : Step → VaultReply → Prop
  | _, .notStarted _ => False
  | _, .refused _ => False
  | _, .unreadable _ => False
  | login, .ended code _ _ => code = 0 ∨ code = 1
  | unlock, .ended code stdout _ => (code = 0 ∨ code = 1) ∧ Text.strip stdout ≠ ""
  | list, .ended code stdout _ => code = 0 ∧ ∃ items, itemsOf (Text.strip stdout) = .ok items
  | lock, .ended code _ _ => code = 0 ∨ code = 1
  | logout, .ended code _ _ => code = 0

/-- The call of a step. -/
def call (account : VaultAccount) (session : VaultSession) (site : Site) (step : Step) :
    VaultCall :=
  ⟨account.program :: step.name :: step.arguments,
    callVariables account site (step.own account session)⟩

/-- The output of a step, by how its call has ended. -/
def output (account : VaultAccount) (step : Step) : VaultReply → Except Failure String
  | .notStarted reason => .error (.vaultStart account.program reason)
  | .ended code stdout stderr =>
      if step.done.contains code then .ok (Text.strip stdout)
      else .error (.vaultStep step.name code (Text.strip stderr))
  | .refused reason => .error (.value reason)
  | .unreadable reason => .error (.notText reason)

/-- The session after a step, by how its call has ended. -/
def finish [DepthLimits] (account : VaultAccount) (session : VaultSession) (step : Step)
    (reply : VaultReply) : Except Failure VaultSession :=
  match step.output account reply with
  | .error e => .error e
  | .ok output =>
      match step with
      | login => .ok session
      | unlock =>
          if output = "" then .error .vaultNoKey else .ok { session with key := some output }
      | list =>
          match itemsOf output with
          | .error e => .error e
          | .ok items => .ok { session with items := some items }
      | lock => .ok { session with key := none }
      | logout => .ok { session with items := none }

/-- The end of the call of a step. -/
def reply (account : VaultAccount) (session : VaultSession) (site : Site) (step : Step) :
    VaultReply :=
  site.outside.vault site.journal (step.call account session site)

/-- The session after a step; one that fails leaves it as it is. -/
def next [DepthLimits] (account : VaultAccount) (session : VaultSession) (site : Site)
    (step : Step) : VaultSession :=
  match step.finish account session (step.reply account session site) with
  | .ok next => next
  | .error _ => session

/-- The site after a step. -/
def called (account : VaultAccount) (session : VaultSession) (site : Site) (step : Step) : Site :=
  site.record (.vault (step.call account session site))

section

variable (account : VaultAccount) (session : VaultSession) (site : Site) (step : Step)

theorem outcome_call :
    outcome (Vault.call account step.name step.arguments (step.own account session) step.done)
        site =
      (step.output account (step.reply account session site),
        step.called account session site) := by
  simp only [Vault.call, outcome_bind, outcome_get, Act.callVault, outcome_set, outcome_pure,
    output]
  have hreply : step.reply account session site = site.outside.vault site.journal
      ⟨account.program :: step.name :: step.arguments,
        callVariables account site (step.own account session)⟩ := rfl
  rw [← hreply]
  rcases step.reply account session site with reason | ⟨code, stdout, stderr⟩ | reason | reason
  · rfl
  · simp only
    split <;> rfl
  · rfl
  · rfl

/-- A step makes one call, and its end decides what the step comes to. -/
theorem ending_act [DepthLimits] :
    ending (step.act account) session site =
      (((step.finish account session (step.reply account session site)).map fun _ => (),
        step.next account session site), step.called account session site) := by
  have hcall := outcome_call account session site step
  simp only [next, finish] at hcall ⊢
  generalize step.called account session site = after at hcall ⊢
  generalize step.output account (step.reply account session site) = ended at hcall ⊢
  rcases ended with e | output
  · cases step <;>
      simp only [name, arguments, own, done] at hcall <;>
      simp only [act, Vault.login, Vault.unlock, listItems, Vault.lock, Vault.logout,
        ending_bind, ending_get, ending_lift, hcall] <;> rfl
  · cases step <;> simp only [name, arguments, own, done] at hcall
    case login =>
      simp only [act, Vault.login, ending_bind, ending_lift, ending_pure, hcall]
      rfl
    case unlock =>
      simp only [act, Vault.unlock, ending_bind, ending_lift, hcall]
      by_cases hkey : output = ""
      · simp only [if_pos hkey, ending_bind, ending_throw]
        rfl
      · simp only [if_neg hkey, ending_bind, ending_modify, ending_pure]
        rfl
    case list =>
      simp only [act, listItems, ending_bind, ending_get, ending_lift, ending_ofExcept, hcall]
      rcases itemsOf output with e | items <;> rfl
    case lock =>
      simp only [act, Vault.lock, ending_bind, ending_get, ending_lift, ending_modify, hcall]
      rfl
    case logout =>
      simp only [act, Vault.logout, ending_bind, ending_get, ending_lift, ending_modify, hcall]
      rfl

/-- A step goes on exactly if its call has succeeded. -/
theorem exists_finish_iff [DepthLimits]
    (reply : VaultReply) :
    (∃ next, step.finish account session reply = .ok next) ↔ step.Succeeds reply := by
  cases reply with
  | notStarted reason => cases step <;> simp [finish, output, Succeeds]
  | refused reason => cases step <;> simp [finish, output, Succeeds]
  | unreadable reason => cases step <;> simp [finish, output, Succeeds]
  | ended code stdout stderr =>
      by_cases hdone : code ∈ step.done
      · have houtput :
            step.output account (.ended code stdout stderr) = .ok (Text.strip stdout) := by
          simp [output, hdone]
        cases step <;>
          simp only [done, List.mem_cons, List.not_mem_nil, or_false] at hdone <;>
          simp only [finish, houtput, Succeeds]
        case unlock => by_cases hkey : Text.strip stdout = "" <;> simp [hdone, hkey]
        case list => rcases itemsOf (Text.strip stdout) with e | items <;> simp [hdone]
        all_goals simp [hdone]
      · have houtput : ∃ e, step.output account (.ended code stdout stderr) = .error e := by
          simp [output, hdone]
        obtain ⟨e, houtput⟩ := houtput
        cases step <;> simp only [done, List.mem_cons, List.not_mem_nil, or_false] at hdone <;>
          simp [finish, houtput, Succeeds, hdone]

/-- Of the steps that close the vault, one whose call has a result succeeds or fails in the vault,
and one whose call has none fails otherwise. -/
theorem isVault_finish_iff [DepthLimits]
    {step : Step} {reply : VaultReply} {e : Failure}
    (hclosing : step ∈ [lock, logout])
    (h : step.finish account session reply = .error e) :
    e.isVault = true ↔ reply.HasResult := by
  have houtput : step.output account reply = .error e := by
    simp only [List.mem_cons, List.not_mem_nil, or_false] at hclosing
    rcases houtput : step.output account reply with e' | output
    · rw [finish, houtput] at h
      rw [Except.error.inj h]
    · rcases hclosing with rfl | rfl <;> simp [finish, houtput] at h
  cases reply with
  | notStarted reason =>
      cases houtput
      simp [Failure.isVault, VaultReply.HasResult]
  | ended code stdout stderr =>
      simp only [output] at houtput
      split at houtput
      · cases houtput
      · cases houtput
        simp [Failure.isVault, VaultReply.HasResult]
  | refused reason =>
      cases houtput
      simp [Failure.isVault, VaultReply.HasResult]
  | unreadable reason =>
      cases houtput
      simp [Failure.isVault, VaultReply.HasResult]

theorem finish_refused [DepthLimits]
    (reason : String) :
    step.finish account session (.refused reason) = .error (.value reason) := by
  rw [finish, output]

theorem hasResult_of_succeeds [DepthLimits]
    {reply : VaultReply}
    (h : step.Succeeds reply) :
    reply.HasResult := by
  cases reply with
  | notStarted reason => trivial
  | ended code stdout stderr => trivial
  | refused reason => cases step <;> cases h
  | unreadable reason => cases step <;> cases h

end

end Step

/-! ### Steps one after another -/

/-- A step that has been taken, its call, and how that has ended. -/
structure Taken where
  step : Step
  call : VaultCall
  reply : VaultReply

/-- The call of a step that has been taken has a result. -/
def Taken.Answered (t : Taken) : Prop :=
  t.reply.HasResult

/-- A step as it is taken at a moment of a session. -/
def Step.taken (account : VaultAccount) (session : VaultSession) (site : Site) (step : Step) :
    Taken :=
  ⟨step, step.call account session site, step.reply account session site⟩

/-- From one moment of a session to another exactly these steps are taken, and nothing else is
done but to write notes. -/
inductive Takes [DepthLimits] (account : VaultAccount) :
    VaultSession → Site → List Taken → VaultSession → Site → Prop
  | refl (session : VaultSession) (site : Site) :
      Takes account session site [] session site
  | step {session last : VaultSession} {site after : Site} {taken : List Taken} (step : Step)
      (rest : Takes account (step.next account session site) (step.called account session site)
        taken last after) :
      Takes account session site (step.taken account session site :: taken) last after
  | note {session last : VaultSession} {site after : Site} {taken : List Taken}
      (level : NoteLevel) (message : String)
      (rest : Takes account session (site.note level message) taken last after) :
      Takes account session site taken last after

/-- Of these steps these have been taken, one after another as long as they let the session go on:
all of them, or some and then one that does not let it go on. -/
inductive Course (GoesOn : Taken → Prop) : List Step → List Taken → Except Failure Unit → Prop
  | through {taken : List Taken}
      (hgo : ∀ t ∈ taken, GoesOn t) :
      Course GoesOn (taken.map Taken.step) taken (.ok ())
  | stopped {before : List Taken} {last : Taken} {e : Failure} (rest : List Step)
      (hgo : ∀ t ∈ before, GoesOn t)
      (hstop : ¬ GoesOn last) :
      Course GoesOn (before.map Taken.step ++ last.step :: rest) (before ++ [last]) (.error e)

/-- An act takes a step and nothing else, and fails exactly if that does not let the session go
on. -/
def Step.TakenBy [DepthLimits] (account : VaultAccount) (GoesOn : Taken → Prop) (step : Step)
    (act : VaultAct Unit) : Prop :=
  ∀ (session : VaultSession) (site : Site),
    let ends := ending act session site
    Takes account session site [step.taken account session site] ends.1.2 ends.2 ∧
      (ends.1.1 = .ok () ↔ GoesOn (step.taken account session site))

section

variable {account : VaultAccount} {session mid last : VaultSession} {site between after : Site}
  {GoesOn : Taken → Prop} {steps : List Step} {taken more : List Taken} {t : Taken}
  {result : Except Failure Unit}

theorem Takes.trans [DepthLimits]
    (h : Takes account session site taken mid between)
    (h' : Takes account mid between more last after) :
    Takes account session site (taken ++ more) last after := by
  induction h with
  | refl => exact h'
  | step step _ ih => exact .step step (ih h')
  | note level message _ ih => exact .note level message (ih h')

theorem Takes.step_of_ok [DepthLimits]
    {step : Step} {next : VaultSession}
    (h : step.finish account session (step.reply account session site) = .ok next)
    (rest : Takes account next (step.called account session site) taken last after) :
    Takes account session site (step.taken account session site :: taken) last after := by
  have hnext : step.next account session site = next := by rw [Step.next, h]
  exact .step step (hnext ▸ rest)

theorem Takes.step_of_error [DepthLimits]
    {step : Step} {e : Failure}
    (h : step.finish account session (step.reply account session site) = .error e)
    (rest : Takes account session (step.called account session site) taken last after) :
    Takes account session site (step.taken account session site :: taken) last after := by
  have hnext : step.next account session site = session := by rw [Step.next, h]
  exact .step step (hnext.symm ▸ rest)

theorem Takes.outside [DepthLimits]
    (h : Takes account session site taken last after) :
    after.outside = site.outside := by
  induction h with
  | refl => rfl
  | step step _ ih => exact ih
  | note level message _ ih => exact ih.trans (Site.Keeps.note _ level message).outside

/-- Where every call has a result, every step that is taken is answered. -/
theorem Takes.answered [DepthLimits]
    (h : Takes account session site taken last after)
    (hresults : site.outside.GivesResults) :
    ∀ t ∈ taken, t.Answered := by
  induction h with
  | refl => simp
  | step step _ ih =>
      simp only [List.mem_cons, forall_eq_or_imp]
      exact ⟨hresults _ _, ih hresults⟩
  | @note session last site after taken level message _ ih =>
      have hnote := (Site.Keeps.note site level message).outside
      rw [← hnote] at hresults
      exact ih hresults

theorem Course.cons
    (ht : GoesOn t)
    (h : Course GoesOn steps taken result) :
    Course GoesOn (t.step :: steps) (t :: taken) result := by
  cases h with
  | through hgo =>
      have hall : ∀ u ∈ t :: taken, GoesOn u := by simpa using ⟨ht, hgo⟩
      exact .through hall
  | @stopped before last e rest hgo hstop =>
      have hall : ∀ u ∈ t :: before, GoesOn u := by simpa using ⟨ht, hgo⟩
      exact .stopped rest hall hstop

/-- Steps that all let the session go on are all taken. -/
theorem Course.through_of_forall
    (h : Course GoesOn steps taken result)
    (hgo : ∀ t ∈ taken, GoesOn t) :
    result = .ok () ∧ taken.map Taken.step = steps := by
  cases h with
  | through _ => exact ⟨rfl, rfl⟩
  | @stopped before last e rest _ hstop => exact absurd (hgo last (by simp)) hstop

/-- When a step is taken all steps before it have let the session go on. -/
theorem Course.before
    {earlier later : List Taken}
    (h : Course GoesOn steps (earlier ++ t :: later) result) :
    (∀ u ∈ earlier, GoesOn u) ∧ earlier.map Taken.step ++ [t.step] <+: steps := by
  generalize htaken : earlier ++ t :: later = taken at h
  cases h with
  | through hgo =>
      subst htaken
      exact ⟨fun u hu => hgo u (List.mem_append_left _ hu), later.map Taken.step, by simp⟩
  | @stopped before last e rest hgo hstop =>
      rcases List.eq_nil_or_concat later with rfl | ⟨front, back, rfl⟩
      · obtain ⟨rfl, hlast⟩ := List.append_inj' htaken rfl
        obtain rfl := List.cons.inj hlast |>.1
        exact ⟨hgo, rest, by simp⟩
      · have hsplit : (earlier ++ t :: front) ++ [back] = before ++ [last] := by simpa using htaken
        obtain ⟨rfl, -⟩ := List.append_inj' hsplit rfl
        exact ⟨fun u hu => hgo u (List.mem_append_left _ hu),
          front.map Taken.step ++ last.step :: rest, by simp⟩

/-- Steps are taken one after another as long as they let the session go on. -/
theorem course_forM [DepthLimits]
    {act : Step → VaultAct Unit}
    (hact : ∀ step ∈ steps, step.TakenBy account GoesOn (act step))
    (session : VaultSession) (site : Site) :
    let ends := ending (forM steps act) session site
    ∃ taken, Takes account session site taken ends.1.2 ends.2 ∧
      Course GoesOn steps taken ends.1.1 := by
  have hnone : ∀ t ∈ ([] : List Taken), GoesOn t := by simp
  induction steps generalizing session site with
  | nil => exact ⟨[], .refl session site, .through hnone⟩
  | cons step rest ih =>
      obtain ⟨htakes, hgo⟩ := hact step (by simp) session site
      have hrest : ∀ next ∈ rest, next.TakenBy account GoesOn (act next) :=
        fun next hnext => hact next (List.mem_cons_of_mem _ hnext)
      rw [List.forM_cons, ending_bind]
      rcases hends : ending (act step) session site with ⟨⟨e | _, next⟩, after⟩
      · rw [hends] at htakes hgo
        have hstop : ¬ GoesOn (step.taken account session site) :=
          fun h => nomatch hgo.mpr h
        have hstopped := Course.stopped (e := e) rest hnone hstop
        exact ⟨_, htakes, hstopped⟩
      · rw [hends] at htakes hgo
        obtain ⟨taken, htakes', hcourse⟩ := ih hrest next after
        exact ⟨_, htakes.trans htakes', hcourse.cons (hgo.mp rfl)⟩

/-! ### Opening and closing -/

/-- The steps that open the vault. -/
def opening [DepthLimits] (account : VaultAccount) : VaultAct Unit :=
  forM [Step.login, .unlock, .list] (Step.act account)

/-- A step that closes the vault. -/
def closingStep [DepthLimits] (account : VaultAccount) (step : Step) : VaultAct Unit :=
  quietly step.name (step.act account)

theorem inSession_eq [DepthLimits]
    {α : Type} (account : VaultAccount) (body : VaultAct α) :
    inSession account body = closing account (do opening account; body) := by
  simp [inSession, opening, Step.act]

theorem close_eq [DepthLimits]
    (account : VaultAccount) :
    close account = forM [Step.lock, .logout] (closingStep account) := by
  simp [close, closingStep, Step.act, Step.name]

theorem ending_closing
    {α : Type} (account : VaultAccount) (body : VaultAct α) (session : VaultSession) (site : Site) :
    ending (closing account body) session site =
      let done := ending body session site
      let closed := ending (close account) done.1.2 done.2
      ((closed.1.1.bind fun _ => done.1.1, closed.1.2), closed.2) := rfl

theorem ending_forM_cons [DepthLimits]
    (account : VaultAccount) (step : Step) (rest : List Step) (session : VaultSession)
    (site : Site) :
    ending (forM (step :: rest) (Step.act account)) session site =
      match step.finish account session (step.reply account session site) with
      | .ok next =>
          ending (forM rest (Step.act account)) next (step.called account session site)
      | .error e => ((.error e, session), step.called account session site) := by
  rw [List.forM_cons, ending_bind, Step.ending_act, Step.next]
  cases step.finish account session (step.reply account session site) <;> rfl

/-- A step that closes the vault lets the session go on if its call has a result. -/
theorem takenBy_closingStep [DepthLimits]
    (account : VaultAccount) {step : Step}
    (hclosing : step ∈ [Step.lock, .logout]) :
    step.TakenBy account Taken.Answered (closingStep account step) := by
  intro session site
  have hact := Step.ending_act account session site step
  rw [ending] at hact
  simp only [ending, closingStep, quietly, hact, Taken.Answered, Step.taken]
  cases hfinish : step.finish account session (step.reply account session site) with
  | ok next =>
      have hresult : (step.reply account session site).HasResult :=
        step.hasResult_of_succeeds
          ((Step.exists_finish_iff account session step _).mp ⟨next, hfinish⟩)
      exact ⟨.step step (.refl _ _), by simpa [Except.map] using hresult⟩
  | error e =>
      have hvault := Step.isVault_finish_iff account session hclosing hfinish
      cases htold : e.isVault with
      | true =>
          rw [htold] at hvault
          simp only [Except.map, htold, if_true]
          exact ⟨.step step (.note _ _ (.refl _ _)), by simpa using hvault⟩
      | false =>
          rw [htold] at hvault
          simp only [Except.map, htold]
          exact ⟨.step step (.refl _ _), by simpa using hvault⟩

/-- Locking and logging out are tried until a call has no result. -/
theorem course_close [DepthLimits]
    (account : VaultAccount) (session : VaultSession) (site : Site) :
    let ends := ending (close account) session site
    ∃ taken, Takes account session site taken ends.1.2 ends.2 ∧
      Course Taken.Answered [.lock, .logout] taken ends.1.1 := by
  rw [close_eq]
  exact course_forM (fun step hstep => takenBy_closingStep account hstep) session site

/-- Where every call has a result, locking and logging out are both tried, and the closing does
not fail. -/
theorem close_of_givesResults [DepthLimits]
    {site : Site}
    (account : VaultAccount) (session : VaultSession)
    (hresults : site.outside.GivesResults) :
    let ends := ending (close account) session site
    ends.1.1 = .ok () ∧ ∃ lock logout, Takes account session site [lock, logout] ends.1.2 ends.2 ∧
      lock.step = .lock ∧ logout.step = .logout := by
  obtain ⟨taken, htakes, hcourse⟩ := course_close account session site
  obtain ⟨hok, hsteps⟩ := hcourse.through_of_forall (htakes.answered hresults)
  refine ⟨hok, ?_⟩
  rcases taken with _ | ⟨lock, _ | ⟨logout, _ | ⟨more, rest⟩⟩⟩
  · simp at hsteps
  · simp at hsteps
  · simp only [List.map_cons, List.map_nil, List.cons.injEq, and_true] at hsteps
    exact ⟨lock, logout, htakes, hsteps.1, hsteps.2⟩
  · simp at hsteps

theorem lookup_ownVariables
    {name : String} (vars : List (String × String))
    (hname : (Text.after? "BW_".toList name.toList).isSome = true) :
    (ownVariables vars).lookup name = vars.lookup name := by
  induction vars with
  | nil => rfl
  | cons v rest ih =>
      rw [ownVariables] at ih ⊢
      rw [List.filter_cons, Site.lookup_cons]
      by_cases hv : name = v.1
      · rw [if_pos (hv ▸ hname), if_pos hv, Site.lookup_cons, if_pos hv]
      · rw [if_neg hv]
        split
        · rw [Site.lookup_cons, if_neg hv, ih]
        · exact ih

/-- A call with a session key has it in its variables. -/
theorem lookup_callVariables_key
    (account : VaultAccount) (site : Site) {session : VaultSession} {key : String}
    (hkey : session.key = some key) :
    (callVariables account site (keyVariable session)).lookup "BW_SESSION" = some key := by
  rw [callVariables, keyVariable, hkey, lookup_ownVariables _ (by decide)]
  rcases account.directory with _ | d
  · simp [Site.lookup_setVariable]
  · by_cases hd : d = "" <;> simp [hd, Site.lookup_setVariable]

/-- A variable with a null character cannot be put to the system. -/
theorem exists_refusal_of_holdsNull
    {vars : List (String × String)} {v : String × String}
    (words : List String) (directory : Option String)
    (hv : v ∈ vars)
    (hnull : Process.holdsNull v.2 = true) :
    ∃ reason, Process.refusal? words vars directory = some reason := by
  have hany : (vars.any fun v => Process.holdsNull v.1 || Process.holdsNull v.2) = true :=
    List.any_eq_true.mpr ⟨v, hv, by simp [hnull]⟩
  rw [Process.refusal?]
  split
  · exact ⟨_, rfl⟩
  · simp [hany]

/-- The system takes no call that needs a session key with a null character. -/
theorem reply_of_unfit_key
    {key : String} {step : Step}
    (hsystem : site.outside.StartsProcesses)
    (hkey : session.key = some key)
    (hnull : Process.holdsNull key = true)
    (hown : step.own account session = keyVariable session) :
    ∃ reason, step.reply account session site = .refused reason := by
  have hvar : ("BW_SESSION", key) ∈ (step.call account session site).vars := by
    obtain ⟨before, after, hvars, -⟩ :=
      List.lookup_eq_some_iff.mp (lookup_callVariables_key account site hkey)
    rw [Step.call, hown, hvars]
    simp
  obtain ⟨reason, hrefusal⟩ :=
    exists_refusal_of_holdsNull (step.call account session site).words none hvar hnull
  exact ⟨reason, hsystem _ _ _ hrefusal⟩

/-- A session with such a key is not closed: locking is tried, and fails. -/
theorem close_of_unfit_key
    {key : String}
    (account : VaultAccount)
    (hsystem : site.outside.StartsProcesses)
    (hkey : session.key = some key)
    (hnull : Process.holdsNull key = true) :
    ∃ reason, Step.lock.reply account session site = .refused reason ∧
      ending (close account) session site =
        ((.error (.value reason), session), Step.lock.called account session site) := by
  have hown : Step.lock.own account session = keyVariable session := rfl
  obtain ⟨reason, hreply⟩ := reply_of_unfit_key hsystem hkey hnull hown
  refine ⟨reason, hreply, ?_⟩
  have hlock := Step.ending_act account session site .lock
  rw [ending, Step.next, hreply, Step.finish_refused] at hlock
  have hquietly : ending (closingStep account .lock) session site =
      ((.error (.value reason), session), Step.lock.called account session site) := by
    rw [ending, closingStep, quietly, hlock]
    rfl
  rw [close_eq, List.forM_cons, ending_bind, hquietly]

/-- When unlocking returns such a key, the items cannot be listed and the vault is not locked, and
nobody logs out: the session ends with the failure to lock it. -/
theorem inSession_of_unfit_key [DepthLimits]
    {α : Type} {next : VaultSession} {key : String}
    (account : VaultAccount) (body : VaultAct α)
    (hsystem : site.outside.StartsProcesses)
    (hlogin : Step.login.finish account session (Step.login.reply account session site) =
      .ok session)
    (hunlock : Step.unlock.finish account session
      (Step.unlock.reply account session (Step.login.called account session site)) = .ok next)
    (hkey : next.key = some key)
    (hnull : Process.holdsNull key = true) :
    let left := ending (inSession account body) session site
    (∃ taken, Takes account session site taken left.1.2 left.2 ∧
      taken.map Taken.step = [.login, .unlock, .list, .lock]) ∧
    ∃ reason, left.1.1 = .error (.value reason) := by
  let unlocked := Step.unlock.called account session (Step.login.called account session site)
  let listed := Step.list.called account next unlocked
  have hunlocked : unlocked.outside.StartsProcesses := hsystem
  have hlisted : listed.outside.StartsProcesses := hsystem
  have hown : Step.list.own account next = keyVariable next := rfl
  obtain ⟨reason, hreply⟩ := reply_of_unfit_key hunlocked hkey hnull hown
  have hlist : Step.list.finish account next (Step.list.reply account next unlocked) =
      .error (.value reason) := by rw [hreply, Step.finish_refused]
  obtain ⟨reason', hreply', hclose⟩ := close_of_unfit_key account hlisted hkey hnull
  have hlock : Step.lock.finish account next (Step.lock.reply account next listed) =
      .error (.value reason') := by rw [hreply', Step.finish_refused]
  have hopening : ending (opening account) session site =
      ((.error (.value reason), next), listed) := by
    rw [opening, ending_forM_cons, hlogin]
    simp only [ending_forM_cons, hunlock]
    rw [hlist]
  have hleft : ending (inSession account body) session site =
      ((.error (.value reason'), next), Step.lock.called account next listed) := by
    rw [inSession_eq, ending_closing, ending_bind, hopening]
    simp only [hclose]
    rfl
  have htakes := Takes.step_of_ok hlogin <| Takes.step_of_ok hunlock <|
    Takes.step_of_error hlist <| Takes.step_of_error hlock <| Takes.refl _ _
  rw [hleft]
  exact ⟨⟨_, htakes, rfl⟩, reason', rfl⟩

theorem outcome_fetchSecrets [DepthLimits]
    (settings : Settings) (site : Site) :
    (outcome settings.fetchSecrets site).1 =
      if settings.vaultEnabled then
        let opened := ending (opening settings.account) VaultSession.start site
        (ending (close settings.account) opened.1.2 opened.2).1.1.bind fun _ =>
          opened.1.1.map fun _ => some (opened.1.2.items.getD [])
      else .ok none := by
  rw [Settings.fetchSecrets]
  split
  · let body : VaultAct (List Value) := do return (← get).items.getD []
    have hfetch : outcome (fetchItems settings.account) site =
        ((ending (inSession settings.account body) VaultSession.start site).1.1,
          (ending (inSession settings.account body) VaultSession.start site).2) := rfl
    have hbody : ending (do opening settings.account; body) VaultSession.start site =
        let opened := ending (opening settings.account) VaultSession.start site
        ((opened.1.1.map fun _ => opened.1.2.items.getD [], opened.1.2), opened.2) := by
      rw [ending_bind]
      rcases ending (opening settings.account) VaultSession.start site with
        ⟨⟨e | _, session⟩, site'⟩ <;> rfl
    rw [outcome_bind, hfetch, inSession_eq, ending_closing, hbody]
    dsimp only
    generalize ending (opening settings.account) VaultSession.start site = opened
    rcases ending (close settings.account) opened.1.2 opened.2 with ⟨⟨e | _, session⟩, site'⟩
    · rfl
    · rcases opened with ⟨⟨e | _, session⟩, site⟩ <;> rfl
  · rfl

end

/-- A site where the vault can be opened and has no items, but cannot be locked. -/
def sampleSite : Site :=
  ⟨[], [], 0, [], ⟨fun _ _ => .ok "", fun _ c =>
    if c.words.contains "lock" then .ended 2 "" "locked out"
    else .ended 0 (if c.words.contains "list" then "[]" else "key") "",
    fun _ _ => .error "", none, "tmp", 0⟩⟩

end Vault
end Homelab
