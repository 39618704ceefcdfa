import Homelab.CommandLine
import Homelab.Proofs.Outcome

/-!
# What leaves the files alone

Only one act writes to a file: the one that replaces it.  Whatever else is done on a site adds
to its journal or sets variables of the environment, and leaves the files and all that is
outside as they are, also where it fails.  So this holds of everything that is built of such
acts: of the reading of files, of the sessions of the vault, and of external commands.
-/

namespace Homelab

/-- A site with the files of another, and with the same outside. -/
structure Site.Keeps (site next : Site) : Prop where
  files : next.files = site.files
  outside : next.outside = site.outside

namespace Site.Keeps

variable {site mid next : Site}

theorem refl
    (site : Site) :
    site.Keeps site :=
  ⟨rfl, rfl⟩

theorem trans
    (h : site.Keeps mid)
    (h' : mid.Keeps next) :
    site.Keeps next :=
  ⟨h'.files.trans h.files, h'.outside.trans h.outside⟩

theorem record
    (site : Site) (e : Event) :
    site.Keeps (site.record e) :=
  ⟨rfl, rfl⟩

theorem note
    (site : Site) (level : NoteLevel) (message : String) :
    site.Keeps (site.note level message) := by
  unfold Site.note
  split
  · exact refl site
  · exact record site _

/-- What a path leads to depends only on the files. -/
theorem contentOf
    (h : site.Keeps next)
    (path : String) :
    next.contentOf path = site.contentOf path := by
  have hfolder : next.isFolder path = site.isFolder path := by
    rw [Site.isFolder, Site.isFolder, h.files]
  simp only [Site.contentOf, Site.file?, hfolder, h.files]

theorem read
    (h : site.Keeps next)
    (path : String) :
    next.read path = site.read path := by
  rw [Site.read, Site.read, h.contentOf]

end Site.Keeps

namespace Site

theorem lookup_cons
    (v : String × String) (vars : List (String × String)) (name : String) :
    (v :: vars).lookup name = if name = v.1 then some v.2 else vars.lookup name := by
  rw [List.lookup_cons]
  by_cases hname : name = v.1
  · simp [hname]
  · rw [beq_eq_false_iff_ne.mpr hname, if_neg hname]

/-- A variable that is set has its new value, and the others keep theirs. -/
theorem lookup_setVariable
    (name value : String) (vars : List (String × String)) (other : String) :
    (setVariable name value vars).lookup other =
      if other = name then some value else vars.lookup other := by
  induction vars with
  | nil => rw [setVariable, lookup_cons]
  | cons v rest ih =>
      rw [setVariable]
      split
      · rename_i hname
        rw [lookup_cons, lookup_cons, hname]
        split <;> rfl
      · rename_i hname
        rw [lookup_cons, lookup_cons, ih]
        split
        · rename_i hother
          rw [if_neg (hother ▸ hname)]
        · rfl

end Site

/-! ### Acts -/

/-- An act that leaves the files alone, however it ends. -/
def Act.LeavesFiles {α : Type} (a : Act α) : Prop :=
  ∀ site : Site, site.Keeps (outcome a site).2

namespace Act

variable {α β : Type}

theorem leavesFiles_pure
    (x : α) :
    (pure x : Act α).LeavesFiles :=
  Site.Keeps.refl

theorem leavesFiles_throw
    (e : Failure) :
    (throw e : Act α).LeavesFiles :=
  Site.Keeps.refl

theorem leavesFiles_get :
    (get : Act Site).LeavesFiles :=
  Site.Keeps.refl

theorem leavesFiles_modify
    {next : Site → Site}
    (h : ∀ site : Site, site.Keeps (next site)) :
    (modify next : Act PUnit).LeavesFiles :=
  h

theorem leavesFiles_ofExcept
    (r : Except Failure α) :
    (ofExcept r).LeavesFiles := by
  intro site
  rw [outcome_ofExcept]
  exact .refl site

theorem LeavesFiles.bind
    {a : Act α} {f : α → Act β}
    (h : a.LeavesFiles)
    (hf : ∀ x, (f x).LeavesFiles) :
    LeavesFiles (a >>= f) := by
  intro site
  have hfirst := h site
  rw [outcome_bind]
  rcases ha : outcome a site with ⟨e | x, next⟩
  · rwa [ha] at hfirst
  · rw [ha] at hfirst
    exact hfirst.trans (hf x next)

theorem leavesFiles_readFile
    (file : String) :
    (readFile file).LeavesFiles :=
  leavesFiles_get.bind fun _ => leavesFiles_ofExcept _

theorem leavesFiles_contentOf
    (file : String) :
    (contentOf file).LeavesFiles :=
  leavesFiles_get.bind fun _ => leavesFiles_ofExcept _

theorem leavesFiles_note
    (level : NoteLevel) (message : String) :
    (note level message).LeavesFiles :=
  fun site => .note site level message

theorem leavesFiles_callVault
    (c : VaultCall) :
    (callVault c).LeavesFiles :=
  fun site => .record site _

theorem outcome_runCommand
    (c : Command) (site : Site) :
    outcome (runCommand c) site =
      (match site.outside.command site.journal c with
        | .ok output => .ok output
        | .error fault => .error (fault.failure c),
      site.record (.command c)) := by
  rw [runCommand, outcome_bind, outcome_get]
  simp only [outcome_bind, outcome_set]
  cases site.outside.command site.journal c <;> rfl

theorem leavesFiles_runCommand
    (c : Command) :
    (runCommand c).LeavesFiles := by
  intro site
  rw [outcome_runCommand]
  exact .record site _

end Act

/-! ### Acts with a state of their own -/

namespace ActOn

variable {σ τ α β : Type}

/-- How an act ends that has a state of its own, that state, and the site as it leaves it. -/
def ending (a : ActOn σ α) (s : σ) (site : Site) : (Except Failure α × σ) × Site := a s site

@[simp] theorem ending_pure
    (x : α) (s : σ) (site : Site) :
    ending (pure x) s site = ((.ok x, s), site) := rfl

@[simp] theorem ending_throw
    (e : Failure) (s : σ) (site : Site) :
    ending (throw e : ActOn σ α) s site = ((.error e, s), site) := rfl

@[simp] theorem ending_get
    (s : σ) (site : Site) :
    ending get s site = ((.ok s, s), site) := rfl

@[simp] theorem ending_modify
    (f : σ → σ) (s : σ) (site : Site) :
    ending (modify f) s site = ((.ok ⟨⟩, f s), site) := rfl

@[simp] theorem ending_lift
    (a : Act α) (s : σ) (site : Site) :
    ending (lift a) s site = (((outcome a site).1, s), (outcome a site).2) := rfl

@[simp] theorem ending_ofExcept
    (r : Except Failure α) (s : σ) (site : Site) :
    ending (ofExcept r) s site = ((r, s), site) := by
  rw [ofExcept, ending_lift, outcome_ofExcept]

theorem ending_bind
    (a : ActOn σ α) (f : α → ActOn σ β) (s : σ) (site : Site) :
    ending (a >>= f) s site =
      match ending a s site with
      | ((.ok x, s'), site') => ending (f x) s' site'
      | ((.error e, s'), site') => ((.error e, s'), site') := by
  have hbind : ending (a >>= f) s site =
      (ExceptT.bindCont f (ending a s site).1.1 : StateT σ (StateM Site) _)
        (ending a s site).1.2 (ending a s site).2 := rfl
  rw [hbind]
  rcases ending a s site with ⟨⟨_ | x, s'⟩, site'⟩ <;> rfl

/-- A sequence that gives a value is one value after another. -/
theorem ending_bind_eq_ok
    {a : ActOn σ α} {f : α → ActOn σ β} {s s' : σ} {site site' : Site} {y : β} :
    ending (a >>= f) s site = ((.ok y, s'), site') ↔
      ∃ x mid between, ending a s site = ((.ok x, mid), between) ∧
        ending (f x) mid between = ((.ok y, s'), site') := by
  rw [ending_bind]
  rcases ending a s site with ⟨⟨_ | x, mid⟩, between⟩
  · simp
  · constructor
    · exact fun h => ⟨x, mid, between, rfl, h⟩
    · rintro ⟨_, _, _, hfirst, h⟩
      obtain ⟨hvalue, rfl⟩ := Prod.mk.inj hfirst
      obtain ⟨hx, rfl⟩ := Prod.mk.inj hvalue
      rwa [Except.ok.inj hx]

/-- A sequence does not fail in a way in which none of its parts fails. -/
theorem ending_bind_ne_error
    {a : ActOn σ α} {f : α → ActOn σ β} {e : Failure}
    (ha : ∀ s site, (ending a s site).1.1 ≠ .error e)
    (hf : ∀ x s site, (ending (f x) s site).1.1 ≠ .error e)
    (s : σ) (site : Site) :
    (ending (a >>= f) s site).1.1 ≠ .error e := by
  have hfirst := ha s site
  rw [ending_bind]
  generalize ending a s site = ends at hfirst ⊢
  rcases ends with ⟨⟨e' | x, mid⟩, between⟩
  · exact fun h => hfirst (congrArg Except.error (Except.error.inj h))
  · exact hf x mid between

/-- An act that leaves the files alone, and what can be seen of its state. -/
def Leaves (view : σ → τ) (a : ActOn σ α) : Prop :=
  ∀ (s : σ) (site : Site),
    view (a.ending s site).1.2 = view s ∧ site.Keeps (a.ending s site).2

variable {view : σ → τ}

theorem leaves_pure
    (x : α) :
    Leaves view (pure x) :=
  fun _ site => ⟨rfl, .refl site⟩

theorem leaves_throw
    (e : Failure) :
    Leaves view (throw e : ActOn σ α) :=
  fun _ site => ⟨rfl, .refl site⟩

theorem leaves_get :
    Leaves view (get : ActOn σ σ) :=
  fun _ site => ⟨rfl, .refl site⟩

theorem leaves_modify
    {f : σ → σ}
    (h : ∀ s, view (f s) = view s) :
    Leaves view (modify f : ActOn σ PUnit) :=
  fun s site => ⟨h s, .refl site⟩

theorem leaves_lift
    {a : Act α}
    (h : a.LeavesFiles) :
    Leaves view (lift a) :=
  fun _ site => ⟨rfl, h site⟩

theorem leaves_ofExcept
    (r : Except Failure α) :
    Leaves view (ofExcept r) :=
  leaves_lift (Act.leavesFiles_ofExcept r)

theorem Leaves.bind
    {a : ActOn σ α} {f : α → ActOn σ β}
    (h : Leaves view a)
    (hf : ∀ x, Leaves view (f x)) :
    Leaves view (a >>= f) := by
  intro s site
  have hfirst := h s site
  rw [ending_bind]
  rcases ha : ending a s site with ⟨⟨e | x, s'⟩, site'⟩
  · rwa [ha] at hfirst
  · rw [ha] at hfirst
    have hnext := hf x s' site'
    exact ⟨hnext.1.trans hfirst.1, hfirst.2.trans hnext.2⟩

/-- An act with a state of its own that leaves the files alone. -/
abbrev LeavesFiles (a : ActOn σ α) : Prop := Leaves (fun _ => ()) a

theorem leavesFiles_modify
    {f : σ → σ} :
    LeavesFiles (modify f : ActOn σ PUnit) :=
  leaves_modify fun _ => rfl

theorem Leaves.leavesFiles
    {a : ActOn σ α}
    (h : Leaves view a) :
    LeavesFiles a :=
  fun s site => ⟨rfl, (h s site).2⟩

end ActOn

/-! ### Sessions of the vault -/

namespace Vault

open ActOn

theorem leavesFiles_call
    {account : VaultAccount} {step : String} {arguments : List String}
    {own : List (String × String)} {done : List Int} :
    (call account step arguments own done).LeavesFiles := by
  refine Act.leavesFiles_get.bind fun site => (Act.leavesFiles_callVault _).bind fun reply => ?_
  cases reply with
  | notStarted reason => exact Act.leavesFiles_throw _
  | ended code stdout stderr =>
      by_cases hdone : done.contains code = true
      · simp only [hdone, if_true]
        exact Act.leavesFiles_pure _
      · simp only [hdone]
        exact Act.leavesFiles_throw _
  | refused reason => exact Act.leavesFiles_throw _
  | unreadable reason => exact Act.leavesFiles_throw _

theorem leavesFiles_login
    (account : VaultAccount) :
    LeavesFiles (login account) :=
  (leaves_lift leavesFiles_call).bind fun _ => leaves_pure _

theorem leavesFiles_unlock
    (account : VaultAccount) :
    LeavesFiles (unlock account) := by
  refine (leaves_lift leavesFiles_call).bind fun key => ?_
  by_cases hkey : key = ""
  · simp only [hkey, if_true]
    exact (leaves_throw _).bind fun _ => leavesFiles_modify.bind fun _ => leaves_pure _
  · simp only [hkey, if_false]
    exact leavesFiles_modify.bind fun _ => leaves_pure _

theorem leavesFiles_listItems [DepthLimits]
    (account : VaultAccount) :
    LeavesFiles (listItems account) :=
  leaves_get.bind fun _ => (leaves_lift leavesFiles_call).bind fun _ =>
    (leaves_ofExcept _).bind fun _ => leavesFiles_modify.bind fun _ => leaves_pure _

theorem leavesFiles_lock
    (account : VaultAccount) :
    LeavesFiles (lock account) :=
  leaves_get.bind fun _ => (leaves_lift leavesFiles_call).bind fun _ =>
    leavesFiles_modify

theorem leavesFiles_logout
    (account : VaultAccount) :
    LeavesFiles (logout account) :=
  leaves_get.bind fun _ => (leaves_lift leavesFiles_call).bind fun _ =>
    leavesFiles_modify

theorem leavesFiles_quietly
    {step : VaultAct Unit}
    (name : String)
    (h : LeavesFiles step) :
    LeavesFiles (quietly name step) := by
  intro session site
  have hstep := (h session site).2
  unfold ending at hstep
  refine ⟨rfl, ?_⟩
  rw [ending, quietly]
  rcases hends : step session site with ⟨⟨e | _, next⟩, after⟩
  · rw [hends] at hstep
    cases hvault : e.isVault with
    | true => simpa [hvault] using hstep.trans (.note after _ _)
    | false => simpa [hvault] using hstep
  · rw [hends] at hstep
    exact hstep

theorem leavesFiles_close
    (account : VaultAccount) :
    LeavesFiles (close account) :=
  (leavesFiles_quietly _ (leavesFiles_lock account)).bind fun _ =>
    leavesFiles_quietly _ (leavesFiles_logout account)

theorem leavesFiles_closing
    {α : Type} {body : VaultAct α}
    (account : VaultAccount)
    (h : LeavesFiles body) :
    LeavesFiles (closing account body) :=
  fun session site => ⟨rfl, (h session site).2.trans (leavesFiles_close account _ _).2⟩

theorem leavesFiles_inSession [DepthLimits]
    {α : Type} {body : VaultAct α}
    (account : VaultAccount)
    (h : LeavesFiles body) :
    LeavesFiles (inSession account body) :=
  leavesFiles_closing account <| (leavesFiles_login account).bind fun _ =>
    (leavesFiles_unlock account).bind fun _ => (leavesFiles_listItems account).bind fun _ => h

theorem leavesFiles_fetchItems [DepthLimits]
    (account : VaultAccount) :
    (fetchItems account).LeavesFiles :=
  fun site => (leavesFiles_inSession account
    (leaves_get.bind fun _ => leaves_pure _) VaultSession.start site).2

end Vault

/-! ### Files that are read -/

namespace Settings

theorem leavesFiles_load
    (given : Entries) :
    (load given).LeavesFiles := by
  refine Act.leavesFiles_get.bind fun site => ?_
  cases site.file? envFile with
  | none =>
      refine (Act.leavesFiles_pure _).bind fun _ => ?_
      dsimp only
      split
      · exact Act.leavesFiles_pure _
      · exact Act.leavesFiles_throw _
  | some content =>
      refine (Act.leavesFiles_ofExcept _).bind fun _ => (Act.leavesFiles_pure _).bind fun _ => ?_
      dsimp only
      split
      · exact Act.leavesFiles_pure _
      · exact Act.leavesFiles_throw _

theorem leavesFiles_fetchSecrets [DepthLimits]
    (settings : Settings) :
    settings.fetchSecrets.LeavesFiles := by
  unfold fetchSecrets
  split
  · exact (Vault.leavesFiles_fetchItems _).bind fun _ => Act.leavesFiles_pure _
  · exact (Act.leavesFiles_note _ _).bind fun _ => Act.leavesFiles_pure _

end Settings

namespace Document

theorem leavesFiles_loadGraph [DepthLimits]
    (path : String) :
    (loadGraph path).LeavesFiles :=
  (Act.leavesFiles_contentOf _).bind fun _ => Act.leavesFiles_ofExcept _

theorem leavesFiles_loadMapping [DepthLimits]
    (path : String) (other : Failure) :
    (loadMapping path other).LeavesFiles := by
  refine ((leavesFiles_loadGraph path).bind fun _ => Act.leavesFiles_ofExcept _).bind fun v => ?_
  split
  · exact Act.leavesFiles_pure _
  · exact Act.leavesFiles_throw _

theorem leavesFiles_loadManifest [DepthLimits]
    (path : String) :
    (loadManifest path).LeavesFiles :=
  leavesFiles_loadMapping path _

theorem leavesFiles_loadCredentials [DepthLimits]
    (path : String) :
    (loadCredentials path).LeavesFiles := by
  refine (leavesFiles_loadGraph path).bind fun g => ?_
  cases g.entries? with
  | none => exact Act.leavesFiles_throw _
  | some entries =>
      refine (Act.leavesFiles_ofExcept _).bind fun client =>
        (Act.leavesFiles_ofExcept _).bind fun secret => ?_
      cases client with
      | none => exact Act.leavesFiles_throw _
      | some client =>
          cases secret with
          | none => exact Act.leavesFiles_throw _
          | some secret => exact Act.leavesFiles_pure _

end Document

theorem Inventory.leavesFiles_load [DepthLimits]
    (file : String) :
    (load file).LeavesFiles :=
  (Act.leavesFiles_readFile file).bind fun _ => Act.leavesFiles_ofExcept _

/-- An inventory that is loaded is the one in the text of the file. -/
theorem Inventory.text_of_load [DepthLimits]
    {file : String} {inv : Inventory} {site : Site}
    (h : (outcome (load file) site).1 = .ok inv) :
    ∃ text, site.read file = .ok text ∧ ofText file text = .ok inv := by
  rw [load, outcome_bind, outcome_readFile] at h
  cases hread : site.read file with
  | error e => simp [hread] at h
  | ok text =>
      simp only [hread, outcome_ofExcept] at h
      exact ⟨text, rfl, h⟩

end Homelab
