import Homelab.Proofs.ModuleRun.Completed
import Homelab.Proofs.Resolution.Again
import Homelab.Proofs.Resolution.SetAside

/-!
# State files

The state of a machine is kept in a file that goes by the name and the number of the machine.
Nothing in the name is escaped, but the last dash stands in front of the number, so that no two
machines share a file.  Once a run is resolved, only a number of too many digits keeps it from
naming the file: the settings in front of the name come from the text of an inventory, with texts
in the place of texts, and can all be written.
-/

namespace Homelab

/-- What stands in a field of a record, when its texts have been changed. -/
theorem Schema.Layout.child_rewrite
    {names : List (List String)} {fields : List (String × Value)} {extra : Extra} {name : String}
    {v : Value}
    (layout : Layout names fields extra)
    (hv : fields.lookup name = some v)
    (hfull : v.isNull = false)
    (f : String → Value) :
    (TokenTable.rewrite f (.ofFields fields extra)).child name = TokenTable.rewrite f v := by
  rw [Value.ofFields_eq, TokenTable.rewrite, Value.child, TokenTable.find?_rewriteEntries,
    layout.find?_eq hv, hfull]
  rfl

namespace ModuleRun

open ActOn

/-! ### The settings of the backend -/

/-- Secrets put texts in the place of texts. -/
theorem exists_rewrite_of_withSecrets
    {secrets : Option (List Value)} {v w : Value}
    (h : withSecrets secrets v = .ok w) :
    ∃ f : String → String, w = TokenTable.rewrite (fun s => .str (f s)) v := by
  cases secrets with
  | none =>
      obtain rfl : v = w := Except.ok.inj h
      exact ⟨id, (TokenTable.rewrite_str v).symm⟩
  | some items =>
      obtain ⟨x, hx, rfl⟩ := (Value.textwise_fillSecrets items v w).mp h
      refine ⟨fun s => (x s).display, TokenTable.rewrite_congr fun s hs => ?_⟩
      obtain ⟨t, ht⟩ := Value.exists_str_of_fillSecrets (hx s hs)
      simp [ht, Value.str, Value.display, Scalar.display]

/-- The settings are those of the inventory, with the secrets in them. -/
theorem backendConfig_eq
    {run : ModuleRun} {inv : Inventory} {f : String → Value}
    (hinv : inv.WellFormed)
    (hdocument : run.inventoryDocument = TokenTable.rewrite f inv.toValue) :
    run.backendConfig =
      inv.modules.backend.config.map fun e => (e.1, TokenTable.rewrite f e.2.kept) := by
  let m := inv.modules
  have hmodules : (TokenTable.rewrite f inv.toValue).child "terraform" =
      TokenTable.rewrite f m.toValue :=
    (Inventory.layout_written hinv.clear).child_rewrite rfl rfl f
  have hbackend : (TokenTable.rewrite f m.toValue).child "backend" =
      TokenTable.rewrite f m.backend.toValue :=
    (ModuleSettings.layout hinv.modules.clear).child_rewrite rfl rfl f
  have hconfig : (TokenTable.rewrite f m.backend.toValue).child "config" =
      TokenTable.rewrite f (.object (m.backend.config.map fun e => (e.1, e.2.kept))) :=
    (StateBackend.layout hinv.modules.backend).child_rewrite rfl rfl f
  rw [backendConfig, hdocument]
  simp only [Value.lookup, hmodules, hbackend, hconfig, Value.object, TokenTable.rewrite,
    TokenTable.rewriteEntries_eq, List.map_map, List.filterMap_map]
  exact congrFun List.filterMap_eq_map _

theorem exists_argumentText
    {d : Nat} {v : Value}
    (h : v.Fits d) :
    ∃ text, argumentText v = .ok text := by
  obtain ⟨t, ht⟩ := Json.exists_compact? h
  have hinline : ∃ text, v.inlineText? = some text := by
    unfold Value.inlineText?
    split
    · exact ⟨_, rfl⟩
    · exact ⟨t, ht⟩
  obtain ⟨text, htext⟩ := hinline
  exact ⟨text, by rw [argumentText, htext]⟩

theorem exists_arguments
    {entries : List (String × Value)}
    (h : ∀ e ∈ entries, ∃ d, e.2.Fits d)
    (start : String) :
    ∃ args, arguments start entries = .ok args := by
  induction entries with
  | nil => exact ⟨[], rfl⟩
  | cons e rest ih =>
      obtain ⟨d, hd⟩ := h e List.mem_cons_self
      obtain ⟨text, htext⟩ := exists_argumentText hd
      obtain ⟨args, hargs⟩ := ih fun e' he' => h e' (List.mem_cons_of_mem e he')
      refine ⟨(start ++ e.1, text) :: args, ?_⟩
      rw [arguments] at hargs ⊢
      rw [List.mapM_cons, htext, hargs]
      rfl

/-- A run whose first step has come to its end, and that may have gone on from there. -/
inductive Initialised [DepthLimits] : ModuleRun → Prop
  | init {mode : Ledger.Mode} {begun run : ModuleRun} {site after : Site}
      (h : ending (init mode) begun site = ((.ok (), run), after)) : Initialised run
  | plan {run : ModuleRun} (mode : Ledger.Mode) (site : Site)
      (h : Initialised run) : Initialised (ending (plan mode) run site).1.2
  | apply {run : ModuleRun} (site : Site)
      (h : Initialised run) : Initialised (ending apply run site).1.2
  | cleanUp {run : ModuleRun}
      (h : Initialised run) : Initialised run.cleanUp

/-- The document of a run is that of an inventory that was read from a text, with texts in the place
of texts. -/
def Filled [DepthLimits] (run : ModuleRun) : Prop :=
  ∃ (document : Value) (inv : Inventory) (f : String → String),
    document.Fits DepthLimits.reading ∧ Inventory.ofValue document = .ok inv ∧
      run.inventoryDocument = TokenTable.rewrite (fun s => .str (f s)) inv.toValue

theorem Filled.congr [DepthLimits]
    {run next : ModuleRun}
    (h : run.Filled)
    (hsame : next.inventoryDocument = run.inventoryDocument) :
    next.Filled := by
  rwa [Filled, hsame]

theorem filled_of_init [DepthLimits]
    {mode : Ledger.Mode} {begun run : ModuleRun} {site after : Site}
    (h : ending (init mode) begun site = ((.ok (), run), after)) :
    run.Filled := by
  obtain ⟨-, inv, v, l, hload, hresolved, -⟩ := resolved_of_init h
  obtain ⟨text, -, htext⟩ := Inventory.text_of_load hload
  obtain ⟨document, hread, hinv⟩ := Ledger.documentOfText_of_ofText htext
  obtain ⟨secrets, hfilled, -⟩ := hresolved.filled
  obtain ⟨f, hf⟩ : ∃ f : String → String,
      run.inventoryDocument = TokenTable.rewrite (fun s => .str (f s)) inv.toValue := by
    rw [Inventory.document] at hfilled
    split at hfilled
    · exact exists_rewrite_of_withSecrets hfilled
    · cases hfilled
  exact ⟨document, inv, f, Json.fits_of_read (Ledger.read_of_documentOfText hread), hinv, hf⟩

/-- The third step changes nothing but the ledger. -/
theorem inventoryDocument_apply [DepthLimits]
    (run : ModuleRun) (site : Site) :
    (ending apply run site).1.2.inventoryDocument = run.inventoryDocument := by
  rw [apply, ending_bind, ending_get]
  simp only [ending_bind, ending_ofExcept, ending_lift]
  cases run.directory with
  | error e => rfl
  | ok directory =>
      cases run.environment with
      | error e => rfl
      | ok vars =>
          simp only [Act.outcome_runCommand]
          cases site.outside.command site.journal (run.applyCommand directory vars) with
          | error reason => rfl
          | ok output =>
              cases hledger : run.ledger with
              | none => rfl
              | some ledger =>
                  simp only [ending_bind, ending_lift]
                  rcases outcome (ledger.commit run.file) _ with ⟨e | settled, after⟩ <;> rfl

theorem Initialised.filled [DepthLimits]
    {run : ModuleRun}
    (h : run.Initialised) :
    run.Filled := by
  induction h with
  | init h => exact filled_of_init h
  | plan mode site h ih => exact ih.congr (of_resolution_eq (leaves_plan mode _ site).1).2.1
  | apply site h ih => exact ih.congr (inventoryDocument_apply _ site)
  | cleanUp h ih => exact ih.congr rfl

/-- Once a run is initialised, the settings of its backend can be written. -/
theorem Initialised.exists_settings [DepthLimits]
    {run : ModuleRun}
    (h : run.Initialised) :
    ∃ settings, arguments "-backend-config=" run.backendConfig = .ok settings := by
  obtain ⟨document, inv, f, hfits, hinv, hdocument⟩ := h.filled
  have hconfig : Extra.Fits DepthLimits.reading inv.modules.backend.config :=
    Inventory.fits_of_mem_extras hfits hinv (by simp [Inventory.extras])
  rw [backendConfig_eq (Inventory.wellFormed_of_ofValue hinv) hdocument]
  refine exists_arguments (fun e he => ?_) _
  obtain ⟨kept, hkept, rfl⟩ := List.mem_map.mp he
  exact ⟨_, TokenTable.fits_rewrite f (hconfig.values kept hkept).kept⟩

/-! ### The name of the file -/

/-- The argument that names the state file of a machine. -/
def stateFileArgument (s : String) (n : Nat) : String :=
  "-backend-config=key=" ++ (s ++ "-" ++ toString n ++ ".tfstate")

theorem stateArgument_eq
    (s : String) (n : Nat) :
    stateArgument (.str s) (.int n) =
      if (Scalar.int n).isOversized then .error .unwritable else .ok (stateFileArgument s n) := by
  have hserver : (Value.str s).written = .ok s := rfl
  have hnumber : (Value.int n).written =
      if (Scalar.int n).isOversized then .error .unwritable else .ok (toString n) := rfl
  rw [stateArgument, stateName, hserver, hnumber]
  cases (Scalar.int n).isOversized <;> rfl

/-- What stands in front of the last dash, and what stands behind it. -/
theorem eq_of_last_dash
    {front front' back back' : List Char}
    (hback : '-' ∉ back)
    (hback' : '-' ∉ back')
    (h : front ++ '-' :: back = front' ++ '-' :: back') :
    front = front' ∧ back = back' := by
  -- if one of the fronts were longer, its dash would stand in the back of the other
  rcases List.append_eq_append_iff.mp h with ⟨mid, hfront, hmid⟩ | ⟨mid, hfront, hmid⟩
  · cases mid with
    | nil => exact ⟨by simpa using hfront.symm, by simpa using hmid⟩
    | cons c mid =>
        have hdash : back = mid ++ '-' :: back' := (List.cons.inj hmid).2
        exact absurd (by simp [hdash]) hback
  · cases mid with
    | nil => exact ⟨by simpa using hfront, by simpa using hmid.symm⟩
    | cons c mid =>
        have hdash : back' = mid ++ '-' :: back := (List.cons.inj hmid).2
        exact absurd (by simp [hdash]) hback'

theorem toList_stateFile
    (before s after : String) (n : Nat) :
    (before ++ (s ++ "-" ++ toString n ++ after)).toList =
      before.toList ++ (s.toList ++ '-' :: Nat.toDigits 10 n) ++ after.toList := by
  simp

theorem toList_stateFileArgument
    (s : String) (n : Nat) :
    (stateFileArgument s n).toList =
      "-backend-config=key=".toList ++ (s.toList ++ '-' :: Nat.toDigits 10 n) ++
        ".tfstate".toList :=
  toList_stateFile "-backend-config=key=" s ".tfstate" n

theorem stateFileArgument_inj
    {s s' : String} {n n' : Nat} :
    stateFileArgument s n = stateFileArgument s' n' ↔ s = s' ∧ n = n' := by
  constructor
  · intro h
    have hsame := congrArg String.toList h
    rw [toList_stateFileArgument, toList_stateFileArgument] at hsame
    have hparts : s.toList ++ '-' :: Nat.toDigits 10 n = s'.toList ++ '-' :: Nat.toDigits 10 n' :=
      List.append_cancel_left (List.append_cancel_right hsame)
    have hdash : ∀ n, '-' ∉ Nat.toDigits 10 n := fun n =>
      Text.not_mem_toDigits (by decide) (by decide) (by decide)
    obtain ⟨hname, hnumber⟩ := eq_of_last_dash (hdash n) (hdash n') hparts
    refine ⟨String.toList_inj.mp hname, ?_⟩
    rw [← Text.natOfDigits_toDigits n, hnumber, Text.natOfDigits_toDigits]
  · rintro ⟨rfl, rfl⟩
    rfl

/-! ### Machines -/

/-- An initialised run of a manifest for a machine of this name and this number. -/
structure NamesMachine [DepthLimits] (run : ModuleRun) (s : String) (n : Nat) : Prop where
  initialised : run.Initialised
  name : run.manifest.vars.lookup "server_name" = some (.str s)
  number : run.manifest.vars.lookup "vm_id" = some (.int n)

/-- Only a number of too many digits keeps a run from naming the state file of its machine. -/
theorem NamesMachine.backendArguments_eq [DepthLimits]
    {run : ModuleRun} {s : String} {n : Nat}
    (h : run.NamesMachine s n) :
    ∃ settings : List String, run.backendArguments =
      if (Scalar.int n).isOversized then .error .unwritable
      else .ok (settings ++ [stateFileArgument s n]) := by
  obtain ⟨settings, hsettings⟩ := h.initialised.exists_settings
  have hserver : run.manifestVariable? "server_name" = some (.str s) := by
    rw [manifestVariable?, h.name]
    rfl
  have hnumber : run.manifestVariable? "vm_id" = some (.int n) := by
    rw [manifestVariable?, h.number]
    rfl
  refine ⟨settings.map fun e => e.1 ++ "=" ++ e.2, ?_⟩
  rw [backendArguments, hsettings, hserver, hnumber]
  simp only [stateArgument_eq]
  cases (Scalar.int n).isOversized <;> rfl

theorem NamesMachine.getLast?_backendArguments [DepthLimits]
    {run : ModuleRun} {s : String} {n : Nat} {args : List String}
    (h : run.NamesMachine s n)
    (hargs : run.backendArguments = .ok args) :
    args.getLast? = some (stateFileArgument s n) := by
  obtain ⟨settings, heq⟩ := h.backendArguments_eq
  rw [heq] at hargs
  split at hargs
  · cases hargs
  · obtain rfl := Except.ok.inj hargs
    exact List.getLast?_concat

/-- Each machine has a state file of its own: the last of the arguments that set up the backend
names it, and it is the same for two runs exactly if their machines have one name and one number. -/
theorem one_state_file_per_machine [DepthLimits]
    {run run' : ModuleRun} {s s' : String} {n n' : Nat}
    (h : run.NamesMachine s n)
    (h' : run'.NamesMachine s' n') :
    run.backendArguments.map List.getLast? =
      (if (Scalar.int n).isOversized then .error .unwritable
        else .ok (some ("-backend-config=key=" ++ (s ++ "-" ++ toString n ++ ".tfstate")))) ∧
    ∀ args args', run.backendArguments = .ok args → run'.backendArguments = .ok args' →
      (args.getLast? = args'.getLast? ↔ s = s' ∧ n = n') := by
  constructor
  · obtain ⟨settings, hargs⟩ := h.backendArguments_eq
    rw [hargs]
    cases (Scalar.int n).isOversized with
    | true => rfl
    | false => exact congrArg Except.ok List.getLast?_concat
  · intro args args' hargs hargs'
    rw [h.getLast?_backendArguments hargs, h'.getLast?_backendArguments hargs', Option.some_inj,
      stateFileArgument_inj]

/-! ### Small runs -/

/-- A manifest for a machine of this name and this number. -/
def machineDocument (s : String) (n : Nat) : Value :=
  .object [("module", .str "modules"),
    ("variables", .object [("server_name", .str s), ("vm_id", .int n)])]

theorem exists_namesMachine [DepthLimits]
    {s : String}
    (hplain : Reference.findAll s = [])
    (n : Nat) :
    ∃ run : ModuleRun, run.NamesMachine s n := by
  obtain ⟨text, hread, hload⟩ := exists_sampleLoad
  have hnone : (machineDocument s n).references = [] := by
    simp [machineDocument, Value.object, Value.references, Value.entryReferences, findAll_modules,
      hplain, Value.int]
  let manifest : ModuleManifest :=
    ⟨"modules", "master", none, .vm, [("server_name", .str s), ("vm_id", .int n)], []⟩
  let begun : ModuleRun :=
    ⟨machineDocument s n, manifest, "inventory.json", closedSettings, .map [], none, none, none,
      none⟩
  have hload' : outcome (Inventory.load begun.file) (sampleSite text) =
      (.ok (sampleInventory (.int 1)), sampleSite text) := by
    simp [Inventory.load, begun, hread, hload]
  have hfilled : (sampleInventory (.int 1)).document >>= withSecrets none =
      .ok (sampleInventory (.int 1)).toValue := by
    rw [document_sampleInventory]
    rfl
  have hlevels : begun.document.levels ≤ DepthLimits.walking := by
    refine DepthLimits.le_walking ?_
    simp [begun, machineDocument, Value.object, Value.levels, Value.entryLevels, Value.int]
  have hinit : ending (init .reserve) begun (sampleSite text) =
      ending fetch { begun with
        inventoryDocument := (sampleInventory (.int 1)).toValue
        ledger := some (Ledger.start (sampleInventory (.int 1))) } (warned (sampleSite text)) :=
    ending_init hload' (fetchSecrets_closedSettings _) hfilled hlevels
      (Value.outcome_resolve_of_no_references hnone rfl)
      (Value.ensureResolved_of_no_references hnone) rfl
  rw [ending_fetch] at hinit
  exact ⟨_, .init hinit, rfl, rfl⟩

theorem NamesMachine.exists_backendArguments [DepthLimits]
    {run : ModuleRun} {s : String} {n : Nat}
    (h : run.NamesMachine s n)
    (hn : n < 10 ^ 4) :
    ∃ args, run.backendArguments = .ok args := by
  obtain ⟨settings, hargs⟩ := h.backendArguments_eq
  have hsize : (Scalar.int n).isOversized = false := Scalar.isOversized_of_lt hn
  rw [hsize] at hargs
  exact ⟨_, hargs⟩

/-- Names with dashes and digits at their end. -/
theorem one_state_file_per_machine_dashes :
    ∃ run run' args args', NamesMachine run "web-1" 100 ∧ NamesMachine run' "web" 1100 ∧
      run.backendArguments = .ok args ∧ run'.backendArguments = .ok args' ∧
      args.getLast? = some "-backend-config=key=web-1-100.tfstate" ∧
      args.getLast? ≠ args'.getLast? := by
  have hplain : Reference.findAll "web-1" = [] := by
    have hparse : Reference.parse? "web-1" = none := by decide
    simp [Reference.findAll, hparse, Reference.embeddedIn, Reference.pieces,
      Reference.Piece.reference?]
  obtain ⟨run, h⟩ := exists_namesMachine hplain 100
  obtain ⟨run', h'⟩ := exists_namesMachine findAll_web 1100
  obtain ⟨args, hargs⟩ := h.exists_backendArguments (by decide)
  obtain ⟨args', hargs'⟩ := h'.exists_backendArguments (by decide)
  obtain ⟨hlast, hsame⟩ := one_state_file_per_machine h h'
  refine ⟨run, run', args, args', h, h', hargs, hargs', ?_, ?_⟩
  · rw [hargs, Scalar.isOversized_of_lt (by decide)] at hlast
    exact Except.ok.inj hlast
  · exact mt (hsame args args' hargs hargs').mp (by decide)

end ModuleRun
end Homelab
