import Homelab.Proofs.Inventory.Kept
import Homelab.Proofs.Json.Inserted
import Homelab.Proofs.Reference.Allocated
import Homelab.Proofs.Resolution.Lookups

/-!
# Values that are set aside

Instead of standing in a field itself, a value can stand under a key of its own, with a token for it
in the field.  The passes that look up put it back: they fail as without the detour, or come to the
same document with that one entry more.  For this nothing else may look at the field or at the new
key, as the pass over the values of the document itself finds them.
-/

namespace Homelab

/-! ### Tokens of the document itself -/

namespace Reference

theorem parts_ne_nil
    {path : List Char}
    (h : IsPath path) :
    parts path ≠ [] := by
  rw [← segments_eq_parts]
  exact (isPath_iff.mp h).2

theorem path_ne_nil_of_pathTarget?
    {cs : List Char} {path : List String}
    (h : pathTarget? cs = some (.config path)) :
    path ≠ [] := by
  obtain ⟨_, hpath, ⟨-, heq⟩ | ⟨-, heq⟩⟩ := pathTarget?_eq_some_iff.mp h
  · cases heq
  · exact Target.config.inj heq ▸ parts_ne_nil hpath

theorem path_ne_nil_of_bracedTarget?
    {cs : List Char} {path : List String}
    (h : bracedTarget? cs = some (.config path)) :
    path ≠ [] := by
  obtain ⟨inner, -, hinner⟩ := inner_of_bracedTarget? h
  unfold embeddedTarget? at hinner
  split at hinner
  · cases hinner
  · exact path_ne_nil_of_pathTarget? hinner

/-- A token of the document itself names something in the document, never all of it. -/
theorem path_ne_nil_of_parse?
    {s : String} {r : Reference} {path : List String}
    (h : parse? s = some r)
    (htarget : r.target = .config path) :
    path ≠ [] := by
  obtain ⟨t, hwhole, rfl⟩ := Option.map_eq_some_iff.mp h
  obtain rfl : t = .config path := htarget
  cases whole_of_wholeTarget? hwhole with
  | secret h =>
      obtain ⟨_, _, heq⟩ := exists_of_secretTarget? h
      cases heq
  | machine h =>
      obtain ⟨_, _, heq, -⟩ := machineTarget?_eq_some_iff.mp h
      cases heq
  | address h =>
      obtain ⟨_, _, heq, -⟩ := addressTarget?_eq_some_iff.mp h
      cases heq
  | path h => exact path_ne_nil_of_pathTarget? h
  | braced h => exact path_ne_nil_of_bracedTarget? h

end Reference

namespace TokenTable

theorem rewriteEntries_eq
    {f : String → Value} :
    ∀ es : Entries, rewriteEntries f es = es.map fun e => (e.1, rewrite f e.2)
  | [] => rfl
  | (k, v) :: rest => by rw [rewriteEntries, rewriteEntries_eq rest, List.map_cons]

theorem rewriteItems_eq
    {f : String → Value} (items : List Value) :
    rewriteItems f items = items.map (rewrite f) := by
  induction items with
  | nil => rfl
  | cons v rest ih => rw [rewriteItems, ih, List.map_cons]

theorem fst_rewriteEntries
    {f : String → Value} (es : Entries) :
    (rewriteEntries f es).map Prod.fst = es.map Prod.fst := by
  rw [rewriteEntries_eq, List.map_map]
  rfl

theorem find?_rewriteEntries
    {f : String → Value} (key : String) (es : Entries) :
    Entries.find? key (rewriteEntries f es) = (Entries.find? key es).map (rewrite f) := by
  induction es with
  | nil => rfl
  | cons e rest ih =>
      rw [Entries.find?] at ih ⊢
      rw [rewriteEntries, List.lookup_cons, Entries.find?, List.lookup_cons]
      cases Scalar.str key == e.1 with
      | true => rfl
      | false => exact ih

theorem keyed_rewriteEntries
    {f : String → Value} {es : Entries}
    (hes : es.Keyed) :
    Entries.Keyed (rewriteEntries f es) := by
  refine ⟨fun e he => ?_, by rw [fst_rewriteEntries]; exact hes.nodup⟩
  rw [rewriteEntries_eq] at he
  obtain ⟨e', he', rfl⟩ := List.mem_map.mp he
  exact hes.text e' he'

/-- Texts can be changed in what can stand in a JSON text. -/
theorem fits_rewrite
    {d : Nat} {v : Value}
    (f : String → String)
    (h : v.Fits d) :
    (rewrite (fun s => .str (f s)) v).Fits d := by
  induction h with
  | @scalar d s hs => cases s <;> exact .scalar hs
  | list h ih =>
      rw [rewrite, rewriteItems_eq]
      refine .list fun v hv => ?_
      obtain ⟨w, hw, rfl⟩ := List.mem_map.mp hv
      exact ih w hw
  | map keyed h ih =>
      rw [rewrite]
      refine .map (keyed_rewriteEntries keyed) fun e he => ?_
      rw [rewriteEntries_eq] at he
      obtain ⟨e', he', rfl⟩ := List.mem_map.mp he
      exact ih e' he'

theorem rewriteEntries_append
    {f : String → Value} (es more : Entries) :
    rewriteEntries f (es ++ more) = rewriteEntries f es ++ rewriteEntries f more := by
  rw [rewriteEntries_eq, rewriteEntries_eq, rewriteEntries_eq, List.map_append]

end TokenTable

theorem Pass.placesIn_eq_nil
    {m : Type → Type} {p : Pass m} {s : String}
    (hs : Reference.findAll s = []) :
    p.placesIn s = [] := by
  have hplaces : Place.findAll s = [] := by
    rwa [← Place.token_findAll, List.map_eq_nil_iff] at hs
  rw [placesIn, hplaces, List.filter_nil]

namespace Value

theorem entryTexts_eq :
    ∀ es : Entries, entryTexts es = es.flatMap fun e => e.2.texts
  | [] => rfl
  | (k, v) :: rest => by rw [entryTexts, entryTexts_eq rest, List.flatMap_cons]

/-- The texts of a value without tokens have none. -/
theorem findAll_eq_nil
    {v : Value} {s : String}
    (hv : v.references = [])
    (hs : s ∈ v.texts) :
    Reference.findAll s = [] := by
  rw [references_eq, List.flatMap_eq_nil_iff] at hv
  exact hv s hs

/-- A value without tokens is left alone. -/
theorem rewrite_text_eq_self
    {table : TokenTable} {serves : Target → Bool} {inLongerTexts : Bool} {v : Value}
    (hv : v.references = []) :
    TokenTable.rewrite (table.text serves inLongerTexts) v = v := by
  refine TokenTable.rewrite_eq_self_iff.mpr fun s hs => TokenTable.text_eq_self fun r hr => ?_
  rw [findAll_eq_nil hv hs] at hr
  cases hr

/-! ### Documents with one entry more -/

/-- A mapping with one entry more, under a new key. -/
inductive Enlarged (key : String) (v : Value) : Value → Value → Prop
  | intro {es es' : Entries}
      (keyed : es.Keyed)
      (new : Entries.find? key es = none)
      (inserted : Inserted (.str key, v) es es') : Enlarged key v (.map es) (.map es')

/-- The value of a field stands under a new key instead, and a token stands in the field. -/
inductive SetAside (field key token : String) (v : Value) : Value → Value → Prop
  | intro {front back es' : Entries}
      (keyed : Entries.Keyed (front ++ (.str field, v) :: back))
      (new : Entries.find? key (front ++ (.str field, v) :: back) = none)
      (inserted : Inserted (.str key, v) (front ++ (.str field, .str token) :: back) es') :
      SetAside field key token v (.map (front ++ (.str field, v) :: back)) (.map es')

variable {field key token : String} {v w w' : Value}

section

variable {β : Type} {k : String → List β}

/-- What is gathered from the texts of the entries. -/
theorem flatMap_entryTexts
    (es : Entries) :
    (Value.map es).texts.flatMap k = es.flatMap fun e => e.2.texts.flatMap k := by
  rw [texts, entryTexts_eq, List.flatMap_assoc]

theorem Enlarged.flatMap_texts
    (h : Enlarged key v w w')
    (hv : v.texts.flatMap k = []) :
    w'.texts.flatMap k = w.texts.flatMap k := by
  cases h with
  | intro keyed new inserted => rw [flatMap_entryTexts, flatMap_entryTexts, inserted.flatMap_eq hv]

theorem SetAside.flatMap_texts
    (h : SetAside field key token v w w')
    (hv : v.texts.flatMap k = [])
    (htoken : k token = []) :
    w'.texts.flatMap k = w.texts.flatMap k := by
  cases h with
  | intro keyed new inserted =>
      rw [flatMap_entryTexts, flatMap_entryTexts, inserted.flatMap_eq hv, List.flatMap_append,
        List.flatMap_append, List.flatMap_cons, List.flatMap_cons, hv, texts,
        List.flatMap_singleton, htoken]

end

/-- With a value without tokens there are no more tokens than before. -/
theorem Enlarged.references_eq
    (h : Enlarged key v w w')
    (hv : v.references = []) :
    w'.references = w.references := by
  rw [Value.references_eq] at hv
  rw [Value.references_eq, Value.references_eq, h.flatMap_texts hv]

/-! ### Rewriting -/

section

variable {f g : String → Value}

theorem Enlarged.rewrite
    (h : Enlarged key v w w')
    (hv : TokenTable.rewrite f v = v) :
    Enlarged key v (TokenTable.rewrite f w) (TokenTable.rewrite f w') := by
  cases h with
  | intro keyed new inserted =>
      refine .intro (TokenTable.keyed_rewriteEntries keyed) ?_ ?_
      · rw [TokenTable.find?_rewriteEntries, new, Option.map_none]
      · have hmoved := inserted.map fun e => (e.1, TokenTable.rewrite f e.2)
        rwa [hv, ← TokenTable.rewriteEntries_eq, ← TokenTable.rewriteEntries_eq] at hmoved

/-- What becomes of the entries when the value itself stays. -/
theorem SetAside.rewritten
    (h : SetAside field key token v w w')
    (hsame : ∀ s ∈ w.texts, g s = f s)
    (hv : TokenTable.rewrite f v = v) :
    ∃ front back es', TokenTable.rewrite f w = .map (front ++ (.str field, v) :: back) ∧
      TokenTable.rewrite g w' = .map es' ∧ Entries.Keyed (front ++ (.str field, v) :: back) ∧
      Entries.find? key (front ++ (.str field, v) :: back) = none ∧
      Inserted (.str key, v) (front ++ (.str field, g token) :: back) es' := by
  cases h with
  | @intro front back es' keyed new inserted =>
      have hparts : TokenTable.rewriteEntries f (front ++ (.str field, v) :: back) =
          TokenTable.rewriteEntries f front ++
            (.str field, v) :: TokenTable.rewriteEntries f back := by
        rw [TokenTable.rewriteEntries_append, TokenTable.rewriteEntries, hv]
      have hother : TokenTable.rewriteEntries g (front ++ (.str field, .str token) :: back) =
          TokenTable.rewriteEntries f front ++
            (.str field, g token) :: TokenTable.rewriteEntries f back := by
        have hin : ∀ e ∈ front ++ (.str field, v) :: back, ∀ s ∈ e.2.texts, g s = f s := by
          intro e he s hs
          exact hsame s (by rw [texts, entryTexts_eq]; exact List.mem_flatMap.mpr ⟨e, he, hs⟩)
        have hcongr : ∀ es : Entries, (∀ e ∈ es, e ∈ front ++ (.str field, v) :: back) →
            TokenTable.rewriteEntries g es = TokenTable.rewriteEntries f es := by
          intro es hes
          refine TokenTable.rewriteEntries_congr fun s hs => ?_
          rw [entryTexts_eq, List.mem_flatMap] at hs
          obtain ⟨e, he, hs⟩ := hs
          exact hin e (hes e he) s hs
        rw [TokenTable.rewriteEntries_append, TokenTable.rewriteEntries,
          hcongr front (by simp +contextual), hcongr back (by simp +contextual)]
        rfl
      have hv' : TokenTable.rewrite g v = v := by
        rw [TokenTable.rewrite_congr fun s hs => hsame s ?_, hv]
        rw [texts, entryTexts_eq, List.mem_flatMap]
        exact ⟨_, List.mem_append_right _ List.mem_cons_self, hs⟩
      have hmoved := inserted.map fun e => (e.1, TokenTable.rewrite g e.2)
      rw [hv', ← TokenTable.rewriteEntries_eq, ← TokenTable.rewriteEntries_eq, hother] at hmoved
      refine ⟨_, _, _, by rw [TokenTable.rewrite, hparts], rfl, ?_, ?_, hmoved⟩
      · rw [← hparts]
        exact TokenTable.keyed_rewriteEntries keyed
      · rw [← hparts, TokenTable.find?_rewriteEntries, new, Option.map_none]

/-- The value stays aside where the token is left alone. -/
theorem SetAside.rewrite
    (h : SetAside field key token v w w')
    (hsame : ∀ s ∈ w.texts, g s = f s)
    (hv : TokenTable.rewrite f v = v)
    (htoken : g token = .str token) :
    SetAside field key token v (TokenTable.rewrite f w) (TokenTable.rewrite g w') := by
  obtain ⟨front, back, es', hw, hw', keyed, new, inserted⟩ := h.rewritten hsame hv
  rw [hw, hw']
  exact .intro keyed new (htoken ▸ inserted)

/-- The value is in its place again where the token becomes the value. -/
theorem SetAside.enlarged
    (h : SetAside field key token v w w')
    (hsame : ∀ s ∈ w.texts, g s = f s)
    (hv : TokenTable.rewrite f v = v)
    (htoken : g token = v) :
    Enlarged key v (TokenTable.rewrite f w) (TokenTable.rewrite g w') := by
  obtain ⟨front, back, es', hw, hw', keyed, new, inserted⟩ := h.rewritten hsame hv
  rw [hw, hw']
  exact .intro keyed new (htoken ▸ inserted)

end

/-- The levels of a document do not tell whether a single value is set aside. -/
theorem SetAside.levels_le_iff
    {a : Scalar} {n : Nat}
    (h : SetAside field key token (.scalar a) w w') :
    w'.levels ≤ n ↔ w.levels ≤ n := by
  cases h with
  | intro keyed new inserted =>
      cases n with
      | zero => simp [levels]
      | succ n =>
          simp only [levels, Nat.add_le_add_iff_right, entryLevels_le_iff, inserted.mem_iff,
            List.mem_append, List.mem_cons, or_imp, forall_and, forall_eq]
          tauto

/-! ### Looking up -/

/-- Nothing is selected below a single value. -/
theorem lookup_scalar
    (a : Scalar) {path : List String}
    (hpath : path ≠ []) :
    (Value.scalar a).lookup path = null := by
  cases path with
  | nil => exact absurd rfl hpath
  | cons segment path =>
      rw [lookup]
      exact lookup_null path

theorem SetAside.lookup_key
    (h : SetAside field key token v w w') :
    w'.lookup [key] = v := by
  cases h with
  | intro keyed new inserted =>
      rw [lookup, child, Entries.find?_setAside keyed new inserted, if_pos rfl]
      rfl

/-- The value stands in the field of the one document. -/
theorem SetAside.exists_find?
    (h : SetAside field key token v w w') :
    ∃ es, w = .map es ∧ Entries.find? field es = some v := by
  cases h with
  | intro keyed new inserted =>
      exact ⟨_, rfl, by rw [Entries.find?_replaced (w := v) keyed, if_pos rfl]⟩

/-- Only who looks at the field or at the new key sees a difference. -/
theorem SetAside.lookup_eq
    {a : Scalar} {path : List String}
    (h : SetAside field key token (.scalar a) w w')
    (hpath : path ≠ [])
    (hfield : path ≠ [field])
    (hkey : path ≠ [key]) :
    w'.lookup path = w.lookup path := by
  cases h with
  | @intro front back es' keyed new inserted =>
      cases path with
      | nil => exact absurd rfl hpath
      | cons segment path =>
          rw [lookup, lookup, child, child, Entries.find?_setAside keyed new inserted]
          split
          · rename_i hsegment
            subst hsegment
            rw [new, Option.getD_none, lookup_null, Option.getD_some]
            exact lookup_scalar a fun hnil => hkey (by rw [hnil])
          · split
            · rename_i hsegment
              subst hsegment
              have hbelow : path ≠ [] := fun hnil => hfield (by rw [hnil])
              rw [Entries.find?_replaced (w := .scalar a) keyed, if_pos rfl, Option.getD_some,
                Option.getD_some, lookup_scalar _ hbelow, lookup_scalar a hbelow]
            · rfl

/-! ### Passes -/

/-- Two computations fail with the same failure, or give values that are related. -/
inductive Alike {α β : Type} (R : α → β → Prop) : Except Failure α → Except Failure β → Prop
  | failed (e : Failure) : Alike R (.error e) (.error e)
  | given {a : α} {b : β} (h : R a b) : Alike R (.ok a) (.ok b)

theorem Alike.bind
    {α β γ δ : Type} {R : α → β → Prop} {S : γ → δ → Prop}
    {x : Except Failure α} {y : Except Failure β} {f : α → Except Failure γ}
    {g : β → Except Failure δ}
    (h : Alike R x y)
    (hf : ∀ a b, x = .ok a → R a b → Alike S (f a) (g b)) :
    Alike S (x >>= f) (y >>= g) := by
  cases h with
  | failed e => exact .failed e
  | given h => exact hf _ _ rfl h

theorem Alike.mono
    {α β : Type} {R S : α → β → Prop} {x : Except Failure α} {y : Except Failure β}
    (h : Alike R x y)
    (hRS : ∀ a b, R a b → S a b) :
    Alike S x y := by
  cases h with
  | failed e => exact .failed e
  | given h => exact .given (hRS _ _ h)

section

variable {p q : Pass (Except Failure)} {find find' : Reference → Option Value} {r : Reference}

/-- A pass comes to the same with and without the detour, if it finds the same for the tokens of
the document. -/
theorem SetAside.run
    (h : SetAside field key token v w w')
    (hv : v.references = [])
    (htoken : Reference.parse? token = some r)
    (hserves : q.serves = p.serves)
    (hp : p.Thorough)
    (hq : q.Thorough)
    (hf : p.FindsBy find)
    (hg : q.FindsBy find')
    (hsame : ∀ r ∈ w.references, p.serves r.target = true → find' r = find r) :
    Alike
      (fun u u' => u = TokenTable.rewrite ((TokenTable.found find).text p.serves true) w ∧
        u' = TokenTable.rewrite ((TokenTable.found find').text p.serves true) w')
      (p.run w) (q.run w') := by
  have hplaces : q.places w' = p.places w' := by
    unfold Pass.places Pass.placesIn
    rw [hserves]
  have hfound : ∀ place ∈ p.places w,
      place.formlessBy? (.found find') = place.formlessBy? (.found find) := by
    intro place hplace
    have hmem : place.token ∈ (p.places w).map Pass.Place.token := List.mem_map_of_mem hplace
    rw [Pass.token_places, List.mem_filter] at hmem
    have hread := parse?_of_mem_references hmem.1
    simp only [Pass.Place.formlessBy?, TokenTable.found, hread, Option.bind_some,
      hsame _ hmem.1 hmem.2]
  -- The token is a whole text, so its value needs no text; the value itself has no tokens.
  have hfaults : (p.places w').filterMap (Pass.Place.formlessBy? (.found find')) =
      (p.places w).filterMap (Pass.Place.formlessBy? (.found find')) := by
    simp only [Pass.places, List.filterMap_flatMap]
    refine h.flatMap_texts (List.flatMap_eq_nil_iff.mpr fun s hs => ?_) ?_
    · rw [Pass.placesIn_eq_nil (findAll_eq_nil hv hs), List.filterMap_nil]
    · rw [List.filterMap_eq_nil_iff]
      intro place hplace
      rw [Pass.placesIn, Pass.Place.findAll, htoken] at hplace
      obtain rfl := List.mem_singleton.mp (List.mem_filter.mp hplace).1
      rfl
  have hfault : (q.places w').findSome? (Pass.Place.formlessBy? (.found find')) =
      (p.places w).findSome? (Pass.Place.formlessBy? (.found find)) := by
    rw [hplaces, ← List.head?_filterMap, hfaults, List.filterMap_congr hfound,
      List.head?_filterMap]
  rw [Pass.run_findsBy hp hf, Pass.run_findsBy hq hg, hfault, hserves]
  cases (p.places w).findSome? (Pass.Place.formlessBy? (.found find)) with
  | some u => exact .failed _
  | none => exact .given ⟨rfl, rfl⟩

/-- A pass that does not serve the token leaves the value aside. -/
theorem SetAside.run_of_unserved
    (h : SetAside field key token v w w')
    (hv : v.references = [])
    (htoken : Reference.parse? token = some r)
    (hp : p.Thorough)
    (hf : p.FindsBy find)
    (hnot : p.serves r.target = false) :
    Alike (SetAside field key token v) (p.run w) (p.run w') := by
  have hkept : (TokenTable.found find).text p.serves true token = .str token := by
    rw [TokenTable.text, htoken]
    simp [hnot]
  refine (h.run hv htoken rfl hp hp hf hf fun _ _ _ => rfl).mono ?_
  rintro _ _ ⟨rfl, rfl⟩
  exact h.rewrite (fun _ _ => rfl) (rewrite_text_eq_self hv) hkept

end

/-! ### The passes that look up -/

/-- The document as the pass over the values of the document itself finds it. -/
def gathered (inventory : Option Value) (secrets : Option (List Value)) (v : Value) :
    Except Failure Value := do
  let v ← fillWith secrets fillSecrets v
  let inventory ← inventory.mapM (fillWith secrets fillSecrets)
  fillWith inventory fillInventory v

theorem lookups_eq
    (inventory : Option Value) (secrets : Option (List Value)) (v : Value) :
    (resolve ⟨inventory, secrets, none, none⟩ v : Except Failure Value) =
      gathered inventory secrets v >>= fillConfig := by
  have habsent : ∀ {α : Type} (step : α → Value → Except Failure Value) (v : Value),
      Value.fillWith none step v = pure v := fun _ _ => rfl
  simp only [resolve, gathered, bind_assoc, habsent, bind_pure]

/-- A document whose only tokens are for the address of the build host is left alone so far. -/
theorem looked_of_hostAddress
    (hall : ∀ r ∈ v.references, r.target = .hostAddress)
    (inventory : Option Value) (secrets : Option (List Value)) :
    gathered inventory secrets v = .ok v ∧ (fillConfig v : Except Failure Value) = .ok v := by
  have hleft : ∀ p : Pass (Except Failure), p.Thorough → p.serves .hostAddress = false →
      p.run v = .ok v := by
    intro p hp hserves
    refine Meaning.eq_of_stateless (y := .ok v)
      (Pass.ending_run_of_unserved hp (fun r hr => ?_) ())
    rw [hall r hr, hserves]
  have hsecrets : (fillWith secrets fillSecrets v : Except Failure Value) = .ok v := by
    cases secrets with
    | none => rfl
    | some items => exact hleft _ (Pass.thorough_vault items) rfl
  obtain ⟨filled, hfilled⟩ := exists_fillRoot inventory secrets
  refine ⟨?_, hleft _ (Pass.thorough_of_inLongerTexts rfl) rfl⟩
  simp only [gathered, hsecrets, hfilled, bind_eq_ok]
  refine ⟨v, rfl, filled, rfl, ?_⟩
  cases filled with
  | none => rfl
  | some root => exact hleft _ (Pass.thorough_of_inLongerTexts rfl) rfl

variable {r : Reference} {path : List String}

theorem SetAside.fillWith
    {α : Type} {source : Option α} {step : α → Value → Except Failure Value}
    (h : SetAside field key token v w w')
    (hstep : ∀ a, Alike (SetAside field key token v) (step a w) (step a w')) :
    Alike (SetAside field key token v) (fillWith source step w) (fillWith source step w') := by
  cases source with
  | none => exact .given h
  | some a => exact hstep a

/-- Secrets and values of the inventory are filled in with the value aside. -/
theorem SetAside.gathered
    (h : SetAside field key token v w w')
    (hv : v.references = [])
    (htoken : Reference.parse? token = some r)
    (htarget : r.target = .config path)
    (inventory : Option Value) (secrets : Option (List Value)) :
    Alike (SetAside field key token v) (gathered inventory secrets w)
      (gathered inventory secrets w') := by
  have hsecrets : Alike (SetAside field key token v) (Value.fillWith secrets fillSecrets w)
      (Value.fillWith secrets fillSecrets w') :=
    h.fillWith fun items => h.run_of_unserved hv htoken (Pass.thorough_vault items)
      (Pass.findsBy_vault items) (by rw [htarget]; rfl)
  refine hsecrets.bind fun u u' _ hu => ?_
  cases (inventory.mapM (Value.fillWith secrets fillSecrets) : Except Failure _) with
  | error e => exact .failed e
  | ok root =>
      exact hu.fillWith fun root => hu.run_of_unserved hv htoken
        (Pass.thorough_of_inLongerTexts rfl) (Pass.findsBy_inventory root) (by rw [htarget]; rfl)

/-- What the pass over the values of a document itself finds for a token. -/
def own? (root : Value) (r : Reference) : Option Value :=
  match r.target with
  | .config path => Pass.found? (root.lookup path)
  | _ => none

/-- The same is found with and without the detour, if nothing looks at the field or at the new
key. -/
theorem SetAside.own?_eq
    {a : Scalar}
    (h : SetAside field key token (.scalar a) w w')
    (hclear : ∀ r ∈ w.references, r.target ≠ .config [field] ∧ r.target ≠ .config [key]) :
    ∀ r ∈ w.references, own? w' r = own? w r := by
  intro r hr
  obtain ⟨hfield, hkey⟩ := hclear r hr
  cases ht : r.target with
  | config path =>
      rw [ht] at hfield hkey
      have hpath := Reference.path_ne_nil_of_parse? (parse?_of_mem_references hr) ht
      simp only [own?, ht, h.lookup_eq hpath (by simpa using hfield) (by simpa using hkey)]
  | _ => simp only [own?, ht]

/-- The pass over the values of the document itself puts the value back, if nothing else looks at
the field or at the new key. -/
theorem SetAside.fillConfig
    {a : Scalar}
    (h : SetAside field key token (.scalar a) w w')
    (hv : (Value.scalar a).references = [])
    (hgiven : a ≠ .null)
    (htoken : Reference.parse? token = some r)
    (htarget : r.target = .config [key])
    (hclear : ∀ r ∈ w.references, r.target ≠ .config [field] ∧ r.target ≠ .config [key]) :
    Alike (Enlarged key (.scalar a)) (fillConfig w) (fillConfig w') := by
  have hsame := h.own?_eq hclear
  have hserves : (Pass.config w : Pass (Except Failure)).serves r.target = true := by
    rw [htarget]
    rfl
  have hfound : own? w' r = some (.scalar a) := by
    simp only [own?, htarget, h.lookup_key, Pass.found?]
    cases a with
    | null => exact absurd rfl hgiven
    | _ => rfl
  have hback : (TokenTable.found (own? w')).text (Pass.config w : Pass (Except Failure)).serves true
      token = .scalar a := by
    rw [TokenTable.text, htoken]
    simp only [hserves, if_true]
    rw [Reference.text_of_parse? htoken, TokenTable.found, htoken, Option.bind_some, hfound]
    rfl
  refine (h.run (p := Pass.config w) (q := Pass.config w') hv htoken rfl
    (Pass.thorough_of_inLongerTexts rfl) (Pass.thorough_of_inLongerTexts rfl)
    (Pass.findsBy_config w) (Pass.findsBy_config w') fun r hr _ => hsame r hr).mono ?_
  rintro _ _ ⟨rfl, rfl⟩
  refine h.enlarged (fun s hs => TokenTable.text_congr fun r hr _ => ?_)
    (rewrite_text_eq_self hv) hback
  have hmem : r ∈ w.references := by
    rw [references_eq, List.mem_flatMap]
    exact ⟨s, hs, hr⟩
  rw [TokenTable.found, TokenTable.found, Reference.parse?_of_mem_findAll hr]
  exact hsame r hmem

end Value
end Homelab
