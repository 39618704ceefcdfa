import Homelab.Proofs.Resolution.Tokens

/-!
# Documents that are rewritten by a table

What becomes of a text depends only on the values of its tokens, and what becomes of a document
only on what becomes of its texts.  So two rewritings are one, and a document is left alone
exactly if each of its texts is.
-/

namespace Homelab

namespace Reference

theorem mem_embeddedIn
    {s : String} {r : Reference} :
    r ∈ embeddedIn s ↔ ∃ c ∈ pieces s.toList, c.reference? = some r :=
  List.mem_filterMap

end Reference

/-! ### Texts -/

namespace TokenTable

variable {serves : Target → Bool} {table table' : TokenTable}

theorem piece_congr
    {c : Reference.Piece}
    (h : ∀ r, c.reference? = some r → serves r.target = true → table r.text = table' r.text) :
    table.piece serves c = table'.piece serves c := by
  cases hc : c.reference? with
  | none => simp [piece, hc]
  | some r =>
      cases hr : serves r.target with
      | false => simp [piece, hc, hr]
      | true => simp [piece, hc, hr, h r hc hr]

theorem text_congr
    {inLongerTexts : Bool} {s : String}
    (h : ∀ r ∈ Reference.findAll s, serves r.target = true → table r.text = table' r.text) :
    table.text serves inLongerTexts s = table'.text serves inLongerTexts s := by
  cases hs : Reference.parse? s with
  | some r =>
      have hr := h r (by simp [Reference.findAll, hs])
      cases hserves : serves r.target with
      | false => simp [text, hs, hserves]
      | true => simp [text, hs, hserves, hr hserves]
  | none =>
      have hpieces : ∀ c ∈ Reference.pieces s.toList,
          table.piece serves c = table'.piece serves c := by
        refine fun c hc => piece_congr fun r hr => h r ?_
        simp only [Reference.findAll, hs]
        exact Reference.mem_embeddedIn.mpr ⟨c, hc, hr⟩
      simp only [text, hs, List.flatMap_congr hpieces]

/-- A text without a token that is served stays as it is. -/
theorem text_eq_self
    {inLongerTexts : Bool} {s : String}
    (h : ∀ r ∈ Reference.findAll s, serves r.target = false) :
    table.text serves inLongerTexts s = .str s := by
  cases hs : Reference.parse? s with
  | some r => simp [text, hs, h r (by simp [Reference.findAll, hs])]
  | none =>
      have hpieces : ∀ c ∈ Reference.pieces s.toList, table.piece serves c = c.chars := by
        intro c hc
        cases hr : c.reference? with
        | none => simp [piece, hr]
        | some r =>
            have hserves : serves r.target = false := by
              refine h r ?_
              simp only [Reference.findAll, hs]
              exact Reference.mem_embeddedIn.mpr ⟨c, hc, hr⟩
            simp [piece, hr, hserves]
      cases inLongerTexts with
      | false => simp [text, hs]
      | true =>
          simp [text, hs, List.flatMap_congr hpieces, Reference.flatMap_chars_pieces]

mutual

/-- What a document is rewritten to depends only on what its texts become. -/
theorem rewrite_congr
    {f g : String → Value} :
    ∀ {v : Value}, (∀ s ∈ v.texts, f s = g s) → rewrite f v = rewrite g v
  | .scalar (.str s), h => h s (by simp [Value.texts])
  | .scalar .null, _ | .scalar (.bool _), _ | .scalar (.int _), _ | .scalar (.float _), _
  | .scalar (.bytes _), _ | .scalar (.date _), _ | .scalar (.moment _), _ => rfl
  | .list items, h => by rw [rewrite, rewrite, rewriteItems_congr h]
  | .map entries, h => by rw [rewrite, rewrite, rewriteEntries_congr h]
  | .set _, _ => rfl

theorem rewriteItems_congr
    {f g : String → Value} :
    ∀ {items : List Value}, (∀ s ∈ Value.itemTexts items, f s = g s) →
      rewriteItems f items = rewriteItems g items
  | [], _ => rfl
  | v :: rest, h => by
      simp only [Value.itemTexts, List.mem_append] at h
      rw [rewriteItems, rewriteItems, rewrite_congr fun s hs => h s (.inl hs),
        rewriteItems_congr fun s hs => h s (.inr hs)]

theorem rewriteEntries_congr
    {f g : String → Value} :
    ∀ {entries : List (Scalar × Value)}, (∀ s ∈ Value.entryTexts entries, f s = g s) →
      rewriteEntries f entries = rewriteEntries g entries
  | [], _ => rfl
  | (k, v) :: rest, h => by
      simp only [Value.entryTexts, List.mem_append] at h
      rw [rewriteEntries, rewriteEntries, rewrite_congr fun s hs => h s (.inl hs),
        rewriteEntries_congr fun s hs => h s (.inr hs)]

end

mutual

/-- Where each text keeps its tokens of some sort, so does the document. -/
theorem references_rewrite
    {f : String → Value} {q : Reference → Bool}
    (hf : ∀ s, (f s).references.filter q = (Reference.findAll s).filter q) :
    ∀ v : Value, (rewrite f v).references.filter q = v.references.filter q
  | .scalar (.str s) => hf s
  | .scalar .null | .scalar (.bool _) | .scalar (.int _) | .scalar (.float _)
  | .scalar (.bytes _) | .scalar (.date _) | .scalar (.moment _) | .set _ => rfl
  | .list items => itemReferences_rewrite hf items
  | .map entries => entryReferences_rewrite hf entries

theorem itemReferences_rewrite
    {f : String → Value} {q : Reference → Bool}
    (hf : ∀ s, (f s).references.filter q = (Reference.findAll s).filter q) :
    ∀ items : List Value,
      (Value.itemReferences (rewriteItems f items)).filter q =
        (Value.itemReferences items).filter q
  | [] => rfl
  | v :: rest => by
      rw [rewriteItems, Value.itemReferences, Value.itemReferences, List.filter_append,
        List.filter_append, references_rewrite hf v, itemReferences_rewrite hf rest]

theorem entryReferences_rewrite
    {f : String → Value} {q : Reference → Bool}
    (hf : ∀ s, (f s).references.filter q = (Reference.findAll s).filter q) :
    ∀ entries : List (Scalar × Value),
      (Value.entryReferences (rewriteEntries f entries)).filter q =
        (Value.entryReferences entries).filter q
  | [] => rfl
  | (k, v) :: rest => by
      rw [rewriteEntries, Value.entryReferences, Value.entryReferences, List.filter_append,
        List.filter_append, references_rewrite hf v, entryReferences_rewrite hf rest]

end

mutual

/-- Texts that are all left alone leave the document alone. -/
theorem rewrite_str : ∀ v : Value, rewrite Value.str v = v
  | .scalar (.str _) | .scalar .null | .scalar (.bool _) | .scalar (.int _) | .scalar (.float _)
  | .scalar (.bytes _) | .scalar (.date _) | .scalar (.moment _) | .set _ => rfl
  | .list items => by rw [rewrite, rewriteItems_str items]
  | .map entries => by rw [rewrite, rewriteEntries_str entries]

theorem rewriteItems_str : ∀ items : List Value, rewriteItems Value.str items = items
  | [] => rfl
  | v :: rest => by rw [rewriteItems, rewrite_str v, rewriteItems_str rest]

theorem rewriteEntries_str :
    ∀ entries : List (Scalar × Value), rewriteEntries Value.str entries = entries
  | [] => rfl
  | (k, v) :: rest => by rw [rewriteEntries, rewrite_str v, rewriteEntries_str rest]

end

mutual

/-- A document shows what each of its texts was rewritten to. -/
theorem eq_of_rewrite_eq
    {f g : String → Value} :
    ∀ {v : Value}, rewrite f v = rewrite g v → ∀ s ∈ v.texts, f s = g s
  | .scalar (.str s), h, t, ht => by
      obtain rfl := List.mem_singleton.mp ht
      exact h
  | .scalar .null, _, _, ht | .scalar (.bool _), _, _, ht | .scalar (.int _), _, _, ht
  | .scalar (.float _), _, _, ht | .scalar (.bytes _), _, _, ht | .scalar (.date _), _, _, ht
  | .scalar (.moment _), _, _, ht | .set _, _, _, ht => by cases ht
  | .list items, h, t, ht => by
      rw [rewrite, rewrite] at h
      exact eq_of_rewriteItems_eq (Value.list.inj h) t ht
  | .map entries, h, t, ht => by
      rw [rewrite, rewrite] at h
      exact eq_of_rewriteEntries_eq (Value.map.inj h) t ht

theorem eq_of_rewriteItems_eq
    {f g : String → Value} :
    ∀ {items : List Value}, rewriteItems f items = rewriteItems g items →
      ∀ s ∈ Value.itemTexts items, f s = g s
  | [], _, _, ht => by cases ht
  | v :: rest, h, t, ht => by
      rw [rewriteItems, rewriteItems] at h
      obtain ⟨hv, hrest⟩ := List.cons.inj h
      rcases List.mem_append.mp ht with ht | ht
      · exact eq_of_rewrite_eq hv t ht
      · exact eq_of_rewriteItems_eq hrest t ht

theorem eq_of_rewriteEntries_eq
    {f g : String → Value} :
    ∀ {entries : List (Scalar × Value)}, rewriteEntries f entries = rewriteEntries g entries →
      ∀ s ∈ Value.entryTexts entries, f s = g s
  | [], _, _, ht => by cases ht
  | (k, v) :: rest, h, t, ht => by
      rw [rewriteEntries, rewriteEntries] at h
      obtain ⟨hv, hrest⟩ := List.cons.inj h
      rcases List.mem_append.mp ht with ht | ht
      · exact eq_of_rewrite_eq (Prod.mk.inj hv).2 t ht
      · exact eq_of_rewriteEntries_eq hrest t ht

end

/-- A rewriting leaves a document alone exactly if it leaves each of its texts alone. -/
theorem rewrite_eq_self_iff
    {f : String → Value} {v : Value} :
    rewrite f v = v ↔ ∀ s ∈ v.texts, f s = .str s := by
  constructor
  · intro h
    exact eq_of_rewrite_eq (h.trans (rewrite_str v).symm)
  · intro h
    rw [rewrite_congr h, rewrite_str]

mutual

/-- A document that is rewritten twice has each of its texts rewritten twice. -/
theorem rewrite_rewrite
    {f g : String → Value} :
    ∀ v : Value, rewrite g (rewrite f v) = rewrite (fun s => rewrite g (f s)) v
  | .scalar (.str _) => rfl
  | .scalar .null | .scalar (.bool _) | .scalar (.int _) | .scalar (.float _)
  | .scalar (.bytes _) | .scalar (.date _) | .scalar (.moment _) | .set _ => rfl
  | .list items => by rw [rewrite, rewrite, rewrite, rewriteItems_rewriteItems items]
  | .map entries => by rw [rewrite, rewrite, rewrite, rewriteEntries_rewriteEntries entries]

theorem rewriteItems_rewriteItems
    {f g : String → Value} :
    ∀ items : List Value,
      rewriteItems g (rewriteItems f items) = rewriteItems (fun s => rewrite g (f s)) items
  | [] => rfl
  | v :: rest => by
      rw [rewriteItems, rewriteItems, rewriteItems, rewrite_rewrite v,
        rewriteItems_rewriteItems rest]

theorem rewriteEntries_rewriteEntries
    {f g : String → Value} :
    ∀ entries : List (Scalar × Value),
      rewriteEntries g (rewriteEntries f entries) =
        rewriteEntries (fun s => rewrite g (f s)) entries
  | [] => rfl
  | (k, v) :: rest => by
      rw [rewriteEntries, rewriteEntries, rewriteEntries, rewrite_rewrite v,
        rewriteEntries_rewriteEntries rest]

end

mutual

/-- The texts of a document that is rewritten are those of what its texts become. -/
theorem texts_rewrite
    {f : String → Value} :
    ∀ v : Value, (rewrite f v).texts = v.texts.flatMap fun s => (f s).texts
  | .scalar (.str s) => by simp [rewrite, Value.texts]
  | .scalar .null | .scalar (.bool _) | .scalar (.int _) | .scalar (.float _)
  | .scalar (.bytes _) | .scalar (.date _) | .scalar (.moment _) | .set _ => rfl
  | .list items => itemTexts_rewrite items
  | .map entries => entryTexts_rewrite entries

theorem itemTexts_rewrite
    {f : String → Value} :
    ∀ items : List Value, Value.itemTexts (rewriteItems f items) =
      (Value.itemTexts items).flatMap fun s => (f s).texts
  | [] => rfl
  | v :: rest => by
      rw [rewriteItems, Value.itemTexts, Value.itemTexts, List.flatMap_append, texts_rewrite v,
        itemTexts_rewrite rest]

theorem entryTexts_rewrite
    {f : String → Value} :
    ∀ entries : List (Scalar × Value), Value.entryTexts (rewriteEntries f entries) =
      (Value.entryTexts entries).flatMap fun s => (f s).texts
  | [] => rfl
  | (k, v) :: rest => by
      rw [rewriteEntries, Value.entryTexts, Value.entryTexts, List.flatMap_append,
        texts_rewrite v, entryTexts_rewrite rest]

end

end TokenTable
end Homelab
