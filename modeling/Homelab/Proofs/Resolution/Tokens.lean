import Homelab.Resolution.Rewrite
import Mathlib.Data.List.Nodup
import Mathlib.Data.List.TakeWhile

/-!
# The tokens of a document

The text of a token says what the token stands for: whether it was found as a whole text or
in braces inside a longer one, its text is read as this token again.  So the tokens that are
left in a document can be told by their texts, and those that a pass serves are among them.
-/

namespace Homelab

/-! ### Every element once -/

section EraseDups

variable {α β : Type} [DecidableEq α] [DecidableEq β]

theorem filter_eraseDups
    (q : α → Bool) :
    ∀ as : List α, as.eraseDups.filter q = (as.filter q).eraseDups
  | [] => rfl
  | a :: as => by
      have hshort := List.length_filter_le (fun b => !b == a) as
      have hcomm : (as.filter fun b => !b == a).filter q =
          (as.filter q).filter fun b => !b == a := by
        rw [List.filter_filter, List.filter_filter]
        exact List.filter_congr fun b _ => Bool.and_comm _ _
      rw [List.eraseDups_cons, List.filter_cons, List.filter_cons,
        filter_eraseDups q (as.filter fun b => !b == a), hcomm]
      cases ha : q a with
      | true => simp [List.eraseDups_cons]
      | false =>
          have hkeep : (as.filter q).filter (fun b => !b == a) = as.filter q := by
            rw [List.filter_eq_self]
            intro b hb
            rw [List.mem_filter] at hb
            have hne : b ≠ a := by
              rintro rfl
              simp [ha] at hb
            simpa using hne
          simp [hkeep]
termination_by as => as.length

/-- Where a name can be read back, the names are each once if the things are. -/
theorem filterMap_eraseDups_map
    {name : α → β} {read? : β → Option α} :
    ∀ {as : List α}, (∀ a ∈ as, read? (name a) = some a) →
      (as.map name).eraseDups.filterMap read? = as.eraseDups
  | [], _ => rfl
  | a :: as, h => by
      have hshort := List.length_filter_le (fun b => !b == a) as
      have hfilter : (as.map name).filter (fun t => !t == name a) =
          (as.filter fun b => !b == a).map name := by
        rw [List.filter_map]
        congr 1
        refine List.filter_congr fun b hb => ?_
        have hname : (name b == name a) = (b == a) := by
          rw [Bool.eq_iff_iff, beq_iff_eq, beq_iff_eq]
          refine ⟨fun heq => ?_, fun heq => by rw [heq]⟩
          have hread := h b (by simp [hb])
          rw [heq, h a (by simp)] at hread
          exact (Option.some.inj hread).symm
        rw [Function.comp_apply, hname]
      rw [List.map_cons, List.eraseDups_cons, List.eraseDups_cons,
        List.filterMap_cons_some (h a (by simp)), hfilter,
        filterMap_eraseDups_map fun b hb => h b (by simp [(List.mem_filter.mp hb).1])]
termination_by as => as.length

theorem eraseDups_concat
    (as : List α) (a : α) :
    (as ++ [a]).eraseDups = if a ∈ as then as.eraseDups else as.eraseDups ++ [a] := by
  rw [List.eraseDups_append]
  by_cases ha : a ∈ as <;> simp [List.removeAll, ha, List.eraseDups_cons]

theorem eraseDups_prefix
    {as bs : List α}
    (h : as <+: bs) :
    as.eraseDups <+: bs.eraseDups := by
  obtain ⟨more, rfl⟩ := h
  rw [List.eraseDups_append]
  exact List.prefix_append _ _

theorem nodup_eraseDups :
    ∀ as : List α, as.eraseDups.Nodup
  | [] => by simp
  | a :: as => by
      have hshort := List.length_filter_le (fun b => !b == a) as
      rw [List.eraseDups_cons, List.nodup_cons, List.mem_eraseDups]
      exact ⟨by simp, nodup_eraseDups _⟩
termination_by as => as.length

end EraseDups

/-! ### Tokens by their texts -/

theorem Text.after?_of_ne
    {a c : Char} {start cs : List Char}
    (h : a ≠ c) :
    after? (a :: start) (c :: cs) = none := if_neg h

namespace Reference

theorem takeWhile_inner
    {inner : List Char}
    (h : ∀ c ∈ inner, notBrace c = true)
    (rest : List Char) :
    (inner ++ '\x7d' :: rest).takeWhile notBrace = inner ∧
      (inner ++ '\x7d' :: rest).dropWhile notBrace = '\x7d' :: rest := by
  have hbrace : notBrace '\x7d' = false := rfl
  rw [List.takeWhile_append_of_pos h, List.dropWhile_append_of_pos h,
    List.takeWhile_cons_of_neg (by simp [hbrace]), List.dropWhile_cons_of_neg (by simp [hbrace])]
  exact ⟨List.append_nil inner, rfl⟩

/-- A text that is one embedded token stands for what its inside does. -/
theorem wholeTarget?_braced
    {inner : List Char}
    (hinner : ∀ c ∈ inner, notBrace c = true)
    (hembeddable : isEmbeddable inner = true) :
    wholeTarget? ('\x7b' :: inner ++ ['\x7d']) = embeddedTarget? inner := by
  obtain ⟨htake, hdrop⟩ := takeWhile_inner hinner []
  have hembedded : embedded? (inner ++ ['\x7d']) = some (inner, []) := by
    rw [embedded?, hdrop]
    simp only [htake]
    rw [if_pos hembeddable]
  have hline : dropLineEnd ('\x7b' :: inner ++ ['\x7d']) = '\x7b' :: inner ++ ['\x7d'] := by
    rw [dropLineEnd, List.getLast?_concat, if_neg (by decide)]
  have hpath : ∀ keyword : String, keyword.toList.head? = some 'i' ∨
      keyword.toList.head? = some 'c' →
      pathAfter? keyword ('\x7b' :: inner ++ ['\x7d']) = none := by
    intro keyword hhead
    rw [pathAfter?]
    cases hk : keyword.toList with
    | nil => simp [hk] at hhead
    | cons k ks =>
        have hne : k ≠ '\x7b' := by
          rintro rfl
          simp [hk] at hhead
        rw [List.cons_append, List.cons_append, Text.after?_of_ne hne, Option.filter_none]
  have hsecret : secretTarget? ('\x7b' :: inner ++ ['\x7d']) = none := rfl
  have hmachine : machineTarget? ('\x7b' :: inner ++ ['\x7d']) = none := rfl
  have haddress : addressTarget? ('\x7b' :: inner ++ ['\x7d']) = none := rfl
  have hhost : ('\x7b' :: inner ++ ['\x7d']) ≠ "host:ip".toList := by
    rw [List.cons_append]
    exact fun heq => absurd (List.head_eq_of_cons_eq heq) (by decide)
  rw [wholeTarget?, if_neg hhost, hsecret]
  simp only [hline, hmachine, haddress]
  rw [hpath "inventory" (.inl rfl), hpath "config" (.inr rfl), if_neg (by simp), List.cons_append,
    bracedTarget?, hembedded]

theorem of_embedded?
    {cs inner rest : List Char}
    (h : embedded? cs = some (inner, rest)) :
    isEmbeddable inner = true ∧ ∀ c ∈ inner, notBrace c = true := by
  unfold embedded? at h
  split at h
  · simp only at h
    split at h
    · rename_i hembeddable
      simp only [Option.some.injEq, Prod.mk.injEq] at h
      obtain ⟨rfl, -⟩ := h
      exact ⟨hembeddable, fun c hc => List.mem_takeWhile_imp hc⟩
    · cases h
  · cases h

theorem parse?_of_mem_pieces
    {cs : List Char} {piece : Piece} {r : Reference}
    (hpiece : piece ∈ pieces cs)
    (hr : piece.reference? = some r) :
    parse? r.text = some r := by
  fun_induction pieces cs with
  | case1 => cases hpiece
  | case2 rest inner left h ih =>
      rcases List.mem_cons.mp hpiece with rfl | hmem
      · obtain ⟨hembeddable, hinner⟩ := of_embedded? h
        obtain ⟨t, ht, rfl⟩ := Option.map_eq_some_iff.mp hr
        rw [parse?]
        simp only [Piece.chars, String.toList_ofList, wholeTarget?_braced hinner hembeddable, ht]
        rfl
      · exact ih hmem
  | case3 rest h ih =>
      rcases List.mem_cons.mp hpiece with rfl | hmem
      · cases hr
      · exact ih hmem
  | case4 c rest hc ih =>
      rcases List.mem_cons.mp hpiece with rfl | hmem
      · cases hr
      · exact ih hmem

theorem text_of_parse?
    {s : String} {r : Reference}
    (h : parse? s = some r) :
    r.text = s := by
  obtain ⟨t, -, rfl⟩ := Option.map_eq_some_iff.mp h
  rfl

/-- The text of a token that was found somewhere is this token. -/
theorem parse?_of_mem_findAll
    {s : String} {r : Reference}
    (h : r ∈ findAll s) :
    parse? r.text = some r := by
  unfold findAll at h
  split at h
  · rename_i whole hwhole
    obtain rfl := List.mem_singleton.mp h
    obtain ⟨t, -, rfl⟩ := Option.map_eq_some_iff.mp hwhole
    exact hwhole
  · obtain ⟨piece, hpiece, hr⟩ := List.mem_filterMap.mp h
    exact parse?_of_mem_pieces hpiece hr

end Reference

/-! ### The texts of a document -/

namespace Value

mutual

/-- The texts of a document outside of keys, in the order of writing. -/
def texts : Value → List String
  | .scalar (.str s) => [s]
  | .scalar _ => []
  | .list items => itemTexts items
  | .map entries => entryTexts entries
  | .set _ => []

/-- The texts of the members of a list. -/
def itemTexts : List Value → List String
  | [] => []
  | v :: rest => texts v ++ itemTexts rest

/-- The texts of the values of a mapping. -/
def entryTexts : List (Scalar × Value) → List String
  | [] => []
  | (_, v) :: rest => texts v ++ entryTexts rest

end

mutual

/-- The tokens of a document are those of its texts. -/
theorem references_eq :
    ∀ v : Value, v.references = v.texts.flatMap Reference.findAll
  | .scalar (.str s) => by simp [references, texts]
  | .scalar .null | .scalar (.bool _) | .scalar (.int _) | .scalar (.float _)
  | .scalar (.bytes _) | .scalar (.date _) | .scalar (.moment _) => rfl
  | .list items => by rw [references, texts, itemReferences_eq items]
  | .map entries => by rw [references, texts, entryReferences_eq entries]
  | .set _ => rfl

theorem itemReferences_eq :
    ∀ items : List Value, itemReferences items = (itemTexts items).flatMap Reference.findAll
  | [] => rfl
  | v :: rest => by
      rw [itemReferences, itemTexts, List.flatMap_append, references_eq v, itemReferences_eq rest]

theorem entryReferences_eq :
    ∀ entries : List (Scalar × Value),
      entryReferences entries = (entryTexts entries).flatMap Reference.findAll
  | [] => rfl
  | (k, v) :: rest => by
      rw [entryReferences, entryTexts, List.flatMap_append, references_eq v,
        entryReferences_eq rest]

end

theorem parse?_of_mem_references
    {v : Value} {r : Reference}
    (h : r ∈ v.references) :
    Reference.parse? r.text = some r := by
  rw [references_eq, List.mem_flatMap] at h
  obtain ⟨s, -, hr⟩ := h
  exact Reference.parse?_of_mem_findAll hr

end Value

/-! ### The tokens that a pass serves -/

namespace Pass

variable {m : Type → Type}

/-- The tokens of a document that a pass serves, each once, in the order in which they are
listed as unresolved. -/
def tokensOf (p : Pass m) (v : Value) : List Reference :=
  (v.unresolved.filterMap Reference.parse?).filter fun r => p.serves r.target

theorem tokensOf_eq
    (p : Pass m) (v : Value) :
    p.tokensOf v = (v.references.filter fun r => p.serves r.target).eraseDups := by
  rw [tokensOf, Value.unresolved, Reference.texts,
    filterMap_eraseDups_map fun r hr => Value.parse?_of_mem_references hr, filter_eraseDups]

theorem mem_tokensOf
    {p : Pass m} {v : Value} {r : Reference} :
    r ∈ p.tokensOf v ↔ r ∈ v.references ∧ p.serves r.target = true := by
  rw [tokensOf_eq, List.mem_eraseDups, List.mem_filter]

theorem nodup_tokensOf
    (p : Pass m) (v : Value) :
    ((p.tokensOf v).map Reference.text).Nodup := by
  have hnodup : (p.tokensOf v).Nodup := by
    rw [tokensOf_eq]
    exact nodup_eraseDups _
  refine List.Nodup.map_on (fun r hr r' hr' htext => ?_) hnodup
  have hread := Value.parse?_of_mem_references (mem_tokensOf.mp hr).1
  rw [htext, Value.parse?_of_mem_references (mem_tokensOf.mp hr').1] at hread
  exact (Option.some.inj hread).symm

end Pass
end Homelab
