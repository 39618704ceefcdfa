import Homelab.Proofs.Resolution.Reservations

/-!
# What is put in the place of tokens

Two passes put reservations in the place of tokens, one for machine numbers and one for
addresses.  They serve different tokens, and what they put there is no token, so that the two
are one rewriting: of each text that is a token of either kind, by the value that it is bound
to.
-/

namespace Homelab

open Reservation

/-- A document with what was handed out in the place of its tokens. -/
def Value.withAllocations (handedOut : List (String × Allocated)) (v : Value) : Value :=
  TokenTable.rewrite
    (fun s => match handedOut.lookup s with
      | some a => a.value
      | none => .str s) v

namespace ReservedKind

variable {l : Ledger} {v : Value}

/-! ### What is handed out for a document -/

/-- The texts of the tokens for machine numbers and for addresses in a document, each once. -/
def tokenTexts (v : Value) : List String :=
  (ReservedKind.vmid.tokensOf v ++ ReservedKind.ip.tokensOf v).map Reference.text

/-- What the tokens of a document are bound to in a ledger, as it is handed out. -/
def givenFor (l : Ledger) (v : Value) : List (String × Allocated) :=
  ReservedKind.vmid.given l ((ReservedKind.vmid.tokensOf v).map Reference.text) ++
    ReservedKind.ip.given l ((ReservedKind.ip.tokensOf v).map Reference.text)

theorem mem_tokenTexts
    {text : String} :
    text ∈ tokenTexts v ↔ ∃ k : ReservedKind, ∃ r ∈ k.tokensOf v, r.text = text := by
  rw [tokenTexts, List.map_append, List.mem_append, List.mem_map, List.mem_map]
  constructor
  · rintro (h | h)
    · exact ⟨.vmid, h⟩
    · exact ⟨.ip, h⟩
  · rintro ⟨k, h⟩
    cases k with
    | vmid => exact .inl h
    | ip => exact .inr h

theorem parse?_of_mem_tokensOf
    {k : ReservedKind} {r : Reference}
    (h : r ∈ k.tokensOf v) :
    Reference.parse? r.text = some r :=
  Value.parse?_of_mem_references (Pass.mem_tokensOf.mp h).1

/-- No token is for a machine number and for an address. -/
theorem eq_of_serves
    {k k' : ReservedKind} {t : Target}
    (h : k.serves t = true)
    (h' : k'.serves t = true) :
    k = k' := by
  cases k <;> cases k' <;> cases t <;> first | rfl | (cases h; done) | cases h'

theorem eq_of_text_eq
    {k k' : ReservedKind} {r r' : Reference}
    (h : r ∈ k.tokensOf v)
    (h' : r' ∈ k'.tokensOf v)
    (htext : r.text = r'.text) :
    k = k' := by
  have hparse := parse?_of_mem_tokensOf h
  rw [htext, parse?_of_mem_tokensOf h'] at hparse
  obtain rfl := Option.some.inj hparse
  exact eq_of_serves (serves_of_mem_tokensOf h) (serves_of_mem_tokensOf h')

theorem nodup_tokenTexts
    (v : Value) :
    (tokenTexts v).Nodup := by
  rw [tokenTexts, List.map_append, List.nodup_append]
  refine ⟨Pass.nodup_tokensOf _ v, Pass.nodup_tokensOf _ v, ?_⟩
  intro t ht u hu heq
  obtain ⟨r, hr, rfl⟩ := List.mem_map.mp ht
  obtain ⟨r', hr', rfl⟩ := List.mem_map.mp hu
  exact absurd (eq_of_text_eq hr hr' heq) (by decide)

theorem lookup_given_eq_none
    {k : ReservedKind} {token : String} {ts : List String}
    (h : token ∉ ts) :
    (k.given l ts).lookup token = none := by
  rw [List.lookup_eq_none_iff]
  intro p hp
  obtain ⟨t, ht, hsome⟩ := List.mem_filterMap.mp hp
  obtain ⟨e, -, rfl⟩ := Option.map_eq_some_iff.mp hsome
  rw [bne_iff_ne]
  rintro rfl
  exact h ht

theorem lookup_given
    {k : ReservedKind} {token : String} {ts : List String} {e : Reservation k.Bound}
    (hmem : token ∈ ts)
    (h : find? token (k.book l).live = some e) :
    (k.given l ts).lookup token = some (k.allocated e.value) := by
  induction ts with
  | nil => cases hmem
  | cons t rest ih =>
      rw [← List.singleton_append, given_append, List.lookup_append]
      by_cases heq : token = t
      · subst heq
        rw [given_of_find? h]
        simp
      · rw [lookup_given_eq_none (by simpa using heq), Option.none_or]
        exact ih ((List.mem_cons.mp hmem).resolve_left heq)

/-- A token of the document that is bound is given its value. -/
theorem lookup_givenFor
    {k : ReservedKind} {r : Reference} {e : Reservation k.Bound}
    (hr : r ∈ k.tokensOf v)
    (h : find? r.text (k.book l).live = some e) :
    (givenFor l v).lookup r.text = some (k.allocated e.value) := by
  have hmem := List.mem_map_of_mem (f := Reference.text) hr
  rw [givenFor, List.lookup_append]
  cases k with
  | vmid => rw [lookup_given hmem h, Option.some_or]
  | ip =>
      have hother : r.text ∉ (ReservedKind.vmid.tokensOf v).map Reference.text := by
        intro hmem
        obtain ⟨r', hr', htext⟩ := List.mem_map.mp hmem
        exact absurd (eq_of_text_eq hr hr' htext.symm) (by decide)
      rw [lookup_given_eq_none hother, Option.none_or, lookup_given hmem h]

theorem lookup_givenFor_eq_none
    {text : String}
    (h : text ∉ tokenTexts v) :
    (givenFor l v).lookup text = none := by
  rw [tokenTexts, List.map_append, List.mem_append, not_or] at h
  rw [givenFor, List.lookup_append, lookup_given_eq_none h.1, lookup_given_eq_none h.2,
    Option.none_or]

theorem text_of_serves
    {k : ReservedKind} {s : String} {r : Reference} {e : Reservation k.Bound}
    (hs : Reference.parse? s = some r)
    (hserves : k.serves r.target = true)
    (h : find? s (k.book l).live = some e) :
    (k.table l).text k.serves true s = (k.allocated e.value).value := by
  obtain rfl := Reference.text_of_parse? hs
  simp [TokenTable.text, hs, hserves, table, h]

/-- A text that is no token of a kind has none inside it. -/
theorem unserved_of_parse?
    {k : ReservedKind} {s : String}
    (h : ∀ r, Reference.parse? s = some r → k.serves r.target = false) :
    ∀ r ∈ Reference.findAll s, k.serves r.target = false := by
  intro r hr
  cases hs : Reference.parse? s with
  | some whole =>
      rw [Reference.findAll, hs, List.mem_singleton] at hr
      rw [hr]
      exact h whole hs
  | none =>
      simp only [Reference.findAll, hs] at hr
      obtain ⟨c, -, hc⟩ := Reference.mem_embeddedIn.mp hr
      exact k.not_serves _ (Pass.embedded_target hc)

theorem text_of_not_serves
    {k : ReservedKind} {s : String}
    (h : ∀ r, Reference.parse? s = some r → k.serves r.target = false) :
    (k.table l).text k.serves true s = .str s :=
  TokenTable.text_eq_self (unserved_of_parse? h)

theorem mem_tokensOf_of_parse?
    {k : ReservedKind} {s : String} {r : Reference}
    (hmem : s ∈ v.texts)
    (hs : Reference.parse? s = some r)
    (hserves : k.serves r.target = true) :
    r ∈ k.tokensOf v := by
  refine Pass.mem_tokensOf.mpr ⟨?_, by simpa using hserves⟩
  rw [Value.references_eq, List.mem_flatMap]
  exact ⟨s, hmem, by simp [Reference.findAll, hs]⟩

/-- Where all tokens of a document are bound, the two passes put in their place what they are
given for it. -/
theorem fill_fill
    (hbound : ∀ k : ReservedKind, ∀ r ∈ k.tokensOf v, r.text ∈ tokens (k.book l).live) :
    ReservedKind.ip.fill l (ReservedKind.vmid.fill l v) = v.withAllocations (givenFor l v) := by
  rw [fill, fill, TokenTable.rewrite_rewrite, Value.withAllocations]
  refine TokenTable.rewrite_congr fun s hs => ?_
  cases hparse : Reference.parse? s with
  | none =>
      have hnone : s ∉ tokenTexts v := by
        rw [mem_tokenTexts]
        rintro ⟨k, r, hr, rfl⟩
        cases hparse.symm.trans (parse?_of_mem_tokensOf hr)
      have hstays : ∀ k : ReservedKind, (k.table l).text k.serves true s = .str s := by
        intro k
        refine text_of_not_serves fun r hr => ?_
        cases hparse.symm.trans hr
      rw [hstays, lookup_givenFor_eq_none hnone]
      exact hstays .ip
  | some r =>
      have htext := Reference.text_of_parse? hparse
      by_cases hserves : ∃ k : ReservedKind, k.serves r.target = true
      · obtain ⟨k, hserves⟩ := hserves
        have hr := mem_tokensOf_of_parse? hs hparse hserves
        obtain ⟨e, he⟩ := exists_find? (hbound k r hr)
        have hlookup := lookup_givenFor hr he
        rw [htext] at he hlookup
        rw [hlookup]
        -- a number is no text, and the pass for addresses comes last
        cases k with
        | vmid =>
            rw [text_of_serves hparse hserves he]
            rfl
        | ip =>
            have hother : ReservedKind.vmid.serves r.target = false := by
              rw [Bool.eq_false_iff]
              exact fun h => absurd (eq_of_serves h hserves) (by decide)
            rw [text_of_not_serves (k := .vmid) (l := l) fun q hq => by
              rwa [← Option.some.inj (hparse.symm.trans hq)]]
            exact text_of_serves hparse hserves he
      · have hnone : s ∉ tokenTexts v := by
          rw [mem_tokenTexts]
          rintro ⟨k, q, hq, rfl⟩
          rw [parse?_of_mem_tokensOf hq] at hparse
          obtain rfl := Option.some.inj hparse
          exact hserves ⟨k, serves_of_mem_tokensOf hq⟩
        have hstays : ∀ k : ReservedKind, (k.table l).text k.serves true s = .str s := by
          intro k
          refine text_of_not_serves fun q hq => ?_
          rw [← Option.some.inj (hparse.symm.trans hq), Bool.eq_false_iff]
          exact fun h => hserves ⟨k, h⟩
        rw [hstays, lookup_givenFor_eq_none hnone]
        exact hstays .ip

end ReservedKind

end Homelab
