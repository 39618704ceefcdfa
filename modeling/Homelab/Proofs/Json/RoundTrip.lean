import Homelab.Proofs.Json.Fits
import Homelab.Proofs.Json.Number
import Homelab.Proofs.Json.Text

/-!
# JSON files read back

A value that can stand in a JSON text is written with the keys of every mapping sorted,
and read back as the value with its keys sorted.  The texts are put together part by
part, and a part is read back whatever stands behind it, as long as that does not go on
with a number.
-/

namespace Homelab
namespace Json

variable {limit : Nat}

/-! ### What begins a value -/

/-- A character that begins a value: no blank, no closing bracket or brace, and no byte
order mark. -/
def StartsValue (c : Char) : Prop :=
  isSpace c = false ∧ c ≠ ']' ∧ c ≠ '\x7d' ∧ c ≠ Char.ofNat 0xfeff

/-- A character that begins a value without parts that is no text. -/
def StartsWord (c : Char) : Prop :=
  StartsValue c ∧ c ≠ '"' ∧ c ≠ '[' ∧ c ≠ '\x7b'

theorem startsWord_of_digit
    {c : Char}
    (hc : Text.isAsciiDigit c = true) :
    StartsWord c := by
  have hne : ∀ d, Text.isAsciiDigit d = false → c ≠ d := by
    rintro d hd rfl
    simp [hd] at hc
  refine ⟨⟨?_, hne _ (by decide), hne _ (by decide), hne _ (by decide)⟩, hne _ (by decide),
    hne _ (by decide), hne _ (by decide)⟩
  simp [isSpace, hne ' ' (by decide), hne '\t' (by decide), hne '\n' (by decide),
    hne '\r' (by decide)]

theorem startsWord_of_readWord
    {cs : List Char} {r : Value × List Char}
    (h : readWord cs = .ok r) :
    ∃ c rest, cs = c :: rest ∧ StartsWord c := by
  unfold readWord at h
  split at h
  all_goals
    first
    | exact ⟨_, _, rfl, by unfold StartsWord StartsValue; decide⟩
    | obtain ⟨c, rest, rfl, hc⟩ := digit_of_readNumber h
      exact ⟨c, rest, rfl, startsWord_of_digit hc⟩

theorem readValue_word
    {fuel nesting : Nat} {cs : List Char} {r : Value × List Char}
    (h : readWord cs = .ok r) :
    readValue limit (fuel + 1) nesting cs = .ok r := by
  obtain ⟨c, rest, rfl, -, hquote, hbracket, hbrace⟩ := startsWord_of_readWord h
  rw [← h]
  refine readValue.eq_5 _ _ _ _ ?_ ?_ ?_
  · exact fun _ heq => hquote (List.cons.inj heq).1
  · exact fun _ heq => hbracket (List.cons.inj heq).1
  · exact fun _ heq => hbrace (List.cons.inj heq).1

/-! ### Parts -/

/-- A text that is read as a value, whatever stands behind it. -/
structure Reads limit (nesting : Nat) (t : List Char) (v : Value) : Prop where
  starts : ∃ c cs, t = c :: cs ∧ StartsValue c
  reads : ∀ fuel rest, 2 * t.length ≤ fuel → EndsNumber rest →
    readValue limit fuel nesting (t ++ rest) = .ok (v, rest)

/-- Blanks, at least one. -/
def Blank (b : List Char) : Prop := b ≠ [] ∧ ∀ c ∈ b, isSpace c = true

theorem skipSpace_blank
    {b : List Char} {c : Char} {rest : List Char}
    (hb : ∀ c ∈ b, isSpace c = true)
    (hc : isSpace c = false) :
    skipSpace (b ++ c :: rest) = c :: rest := by
  induction b with
  | nil => simp [skipSpace, hc]
  | cons d b ih =>
      have hd := hb d (by simp)
      have hrec := ih fun e he => hb e (by simp [he])
      simpa [skipSpace, hd] using hrec

theorem skipSpace_nonspace
    {c : Char} {rest : List Char}
    (hc : isSpace c = false) :
    skipSpace (c :: rest) = c :: rest := skipSpace_blank (b := []) (by simp) hc

theorem isSpace_ends
    {c : Char} {rest : List Char}
    (hc : isSpace c = true) :
    EndsNumber (c :: rest) := by
  have hne : ∀ d, isSpace d = false → c ≠ d := by
    rintro d hd rfl
    simp [hd] at hc
  refine ⟨?_, by simpa using hne '.' (by decide), by simpa using hne 'e' (by decide),
    by simpa using hne 'E' (by decide)⟩
  refine noDigit_cons ?_
  by_contra h
  simp only [Bool.not_eq_false] at h
  have := (startsWord_of_digit h).1.1
  simp [hc] at this

theorem endsNumber_blank
    {b rest : List Char}
    (hb : Blank b) :
    EndsNumber (b ++ rest) := by
  obtain ⟨c, b, rfl⟩ := List.exists_cons_of_ne_nil hb.1
  exact isSpace_ends (hb.2 c (by simp))

theorem endsNumber_comma
    (rest : List Char) :
    EndsNumber (',' :: rest) :=
  ⟨noDigit_cons rfl, by simp, by simp, by simp⟩

theorem reads_word
    {t : List Char} {v : Value}
    (h : ∀ rest, EndsNumber rest → readWord (t ++ rest) = .ok (v, rest)) :
    ∀ nesting, Reads limit nesting t v := by
  have hnil : EndsNumber [] := ⟨by simp [NoDigit], by simp, by simp, by simp⟩
  intro nesting
  obtain ⟨c, cs, hcs, hc⟩ := startsWord_of_readWord (h [] hnil)
  rw [List.append_nil] at hcs
  refine ⟨⟨c, cs, hcs, hc.1⟩, ?_⟩
  intro fuel rest hfuel hrest
  obtain ⟨fuel, rfl⟩ : ∃ f, fuel = f + 1 := by
    refine ⟨fuel - 1, ?_⟩
    rw [hcs, List.length_cons] at hfuel
    omega
  exact readValue_word (h rest hrest)

theorem reads_text
    (limit nesting : Nat) (s : String) :
    Reads limit nesting (stringText s).toList (.str s) := by
  constructor
  · obtain ⟨cs, hcs, -⟩ := readText_stringText 0 s []
    rw [List.append_nil] at hcs
    exact ⟨'"', cs, hcs, by unfold StartsValue; decide⟩
  · intro fuel rest hfuel hrest
    obtain ⟨cs, hcs, hread⟩ := readText_stringText ((stringText s).toList ++ rest).length s rest
    obtain ⟨fuel, rfl⟩ : ∃ f, fuel = f + 1 := by
      refine ⟨fuel - 1, ?_⟩
      have hpos : 0 < (stringText s).toList.length := by simp [stringText]
      omega
    rw [hcs] at hread ⊢
    rw [readValue, hread]
    rfl

/-- A scalar that fits is read back. -/
theorem reads_scalar
    {s : Scalar}
    (h : s.Fits) :
    ∃ t, scalarText? s = some t ∧ ∀ nesting, Reads limit nesting t.toList (.scalar s) := by
  cases s with
  | null => exact ⟨_, rfl, reads_word fun rest _ => rfl⟩
  | bool b => cases b <;> exact ⟨_, rfl, reads_word fun rest _ => rfl⟩
  | int n =>
      have hsmall := (Scalar.fits_int_iff n).mp h
      refine ⟨toString n, by rw [scalarText?, if_neg (by simp [hsmall])], ?_⟩
      exact reads_word fun rest hrest => readWord_int h hrest
  | float x => exact ⟨_, rfl, reads_word fun rest hrest => readWord_float h hrest⟩
  | str s => exact ⟨_, rfl, fun nesting => reads_text limit nesting s⟩
  | bytes data => exact h.elim
  | date d => exact h.elim
  | moment t => exact h.elim

/-! ### Lists -/

/-- Parts behind one another, with a comma and blanks in front of all but the first. -/
def joinedBy (b : List Char) (t : List Char) (ts : List (List Char)) : List Char :=
  t ++ ts.flatMap fun u => ',' :: b ++ u

theorem joinedBy_cons
    (b t u : List Char) (us : List (List Char)) :
    joinedBy b t (u :: us) = t ++ ',' :: (b ++ joinedBy b u us) := by
  simp [joinedBy]

theorem intercalate_eq_joinedBy
    (b t : List Char) (ts : List (List Char)) :
    (',' :: b).intercalate (t :: ts) = joinedBy b t ts := by
  induction ts generalizing t with
  | nil => simp [joinedBy, List.intercalate_singleton]
  | cons u us ih =>
      rw [List.intercalate_cons_cons, ih, joinedBy_cons]
      simp

theorem skipSpace_joinedBy
    {b t rest : List Char} {ts : List (List Char)}
    (hb : ∀ c ∈ b, isSpace c = true)
    (ht : ∃ c cs, t = c :: cs ∧ StartsValue c) :
    skipSpace (b ++ (joinedBy b t ts ++ rest)) = joinedBy b t ts ++ rest := by
  obtain ⟨c, cs, rfl, hc⟩ := ht
  exact skipSpace_blank hb hc.1

/-- The members of a list are read back. -/
theorem readItems_joinedBy
    {nesting : Nat} {b stop : List Char}
    (hb : ∀ c ∈ b, isSpace c = true)
    (hstop : Blank stop)
    {t : List Char} {v : Value} {ts : List (List Char)} {vs : List Value}
    (ht : Reads limit nesting t v)
    (hts : List.Forall₂ (Reads limit nesting) ts vs)
    (fuel : Nat) (rest : List Char)
    (hfuel : 2 * (joinedBy b t ts).length + 1 ≤ fuel) :
    readItems limit fuel nesting (joinedBy b t ts ++ (stop ++ ']' :: rest)) =
      .ok (v :: vs, rest) := by
  induction hts generalizing t v fuel with
  | nil =>
      obtain ⟨fuel, rfl⟩ : ∃ f, fuel = f + 1 := ⟨fuel - 1, by omega⟩
      simp only [joinedBy, List.flatMap_nil, List.append_nil] at hfuel ⊢
      rw [readItems, ht.reads fuel _ (by omega) (endsNumber_blank hstop)]
      simp only [skipSpace_blank hstop.2 (show isSpace ']' = false by decide)]
  | @cons u w us ws hu hus ih =>
      obtain ⟨fuel, rfl⟩ : ∃ f, fuel = f + 1 := ⟨fuel - 1, by omega⟩
      rw [joinedBy_cons] at hfuel ⊢
      simp only [List.length_append, List.length_cons] at hfuel
      simp only [List.append_assoc, List.cons_append]
      rw [readItems, ht.reads fuel _ (by omega) (endsNumber_comma _)]
      simp only [skipSpace_nonspace (show isSpace ',' = false by decide),
        skipSpace_joinedBy hb hu.starts, ih hu fuel (by omega)]
      rfl

/-- A list is read back. -/
theorem reads_list
    {nesting : Nat} {b stop : List Char}
    (hnesting : nesting < limit)
    (hb : ∀ c ∈ b, isSpace c = true)
    (hstop : Blank stop)
    {t : List Char} {v : Value} {ts : List (List Char)} {vs : List Value}
    (ht : Reads limit (nesting + 1) t v)
    (hts : List.Forall₂ (Reads limit (nesting + 1)) ts vs) :
    Reads limit nesting ('[' :: (b ++ (joinedBy b t ts ++ (stop ++ [']'])))) (.list (v :: vs)) := by
  refine ⟨⟨'[', _, rfl, by unfold StartsValue; decide⟩, ?_⟩
  intro fuel rest hfuel hrest
  simp only [List.length_cons, List.length_append] at hfuel
  obtain ⟨fuel, rfl⟩ : ∃ f, fuel = f + 1 := ⟨fuel - 1, by omega⟩
  simp only [List.cons_append, List.append_assoc, List.nil_append]
  rw [readValue, if_neg (by omega), skipSpace_joinedBy hb ht.starts]
  have hread := readItems_joinedBy hb hstop ht hts fuel rest (by omega)
  obtain ⟨c, cs, rfl, hc⟩ := ht.starts
  rw [joinedBy, List.cons_append, List.cons_append] at hread ⊢
  split
  · rename_i heq
    exact absurd (List.cons.inj heq).1 hc.2.1
  · rw [hread]
    rfl

theorem reads_emptyList
    {nesting : Nat}
    (hnesting : nesting < limit) :
    Reads limit nesting ['[', ']'] (.list []) := by
  refine ⟨⟨'[', _, rfl, by unfold StartsValue; decide⟩, ?_⟩
  intro fuel rest hfuel hrest
  obtain ⟨fuel, rfl⟩ : ∃ f, fuel = f + 1 := ⟨fuel - 1, by simp at hfuel; omega⟩
  simp only [List.cons_append, List.nil_append]
  rw [readValue, if_neg (by omega), skipSpace_nonspace (by decide)]
  rfl

/-! ### Mappings -/

/-- A text that is read as an entry of a mapping. -/
def ReadsEntry (limit nesting : Nat) (u : List Char) (e : Scalar × Value) : Prop :=
  ∃ key t, u = (stringText key).toList ++ ':' :: ' ' :: t ∧ e.1 = .str key ∧
    Reads limit nesting t e.2

theorem ReadsEntry.forall_key
    {nesting : Nat} {ts : List (List Char)} {es : Entries}
    (h : List.Forall₂ (ReadsEntry limit nesting) ts es) :
    ∀ e ∈ es, ∃ s, e.1 = .str s := by
  induction h with
  | nil => simp
  | cons he _ ih =>
      obtain ⟨key, t, -, hkey, -⟩ := he
      exact List.forall_mem_cons.mpr ⟨⟨key, hkey⟩, ih⟩

theorem ReadsEntry.starts
    {nesting : Nat} {u : List Char} {e : Scalar × Value}
    (h : ReadsEntry limit nesting u e) :
    ∃ c cs, u = c :: cs ∧ StartsValue c := by
  obtain ⟨key, t, rfl, -, -⟩ := h
  obtain ⟨c, cs, hcs, hc⟩ := (reads_text limit nesting key).starts
  exact ⟨c, cs ++ ':' :: ' ' :: t, by rw [hcs]; rfl, hc⟩

/-- An entry is read up to what stands behind it. -/
theorem readMembers_entry
    {nesting fuel : Nat} {u rest : List Char} {e : Scalar × Value}
    (h : ReadsEntry limit nesting u e)
    (hfuel : 2 * u.length ≤ fuel)
    (hrest : EndsNumber rest) :
    readMembers limit (fuel + 1) nesting (u ++ rest) =
      match skipSpace rest with
      | '\x7d' :: left => .ok ([e], left)
      | ',' :: more =>
          (readMembers limit fuel nesting (skipSpace more)).map fun r => (e :: r.1, r.2)
      | left => .error (.at .comma left.length) := by
  obtain ⟨key, t, rfl, hkey, ht⟩ := h
  obtain ⟨k, v⟩ := e
  simp only at hkey ht
  subst hkey
  obtain ⟨cs, hcs, hread⟩ := readText_stringText
    ((stringText key).toList ++ (':' :: ' ' :: (t ++ rest))).length key (':' :: ' ' :: (t ++ rest))
  simp only [List.length_append, List.length_cons] at hfuel
  have hvalue := ht.reads fuel rest (by omega) hrest
  obtain ⟨c, ds, hstart, hc⟩ := ht.starts
  have hskip : skipSpace (' ' :: (t ++ rest)) = t ++ rest := by
    rw [hstart]
    exact skipSpace_blank (b := [' ']) (by simp [isSpace]) hc.1
  have hcolon : skipSpace (':' :: ' ' :: (t ++ rest)) = ':' :: ' ' :: (t ++ rest) :=
    skipSpace_nonspace (by decide)
  simp only [List.append_assoc, List.cons_append]
  rw [hcs] at hread ⊢
  have hmembers := readMembers.eq_2 limit nesting fuel cs
  simp only [hread, hcolon, hskip, hvalue] at hmembers
  exact hmembers

/-- The entries of a mapping are read back. -/
theorem readMembers_joinedBy
    {nesting : Nat} {b stop : List Char}
    (hb : ∀ c ∈ b, isSpace c = true)
    (hstop : Blank stop)
    {t : List Char} {e : Scalar × Value} {ts : List (List Char)} {es : Entries}
    (ht : ReadsEntry limit nesting t e)
    (hts : List.Forall₂ (ReadsEntry limit nesting) ts es)
    (fuel : Nat) (rest : List Char)
    (hfuel : 2 * (joinedBy b t ts).length + 1 ≤ fuel) :
    readMembers limit fuel nesting (joinedBy b t ts ++ (stop ++ '\x7d' :: rest)) =
      .ok (e :: es, rest) := by
  induction hts generalizing t e fuel with
  | nil =>
      obtain ⟨fuel, rfl⟩ : ∃ f, fuel = f + 1 := ⟨fuel - 1, by omega⟩
      simp only [joinedBy, List.flatMap_nil, List.append_nil] at hfuel ⊢
      rw [readMembers_entry ht (by omega) (endsNumber_blank hstop),
        skipSpace_blank hstop.2 (show isSpace '\x7d' = false by decide)]
      rfl
  | @cons u w us ws hu hus ih =>
      obtain ⟨fuel, rfl⟩ : ∃ f, fuel = f + 1 := ⟨fuel - 1, by omega⟩
      rw [joinedBy_cons] at hfuel ⊢
      simp only [List.length_append, List.length_cons] at hfuel
      simp only [List.append_assoc, List.cons_append]
      rw [readMembers_entry ht (by omega) (endsNumber_comma _)]
      simp only [skipSpace_nonspace (show isSpace ',' = false by decide),
        skipSpace_joinedBy hb hu.starts, ih hu fuel (by omega)]
      rfl

/-- A mapping is read back. -/
theorem reads_map
    {nesting : Nat} {b stop : List Char}
    (hnesting : nesting < limit)
    (hb : ∀ c ∈ b, isSpace c = true)
    (hstop : Blank stop)
    {t : List Char} {e : Scalar × Value} {ts : List (List Char)} {es : Entries}
    (ht : ReadsEntry limit (nesting + 1) t e)
    (hts : List.Forall₂ (ReadsEntry limit (nesting + 1)) ts es)
    (hnodup : ((e :: es).map Prod.fst).Nodup) :
    Reads limit nesting ('\x7b' :: (b ++ (joinedBy b t ts ++ (stop ++ ['\x7d']))))
      (.map (e :: es)) := by
  refine ⟨⟨'\x7b', _, rfl, by unfold StartsValue; decide⟩, ?_⟩
  intro fuel rest hfuel hrest
  simp only [List.length_cons, List.length_append] at hfuel
  obtain ⟨fuel, rfl⟩ : ∃ f, fuel = f + 1 := ⟨fuel - 1, by omega⟩
  simp only [List.cons_append, List.append_assoc, List.nil_append]
  have hkeys := ReadsEntry.forall_key (List.Forall₂.cons ht hts)
  rw [readValue, if_neg (by omega), skipSpace_joinedBy hb ht.starts]
  have hread := readMembers_joinedBy hb hstop ht hts fuel rest (by omega)
  obtain ⟨c, cs, hstart, hc⟩ := ht.starts
  rw [hstart, joinedBy, List.cons_append, List.cons_append] at hread ⊢
  split
  · rename_i heq
    exact absurd (List.cons.inj heq).1 hc.2.2.1
  · rw [hread]
    simp only [Except.map, Entries.Keyed.ofPairs_eq ⟨hkeys, hnodup⟩]

theorem reads_emptyMap
    {nesting : Nat}
    (hnesting : nesting < limit) :
    Reads limit nesting ['\x7b', '\x7d'] (.map []) := by
  refine ⟨⟨'\x7b', _, rfl, by unfold StartsValue; decide⟩, ?_⟩
  intro fuel rest hfuel hrest
  obtain ⟨fuel, rfl⟩ : ∃ f, fuel = f + 1 := ⟨fuel - 1, by simp at hfuel; omega⟩
  simp only [List.cons_append, List.nil_append]
  rw [readValue, if_neg (by omega), skipSpace_nonspace (by decide)]
  rfl

/-! ### Written values -/

theorem blank_lineBreak
    (depth : Nat) :
    Blank (lineBreak depth).toList := by
  rw [lineBreak, String.toList_ofList]
  refine ⟨by simp, ?_⟩
  intro c hc
  rcases List.mem_cons.mp hc with rfl | hc
  · rfl
  · rw [List.eq_of_mem_replicate hc]
    rfl

theorem block_cons
    (opening closing : String) (depth : Nat) (t : String) (ts : List String) :
    (block opening closing depth (t :: ts)).toList =
      opening.toList ++ ((lineBreak (depth + 1)).toList ++
        (joinedBy (lineBreak (depth + 1)).toList t.toList (ts.map String.toList) ++
          ((lineBreak depth).toList ++ closing.toList))) := by
  have hcomma : ("," ++ lineBreak (depth + 1)).toList = ',' :: (lineBreak (depth + 1)).toList := by
    simp
  simp only [block, String.toList_append, String.toList_intercalate, hcomma, List.map_cons,
    intercalate_eq_joinedBy, List.append_assoc]

/-- The text of a value over several lines. -/
def written (depth : Nat) (v : Value) : String := (indented? depth v).getD ""

theorem indentedItems_eq
    {depth : Nat} {items : List Value}
    (h : ∀ v ∈ items, (indented? depth v).isSome) :
    indentedItems? depth items = some (items.map (written depth)) := by
  induction items with
  | nil => rfl
  | cons v rest ih =>
      obtain ⟨t, ht⟩ := Option.isSome_iff_exists.mp (h v (by simp))
      rw [indentedItems?, ih fun w hw => h w (by simp [hw]), ht]
      simp [written, ht]

/-- An entry of a mapping with its key. -/
def writtenEntry (depth : Nat) (e : Scalar × Value) : String × String :=
  (e.1.keyText, written depth e.2)

theorem indentedEntries_eq
    {depth : Nat} {es : Entries}
    (hkeys : ∀ e ∈ es, ∃ s, e.1 = .str s)
    (h : ∀ e ∈ es, (indented? depth e.2).isSome) :
    indentedEntries? depth es = some (es.map (writtenEntry depth)) := by
  induction es with
  | nil => rfl
  | cons e rest ih =>
      obtain ⟨k, v⟩ := e
      obtain ⟨s, hs⟩ := hkeys (k, v) (by simp)
      simp only at hs
      subst hs
      obtain ⟨t, ht⟩ := Option.isSome_iff_exists.mp (h (.str s, v) (by simp))
      simp only at ht
      rw [indentedEntries?, ih (fun e he => hkeys e (by simp [he])) fun e he => h e (by simp [he]),
        ht]
      simp [writtenEntry, written, ht, keyText?, Scalar.keyText]

/-- A value that fits is written, and read back with its keys sorted. -/
theorem reads_written
    {d : Nat} {v : Value}
    (h : v.Fits d) :
    ∀ depth nesting, nesting + d ≤ limit →
      (indented? depth v).isSome ∧ Reads limit nesting (written depth v).toList v.sorted := by
  induction h with
  | scalar hs =>
      intro depth nesting hnesting
      obtain ⟨t, ht, hreads⟩ := reads_scalar hs
      simp only [written, indented?, ht]
      exact ⟨rfl, hreads nesting⟩
  | @list d items h ih =>
      intro depth nesting hnesting
      have hlt : nesting < limit := by omega
      have hparts := fun v hv => ih v hv (depth + 1) (nesting + 1) (by omega)
      have hwritten := indentedItems_eq fun v hv => (hparts v hv).1
      simp only [written, indented?, hwritten, Value.sorted, Value.sortedItems_eq]
      refine ⟨rfl, ?_⟩
      cases items with
      | nil => simpa [block] using reads_emptyList hlt
      | cons v rest =>
          simp only [Option.map_some, Option.getD_some, List.map_cons, block_cons]
          refine reads_list hlt (blank_lineBreak _).2 (blank_lineBreak _)
            (hparts v (by simp)).2 ?_
          simp only [List.map_map, List.forall₂_map_left_iff, List.forall₂_map_right_iff]
          exact List.forall₂_same.mpr fun w hw => (hparts w (by simp [hw])).2
  | @map d es hkeyed h ih =>
      intro depth nesting hnesting
      have hlt : nesting < limit := by omega
      have hparts := fun e he => ih e he (depth + 1) (nesting + 1) (by omega)
      have hwritten := indentedEntries_eq hkeyed.text fun e he => (hparts e he).1
      have hperm := Entries.sortByKey_perm es
      have hsorted := Entries.sortByKey_map (writtenEntry (depth + 1)) es fun e _ => rfl
      simp only [written, indented?, hwritten, Value.sorted, Entries.sortByKey_sorted, hsorted,
        Option.map_some, Option.getD_some, List.map_map]
      refine ⟨rfl, ?_⟩
      have hentry : ∀ e ∈ Entries.sortByKey es, ReadsEntry limit (nesting + 1)
          (stringText e.1.keyText ++ ": " ++ written (depth + 1) e.2).toList
          (e.1, e.2.sorted) := by
        intro e he
        have hmem := hperm.mem_iff.mp he
        obtain ⟨s, hs⟩ := hkeyed.text e hmem
        exact ⟨s, (written (depth + 1) e.2).toList, by simp [hs, Scalar.keyText], hs,
          (hparts e hmem).2⟩
      have hnodup' : ((Entries.sortByKey es).map Prod.fst).Nodup :=
        (hperm.map Prod.fst).nodup_iff.mpr hkeyed.nodup
      cases hes : Entries.sortByKey es with
      | nil => simpa [block] using reads_emptyMap hlt
      | cons e rest =>
          rw [hes] at hentry hnodup'
          simp only [List.map_cons, block_cons]
          refine reads_map hlt (blank_lineBreak _).2 (blank_lineBreak _)
            (hentry e (by simp)) ?_ ?_
          · simp only [List.map_map, List.forall₂_map_left_iff, List.forall₂_map_right_iff]
            exact List.forall₂_same.mpr fun f hf => hentry f (by simp [hf])
          · simpa [Function.comp_def] using hnodup'

/-- The text of a file is read back as the value it was written from, with the keys of
its mappings sorted. -/
theorem readWithin_fileText
    {v : Value}
    (h : v.Fits limit) :
    ∃ text, fileText? v = some text ∧ readWithin limit text = .ok v.sorted := by
  obtain ⟨hsome, hreads⟩ := reads_written h 0 0 (show 0 + limit ≤ limit by omega)
  obtain ⟨t, ht⟩ := Option.isSome_iff_exists.mp hsome
  refine ⟨t ++ "\n", by rw [fileText?, ht]; rfl, ?_⟩
  rw [written, ht, Option.getD_some] at hreads
  obtain ⟨c, cs, hstart, hc⟩ := hreads.starts
  have htext : (t ++ "\n").toList = c :: (cs ++ ['\n']) := by
    simp [hstart]
  have hread := hreads.reads (2 * (t ++ "\n").toList.length + 1) ['\n']
    (by simp; omega) (isSpace_ends rfl)
  have hmark : (c :: (cs ++ ['\n'])).head? ≠ some (Char.ofNat 0xfeff) := by
    simpa using hc.2.2.2
  rw [hstart, List.cons_append, htext] at hread
  rw [readWithin, htext, readChars, if_neg hmark, skipSpace_nonspace hc.1, hread]
  rfl

theorem read_fileText [DepthLimits]
    {v : Value}
    (h : v.Fits DepthLimits.reading) :
    ∃ text, fileText? v = some text ∧ read text = .ok v.sorted :=
  readWithin_fileText h

end Json
end Homelab
