import Homelab.Shell

/-!
# Words on a command line

A quoted word is read back as it is, whatever it holds and whatever stands around it.  A name in
front of a value is not quoted: it is read back if a shell acts on none of its characters.  If it
acts on one, the name is lost, because the equals sign behind it then stands too far to the left:
no equals sign of a line is dropped, and the character that was acted on is.
-/

namespace Homelab
namespace Shell

/-- The characters that a shell acts on outside quotes. -/
def active : List Char := [' ', '\t', '\r', '\n', '\'', '"', '\\']

theorem mem_active_iff
    (c : Char) :
    c ∈ active ↔ isSpace c = true ∨ c = '\'' ∨ c = '"' ∨ c = '\\' := by
  simp [active, isSpace, or_assoc]

theorem not_mem_active_of_isPlain
    {c : Char}
    (h : isPlain c = true) :
    c ∉ active := by
  have hactive : active.all (fun x => !isPlain x) = true := by decide
  intro hmem
  have hnot := List.all_eq_true.mp hactive c hmem
  simp [h] at hnot

/-! ### One character -/

namespace Reading

/-- Where a shell stands behind a character that ends no word. -/
def next : Reading → Char → Reading
  | .between, c =>
      if isSpace c then .between
      else if c = '\\' then .escaped
      else if c = '\'' then .single
      else if c = '"' then .double
      else .bare
  | .bare, c =>
      if c = '\\' then .escaped
      else if c = '\'' then .single
      else if c = '"' then .double
      else .bare
  | .single, c => if c = '\'' then .bare else .single
  | .double, c => if c = '"' then .bare else if c = '\\' then .escapedInDouble else .double
  | .escaped, _ => .bare
  | .escapedInDouble, _ => .double

/-- What such a character adds to the word, the last character first. -/
def added : Reading → Char → List Char
  | .between, c => if c ∈ active then [] else [c]
  | .bare, c => if c ∈ active then [] else [c]
  | .single, c => if c = '\'' then [] else [c]
  | .double, c => if c = '"' ∨ c = '\\' then [] else [c]
  | .escaped, c => [c]
  | .escapedInDouble, c => if c = '\\' ∨ c = '"' then [c] else [c, '\\']

/-- What the word has so far; between words there is none. -/
def held : Reading → List Char → List Char
  | .between, _ => []
  | _, word => word

/-- The backslashes that were read and may yet be added to the word. -/
def pending : Reading → Nat
  | .escapedInDouble => 1
  | _ => 0

/-- Outside quotes, and not behind a backslash. -/
def Outside (st : Reading) : Prop := st = .between ∨ st = .bare

variable (st : Reading) (c : Char)

theorem held_next
    (word : List Char) :
    (st.next c).held (st.added c ++ st.held word) = st.added c ++ st.held word := by
  cases st <;> grind [next, added, held, mem_active_iff]

/-- No equals sign is dropped. -/
theorem count_added :
    (st.added c).count '=' = [c].count '=' := by
  have hmark : '=' ∉ active := by decide
  cases st <;> grind [added]

theorem count_held_next
    (word text : List Char) :
    ((st.next c).held (st.added c ++ st.held word)).count '=' + text.count '=' =
      (st.held word).count '=' + (c :: text).count '=' := by
  have hcons : ([c] ++ text).count '=' = [c].count '=' + text.count '=' := List.count_append
  rw [List.singleton_append] at hcons
  rw [held_next, List.count_append, count_added, hcons]
  omega

theorem length_added_le :
    (st.added c).length + (st.next c).pending ≤ st.pending + 1 := by
  cases st <;> grind [next, added, pending, mem_active_iff]

theorem length_added_of_active
    {st : Reading} {c : Char}
    (hst : st.Outside)
    (hc : c ∈ active) :
    (st.added c).length + (st.next c).pending = 0 := by
  rcases hst with rfl | rfl <;> grind [next, added, pending, mem_active_iff]

theorem next_of_not_mem_active
    {st : Reading} {c : Char}
    (hst : st.Outside)
    (hc : c ∉ active) :
    st.next c = .bare ∧ st.added c = [c] := by
  have hact := mt (mem_active_iff c).mpr hc
  rcases hst with rfl | rfl <;> grind [next, added]

end Reading

theorem splitFrom_cons
    (st : Reading) (word rest : List Char) (c : Char) :
    splitFrom st word (c :: rest) =
      if st = .bare ∧ isSpace c = true then (splitFrom .between [] rest).map (word.reverse :: ·)
      else splitFrom (st.next c) (st.added c ++ st.held word) rest := by
  cases st <;> grind [splitFrom, Reading.next, Reading.added, Reading.held, mem_active_iff]

/-! ### The first word -/

/-- What the word has so far is not lost. -/
theorem held_begins_word
    (h : splitFrom st word text = some (w :: ws)) :
    (st.held word).reverse <+: w := by
  induction text generalizing st word with
  | nil => cases st <;> simp_all [splitFrom, Reading.held]
  | cons c rest ih =>
      rw [splitFrom_cons] at h
      split at h
      next hends =>
        obtain ⟨_, -, heq⟩ := Option.map_eq_some_iff.mp h
        obtain rfl := (List.cons.inj heq).1
        rw [hends.1]
        exact List.prefix_rfl
      next =>
        have hnext := ih h
        rw [Reading.held_next, List.reverse_append] at hnext
        exact (List.prefix_append _ _).trans hnext

/-- The word goes on as long as it has fewer equals signs than it is to have. -/
theorem splitFrom_next_of_mark
    {c : Char} {rest q : List Char}
    (h : splitFrom st word (c :: rest) = some (w :: ws))
    (hq : q ++ ['='] <+: w)
    (hcount : (st.held word).count '=' ≤ q.count '=') :
    splitFrom (st.next c) (st.added c ++ st.held word) rest = some (w :: ws) := by
  rw [splitFrom_cons] at h
  split at h
  next hends =>
    obtain ⟨_, -, heq⟩ := Option.map_eq_some_iff.mp h
    obtain rfl := (List.cons.inj heq).1
    have hmore : (q ++ ['=']).count '=' ≤ word.reverse.count '=' := hq.count_le '='
    rw [hends.1] at hcount
    simp [Reading.held] at hmore hcount
    omega
  next => exact h

/-- An equals sign in the first word stands no further to the right than in the line. -/
theorem length_le_of_mark
    {rest q : List Char}
    (h : splitFrom st word (text ++ '=' :: rest) = some (w :: ws))
    (hq : q ++ ['='] <+: w)
    (hcount : q.count '=' = (st.held word).count '=' + text.count '=') :
    q.length ≤ (st.held word).length + st.pending + text.length := by
  induction text generalizing st word with
  | nil =>
      -- this equals sign is the one behind `q`
      have hnext := splitFrom_next_of_mark h hq (by omega)
      have hheld := held_begins_word hnext
      rw [Reading.held_next] at hheld
      have hmarks := st.count_added '='
      have hsize := st.length_added_le '='
      refine Nat.le_of_not_lt fun hlong => ?_
      -- otherwise what has been read with it would be a part of `q`
      have hpart : (st.added '=' ++ st.held word).reverse <+: q := by
        refine List.prefix_of_prefix_length_le hheld ((List.prefix_append q _).trans hq) ?_
        simp at hlong ⊢
        omega
      have hle := hpart.count_le '='
      simp at hle hmarks hcount
      omega
  | cons c text ih =>
      have hnext := splitFrom_next_of_mark h hq (by omega)
      have hrest := ih hnext (hcount.trans (st.count_held_next c word text).symm)
      have hsize := st.length_added_le c
      rw [Reading.held_next, List.length_append] at hrest
      simp only [List.length_cons]
      omega

/-- Behind an active character it stands further to the left. -/
theorem length_lt_of_active
    {rest q : List Char}
    (hst : st.Outside)
    (hactive : ∃ c ∈ text, c ∈ active)
    (h : splitFrom st word (text ++ '=' :: rest) = some (w :: ws))
    (hq : q ++ ['='] <+: w)
    (hcount : q.count '=' = (st.held word).count '=' + text.count '=') :
    q.length < (st.held word).length + text.length := by
  induction text generalizing st word with
  | nil => simp at hactive
  | cons c text ih =>
      have hnext := splitFrom_next_of_mark h hq (by omega)
      have hcount' := hcount.trans (st.count_held_next c word text).symm
      by_cases hc : c ∈ active
      · have hrest := length_le_of_mark hnext hq hcount'
        have hsize := Reading.length_added_of_active hst hc
        rw [Reading.held_next, List.length_append] at hrest
        simp only [List.length_cons]
        omega
      · obtain ⟨hbare, hadded⟩ := Reading.next_of_not_mem_active hst hc
        have hbehind : ∃ x ∈ text, x ∈ active := by
          obtain ⟨x, hx, hxactive⟩ := hactive
          rcases List.mem_cons.mp hx with rfl | hx
          · exact absurd hxactive hc
          · exact ⟨x, hx, hxactive⟩
        have hrest := ih (.inr hbare) hbehind hnext hcount'
        rw [Reading.held_next, hadded] at hrest
        simp only [List.length_append, List.length_cons, List.length_nil] at hrest ⊢
        omega

/-- A name that a shell acts on is not in front of the first equals sign behind it. -/
theorem not_prefix_of_active
    {name rest : List Char}
    (hactive : ∃ c ∈ name, c ∈ active)
    (h : splitFrom .between [] (name ++ '=' :: rest) = some (w :: ws)) :
    ¬ name ++ ['='] <+: w := by
  intro hq
  have hlt := length_lt_of_active (.inl rfl) hactive h hq (by simp [Reading.held])
  simp [Reading.held] at hlt

/-! ### Texts that stand for a part of a word -/

/-- A text stands for a part of a word, whatever is before it in the word and behind it. -/
def Spells (text part : List Char) : Prop :=
  ∀ (st : Reading) (word rest : List Char), st.Outside →
    splitFrom st word (text ++ rest) = splitFrom .bare (part.reverse ++ st.held word) rest

theorem Spells.append
    {text' part' : List Char}
    (h : Spells text part)
    (h' : Spells text' part') :
    Spells (text ++ text') (part ++ part') := by
  intro st word rest hst
  rw [List.append_assoc, h st word _ hst, h' .bare _ rest (.inr rfl), List.reverse_append,
    List.append_assoc]
  rfl

theorem spells_char
    {c : Char}
    (hc : c ∉ active) :
    Spells [c] [c] := by
  intro st word rest hst
  have hspace : isSpace c ≠ true := fun hspace => hc ((mem_active_iff c).mpr (.inl hspace))
  obtain ⟨hbare, hadded⟩ := Reading.next_of_not_mem_active hst hc
  rw [List.singleton_append, splitFrom_cons, if_neg (fun h => hspace h.2), hbare, hadded,
    List.reverse_singleton]

/-- A text in which a shell acts on no character stands for itself. -/
theorem spells_passive
    {c : Char} {cs : List Char}
    (h : ∀ x ∈ c :: cs, x ∉ active) :
    Spells (c :: cs) (c :: cs) := by
  induction cs generalizing c with
  | nil => exact spells_char (h c List.mem_cons_self)
  | cons d ds ih =>
      have hfirst : Spells [c] [c] := spells_char (h c List.mem_cons_self)
      exact hfirst.append (ih fun x hx => h x (List.mem_cons_of_mem c hx))

theorem spells_self
    {token : String}
    (hne : token.toList ≠ [])
    (h : ∀ x ∈ token.toList, x ∉ active) :
    Spells token.toList token.toList := by
  cases hcs : token.toList with
  | nil => exact absurd hcs hne
  | cons c cs => exact spells_passive (hcs ▸ h)

theorem splitFrom_single
    (cs word rest : List Char) :
    splitFrom .single word (cs.flatMap quoteChar ++ '\'' :: rest) =
      splitFrom .bare (cs.reverse ++ word) rest := by
  induction cs generalizing word with
  | nil => simp [splitFrom]
  | cons c cs ih => by_cases hc : c = '\'' <;> simp [quoteChar, hc, splitFrom, ih, isSpace]

theorem spells_singleQuoted
    (cs : List Char) :
    Spells ('\'' :: cs.flatMap quoteChar ++ ['\'']) cs := by
  intro st word rest hst
  have hopen : ∀ text,
      splitFrom st word ('\'' :: text) = splitFrom .single (st.held word) text := by
    intro text
    rcases hst with rfl | rfl <;> simp [splitFrom, Reading.held, isSpace]
  rw [List.cons_append, List.cons_append, hopen, List.append_assoc]
  exact splitFrom_single cs _ rest

/-- A quoted word stands for itself. -/
theorem spells_quoteChars
    (cs : List Char) :
    Spells (quoteChars cs) cs := by
  cases cs with
  | nil => exact spells_singleQuoted []
  | cons c cs =>
      by_cases hplain : (c :: cs).all isPlain = true
      · have hpassive : ∀ x ∈ c :: cs, x ∉ active := fun x hx =>
          not_mem_active_of_isPlain (List.all_eq_true.mp hplain x hx)
        simpa [quoteChars, hplain] using spells_passive hpassive
      · simpa [quoteChars, hplain] using spells_singleQuoted (c :: cs)

/-! ### Lines -/

section

variable {token : String} (h : Spells token.toList word)
include h

theorem Spells.last :
    splitFrom .between [] token.toList = some [word] := by
  have hend := h .between [] [] (.inl rfl)
  simpa [Reading.held, splitFrom] using hend

theorem Spells.blank
    (rest : String) :
    splitFrom .between [] (token ++ " " ++ rest).toList =
      (splitFrom .between [] rest.toList).map (word :: ·) := by
  rw [String.toList_append, String.toList_append, List.append_assoc, h .between [] _ (.inl rfl)]
  simp [Reading.held, splitFrom, isSpace]

end

/-- The words of a line are given back, whatever they hold. -/
theorem splitFrom_line
    (words : List String) :
    splitFrom .between [] (line words).toList = some (words.map String.toList) := by
  unfold line
  induction words with
  | nil => rfl
  | cons v words ih =>
      have hv : Spells (quote v).toList v.toList := by
        simpa [quote] using spells_quoteChars v.toList
      by_cases hlast : words = []
      · simpa [hlast] using hv.last
      · rw [List.map_cons, String.intercalate_cons_of_ne_nil (by simpa using hlast), hv.blank, ih]
        rfl

/-- A variable as it stands in front of a line. -/
def assignment (v : String × String) : String := v.1 ++ "=" ++ quote v.2

theorem spells_assignment
    {v : String × String}
    (h : ∀ c ∈ v.1.toList, c ∉ active) :
    Spells (assignment v).toList (v.1 ++ "=" ++ v.2).toList := by
  have hname : Spells (v.1.toList ++ ['=']) (v.1.toList ++ ['=']) := by
    have hmark : '=' ∉ active := by decide
    cases hcs : v.1.toList with
    | nil => exact spells_char hmark
    | cons c cs =>
        rw [hcs] at h
        exact (spells_passive h).append (spells_char hmark)
  simpa [assignment, quote] using hname.append (spells_quoteChars v.2.toList)

/-- Variables in front of a line: their names and values are given back exactly if a shell acts on
no character of a name. -/
theorem splitFrom_assignments
    {tail : String} {words : List (List Char)}
    (htail : splitFrom .between [] tail.toList = some words)
    (vars : List (String × String)) :
    splitFrom .between [] (" ".intercalate (vars.map assignment ++ [tail])).toList =
      some (vars.map (fun v => (v.1 ++ "=" ++ v.2).toList) ++ words) ↔
      ∀ v ∈ vars, ∀ c ∈ v.1.toList, c ∉ active := by
  induction vars with
  | nil => simpa using htail
  | cons v vars ih =>
      rw [List.map_cons, List.cons_append, String.intercalate_cons_of_ne_nil (by simp),
        List.forall_mem_cons, List.map_cons, List.cons_append]
      by_cases hv : ∀ c ∈ v.1.toList, c ∉ active
      · rw [(spells_assignment hv).blank, and_iff_right hv, ← ih, Option.map_eq_some_iff]
        simp
      · refine iff_of_false (fun hsplit => ?_) (fun hall => hv hall.1)
        obtain ⟨c, hc, hactive⟩ : ∃ c ∈ v.1.toList, c ∈ active := by simpa using hv
        generalize " ".intercalate _ = rest at hsplit
        have hname : (assignment v ++ " " ++ rest).toList =
            v.1.toList ++ '=' :: (quoteChars v.2.toList ++ ' ' :: rest.toList) := by
          simp [assignment, quote]
        rw [hname] at hsplit
        exact not_prefix_of_active ⟨c, hc, hactive⟩ hsplit (by simp)

theorem split?_eq_some_iff
    {line : String} {words : List String} :
    split? line = some words ↔
      splitFrom .between [] line.toList = some (words.map String.toList) := by
  have hchars : ∀ ls : List (List Char),
      ls.map String.ofList = words ↔ ls = words.map String.toList := by
    intro ls
    constructor
    · rintro rfl
      simp
    · rintro rfl
      simp
  simp [split?, hchars]

/-- A line is taken apart into the words that it was made of, whatever they hold. -/
theorem split?_line
    (words : List String) :
    split? (line words) = some words :=
  split?_eq_some_iff.mpr (splitFrom_line words)

end Shell

end Homelab
