import Homelab.Proofs.Reference.Groups
import Homelab.Proofs.Resolution.Untouched

/-!
# How tokens for numbers and addresses are spelled

A token for a machine number is the name of a kind of guest, `:id:` and a label; one for an
address is `ip:`, the name of a network, a colon and a label.  Labels and names of networks are
not empty and have no double quotes, colons and blanks, so what the token stands for and how it is
spelled tell each other.

A text is read as such a token if it is spelled like this, or if it is and has a line end behind
it.  The line end is no part of the label, but it is one of the text, by which a token is known.
-/

namespace Homelab
namespace Reference

/-- A text that can stand for a label or for a network in a token. -/
def IsLabel (s : String) : Prop :=
  s ≠ "" ∧ ∀ c ∈ s.toList, c ≠ '"' ∧ c ≠ ':' ∧ Text.isBlank c = false

/-- How a token for a machine number or an address is spelled. -/
inductive Spelled : Target → String → Prop
  | machine (kind : GuestKind) {label : String}
      (hlabel : IsLabel label) : Spelled (.machine kind label) (kind.name ++ ":id:" ++ label)
  | address {network label : String}
      (hnetwork : IsLabel network)
      (hlabel : IsLabel label) :
      Spelled (.address network label) ("ip:" ++ network ++ ":" ++ label)

theorem isRun_isLabelChar_iff
    {s : String} :
    isRun isLabelChar s.toList = true ↔ IsLabel s := by
  simp [isRun, isLabelChar, IsLabel, and_assoc]

/-! ### Without a line end -/

theorem exists_label_iff
    {cs : List Char} {t : Target}
    (start : String) (f : String → Target) :
    (((Text.after? start.toList cs).filter (isRun isLabelChar)).map fun label =>
        f (String.ofList label)) = some t ↔
      ∃ label, t = f label ∧ IsLabel label ∧ cs = (start ++ label).toList := by
  simp only [Option.map_eq_some_iff, Option.filter_eq_some_iff, Text.after?_eq_some_iff]
  constructor
  · rintro ⟨label, ⟨rfl, hrun⟩, rfl⟩
    exact ⟨String.ofList label, rfl, isRun_isLabelChar_iff.mp (by simpa), by simp⟩
  · rintro ⟨label, rfl, hlabel, rfl⟩
    exact ⟨label.toList, ⟨by simp, isRun_isLabelChar_iff.mpr hlabel⟩, by simp⟩

/-- Which texts ask for a machine number. -/
theorem machineTarget?_eq_some_iff
    {cs : List Char} {t : Target} :
    machineTarget? cs = some t ↔
      ∃ kind label, t = .machine kind label ∧ IsLabel label ∧
        cs = (kind.name ++ ":id:" ++ label).toList := by
  unfold machineTarget?
  simp only
  split
  · rename_i found hvm
    rw [← hvm, exists_label_iff _ (Target.machine .vm)]
    constructor
    · rintro ⟨label, h⟩
      exact ⟨.vm, label, h⟩
    · rintro ⟨kind, label, rfl, hlabel, rfl⟩
      cases kind with
      | vm => exact ⟨label, rfl, hlabel, rfl⟩
      | lxc =>
          obtain ⟨other, -, -, heq⟩ := (exists_label_iff _ (Target.machine .vm)).mp hvm
          simp [GuestKind.name] at heq
  · rename_i hvm
    rw [exists_label_iff _ (Target.machine .lxc)]
    constructor
    · rintro ⟨label, h⟩
      exact ⟨.lxc, label, h⟩
    · rintro ⟨kind, label, rfl, hlabel, rfl⟩
      cases kind with
      | lxc => exact ⟨label, rfl, hlabel, rfl⟩
      | vm =>
          rw [(exists_label_iff _ (Target.machine .vm)).mpr ⟨label, rfl, hlabel, rfl⟩] at hvm
          cases hvm

theorem addressParts?_eq_some_iff
    {cs network label : List Char} :
    (Text.after? "ip:".toList cs).bind (Text.cut? ':') = some (network, label) ↔
      cs = "ip:".toList ++ network ++ ':' :: label ∧ ':' ∉ network := by
  simp only [Option.bind_eq_some_iff, Text.after?_eq_some_iff, Text.cut?_eq_some_iff]
  constructor
  · rintro ⟨rest, rfl, rfl, hcolon⟩
    exact ⟨by rw [List.append_assoc], hcolon⟩
  · rintro ⟨rfl, hcolon⟩
    exact ⟨_, List.append_assoc .., rfl, hcolon⟩

/-- Which texts ask for an address. -/
theorem addressTarget?_eq_some_iff
    {cs : List Char} {t : Target} :
    addressTarget? cs = some t ↔
      ∃ network label, t = .address network label ∧ IsLabel network ∧ IsLabel label ∧
        cs = ("ip:" ++ network ++ ":" ++ label).toList := by
  unfold addressTarget?
  constructor
  · intro h
    split at h
    · rename_i network label hparts
      obtain ⟨rfl, -⟩ := addressParts?_eq_some_iff.mp hparts
      split at h
      · rename_i hruns
        obtain ⟨hnetwork, hlabel⟩ := Bool.and_eq_true_iff.mp hruns
        refine ⟨String.ofList network, String.ofList label, (Option.some.inj h).symm,
          isRun_isLabelChar_iff.mp ?_, isRun_isLabelChar_iff.mp ?_, by simp⟩
        · rwa [String.toList_ofList]
        · rwa [String.toList_ofList]
      · cases h
    · cases h
  · rintro ⟨network, label, rfl, hnetwork, hlabel, rfl⟩
    have hcolon : ':' ∉ network.toList := fun h => (hnetwork.2 _ h).2.1 rfl
    have hparts : (Text.after? "ip:".toList
        ("ip:".toList ++ network.toList ++ ':' :: label.toList)).bind (Text.cut? ':') =
          some (network.toList, label.toList) := addressParts?_eq_some_iff.mpr ⟨rfl, hcolon⟩
    have htext : ("ip:" ++ network ++ ":" ++ label).toList =
        "ip:".toList ++ network.toList ++ ':' :: label.toList := by simp
    simp only [htext, hparts]
    rw [isRun_isLabelChar_iff.mpr hnetwork, isRun_isLabelChar_iff.mpr hlabel]
    simp

/-- The texts that ask for a number or an address are those that are spelled so. -/
theorem spelled_iff
    {cs : List Char} {t : Target} :
    machineTarget? cs = some t ∨ addressTarget? cs = some t ↔
      ∃ text, Spelled t text ∧ cs = text.toList := by
  rw [machineTarget?_eq_some_iff, addressTarget?_eq_some_iff]
  constructor
  · rintro (⟨kind, label, rfl, hlabel, rfl⟩ | ⟨network, label, rfl, hnetwork, hlabel, rfl⟩)
    · exact ⟨_, .machine kind hlabel, rfl⟩
    · exact ⟨_, .address hnetwork hlabel, rfl⟩
  · rintro ⟨text, h, rfl⟩
    cases h with
    | machine kind hlabel => exact .inl ⟨kind, _, rfl, hlabel, rfl⟩
    | address hnetwork hlabel => exact .inr ⟨_, _, rfl, hnetwork, hlabel, rfl⟩

namespace Spelled

variable {t : Target} {text : String}

theorem isAllocated
    (h : Spelled t text) :
    t.isAllocated = true := by
  cases h <;> rfl

theorem text_unique
    {other : String}
    (h : Spelled t text)
    (hother : Spelled t other) :
    text = other := by
  cases h <;> cases hother <;> rfl

/-- A spelled token ends with a label. -/
theorem ends_with_label
    (h : Spelled t text) :
    ∃ front label, text = front ++ label ∧ IsLabel label := by
  cases h with
  | machine kind hlabel => exact ⟨_, _, rfl, hlabel⟩
  | address hnetwork hlabel => exact ⟨_, _, rfl, hlabel⟩

theorem getLast?_ne
    (h : Spelled t text) :
    text.toList.getLast? ≠ some '\n' := by
  obtain ⟨front, label, rfl, hne, hchars⟩ := h.ends_with_label
  have hsome : label.toList ≠ [] := by simpa using hne
  rw [String.toList_append, List.getLast?_append_of_ne_nil _ hsome]
  intro hlast
  have hblank : Text.isBlank '\n' = true := by decide
  rw [(hchars _ (List.mem_of_getLast? hlast)).2.2] at hblank
  cases hblank

end Spelled

/-! ### With a line end or without -/

theorem dropLineEnd_eq_iff
    {cs line : List Char}
    (hline : line.getLast? ≠ some '\n') :
    dropLineEnd cs = line ↔ cs = line ∨ cs = line ++ ['\n'] := by
  unfold dropLineEnd
  constructor
  · intro h
    split at h
    · rename_i hlast
      right
      rw [← h, List.dropLast_append_getLast?]
      exact hlast
    · exact .inl h
  · rintro (rfl | rfl)
    · rw [if_neg hline]
    · rw [List.getLast?_concat, if_pos rfl, List.dropLast_concat]

theorem not_isAllocated_of_pathTarget?
    {cs : List Char} {t : Target}
    (h : pathTarget? cs = some t) :
    t.isAllocated = false := by
  obtain ⟨path, -, ⟨-, rfl⟩ | ⟨-, rfl⟩⟩ := pathTarget?_eq_some_iff.mp h
  · rfl
  · rfl

/-- A token in braces is what stands between them. -/
theorem inner_of_bracedTarget?
    {cs : List Char} {t : Target}
    (h : bracedTarget? cs = some t) :
    ∃ inner, cs = '\x7b' :: inner ++ ['\x7d'] ∧ embeddedTarget? inner = some t := by
  unfold bracedTarget? at h
  split at h
  · split at h
    · rename_i hembedded
      obtain ⟨rfl, -, -⟩ := embedded?_eq_some_iff.mp hembedded
      exact ⟨_, rfl, h⟩
    · cases h
  · cases h

theorem not_isAllocated_of_bracedTarget?
    {cs : List Char} {t : Target}
    (h : bracedTarget? cs = some t) :
    t.isAllocated = false := by
  obtain ⟨inner, -, hinner⟩ := inner_of_bracedTarget? h
  cases embeddedTarget?_eq_some_iff.mp hinner <;> rfl

theorem exists_of_secretTarget?
    {cs : List Char} {t : Target}
    (h : secretTarget? cs = some (some t)) :
    ∃ item path, t = .secret item path := by
  unfold secretTarget? at h
  split at h
  · cases h
  · split at h
    · cases h
    · exact ⟨_, _, (Option.some.inj (Option.some.inj h)).symm⟩

theorem not_isAllocated_of_secretTarget?
    {cs : List Char} {t : Target}
    (h : secretTarget? cs = some (some t)) :
    t.isAllocated = false := by
  obtain ⟨item, path, rfl⟩ := exists_of_secretTarget? h
  rfl

/-- What a text stands for that is one token, by the way in which it is spelled. -/
inductive Whole (cs : List Char) : Target → Prop
  | host (h : cs = "host:ip".toList) : Whole cs .hostAddress
  | secret {t : Target} (h : secretTarget? cs = some (some t)) : Whole cs t
  | machine {t : Target} (h : machineTarget? (dropLineEnd cs) = some t) : Whole cs t
  | address {t : Target} (h : addressTarget? (dropLineEnd cs) = some t) : Whole cs t
  | path {t : Target} (h : pathTarget? (dropLineEnd cs) = some t) : Whole cs t
  | braced {t : Target} (h : bracedTarget? cs = some t) : Whole cs t

theorem whole_of_wholeTarget?
    {cs : List Char} {t : Target}
    (h : wholeTarget? cs = some t) :
    Whole cs t := by
  unfold wholeTarget? at h
  split at h
  · rename_i hhost
    obtain rfl := Option.some.inj h
    exact .host hhost
  · split at h
    · rename_i hsecret
      rw [h] at hsecret
      exact .secret hsecret
    · simp only at h
      split at h
      · rename_i hmachine
        exact .machine (hmachine.trans h)
      · split at h
        · rename_i haddress
          exact .address (haddress.trans h)
        · split at h
          · exact .path h
          · exact .braced h

/-- A whole token for a number or an address is one of these two kinds up to its line end. -/
theorem of_wholeTarget?
    {cs : List Char} {t : Target}
    (h : wholeTarget? cs = some t)
    (ht : t.isAllocated = true) :
    machineTarget? (dropLineEnd cs) = some t ∨ addressTarget? (dropLineEnd cs) = some t := by
  have hother : t.isAllocated ≠ false := by simp [ht]
  cases whole_of_wholeTarget? h with
  | host h => exact absurd rfl hother
  | secret h => exact absurd (not_isAllocated_of_secretTarget? h) hother
  | machine h => exact .inl h
  | address h => exact .inr h
  | path h => exact absurd (not_isAllocated_of_pathTarget? h) hother
  | braced h => exact absurd (not_isAllocated_of_bracedTarget? h) hother

/-- The keywords of numbers and addresses are neither that of the vault nor that of the host. -/
theorem Spelled.not_earlier
    {t : Target} {text : String} {cs : List Char}
    (h : Spelled t text)
    (hcs : text.toList <+: cs) :
    cs ≠ "host:ip".toList ∧ secretTarget? cs = none := by
  obtain ⟨more, rfl⟩ := hcs
  cases h with
  | machine kind hlabel =>
      cases kind <;>
        simp [GuestKind.name, secretTarget?, Text.after?]
  | address hnetwork hlabel => simp [secretTarget?, Text.after?]

/-- A text is a token for a number or an address exactly if it is spelled as this token, with a
line end behind it or without. -/
theorem parse?_eq_some_iff_spelled
    {s : String} {r : Reference} :
    parse? s = some r ∧ r.target.isAllocated = true ↔
      r.text = s ∧ ∃ text, Spelled r.target text ∧ (s = text ∨ s = text ++ "\n") := by
  obtain ⟨name, t⟩ := r
  have hlist : ∀ text : String, s = text ∨ s = text ++ "\n" ↔
      s.toList = text.toList ∨ s.toList = text.toList ++ ['\n'] := by
    intro text
    rw [← String.toList_inj, ← String.toList_inj, String.toList_append]
    rfl
  constructor
  · rintro ⟨hparse, ht⟩
    obtain ⟨t', hwhole, heq⟩ := Option.map_eq_some_iff.mp hparse
    obtain ⟨rfl, rfl⟩ := Reference.mk.inj heq
    obtain ⟨text, hspelled, hline⟩ := spelled_iff.mp (of_wholeTarget? hwhole ht)
    exact ⟨rfl, text, hspelled,
      (hlist text).mpr ((dropLineEnd_eq_iff hspelled.getLast?_ne).mp hline)⟩
  · rintro ⟨rfl, text, hspelled, htext⟩
    rw [hlist] at htext
    refine ⟨?_, hspelled.isAllocated⟩
    have hline := (dropLineEnd_eq_iff hspelled.getLast?_ne).mpr htext
    have hprefix : text.toList <+: name.toList := by
      rcases htext with h | h
      · rw [h]
      · rw [h]
        exact List.prefix_append _ _
    obtain ⟨hhost, hsecret⟩ := hspelled.not_earlier hprefix
    rw [parse?, wholeTarget?, if_neg hhost, hsecret]
    simp only [hline]
    rcases spelled_iff.mpr ⟨text, hspelled, rfl⟩ with hmachine | haddress
    · rw [hmachine]
      rfl
    · cases hmachine : machineTarget? text.toList with
      | none =>
          simp only [haddress]
          rfl
      | some t' =>
          obtain ⟨kind, label, -, -, hkind⟩ := machineTarget?_eq_some_iff.mp hmachine
          obtain ⟨network, label', -, -, -, hip⟩ := addressTarget?_eq_some_iff.mp haddress
          rw [hip] at hkind
          cases kind <;> simp [GuestKind.name] at hkind

/-- A text that ends a line. -/
def EndsLine (s : String) : Prop := s.toList.getLast? = some '\n'

/-- Two texts are tokens for one machine number or one address. -/
def SameAllocated (s s' : String) : Prop :=
  ∃ r r', parse? s = some r ∧ parse? s' = some r' ∧ r.target = r'.target ∧
    r.target.isAllocated = true

section

variable {s s' : String} {t : Target}

theorem exists_parse?_iff_spelled
    (ht : t.isAllocated = true) :
    (∃ r, parse? s = some r ∧ r.target = t) ↔
      ∃ text, Spelled t text ∧ (s = text ∨ s = text ++ "\n") := by
  constructor
  · rintro ⟨r, hr, rfl⟩
    exact (parse?_eq_some_iff_spelled.mp ⟨hr, ht⟩).2
  · intro h
    exact ⟨⟨s, t⟩, ((parse?_eq_some_iff_spelled (r := ⟨s, t⟩)).mpr ⟨rfl, h⟩).1, rfl⟩

/-- The texts that are read as a token for a machine number with this kind and this label. -/
theorem exists_machine_iff
    {kind : GuestKind} {label : String} :
    (∃ r, parse? s = some r ∧ r.target = .machine kind label) ↔
      IsLabel label ∧
        (s = kind.name ++ ":id:" ++ label ∨ s = kind.name ++ ":id:" ++ label ++ "\n") := by
  rw [exists_parse?_iff_spelled rfl]
  constructor
  · rintro ⟨text, hspelled, htext⟩
    cases hspelled with
    | machine kind hlabel => exact ⟨hlabel, htext⟩
  · rintro ⟨hlabel, htext⟩
    exact ⟨_, .machine kind hlabel, htext⟩

/-- The texts that are read as a token for an address with this network and this label. -/
theorem exists_address_iff
    {network label : String} :
    (∃ r, parse? s = some r ∧ r.target = .address network label) ↔
      IsLabel network ∧ IsLabel label ∧
        (s = "ip:" ++ network ++ ":" ++ label ∨ s = "ip:" ++ network ++ ":" ++ label ++ "\n") := by
  rw [exists_parse?_iff_spelled rfl]
  constructor
  · rintro ⟨text, hspelled, htext⟩
    cases hspelled with
    | address hnetwork hlabel => exact ⟨hnetwork, hlabel, htext⟩
  · rintro ⟨hnetwork, hlabel, htext⟩
    exact ⟨_, .address hnetwork hlabel, htext⟩

theorem endsLine_append_line
    (text : String) :
    EndsLine (text ++ "\n") := by
  rw [EndsLine, String.toList_append]
  exact List.getLast?_concat

/-- Tokens for one number or address differ in the line end only. -/
theorem SameAllocated.eq_iff
    (h : SameAllocated s s') :
    s = s' ↔ (EndsLine s ↔ EndsLine s') := by
  obtain ⟨r, r', hr, hr', htarget, ht⟩ := h
  obtain ⟨-, text, hspelled, hs⟩ := parse?_eq_some_iff_spelled.mp ⟨hr, ht⟩
  obtain ⟨-, text', hspelled', hs'⟩ := parse?_eq_some_iff_spelled.mp ⟨hr', htarget ▸ ht⟩
  obtain rfl := hspelled.text_unique (htarget ▸ hspelled')
  have hplain : ¬ EndsLine text := hspelled.getLast?_ne
  have hline : EndsLine (text ++ "\n") := endsLine_append_line text
  have hne : text ≠ text ++ "\n" := fun heq => hplain (heq ▸ hline)
  rcases hs with rfl | rfl
  · rcases hs' with rfl | rfl
    · simp
    · simp [hplain, hline, hne]
  · rcases hs' with rfl | rfl
    · simp [hplain, hline, hne.symm]
    · simp

end

end Reference
end Homelab
