import Homelab.Proofs.Address.Characters

/-!
# The address in a list of interfaces

The address of the build host is the one on the first line that offers one: a line that, without
the blanks at its ends, is a word, blanks, an address, a slash and a digit, and then anything,
where the address is of the family of the subnet and has its leading bits.  A line whose address
has a zone offers none.
-/

namespace Homelab

open Text

/-! ### Leading bits -/

/-- The bits of an address, the highest first. -/
def Address.leadingBit (a : Address) (i : Nat) : Bool :=
  a.number.testBit (a.family.bits - 1 - i)

/-- An address of the family of a subnet that has the same leading bits, as many as the length of
the subnet says. -/
structure Interface.Agrees (subnet : Interface) (a : Address) : Prop where
  family : a.family = subnet.address.family
  bits : ∀ i < subnet.length, a.leadingBit i = subnet.address.leadingBit i

theorem div_two_pow_eq_iff_testBit
    {m n bits host : Nat}
    (hm : m < 2 ^ bits) (hn : n < 2 ^ bits) :
    m / 2 ^ host = n / 2 ^ host ↔
      ∀ j, host ≤ j → j < bits → m.testBit j = n.testBit j := by
  constructor
  · intro h j hhost _
    have hbit := congrArg (fun q => q.testBit (j - host)) h
    simpa only [Nat.testBit_div_two_pow, Nat.sub_add_cancel hhost] using hbit
  · intro h
    refine Nat.eq_of_testBit_eq fun j => ?_
    rw [Nat.testBit_div_two_pow, Nat.testBit_div_two_pow]
    by_cases hj : j + host < bits
    · exact h _ (Nat.le_add_left host j) hj
    · have hpow : 2 ^ bits ≤ 2 ^ (j + host) := Nat.pow_le_pow_right (by decide) (by omega)
      rw [Nat.testBit_lt_two_pow (Nat.lt_of_lt_of_le hm hpow),
        Nat.testBit_lt_two_pow (Nat.lt_of_lt_of_le hn hpow)]

theorem Interface.covers_iff_agrees
    {subnet : Interface} {a : Address}
    (hsubnet : subnet.address.InRange)
    (hlength : subnet.length ≤ subnet.address.family.bits)
    (ha : a.InRange) :
    subnet.covers a = true ↔ subnet.Agrees a := by
  simp only [covers, Bool.and_eq_true, beq_iff_eq]
  constructor
  · rintro ⟨hfamily, hnumber⟩
    refine ⟨hfamily, fun i hi => ?_⟩
    rw [Address.InRange, hfamily] at ha
    rw [Address.leadingBit, Address.leadingBit, hfamily]
    exact (div_two_pow_eq_iff_testBit ha hsubnet).mp hnumber _ (by omega) (by omega)
  · rintro ⟨hfamily, hbits⟩
    refine ⟨hfamily, ?_⟩
    rw [Address.InRange, hfamily] at ha
    refine (div_two_pow_eq_iff_testBit ha hsubnet).mpr fun j hhost hj => ?_
    have hbit := hbits (subnet.address.family.bits - 1 - j) (by omega)
    rw [Address.leadingBit, Address.leadingBit, hfamily] at hbit
    rwa [show subnet.address.family.bits - 1 - (subnet.address.family.bits - 1 - j) = j by omega]
      at hbit

/-- A subnet that is written without a length holds only itself. -/
theorem Interface.length_of_read?
    {s : String} {i : Interface}
    (hslash : '/' ∉ s.toList)
    (h : read? s = some i) :
    i.length = i.address.family.bits := by
  rw [read?, readChars?, fields_of_not_mem hslash] at h
  obtain ⟨a, -, rfl⟩ := Option.map_eq_some_iff.mp h
  rfl

theorem Interface.inRange_of_read?
    {s : String} {i : Interface}
    (h : read? s = some i) :
    i.address.InRange :=
  addressOf?_inRange (s := s) (by rw [addressOf?, h]; rfl)

namespace HostAddress

/-! ### Lines -/

/-- A line announces some text as an address: a word, blanks, the text, a slash and a digit, and
then anything. -/
def Announces (line address : List Char) : Prop :=
  ∃ word blanks digit rest,
    line = word ++ blanks ++ address ++ '/' :: digit :: rest ∧
      (word = "inet".toList ∨ word = "inet6".toList) ∧
      blanks ≠ [] ∧ (∀ c ∈ blanks, isBlank c = true) ∧ isDecimalDigit digit = true

theorem afterWord?_append
    {word rest : List Char} {c : Char}
    (hword : word = "inet".toList ∨ word = "inet6".toList)
    (hc : isBlank c = true) :
    afterWord? (word ++ c :: rest) = some (c :: rest) := by
  have hsix : c ≠ '6' := by
    rintro rfl
    exact absurd hc (by decide)
  rcases hword with rfl | rfl
  · have hafter : after? "inet".toList ("inet".toList ++ c :: rest) = some (c :: rest) :=
      after?_eq_some_iff.mpr rfl
    rw [afterWord?, hafter]
    simp [hsix]
  · have hafter : after? "inet".toList ("inet6".toList ++ c :: rest) = some ('6' :: c :: rest) :=
      after?_eq_some_iff.mpr rfl
    rw [afterWord?, hafter]
    rfl

theorem word_of_afterWord?
    {line rest : List Char}
    (h : afterWord? line = some rest) :
    ∃ word, (word = "inet".toList ∨ word = "inet6".toList) ∧ line = word ++ rest := by
  obtain ⟨more, hmore, hrest⟩ := Option.map_eq_some_iff.mp h
  obtain rfl := after?_eq_some_iff.mp hmore
  split at hrest
  · rename_i hsix
    obtain ⟨tail, rfl⟩ : ∃ tail, more = '6' :: tail := by
      cases more with
      | nil => cases hsix
      | cons c tail => exact ⟨tail, by rw [Option.some.inj hsix]⟩
    exact ⟨_, .inr rfl, by rw [← hrest]; rfl⟩
  · exact ⟨_, .inl rfl, by rw [hrest]⟩

/-- What is found on a line is what it announces, if that is written in the characters of
addresses. -/
theorem announced?_eq_some_iff
    {line address : List Char} :
    announced? line = some address ↔
      Announces line address ∧ address ≠ [] ∧ ∀ c ∈ address, isAddressChar c = true := by
  constructor
  · intro h
    unfold announced? at h
    split at h
    · cases h
    · rename_i rest hrest
      obtain ⟨word, hword, rfl⟩ := word_of_afterWord? hrest
      simp only at h
      split at h
      · rename_i digit tail htail
        split at h
        · rename_i hform
          simp only [Bool.and_eq_true, decide_eq_true_eq, Bool.not_eq_true'] at hform
          obtain ⟨⟨hlength, hne⟩, hdigit⟩ := hform
          obtain rfl := Option.some.inj h
          refine ⟨⟨word, rest.takeWhile isBlank, digit, tail, ?_, hword, ?_,
            List.all_eq_true.mp List.all_takeWhile, hdigit⟩, by simpa using hne,
            List.all_eq_true.mp List.all_takeWhile⟩
          · rw [← htail, List.append_assoc, List.append_assoc, List.takeWhile_append_dropWhile,
              List.takeWhile_append_dropWhile]
          · intro hnone
            have hsplit := List.takeWhile_append_dropWhile (p := isBlank) (l := rest)
            rw [hnone, List.nil_append] at hsplit
            exact hlength (congrArg List.length hsplit.symm)
        · cases h
      · cases h
  · rintro ⟨⟨word, blanks, digit, rest, rfl, hword, hne, hblanks, hdigit⟩, haddress, hchars⟩
    obtain ⟨blank, more, rfl⟩ := List.exists_cons_of_ne_nil hne
    obtain ⟨first, others, rfl⟩ := List.exists_cons_of_ne_nil haddress
    have hfirst : isBlank first = false := isBlank_of_isAddressChar (hchars first (by simp))
    have hslash : isAddressChar '/' = false := by decide
    have hword' : afterWord? (word ++ blank :: more ++ first :: others ++ '/' :: digit :: rest) =
        some (blank :: more ++ (first :: others ++ '/' :: digit :: rest)) := by
      have hafter : afterWord? (word ++ blank ::
          (more ++ (first :: others ++ '/' :: digit :: rest))) =
            some (blank :: (more ++ (first :: others ++ '/' :: digit :: rest))) :=
        afterWord?_append hword (hblanks blank (by simp))
      simpa using hafter
    -- The blanks end where the address begins, and the address ends at the slash.
    have hdrop : (blank :: more ++ (first :: others ++ '/' :: digit :: rest)).dropWhile isBlank =
        first :: others ++ '/' :: digit :: rest := by
      rw [List.dropWhile_append_of_pos hblanks, List.cons_append,
        List.dropWhile_cons_of_neg (by simp [hfirst])]
    have htake : (first :: others ++ '/' :: digit :: rest).takeWhile isAddressChar =
        first :: others := by
      rw [List.takeWhile_append_of_pos hchars, List.takeWhile_cons_of_neg (by simp [hslash]),
        List.append_nil]
    have hdrop' : (first :: others ++ '/' :: digit :: rest).dropWhile isAddressChar =
        '/' :: digit :: rest := by
      rw [List.dropWhile_append_of_pos hchars, List.dropWhile_cons_of_neg (by simp [hslash])]
    simp only [announced?, hword', hdrop, htake, hdrop']
    simp [hdigit]
    omega

/-- A line offers an address to a subnet: it announces it, without a zone, and the address agrees
with the subnet. -/
def Offers (subnet : Interface) (line : List Char) (a : Address) : Prop :=
  ∃ written, Announces (stripChars line) written ∧ '%' ∉ written ∧
    Address.readChars? written = some a ∧ subnet.Agrees a

theorem onLine?_eq_some_iff
    {subnet : Interface} {line : List Char} {a : Address}
    (hsubnet : subnet.address.InRange)
    (hlength : subnet.length ≤ subnet.address.family.bits) :
    onLine? subnet line = some a ↔ Offers subnet line a := by
  constructor
  · intro h
    unfold onLine? at h
    split at h
    · rename_i b hb
      split at h
      · rename_i hcovers
        obtain rfl := Option.some.inj h
        obtain ⟨written, hwritten, hread⟩ := Option.bind_eq_some_iff.mp hb
        obtain ⟨hannounces, -, hchars⟩ := announced?_eq_some_iff.mp hwritten
        refine ⟨written, hannounces, fun hzone => ?_, hread, ?_⟩
        · exact absurd (hchars _ hzone) (by decide)
        · exact (Interface.covers_iff_agrees hsubnet hlength
            (Address.readChars?_inRange hread)).mp hcovers
      · cases h
    · cases h
  · rintro ⟨written, hannounces, hzone, hread, hagrees⟩
    have hne : written ≠ [] := by
      rintro rfl
      cases hread
    have hfound : announced? (stripChars line) = some written :=
      announced?_eq_some_iff.mpr
        ⟨hannounces, hne, Address.isAddressChar_of_readChars? hzone hread⟩
    have hcovers : subnet.covers a = true :=
      (Interface.covers_iff_agrees hsubnet hlength (Address.readChars?_inRange hread)).mpr hagrees
    simp [onLine?, hfound, hread, hcovers]

theorem onLine?_eq_none_iff
    {subnet : Interface} {line : List Char}
    (hsubnet : subnet.address.InRange)
    (hlength : subnet.length ≤ subnet.address.family.bits) :
    onLine? subnet line = none ↔ ∀ a, ¬ Offers subnet line a := by
  rw [Option.eq_none_iff_forall_ne_some]
  exact forall_congr' fun a => not_congr (onLine?_eq_some_iff hsubnet hlength)

/-- The address that is found is the one on the first line that offers one to the subnet, in its
canonical text, and none is found exactly if no line offers one.  A subnet that is written without
a length holds only itself. -/
theorem address_on_first_line
    {subnet output : String} {net : Interface}
    (h : Interface.read? subnet = some net) :
    ('/' ∉ subnet.toList → net.length = net.address.family.bits) ∧
      (∀ text, findIn subnet output = .ok (some text) ↔
        ∃ before line after a, lines output.toList = before ++ line :: after ∧
          (∀ l ∈ before, ∀ b, ¬ Offers net l b) ∧ Offers net line a ∧ text = a.text) ∧
      (findIn subnet output = .ok none ↔
        ∀ line ∈ lines output.toList, ∀ a, ¬ Offers net line a) := by
  have hrange := Interface.inRange_of_read? h
  have hlength := Interface.length_le_of_read? h
  have hfind : findIn subnet output =
      .ok (((lines output.toList).findSome? (onLine? net)).map Address.text) := by
    rw [findIn, h]
    rfl
  refine ⟨fun hslash => Interface.length_of_read? hslash h, fun text => ?_, ?_⟩
  · rw [hfind, Except.ok.injEq, Option.map_eq_some_iff]
    simp only [List.findSome?_eq_some_iff, onLine?_eq_some_iff hrange hlength,
      onLine?_eq_none_iff hrange hlength]
    constructor
    · rintro ⟨a, ⟨before, line, after, hlines, hoffers, hbefore⟩, rfl⟩
      exact ⟨before, line, after, a, hlines, hbefore, hoffers, rfl⟩
    · rintro ⟨before, line, after, a, hlines, hbefore, hoffers, rfl⟩
      exact ⟨a, ⟨before, line, after, hlines, hoffers, hbefore⟩, rfl⟩
  · rw [hfind, Except.ok.injEq, Option.map_eq_none_iff, List.findSome?_eq_none_iff]
    exact forall₂_congr fun line _ => onLine?_eq_none_iff hrange hlength

/-! ### Two lists of interfaces -/

/-- A list of interfaces: a line without an address, one whose address has an octet too large, and
two with an address. -/
def sampleOutput : String :=
  "2: eth1: <UP>\n    inet 10.0.0.999/24\n\tinet  10.0.0.37/24 eth1\n    inet 10.0.0.38/24\n"

theorem lines_sampleOutput :
    lines sampleOutput.toList =
      ["2: eth1: <UP>".toList, "    inet 10.0.0.999/24".toList] ++
        "\tinet  10.0.0.37/24 eth1".toList :: ["    inet 10.0.0.38/24".toList] := by
  decide

/-- The subnet is written with bits of a host, and the first address in it is found. -/
theorem address_on_first_line_sample :
    Interface.read? "10.0.0.1/24" = some ⟨⟨.v4, 167772161⟩, 24⟩ ∧
      findIn "10.0.0.1/24" sampleOutput = .ok (some "10.0.0.37") := by
  have hread : Interface.read? "10.0.0.1/24" = some ⟨⟨.v4, 167772161⟩, 24⟩ := by decide
  have hrange := Interface.inRange_of_read? hread
  have hlength := Interface.length_le_of_read? hread
  refine ⟨hread, ((address_on_first_line hread).2.1 _).mpr
    ⟨_, _, _, ⟨.v4, 167772197⟩, lines_sampleOutput, fun l hl => ?_, ?_, by decide⟩⟩
  · refine (onLine?_eq_none_iff hrange hlength).mp ?_
    simp only [List.mem_cons, List.not_mem_nil, or_false] at hl
    rcases hl with rfl | rfl <;> decide
  · exact (onLine?_eq_some_iff hrange hlength).mp (by decide)

/-- A line announces an address with a zone, which can be read and lies in the subnet, but nothing
is found. -/
theorem zone_not_found :
    Interface.read? "fe80::/10" = some ⟨⟨.v6, 0xfe80 * 2 ^ 112⟩, 10⟩ ∧
      lines "inet6 fe80::1%eth0/64".toList = ["inet6 fe80::1%eth0/64".toList] ∧
      Announces (stripChars "inet6 fe80::1%eth0/64".toList) "fe80::1%eth0".toList ∧
      Address.readChars? "fe80::1%eth0".toList = some ⟨.v6, 0xfe80 * 2 ^ 112 + 1⟩ ∧
      Interface.Agrees ⟨⟨.v6, 0xfe80 * 2 ^ 112⟩, 10⟩ ⟨.v6, 0xfe80 * 2 ^ 112 + 1⟩ ∧
      findIn "fe80::/10" "inet6 fe80::1%eth0/64" = .ok none := by
  have hread : Interface.read? "fe80::/10" = some ⟨⟨.v6, 0xfe80 * 2 ^ 112⟩, 10⟩ := by decide
  have haddress : Address.readChars? "fe80::1%eth0".toList = some ⟨.v6, 0xfe80 * 2 ^ 112 + 1⟩ := by
    decide
  refine ⟨hread, by decide,
    ⟨"inet6".toList, [' '], '6', "4".toList, by decide, .inr rfl, by decide,
      List.forall_mem_singleton.mpr (by decide), by decide⟩,
    haddress, ?_, ?_⟩
  · exact (Interface.covers_iff_agrees (Interface.inRange_of_read? hread)
      (Interface.length_le_of_read? hread) (Address.readChars?_inRange haddress)).mp (by decide)
  · have hnone : find? ⟨⟨.v6, 0xfe80 * 2 ^ 112⟩, 10⟩ "inet6 fe80::1%eth0/64" = none := by decide
    simp only [findIn, hread, hnone, Option.map_none]

end HostAddress
end Homelab
