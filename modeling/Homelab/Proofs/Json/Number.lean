import Homelab.Json.Writer
import Homelab.Json.Reader
import Homelab.Proofs.Double.RoundTrip
import Homelab.Proofs.Text.Digits

/-!
# JSON numbers read back

An integer is read back from its digits, and a number with a fraction from its shortest
decimal, whichever of its three forms it is written in.  What stands behind the number
must not go on with it.
-/

namespace Homelab
namespace Json

/-! ### The parts of a number -/

/-- No digit stands at the beginning. -/
def NoDigit (rest : List Char) : Prop :=
  ∀ c, rest.head? = some c → Text.isAsciiDigit c = false

/-- What stands here does not go on with a number. -/
structure EndsNumber (rest : List Char) : Prop where
  noDigit : NoDigit rest
  noPoint : rest.head? ≠ some '.'
  noMark : rest.head? ≠ some 'e' ∧ rest.head? ≠ some 'E'

theorem noDigit_cons
    {c : Char} {rest : List Char}
    (h : Text.isAsciiDigit c = false) :
    NoDigit (c :: rest) := by
  intro d hd
  simp only [List.head?_cons, Option.some.injEq] at hd
  rwa [← hd]

theorem takeDigits_append
    {ds rest : List Char}
    (hds : ∀ c ∈ ds, Text.isAsciiDigit c = true)
    (hrest : NoDigit rest) :
    takeDigits (ds ++ rest) = (ds, rest) := by
  induction ds with
  | nil =>
      cases rest with
      | nil => rfl
      | cons c rest =>
          have hc := hrest c rfl
          simp [takeDigits, hc]
  | cons d ds ih =>
      have hd := hds d (by simp)
      have hrec := ih fun c hc => hds c (by simp [hc])
      simp only [takeDigits, Prod.mk.injEq] at hrec ⊢
      simp only [List.cons_append, List.takeWhile_cons_of_pos hd, List.dropWhile_cons_of_pos hd]
      exact ⟨congrArg _ hrec.1, hrec.2⟩

theorem readFraction_point
    {ds : List Char} (rest : List Char)
    (hne : ds ≠ [])
    (hds : ∀ c ∈ ds, Text.isAsciiDigit c = true)
    (hrest : NoDigit rest) :
    readFraction ('.' :: ds ++ rest) = (some ds, rest) := by
  simp only [List.cons_append, readFraction, takeDigits_append hds hrest]

theorem readFraction_none
    {rest : List Char}
    (h : rest.head? ≠ some '.') :
    readFraction rest = (none, rest) := by
  unfold readFraction
  split
  · exact absurd rfl h
  · rfl

theorem readExponent_none
    {rest : List Char}
    (h : rest.head? ≠ some 'e' ∧ rest.head? ≠ some 'E') :
    readExponent rest = (none, rest) := by
  unfold readExponent
  split
  · rename_i e rest
    rw [if_neg]
    simpa using h
  · rfl

theorem readExponent_mark
    (negative : Bool) {ds rest : List Char}
    (hne : ds ≠ [])
    (hds : ∀ c ∈ ds, Text.isAsciiDigit c = true)
    (hrest : NoDigit rest) :
    readExponent ('e' :: (if negative then '-' else '+') :: ds ++ rest) =
      (some ((if negative then -1 else 1) * (Text.natOfDigits ds : Int)), rest) := by
  cases negative <;>
    simp only [List.cons_append, readExponent, if_true, Bool.false_eq_true, if_false,
      decide_true, Bool.true_or, takeDigits_append hds hrest]

/-- The whole part of a number: zero alone, or digits that do not begin with zero. -/
structure WholeDigits (ds : List Char) : Prop where
  digits : ∀ c ∈ ds, Text.isAsciiDigit c = true
  ne_nil : ds ≠ []
  zero : ds.head? = some '0' → ds = ['0']

/-- The whole part at the beginning of a number. -/
def takeWhole (cs : List Char) : List Char × List Char :=
  match cs with
  | '0' :: rest => (['0'], rest)
  | _ => takeDigits cs

theorem takeWhole_append
    {ds : List Char} (rest : List Char)
    (hds : WholeDigits ds)
    (hrest : NoDigit rest) :
    takeWhole (ds ++ rest) = (ds, rest) := by
  by_cases hzero : ds.head? = some '0'
  · rw [hds.zero hzero]
    rfl
  · rw [← takeDigits_append hds.digits hrest]
    refine takeWhole.eq_2 _ ?_
    intro more heq
    cases ds with
    | nil => exact hds.ne_nil rfl
    | cons d ds =>
        simp only [List.cons_append, List.cons.injEq] at heq
        simp [heq.1] at hzero

/-- A number is read part by part. -/
theorem readNumber_eq
    (negative : Bool) (start : Nat) (cs : List Char) :
    readNumber negative start cs =
      let (whole, afterWhole) := takeWhole cs
      if whole = [] then .error (.at .value start)
      else
        let (fraction, afterFraction) := readFraction afterWhole
        let (exponent, left) := readExponent afterFraction
        match fraction, exponent with
        | none, none =>
            if digitLimit < whole.length then .error (.oversized whole.length)
            else
              let n : Int := Text.natOfDigits whole
              .ok (.int (if negative then -n else n), left)
        | _, _ =>
            let places := fraction.getD []
            .ok (.float (Double.ofDecimal negative (Text.natOfDigits (whole ++ places))
              (exponent.getD 0 - places.length)), left) := rfl

/-- A number with a fraction or an exponent is one with a fraction. -/
theorem readNumber_float
    {negative : Bool} {start : Nat} {cs whole afterWhole afterFraction left : List Char}
    {fraction : Option (List Char)} {exponent : Option Int}
    (hwhole : takeWhole cs = (whole, afterWhole))
    (hne : whole ≠ [])
    (hfraction : readFraction afterWhole = (fraction, afterFraction))
    (hexponent : readExponent afterFraction = (exponent, left))
    (hsome : fraction ≠ none ∨ exponent ≠ none) :
    readNumber negative start cs =
      .ok (.float (Double.ofDecimal negative (Text.natOfDigits (whole ++ fraction.getD []))
        (exponent.getD 0 - (fraction.getD []).length)), left) := by
  rw [readNumber_eq, hwhole]
  simp only [if_neg hne, hfraction, hexponent]
  cases fraction with
  | some ds => rfl
  | none =>
      cases exponent with
      | some e => rfl
      | none => simp at hsome

/-! ### Integers -/

theorem wholeDigits_toDigits
    (n : Nat) :
    WholeDigits (Nat.toDigits 10 n) := by
  refine ⟨fun c hc => Text.isAsciiDigit_of_mem_toDigits hc, Nat.toDigits_ne_nil, ?_⟩
  intro hzero
  by_cases hn : n = 0
  · rw [hn]
    rfl
  · exact absurd hzero (Text.head?_toDigits_eq_zero (by omega) hn)

/-- The digits of an integer that is not too large are read as the integer. -/
theorem readNumber_toDigits
    {negative : Bool} {start n : Nat} {rest : List Char}
    (hn : n < 10 ^ digitLimit)
    (hrest : EndsNumber rest) :
    readNumber negative start (Nat.toDigits 10 n ++ rest) =
      .ok (.int (if negative then -(n : Int) else n), rest) := by
  have hwhole := wholeDigits_toDigits n
  have hlength : ¬ digitLimit < (Nat.toDigits 10 n).length := by
    have := (Nat.length_toDigits_le_iff (by omega) (by decide)).mpr hn
    omega
  rw [readNumber_eq, takeWhole_append _ hwhole hrest.noDigit]
  simp only [if_neg hwhole.ne_nil, readFraction_none hrest.noPoint,
    readExponent_none hrest.noMark, if_neg hlength, Text.natOfDigits_toDigits]

/-! ### Numbers with a fraction -/

open Double

theorem wholeDigits_of_head
    {ds : List Char}
    (hds : ∀ c ∈ ds, Text.isAsciiDigit c = true)
    (hne : ds ≠ [])
    (hhead : ds.head? ≠ some '0') :
    WholeDigits ds :=
  ⟨hds, hne, fun h => absurd h hhead⟩

theorem isAsciiDigit_zeros
    {k : Nat} {c : Char}
    (hc : c ∈ List.replicate k '0') :
    Text.isAsciiDigit c = true := by
  rw [(List.mem_replicate.mp hc).2]
  rfl

/-- Digits with a point in them. -/
theorem readNumber_point
    (negative : Bool) (start : Nat) {whole places rest : List Char}
    (hwhole : WholeDigits whole)
    (hplaces : ∀ c ∈ places, Text.isAsciiDigit c = true)
    (hne : places ≠ [])
    (hrest : EndsNumber rest) :
    readNumber negative start (whole ++ ('.' :: places ++ rest)) =
      .ok (.float (ofDecimal negative (Text.natOfDigits (whole ++ places))
        (-(places.length : Int))), rest) := by
  have hsplit := takeWhole_append ('.' :: places ++ rest) hwhole (noDigit_cons rfl)
  refine (readNumber_float hsplit hwhole.ne_nil (readFraction_point _ hne hplaces hrest.noDigit)
    (readExponent_none hrest.noMark) (by simp)).trans ?_
  simp

/-- A digit, places behind a point if there are any, and an exponent. -/
theorem readNumber_exponent
    (negative down : Bool) (start : Nat) {k : Nat} {d : Char} {places ds rest : List Char}
    (hd : WholeDigits [d])
    (hplaces : ∀ c ∈ places, Text.isAsciiDigit c = true)
    (hds : ∀ c ∈ ds, Text.isAsciiDigit c = true)
    (hne : ds ≠ [])
    (hk : Text.natOfDigits ds = k)
    (hrest : EndsNumber rest) :
    readNumber negative start
        ((match places with | [] => [d] | c :: cs => d :: '.' :: c :: cs) ++
          ('e' :: (if down then '-' else '+') :: ds ++ rest)) =
      .ok (.float (ofDecimal negative (Text.natOfDigits (d :: places))
        ((if down then -1 else 1) * (k : Int) - places.length)), rest) := by
  have hmark := readExponent_mark down hne hds hrest.noDigit
  cases places with
  | nil =>
      have hwhole := takeWhole_append ('e' :: (if down then '-' else '+') :: ds ++ rest) hd
        (noDigit_cons rfl)
      refine (readNumber_float hwhole (by simp) (readFraction_none (by simp)) hmark
        (by simp)).trans ?_
      simp [hk]
  | cons c cs =>
      have hwhole := takeWhole_append
        ('.' :: (c :: cs) ++ ('e' :: (if down then '-' else '+') :: ds ++ rest)) hd
        (noDigit_cons rfl)
      have hfraction := readFraction_point ('e' :: (if down then '-' else '+') :: ds ++ rest)
        (List.cons_ne_nil c cs) hplaces (noDigit_cons rfl)
      refine (readNumber_float hwhole (by simp) hfraction hmark (by simp)).trans ?_
      simp [hk]

theorem natOfDigits_zeros_append
    (k : Nat) (ds : List Char) :
    Text.natOfDigits (List.replicate k '0' ++ ds) = Text.natOfDigits ds := by
  rw [Text.natOfDigits_append, Text.natOfDigits_zeros]
  omega

theorem natOfDigits_append_zeros
    (k : Nat) (ds : List Char) :
    Text.natOfDigits (ds ++ List.replicate k '0') = Text.natOfDigits ds * 10 ^ k := by
  rw [Text.natOfDigits_append, Text.natOfDigits_zeros, List.length_replicate, Nat.add_zero]

/-- Digits that go on with zeros stand for a number with a higher power of ten. -/
theorem decimal_zeros
    (m k : Nat) (e : Int) :
    decimal (m * 10 ^ k, e) = decimal (m, e + k) := by
  simp only [decimal]
  rw [zpow_add₀ (by norm_num), zpow_natCast]
  push_cast
  ring

section Layout

variable {ds rest : List Char} {negative : Bool} {start : Nat}

/-- Digits behind zeros and a point. -/
theorem readNumber_small
    (k : Nat)
    (hdigits : ∀ c ∈ ds, Text.isAsciiDigit c = true)
    (hne : ds ≠ [])
    (hrest : EndsNumber rest) :
    readNumber negative start ('0' :: '.' :: List.replicate k '0' ++ ds ++ rest) =
      .ok (.float (ofDecimal negative (Text.natOfDigits ds) (-((k + ds.length : Nat) : Int))),
        rest) := by
  have hplaces : ∀ c ∈ List.replicate k '0' ++ ds, Text.isAsciiDigit c = true := by
    intro c hc
    rcases List.mem_append.mp hc with hc | hc
    · exact isAsciiDigit_zeros hc
    · exact hdigits c hc
  have hwhole : WholeDigits ['0'] := ⟨by simp; rfl, by simp, fun _ => rfl⟩
  have hread := readNumber_point negative start hwhole hplaces
    (by simp [hne]) hrest
  have hvalue : Text.natOfDigits (['0'] ++ (List.replicate k '0' ++ ds)) = Text.natOfDigits ds := by
    rw [← List.append_assoc]
    exact natOfDigits_zeros_append (k + 1) ds
  rw [hvalue, List.length_append, List.length_replicate] at hread
  rw [← hread]
  simp

/-- Digits in front of zeros and a point. -/
theorem readNumber_large
    (k : Nat)
    (hwhole : WholeDigits ds)
    (hhead : ds.head? ≠ some '0')
    (hrest : EndsNumber rest) :
    readNumber negative start (ds ++ List.replicate k '0' ++ ['.', '0'] ++ rest) =
      .ok (.float (ofDecimal negative (Text.natOfDigits ds * 10 ^ (k + 1)) (-1)), rest) := by
  have hzeros : WholeDigits (ds ++ List.replicate k '0') := by
    refine wholeDigits_of_head ?_ (by simp [hwhole.ne_nil]) ?_
    · intro c hc
      rcases List.mem_append.mp hc with hc | hc
      · exact hwhole.digits c hc
      · exact isAsciiDigit_zeros hc
    · cases ds with
      | nil => exact absurd rfl hwhole.ne_nil
      | cons d ds => exact hhead
  have hplace : ∀ c ∈ ['0'], Text.isAsciiDigit c = true := by
    simp
    rfl
  have hread := readNumber_point negative start hzeros hplace (by simp) hrest
  have hvalue : Text.natOfDigits (ds ++ List.replicate k '0' ++ ['0']) =
      Text.natOfDigits ds * 10 ^ (k + 1) := by
    rw [← natOfDigits_append_zeros, List.replicate_succ', List.append_assoc]
  rw [hvalue] at hread
  rw [List.append_assoc _ ['.', '0']]
  exact hread

/-- Digits around a point. -/
theorem readNumber_mixed
    {k : Nat}
    (hk : 0 < k)
    (hlt : k < ds.length)
    (hwhole : WholeDigits ds)
    (hhead : ds.head? ≠ some '0')
    (hrest : EndsNumber rest) :
    readNumber negative start (ds.take k ++ '.' :: ds.drop k ++ rest) =
      .ok (.float (ofDecimal negative (Text.natOfDigits ds) (-((ds.length - k : Nat) : Int))),
        rest) := by
  have hfront : WholeDigits (ds.take k) := by
    refine wholeDigits_of_head (fun c hc => hwhole.digits c (List.mem_of_mem_take hc)) ?_ ?_
    · simp [hwhole.ne_nil]
      omega
    · rwa [List.head?_take, if_neg (by omega)]
  have hback : ∀ c ∈ ds.drop k, Text.isAsciiDigit c = true :=
    fun c hc => hwhole.digits c (List.mem_of_mem_drop hc)
  have hread := readNumber_point negative start hfront hback (by simpa using hlt) hrest
  rw [List.take_append_drop, List.length_drop] at hread
  rw [List.append_assoc]
  exact hread

end Layout

/-- At least two digits of a number. -/
def paddedDigits (k : Nat) : List Char :=
  if (Nat.toDigits 10 k).length < 2 then '0' :: Nat.toDigits 10 k else Nat.toDigits 10 k

theorem paddedDigits_spec
    (k : Nat) :
    (∀ c ∈ paddedDigits k, Text.isAsciiDigit c = true) ∧ paddedDigits k ≠ [] ∧
      Text.natOfDigits (paddedDigits k) = k := by
  have hdigits : ∀ c ∈ Nat.toDigits 10 k, Text.isAsciiDigit c = true :=
    fun c hc => Text.isAsciiDigit_of_mem_toDigits hc
  unfold paddedDigits
  split
  · refine ⟨?_, by simp, ?_⟩
    · intro c hc
      rcases List.mem_cons.mp hc with rfl | hc
      · rfl
      · exact hdigits c hc
    · exact (natOfDigits_zeros_append 1 _).trans (Text.natOfDigits_toDigits k)
  · exact ⟨hdigits, Nat.toDigits_ne_nil, Text.natOfDigits_toDigits k⟩

/-- The text of a decimal is read as a decimal of the same value. -/
theorem readNumber_layout
    (negative : Bool) (start : Nat) {m : Nat} (e : Int) {rest : List Char}
    (hm : 0 < m)
    (hrest : EndsNumber rest) :
    ∃ m' e', readNumber negative start ((layout m e).toList ++ rest) =
        .ok (.float (ofDecimal negative m' e'), rest) ∧
      decimal (m', e') = decimal (m, e) := by
  have hrepr : ∀ n, (Nat.repr n).toList = Nat.toDigits 10 n := by
    intro n
    rw [Nat.repr_eq_ofList_toDigits, String.toList_ofList]
  have hhead := Text.head?_toDigits_eq_zero (b := 10) (by omega) (Nat.ne_of_gt hm)
  have hwhole := wholeDigits_toDigits m
  have hvalue := Text.natOfDigits_toDigits m
  simp only [layout, hrepr]
  generalize Nat.toDigits 10 m = ds at hwhole hhead hvalue ⊢
  have hlength : 0 < ds.length := List.length_pos_iff.mpr hwhole.ne_nil
  split
  · rename_i hplain
    simp only [Bool.and_eq_true, decide_eq_true_eq] at hplain
    split
    · rename_i hpoint
      refine ⟨m, e, ?_, rfl⟩
      rw [String.toList_ofList, readNumber_small _ hwhole.digits hwhole.ne_nil hrest, hvalue]
      congr 4
      omega
    · split
      · rename_i hpoint hlarge
        refine ⟨m * 10 ^ ((ds.length + e - ds.length : Int).toNat + 1), -1, ?_, ?_⟩
        · rw [String.toList_ofList, readNumber_large _ hwhole hhead hrest, hvalue]
        · rw [decimal_zeros]
          congr 2
          omega
      · rename_i hpoint hlarge
        refine ⟨m, e, ?_, rfl⟩
        rw [String.toList_ofList, readNumber_mixed (by omega) (by omega) hwhole hhead hrest, hvalue]
        congr 4
        omega
  · refine ⟨m, e, ?_, rfl⟩
    rw [String.toList_ofList]
    obtain ⟨d, places, rfl⟩ := List.exists_cons_of_ne_nil hwhole.ne_nil
    have hd : WholeDigits [d] :=
      wholeDigits_of_head (by simpa using hwhole.digits d (by simp)) (by simp) (by simpa using hhead)
    have hplaces : ∀ c ∈ places, Text.isAsciiDigit c = true :=
      fun c hc => hwhole.digits c (by simp [hc])
    have hread := readNumber_exponent negative
      (decide (((d :: places).length : Int) + e - 1 < 0)) start hd hplaces
      (paddedDigits_spec (((d :: places).length : Int) + e - 1).natAbs).1
      (paddedDigits_spec (((d :: places).length : Int) + e - 1).natAbs).2.1
      (paddedDigits_spec (((d :: places).length : Int) + e - 1).natAbs).2.2 hrest
    have hexponent : (if decide (((d :: places).length : Int) + e - 1 < 0) then -1 else 1) *
        ((((d :: places).length : Int) + e - 1).natAbs : Int) - places.length = e := by
      simp only [List.length_cons, decide_eq_true_eq]
      split <;> omega
    rw [hvalue, hexponent] at hread
    rw [← hread, List.append_assoc]
    cases places <;> simp [paddedDigits]

/-! ### Words -/

/-- What is read as a number begins with a digit. -/
theorem digit_of_readNumber
    {negative : Bool} {start : Nat} {cs : List Char} {r : Value × List Char}
    (h : readNumber negative start cs = .ok r) :
    ∃ c rest, cs = c :: rest ∧ Text.isAsciiDigit c = true := by
  cases cs with
  | nil => simp [readNumber_eq, takeWhole, takeDigits] at h
  | cons c rest =>
      refine ⟨c, rest, rfl, ?_⟩
      by_contra hc
      have hwhole : takeWhole (c :: rest) = ([], c :: rest) := by
        have hzero : c ≠ '0' := by
          rintro rfl
          exact hc rfl
        rw [takeWhole.eq_2 _ (by simp [hzero])]
        simp [takeDigits, hc]
      rw [readNumber_eq, hwhole] at h
      simp at h

theorem readWord_of_number
    {cs : List Char} {r : Value × List Char}
    (h : readNumber false cs.length cs = .ok r) :
    readWord cs = .ok r := by
  obtain ⟨c, rest, rfl, hc⟩ := digit_of_readNumber h
  have hne : ∀ d, Text.isAsciiDigit d = false → c ≠ d := by
    rintro d hd rfl
    simp [hd] at hc
  rw [← h]
  refine readWord.eq_8 _ ?_ ?_ ?_ ?_ ?_ ?_ ?_ <;>
    exact fun _ heq => hne _ (by decide) (List.cons.inj heq).1

theorem readWord_of_negative
    {cs : List Char} {r : Value × List Char}
    (h : readNumber true (cs.length + 1) cs = .ok r) :
    readWord ('-' :: cs) = .ok r := by
  obtain ⟨c, rest, rfl, hc⟩ := digit_of_readNumber h
  rw [← h]
  refine readWord.eq_7 _ ?_
  intro _ heq
  rw [(List.cons.inj heq).1] at hc
  exact absurd hc (by decide)

/-- An integer that is not too large is read back. -/
theorem readWord_int
    {n : Int} {rest : List Char}
    (hn : n.natAbs < 10 ^ digitLimit)
    (hrest : EndsNumber rest) :
    readWord ((toString n).toList ++ rest) = .ok (.int n, rest) := by
  cases n with
  | ofNat k =>
      have htext : (toString (Int.ofNat k)).toList = Nat.toDigits 10 k := by
        rw [show toString (Int.ofNat k) = Nat.repr k from rfl, Nat.repr_eq_ofList_toDigits,
          String.toList_ofList]
      rw [htext]
      exact readWord_of_number (readNumber_toDigits hn hrest)
  | negSucc k =>
      have htext : (toString (Int.negSucc k)).toList = '-' :: Nat.toDigits 10 (k + 1) := by
        rw [show toString (Int.negSucc k) = "-" ++ Nat.repr (k + 1) from rfl]
        simp [Nat.repr_eq_ofList_toDigits]
      rw [htext]
      exact readWord_of_negative (readNumber_toDigits hn hrest)

/-- A finite number is read back from its text. -/
theorem readNumber_text
    {x : Double} (start : Nat) {rest : List Char}
    (hfinite : x.isFinite = true)
    (hrest : EndsNumber rest) :
    readNumber x.negative start
        ((if x.isZero then "0.0" else layout x.shortest.1 x.shortest.2).toList ++ rest) =
      .ok (.float x, rest) := by
  cases hzero : x.isZero with
  | true =>
      have hwhole : WholeDigits ['0'] := ⟨by simp; rfl, by simp, fun _ => rfl⟩
      have hread := readNumber_point x.negative start hwhole hwhole.digits (by simp) hrest
      have hx : zero x.negative = x := by
        have hmagnitude : x.magnitude = 0 := by simpa [isZero] using hzero
        rw [zero, ← hmagnitude, ofParts_magnitude]
      rw [show Text.natOfDigits (['0'] ++ ['0']) = 0 from rfl, ofDecimal, if_pos rfl, hx] at hread
      rwa [if_pos rfl, show "0.0".toList = ['0', '.', '0'] by decide]
  | false =>
      have hpos : 0 < x.shortest.1 := by
        refine pos_of_near ?_ (near_shortest hzero)
        have := (isZero_iff (parts x)).not.mp (by simp [hzero])
        omega
      obtain ⟨m, e, hread, hvalue⟩ := readNumber_layout x.negative start x.shortest.2 hpos hrest
      rw [ofDecimal_of_decimal_eq hfinite hzero hvalue] at hread
      exact hread

/-- A number with a fraction is read back, if the value that is not a number has its
usual bits. -/
theorem readWord_float
    {x : Double} {rest : List Char}
    (hnan : x.isNaN = true → x = notANumber)
    (hrest : EndsNumber rest) :
    readWord ((floatText x).toList ++ rest) = .ok (.float x, rest) := by
  cases hisnan : x.isNaN with
  | true =>
      rw [hnan hisnan]
      rfl
  | false =>
      cases hinfinite : x.isInfinite with
      | true =>
          have hx : infinity x.negative = x := by
            have hmagnitude : x.magnitude = infinityBits := by simpa [isInfinite] using hinfinite
            rw [infinity, ← hmagnitude, ofParts_magnitude]
          rw [floatText, if_neg (by simp [hisnan]), if_pos hinfinite]
          rw [← hx]
          cases x.negative <;> rfl
      | false =>
          have hfinite : x.isFinite = true := by
            simp only [isNaN, isInfinite, isFinite, decide_eq_false_iff_not, beq_eq_false_iff_ne,
              decide_eq_true_eq] at hisnan hinfinite ⊢
            omega
          have htext : (floatText x).toList = (if x.negative then ['-'] else []) ++
              (if x.isZero then "0.0" else layout x.shortest.1 x.shortest.2).toList := by
            rw [floatText, if_neg (by simp [hisnan]), if_neg (by simp [hinfinite]), text,
              if_neg (by simp [hisnan])]
            simp only [hinfinite, Bool.false_eq_true, if_false]
            cases x.negative <;> cases x.isZero <;> simp
          rw [htext]
          have hread := fun start => readNumber_text start hfinite hrest
          cases hsign : x.negative with
          | true =>
              rw [hsign] at hread
              exact readWord_of_negative (hread _)
          | false =>
              rw [hsign] at hread
              exact readWord_of_number (hread _)

end Json
end Homelab
