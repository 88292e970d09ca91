import Reckoner.Proofs.Binary64.Places
import Reckoner.Proofs.Evaluation

/-!
The text of a result in its canonical form. The shortest decimal of a rounded number has no more
places after the point than were asked for, because the decimal that the number was rounded to is
read as the number and has no more. Its coefficient does not end in a zero and its digits do not
begin with one, so written positionally there is nothing to strip on either side. Whatever form the
text has, it is read as the rounded number.
-/

namespace Reckoner

theorem head_toDigits_ne_zero {n : Nat} (hpos : 0 < n) (rest : List Char) :
    Nat.toDigits 10 n ≠ '0' :: rest := by
  induction n using Nat.strongRecOn generalizing rest with
  | ind n ih =>
      intro hdigits
      by_cases hone : n < 10
      · rw [Nat.toDigits_of_lt_base hone] at hdigits
        have hvalue := Nat.toNat_digitChar_of_lt_ten hone
        rw [(List.cons.inj hdigits).1] at hvalue
        simp at hvalue
        omega
      · rw [Nat.toDigits_of_base_le (by decide) (by omega)] at hdigits
        have hquotient : 0 < n / 10 := by omega
        cases hfront : Nat.toDigits 10 (n / 10) with
        | nil => exact Nat.toDigits_ne_nil hfront
        | cons c front =>
            rw [hfront] at hdigits
            obtain rfl := (List.cons.inj hdigits).1
            exact ih (n / 10) (by omega) hquotient front hfront

/-- Only the digits of a multiple of ten end in a zero. A shortest coefficient is none, so its last
digit is significant. -/
theorem getLast?_toDigits_ne_zero {n : Nat} (h : n % 10 ≠ 0) :
    (Nat.toDigits 10 n).getLast? ≠ some '0' := by
  intro hlast
  obtain ⟨front, hfront⟩ := List.getLast?_eq_some_iff.mp hlast
  have hvalue := digitsValue_toDigits n
  rw [hfront, digitsValue_append] at hvalue
  have hten : digitsValue front * 10 + 0 = n := hvalue
  omega

namespace Numeral

/-- A numeral without anything superfluous: it has no exponent, begins with a zero only if that is
all there is before the point, and has a point only for the digits after it, of which there are at
most `places` and the last is not zero. -/
structure Canonical (places : Nat) (n : Numeral) : Prop where
  wellFormed : n.WellFormed
  exponent : n.exponent = none
  whole : n.whole ≠ []
  leading : ∀ rest, n.whole = '0' :: rest → rest = []
  fraction : ∀ digits ∈ n.fraction,
    digits ≠ [] ∧ digits.length ≤ places ∧ digits.getLast? ≠ some '0'

end Numeral

/-- The text of a canonical numeral, with a minus before it unless it is zero. So there is one text
for each value, and none for a negative zero. -/
inductive IsCanonical (places : Nat) (text : String) : Prop where
  | unsigned (n : Numeral) (hcanonical : n.Canonical places) (htext : text.toList = n.text)
  | negative (n : Numeral) (hcanonical : n.Canonical places) (hnonzero : n ≠ ⟨['0'], none, none⟩)
      (htext : text.toList = '-' :: n.text)

theorem isCanonical_zero (places : Nat) : IsCanonical places "0" := by
  refine .unsigned ⟨['0'], none, none⟩ ⟨⟨?_, ?_, ?_⟩, rfl, ?_, ?_, ?_⟩ rfl <;> simp [isDigit_eq]

/-- Digits on both sides of a point make a canonical numeral if the first is not a needless zero and
the last is no zero at all. -/
theorem Numeral.canonical_of_fraction {places : Nat} {whole fraction : List Char}
    (hwhole : ∀ c ∈ whole, isDigit c = true) (hne : whole ≠ [])
    (hleading : ∀ rest, whole = '0' :: rest → rest = [])
    (hfraction : ∀ c ∈ fraction, isDigit c = true) (hfractionNe : fraction ≠ [])
    (hlength : fraction.length ≤ places) (hlast : fraction.getLast? ≠ some '0') :
    Canonical places ⟨whole, some fraction, none⟩ := by
  refine ⟨⟨hwhole, ?_, by simp⟩, rfl, hne, hleading, ?_⟩
  · rintro _ ⟨⟩
    exact hfraction
  · rintro _ ⟨⟩
    exact ⟨hfractionNe, hlength, hlast⟩

/-- The texts of canonical numerals other than zero. Zero is left out because a minus may stand
before all the others. -/
def WrittenCanonically (places : Nat) (chars : List Char) : Prop :=
  ∃ n : Numeral, n.Canonical places ∧ n ≠ ⟨['0'], none, none⟩ ∧ chars = n.text

namespace Layout

section Positional

variable {d : Decimal} {places : Nat}

theorem whole_canonical (hfirst : ∀ rest, d.digits ≠ '0' :: rest) (zeros : Nat) :
    WrittenCanonically places (d.digits ++ List.replicate zeros '0') := by
  have hne := d.digits_ne_nil
  have hzero (rest : List Char) : d.digits ++ List.replicate zeros '0' ≠ '0' :: rest := by
    intro heq
    obtain ⟨first, others, hdigits⟩ := List.exists_cons_of_ne_nil hne
    rw [hdigits] at heq
    exact hfirst others (by rw [hdigits, (List.cons.inj heq).1])
  refine ⟨⟨d.digits ++ List.replicate zeros '0', none, none⟩,
    ⟨⟨?_, by simp, by simp⟩, rfl, by simp [hne], ?_, by simp⟩, ?_, by simp [Numeral.text]⟩
  · intro c hc
    rcases List.mem_append.mp hc with hc | hc
    · exact Decimal.isDigit_of_mem_digits hc
    · exact isDigit_of_mem_replicate hc
  · intro rest heq
    exact absurd heq (hzero rest)
  · intro heq
    exact hzero [] (congrArg Numeral.whole heq)

theorem point_canonical (hfirst : ∀ rest, d.digits ≠ '0' :: rest)
    (hlast : d.digits.getLast? ≠ some '0') {fraction : Nat} (hpos : 0 < fraction)
    (hplaces : fraction ≤ places) (hless : fraction < d.digits.length) :
    WrittenCanonically places (d.digits.take (d.digits.length - fraction) ++
      '.' :: d.digits.drop (d.digits.length - fraction)) := by
  refine ⟨⟨d.digits.take (d.digits.length - fraction),
    some (d.digits.drop (d.digits.length - fraction)), none⟩,
    Numeral.canonical_of_fraction ?_ ?_ ?_ ?_ ?_ ?_ ?_, by simp, by simp [Numeral.text]⟩
  · exact fun c hc => Decimal.isDigit_of_mem_digits (List.mem_of_mem_take hc)
  · simp only [ne_eq, List.take_eq_nil_iff, d.digits_ne_nil, or_false]
    omega
  · intro rest htake
    have hsplit := List.take_append_drop (d.digits.length - fraction) d.digits
    rw [htake] at hsplit
    exact absurd hsplit.symm (hfirst _)
  · exact fun c hc => Decimal.isDigit_of_mem_digits (List.mem_of_mem_drop hc)
  · simp only [ne_eq, List.drop_eq_nil_iff]
    omega
  · rw [List.length_drop]
    omega
  · rwa [List.getLast?_drop, if_neg (by omega)]

theorem leading_zero_canonical (hlast : d.digits.getLast? ≠ some '0') {fraction : Nat}
    (hplaces : fraction ≤ places) (hge : d.digits.length ≤ fraction) :
    WrittenCanonically places
      ('0' :: '.' :: (List.replicate (fraction - d.digits.length) '0' ++ d.digits)) := by
  refine ⟨⟨['0'], some (List.replicate (fraction - d.digits.length) '0' ++ d.digits), none⟩,
    Numeral.canonical_of_fraction ?_ ?_ ?_ ?_ ?_ ?_ ?_, by simp, by simp [Numeral.text]⟩
  · simp [isDigit_eq]
  · simp
  · intro rest heq
    exact (List.cons.inj heq).2.symm
  · intro c hc
    rcases List.mem_append.mp hc with hc | hc
    · exact isDigit_of_mem_replicate hc
    · exact Decimal.isDigit_of_mem_digits hc
  · simp [d.digits_ne_nil]
  · rw [List.length_append, List.length_replicate]
    omega
  · rwa [List.getLast?_append_of_ne_nil _ d.digits_ne_nil]

/-- A decimal whose digits neither begin nor end in a zero is written canonically. Its exponent
bounds the places, wherever the point comes to stand. -/
theorem positional_canonical (hmod : d.coefficient % 10 ≠ 0)
    (hplaces : -(places : Int) ≤ d.exponent) :
    WrittenCanonically places (Layout.display.positional d) := by
  have hfirst (rest : List Char) : d.digits ≠ '0' :: rest := head_toDigits_ne_zero (by omega) rest
  have hlast : d.digits.getLast? ≠ some '0' := getLast?_toDigits_ne_zero hmod
  unfold positional
  dsimp only
  split
  · have hending : Layout.display.wholeEnding = [] := rfl
    rw [hending, List.append_nil]
    exact whole_canonical hfirst _
  · rename_i hfraction
    split
    · rename_i hless
      exact point_canonical hfirst hlast (by omega) (by omega) hless
    · rename_i hmore
      exact leading_zero_canonical hlast (by omega) (Nat.le_of_not_lt hmore)

end Positional

end Layout

open Binary64 Rounding

theorem isCanonical_write {places units : Nat} (negative : Bool) (h : Representable units)
    (hpos : 0 < units) (hplaces : -(places : Int) ≤ (shortest units).exponent) :
    IsCanonical places ((finite negative units h).write .display) := by
  have hmod := shortest_coefficient_mod hpos h.2
  have hnonzero : (shortest units).coefficient ≠ 0 := by omega
  have hwrite : Layout.display.write (shortest units) =
      Layout.display.positional (shortest units) := by
    rw [Layout.write, if_neg hnonzero]
    exact if_pos rfl
  obtain ⟨n, hn, hne, htext⟩ := Layout.positional_canonical hmod hplaces
  cases negative with
  | false =>
      refine .unsigned n hn ?_
      rw [write, String.toList_ofList, hwrite, htext]
  | true =>
      refine .negative n hn hne ?_
      rw [write, String.toList_ofList, hwrite, htext]

theorem writeResult_of_pos {negative : Bool} {units : Nat} (h : Representable units)
    (hpos : 0 < units) (hbelow : (finite negative units h).abs < exponentThreshold) :
    writeResult (finite negative units h) = (finite negative units h).write .display := by
  have hnonzero : (finite negative units h).isZero = false := by
    obtain ⟨m, rfl⟩ := Nat.exists_eq_succ_of_ne_zero hpos.ne'
    rfl
  rw [writeResult, if_neg (by simp [hnonzero]), if_neg (not_atMost_of_less hbelow)]

/-- A finite number has a text, which is read as the rounded number. Below the magnitude from which
an exponent is written the text is canonical: it shows no more places than were asked for and
nothing superfluous. -/
theorem formatResult_canonical {x : Binary64} {places : Int} (hfinite : x.isFinite = true)
    (hlow : 0 ≤ places) (hhigh : places ≤ 91) :
    ∃ rounded text, roundDecimal x places = .ok rounded ∧ rounded.isFinite = true ∧
      formatResult x places = .ok text ∧
      ofText? text.toList = some (if rounded.isZero then zero false else rounded) ∧
      (rounded.abs < exponentThreshold → IsCanonical places.toNat text) := by
  cases x with
  | nan | infinity negative => cases hfinite
  | finite negative units h =>
      have hround := roundDecimal_of_finite h hlow hhigh negative
      have hrounded := rereading_representable h hlow
      refine ⟨_, _, hround, rfl, formatResult_of_rounded hfinite hround, ofText?_writeResult _, ?_⟩
      intro hbelow
      by_cases hzero : (finite negative (rereading units places) hrounded).isZero = true
      · rw [writeResult_of_isZero hzero]
        exact isCanonical_zero _
      · have hpos : 0 < rereading units places := by
          apply Nat.pos_of_ne_zero
          intro hnone
          apply hzero
          simp only [hnone]
          rfl
        have hplaces := le_exponent_shortest hpos hrounded.2 (by omega) rfl
        rw [writeResult_of_pos hrounded hpos hbelow]
        exact isCanonical_write negative hrounded hpos hplaces

/-- A sum of tenths that is no binary64 tenth, to seventeen places: the last place is finer than the
spacing, and the text still has no more places. -/
theorem formatResult_canonical_sum :
    (ofDecimal false ⟨1, -1⟩ + ofDecimal false ⟨2, -1⟩).isFinite = true ∧ (0 : Int) ≤ 17 ∧
      (17 : Int) ≤ 91 ∧
      ∃ rounded text,
        roundDecimal (ofDecimal false ⟨1, -1⟩ + ofDecimal false ⟨2, -1⟩) 17 = .ok rounded ∧
        rounded.isFinite = true ∧
        formatResult (ofDecimal false ⟨1, -1⟩ + ofDecimal false ⟨2, -1⟩) 17 = .ok text ∧
        ofText? text.toList = some (if rounded.isZero then zero false else rounded) ∧
        (rounded.abs < exponentThreshold → IsCanonical (17 : Int).toNat text) := by
  have hfinite : (ofDecimal false ⟨1, -1⟩ + ofDecimal false ⟨2, -1⟩).isFinite = true := by
    decide +kernel
  exact ⟨hfinite, by decide, by decide, formatResult_canonical hfinite (by decide) (by decide)⟩

example : formatResult (ofDecimal false ⟨1, -1⟩ + ofDecimal false ⟨2, -1⟩) 17 =
    .ok "0.30000000000000004" := by
  decide +kernel

end Reckoner
