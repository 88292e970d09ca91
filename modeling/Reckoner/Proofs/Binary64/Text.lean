import Reckoner.Binary64.Text
import Reckoner.Proofs.Binary64.Shortest
import Reckoner.Proofs.Numeral

/-!
What a layout writes can be read: every written form of a decimal is the text of a numeral of the
same value, whether it is positional, ends in a zero fraction or has an exponent. Together with the
shortest decimal that reads back, a number is therefore recovered from its text.
-/

namespace Reckoner

/-- The characters are those of a numeral whose decimal has the value of `d`. The decimal of the
numeral may have more zeros, as a layout may write zeros that `d` does not have. -/
def Denotes (chars : List Char) (d : Decimal) : Prop :=
  ∃ n : Numeral, n.WellFormed ∧ n.whole ≠ [] ∧ n.text = chars ∧ n.decimal.Moderate ∧
    n.decimal.value = d.value

namespace Decimal

theorem Moderate.of_value_eq {d d' : Decimal} (h : d.Moderate) (hvalue : d'.value = d.value)
    (hlow : -400 ≤ d'.exponent) (hhigh : d'.exponent ≤ 400) : d'.Moderate := by
  refine ⟨fun hzero => ?_, hlow, hhigh⟩
  have hpos : d.value ≠ 0 :=
    mul_ne_zero (by exact_mod_cast h.coefficient) (zpow_ne_zero _ (by norm_num))
  rw [← hvalue, value, hzero] at hpos
  simp at hpos

theorem digitsValue_digits (d : Decimal) : digitsValue d.digits = d.coefficient :=
  digitsValue_toDigits _

theorem isDigit_of_mem_digits {d : Decimal} {c : Char} (h : c ∈ d.digits) : isDigit c = true :=
  isDigit_of_mem_toDigits h

theorem digits_ne_nil (d : Decimal) : d.digits ≠ [] := Nat.toDigits_ne_nil

end Decimal

theorem isDigit_of_mem_replicate {c : Char} {n : Nat} (h : c ∈ List.replicate n '0') :
    isDigit c = true := by
  obtain rfl := (List.mem_replicate.mp h).2
  decide

theorem digitsValue_append_zeros (digits : List Char) (n : Nat) :
    digitsValue (digits ++ List.replicate n '0') = digitsValue digits * Nat.pow 10 n := by
  rw [digitsValue_append, digitsValue_replicate, List.length_replicate, Nat.add_zero]

theorem digitsValue_zeros_append (digits : List Char) (n : Nat) :
    digitsValue (List.replicate n '0' ++ digits) = digitsValue digits := by
  rw [digitsValue_append, digitsValue_replicate, Nat.zero_mul, Nat.zero_add]

theorem Decimal.value_mul_pow (coefficient n : Nat) (exponent : Int) :
    value ⟨coefficient * Nat.pow 10 n, exponent⟩ = value ⟨coefficient, exponent + n⟩ := by
  simp only [value, Nat.pow_eq]
  rw [zpow_add₀ (by norm_num), zpow_natCast]
  push_cast
  ring

/-- A numeral without exponent denotes the number that its digits form, less the places after the
point. -/
theorem denotes_of_places {d : Decimal} (h : d.Moderate) (whole : List Char)
    (fraction : Option (List Char)) (hwhole : ∀ c ∈ whole, isDigit c = true) (hne : whole ≠ [])
    (hfraction : ∀ digits ∈ fraction, ∀ c ∈ digits, isDigit c = true)
    (hplaces : (fraction.getD []).length ≤ 400)
    (hvalue : Decimal.value ⟨digitsValue (whole ++ fraction.getD []), -(fraction.getD []).length⟩ =
      d.value) :
    Denotes (whole ++ fraction.elim [] ('.' :: ·)) d := by
  have hdecimal : Numeral.decimal ⟨whole, fraction, none⟩ =
      ⟨digitsValue (whole ++ fraction.getD []), -(fraction.getD []).length⟩ := by
    simp [Numeral.decimal]
  refine ⟨⟨whole, fraction, none⟩, ⟨hwhole, hfraction, by simp⟩, hne, ?_, ?_, ?_⟩
  · simp [Numeral.text]
  · rw [hdecimal]
    exact h.of_value_eq hvalue (by dsimp only; omega) (by dsimp only; omega)
  · rw [hdecimal, hvalue]

/-- Zeros after the digits, of which the last `places` stand after the point. They change the
coefficient and the exponent, and not the value. -/
theorem value_zeros (d : Decimal) {n places : Nat} (h : d.exponent = n - (places : ℤ)) :
    Decimal.value ⟨digitsValue (d.digits ++ List.replicate n '0'), -places⟩ = d.value := by
  rw [digitsValue_append_zeros, d.digitsValue_digits, Decimal.value_mul_pow,
    show -(places : ℤ) + n = d.exponent by omega]

namespace Layout

/-- A layout after whose whole numbers nothing follows, or a fraction of one zero. Anything else
there would not be part of a numeral. -/
def Plausible (layout : Layout) : Prop := layout.wholeEnding = [] ∨ layout.wholeEnding = ['.', '0']

theorem whole_denotes {layout : Layout} (hlayout : layout.Plausible) {d : Decimal} (h : d.Moderate)
    (hwhole : 0 ≤ d.exponent) :
    Denotes (d.digits ++ List.replicate d.exponent.toNat '0' ++ layout.wholeEnding) d := by
  have hexponent : (d.exponent.toNat : ℤ) = d.exponent := Int.toNat_of_nonneg hwhole
  have hdigits : ∀ c ∈ d.digits ++ List.replicate d.exponent.toNat '0', isDigit c = true := by
    intro c hc
    rcases List.mem_append.mp hc with hc | hc
    · exact Decimal.isDigit_of_mem_digits hc
    · exact isDigit_of_mem_replicate hc
  have hne : d.digits ++ List.replicate d.exponent.toNat '0' ≠ [] := by simp [d.digits_ne_nil]
  rcases hlayout with hending | hending <;> rw [hending]
  · apply denotes_of_places h _ none hdigits hne (by simp) (by simp)
    rw [Option.getD_none, List.append_nil]
    exact value_zeros d (by simp [hexponent])
  · apply denotes_of_places h _ (some ['0']) hdigits hne (by simp [isDigit_eq]) (by simp)
    rw [Option.getD_some, List.append_assoc, ← List.replicate_succ']
    exact value_zeros d (by simp; omega)

theorem point_denotes {d : Decimal} (h : d.Moderate) {places : Nat}
    (hplaces : d.exponent = -places) (hless : places < d.digits.length) :
    Denotes (d.digits.take (d.digits.length - places) ++
      '.' :: d.digits.drop (d.digits.length - places)) d := by
  have hlow := h.low
  have hlength : (d.digits.drop (d.digits.length - places)).length = places := by
    rw [List.length_drop]
    omega
  refine denotes_of_places h _ (some (d.digits.drop (d.digits.length - places))) ?_ ?_ ?_ ?_ ?_
  · exact fun c hc => Decimal.isDigit_of_mem_digits (List.mem_of_mem_take hc)
  · simp only [ne_eq, List.take_eq_nil_iff, d.digits_ne_nil, or_false]
    omega
  · rintro digits ⟨⟩ c hc
    exact Decimal.isDigit_of_mem_digits (List.mem_of_mem_drop hc)
  · rw [Option.getD_some, hlength]
    omega
  · rw [Option.getD_some, List.take_append_drop, hlength, d.digitsValue_digits, ← hplaces]

theorem leading_zero_denotes {d : Decimal} (h : d.Moderate) {places : Nat}
    (hplaces : d.exponent = -places) (hge : d.digits.length ≤ places) :
    Denotes ('0' :: '.' :: (List.replicate (places - d.digits.length) '0' ++ d.digits)) d := by
  have hlow := h.low
  have hlength : (List.replicate (places - d.digits.length) '0' ++ d.digits).length = places := by
    rw [List.length_append, List.length_replicate]
    omega
  refine denotes_of_places h ['0']
    (some (List.replicate (places - d.digits.length) '0' ++ d.digits)) ?_ ?_ ?_ ?_ ?_
  · simp [isDigit_eq]
  · simp
  · rintro digits ⟨⟩ c hc
    rcases List.mem_append.mp hc with hc | hc
    · exact isDigit_of_mem_replicate hc
    · exact Decimal.isDigit_of_mem_digits hc
  · rw [Option.getD_some, hlength]
    omega
  · rw [Option.getD_some, hlength, ← List.append_assoc, show ['0'] = List.replicate 1 '0' from rfl,
      ← List.replicate_add, digitsValue_zeros_append, d.digitsValue_digits, ← hplaces]

theorem positional_denotes {layout : Layout} (hlayout : layout.Plausible) {d : Decimal}
    (h : d.Moderate) : Denotes (layout.positional d) d := by
  unfold positional
  dsimp only
  split
  · rename_i hwhole
    exact whole_denotes hlayout h hwhole
  · rename_i hfraction
    have hplaces : d.exponent = -((-d.exponent).toNat : ℤ) := by omega
    split
    · rename_i hless
      exact point_denotes h hplaces hless
    · rename_i hmore
      exact leading_zero_denotes h hplaces (Nat.le_of_not_lt hmore)

/-- The exponent of a scientific form as part of a numeral. It is what the scanner has to find in
the text that the layout writes. -/
def exponentOf (leading : Int) : Numeral.Exponent :=
  let digits := Nat.toDigits 10 leading.natAbs
  ⟨'e', some (if leading < 0 then '-' else '+'),
    if digits.length < 2 then '0' :: digits else digits⟩

theorem exponentOf_text (leading : Int) : (exponentOf leading).text = 'e' :: exponentText leading :=
  rfl

theorem exponentOf_value (leading : Int) : (exponentOf leading).value = leading := by
  have hdigits : digitsValue (exponentOf leading).digits = leading.natAbs := by
    unfold exponentOf
    dsimp only
    split
    · have hzero := digitsValue_zeros_append (Nat.toDigits 10 leading.natAbs) 1
      rw [digitsValue_toDigits] at hzero
      exact hzero
    · exact digitsValue_toDigits _
  unfold Numeral.Exponent.value
  rw [hdigits]
  by_cases hnegative : leading < 0
  · have hsign : (exponentOf leading).sign = some '-' := by simp [exponentOf, hnegative]
    rw [if_pos hsign]
    omega
  · have hsign : (exponentOf leading).sign ≠ some '-' := by simp [exponentOf, hnegative]
    rw [if_neg hsign]
    omega

theorem exponentOf_wellFormed (leading : Int) : (exponentOf leading).WellFormed := by
  have hdigit (c : Char) (hc : c ∈ Nat.toDigits 10 leading.natAbs) : isDigit c = true :=
    isDigit_of_mem_toDigits hc
  refine ⟨Or.inl rfl, ?_, ?_, ?_⟩
  · rintro c ⟨⟩
    split
    · exact Or.inr rfl
    · exact Or.inl rfl
  · unfold exponentOf
    dsimp only
    split <;> simp
  · unfold exponentOf
    dsimp only
    split
    · intro c hc
      rcases List.mem_cons.mp hc with rfl | hc
      · decide
      · exact hdigit c hc
    · exact hdigit

/-- A numeral with the digits of a decimal and its leading exponent denotes the decimal itself, as
the places after the point are made good by the exponent. -/
theorem scientific_decimal {d : Decimal} {first : Char} {fraction : Option (List Char)}
    (hdigits : d.digits = first :: fraction.getD []) :
    Numeral.decimal ⟨[first], fraction, some (exponentOf d.leading)⟩ = d := by
  have hcoefficient : digitsValue ([first] ++ fraction.getD []) = d.coefficient := by
    rw [← d.digitsValue_digits, hdigits]
    rfl
  have hleading : d.leading - (fraction.getD []).length = d.exponent := by
    rw [Decimal.leading, hdigits, List.length_cons]
    omega
  simp only [Numeral.decimal, hcoefficient, Option.elim_some, exponentOf_value, hleading]

theorem scientific_denotes {d : Decimal} (h : d.Moderate) : Denotes (scientific d) d := by
  have hdigit (c : Char) (hc : c ∈ d.digits) : isDigit c = true := Decimal.isDigit_of_mem_digits hc
  have hdenotes (first : Char) (fraction : Option (List Char))
      (hdigits : d.digits = first :: fraction.getD []) :
      Denotes ([first] ++ (fraction.elim [] ('.' :: ·) ++ 'e' :: exponentText d.leading)) d := by
    have hdecimal := scientific_decimal hdigits
    refine ⟨⟨[first], fraction, some (exponentOf d.leading)⟩, ⟨?_, ?_, ?_⟩, by simp, ?_, ?_, ?_⟩
    · rintro c hc
      exact hdigit c (by simp_all)
    · rintro digits rfl c hc
      exact hdigit c (by simp_all)
    · rintro e ⟨⟩
      exact exponentOf_wellFormed d.leading
    · simp [Numeral.text, exponentOf_text]
    · rw [hdecimal]
      exact h
    · rw [hdecimal]
  unfold scientific
  dsimp only
  split
  · rename_i first hdigits
    exact hdenotes first none hdigits
  · rename_i first rest _ hdigits
    exact hdenotes first (some rest) hdigits
  · rename_i hnil
    exact absurd hnil d.digits_ne_nil

theorem write_denotes {layout : Layout} (hlayout : layout.Plausible) {d : Decimal}
    (h : d.Moderate) : Denotes (layout.write d) d := by
  unfold write
  rw [if_neg h.coefficient]
  split
  · exact positional_denotes hlayout h
  · exact scientific_denotes h

end Layout

/-- The written magnitude of a number is the text of a numeral that denotes the number. Whatever is
shown about numerals in a text holds for written numbers by this. -/
theorem Binary64.exists_numeral {layout : Layout} (hlayout : layout.Plausible) {units : Nat}
    (h : Representable units) (hpos : 0 < units) :
    ∃ n : Numeral, n.WellFormed ∧ n.whole ≠ [] ∧ layout.write (shortest units) = n.text ∧
      n.value = .finite false units h := by
  obtain ⟨hmoderate, hread⟩ := ofDecimal_shortest h hpos false
  obtain ⟨n, hn, hne, htext, hdecimal, hvalue⟩ := Layout.write_denotes hlayout hmoderate
  refine ⟨n, hn, hne, htext.symm, ?_⟩
  rw [Numeral.value, ofDecimal_congr hdecimal hmoderate hvalue, hread]

/-- The written form of a number other than zero is read as the number, in every plausible layout.
Zero has two forms that are written, so it stands apart. What is finite is written as a numeral with
its sign, and words stand for the rest. -/
theorem Binary64.ofText?_write {layout : Layout} (hlayout : layout.Plausible) {x : Binary64}
    (hzero : x.isZero = false) : ofText? (x.write layout).toList = some x := by
  cases x with
  | nan => exact (by decide : ofText? "nan".toList = some .nan)
  | infinity negative =>
      cases negative with
      | false => exact (by decide : ofText? "inf".toList = some (.infinity false))
      | true => exact (by decide : ofText? "-inf".toList = some (.infinity true))
  | finite negative units h =>
      have hpos : 0 < units := by
        apply Nat.pos_of_ne_zero
        rintro rfl
        cases hzero
      obtain ⟨n, hn, hne, htext, hvalue⟩ := exists_numeral hlayout h hpos
      have hdigits := Numeral.hasDigits_of_whole hne
      cases negative with
      | false => rw [write, String.toList_ofList, htext, ofText?_numeral hn hdigits, hvalue]
      | true =>
          rw [write, String.toList_ofList, htext, ofText?, magnitudeOfText?_numeral hn hdigits,
            hvalue]
          rfl

end Reckoner
