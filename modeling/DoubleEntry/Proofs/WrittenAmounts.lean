import DoubleEntry.Proofs.AmountGrammar

/-!
# DoubleEntry.Proofs.WrittenAmounts

The written form of amounts and reading it back. `formatCents` writes `-`? (`0` | [1-9][0-9]*)
`.` [0-9][0-9], with the minus sign exactly for a negative amount (`AmountText.Written`, and
`AmountText.ofCents` for the parts of the text written for an amount). Every 64-bit amount but
the least reads back as itself; the least reads as too large, since its magnitude is one past
the greatest 64-bit integer. Writing is one to one.

A text in the written form names its amount once: among the texts in the written form, the
only one besides `formatCents v` that reads as `v` is `-0.00`, which reads as zero because the
sign is applied after the digits are read (`negative_zero_reads_zero`).

Main statement: `formatCents_reads_back`.
-/

namespace DoubleEntry

/-! ## Decimal numerals -/

theorem digitChar_toNat_sub {c : Char} (h : c.isDigit = true) : (c.toNat - 48).digitChar = c := by
  have hc := isDigit_iff.1 h
  apply Char.toNat_inj.1
  rw [Nat.toNat_digitChar_of_lt_ten (by omega)]
  omega

theorem toDigits_digit {c : Char} (h : c.isDigit = true) : Nat.toDigits 10 (c.toNat - 48) = [c] := by
  have hc := isDigit_iff.1 h
  rw [Nat.toDigits_of_lt_base (by omega), digitChar_toNat_sub h]

/-- Digits written after the numeral of a positive number make the numeral of the number they
then name. -/
theorem toDigits_append_digits {cs : List Char} (hc : ∀ c ∈ cs, c.isDigit = true) :
    ∀ {n : Nat}, 0 < n → Nat.toDigits 10 n ++ cs = Nat.toDigits 10 (Nat.ofDigitChars 10 cs n) := by
  induction cs with
  | nil => intro n _; simp
  | cons c cs ih =>
    intro n hn
    have hd := hc c List.mem_cons_self
    have hlt : c.toNat - 48 < 10 := by have := isDigit_iff.1 hd; omega
    calc Nat.toDigits 10 n ++ c :: cs
        = (Nat.toDigits 10 n ++ Nat.toDigits 10 (c.toNat - 48)) ++ cs := by simp [toDigits_digit hd]
      _ = Nat.toDigits 10 (10 * n + (c.toNat - 48)) ++ cs := by
        rw [Nat.toDigits_append_toDigits (by decide) hn hlt]
      _ = Nat.toDigits 10 (Nat.ofDigitChars 10 (c :: cs) n) := by
        rw [ih (fun x hx => hc x (List.mem_cons_of_mem c hx)) (by omega), Nat.ofDigitChars_cons]
        rfl

theorem head_toDigits_ne_zero {n : Nat} (hn : 0 < n) : (Nat.toDigits 10 n).head? ≠ some '0' := by
  induction n using Nat.strongRecOn with
  | ind n ih =>
    rw [Nat.toDigits_eq_if (by decide)]
    split
    · simp only [List.head?_cons, ne_eq, Option.some.injEq, Nat.digitChar_eq_zero]
      omega
    · -- the leading digits are those of the number without its last digit
      have hq : 0 < n / 10 := by omega
      obtain ⟨d, ds, hds⟩ := List.exists_cons_of_ne_nil (Nat.toDigits_ne_nil (n := n / 10) (b := 10))
      have := ih (n / 10) (by omega) hq
      rw [hds] at this ⊢
      simpa using this

theorem twoDigits_toList {n : Nat} (h : n < 100) :
    (twoDigits n).toList = [(n / 10).digitChar, (n % 10).digitChar] := by
  unfold twoDigits
  split
  · rename_i h10
    simp [String.toList_append, Nat.toDigits_of_lt_base h10, Nat.div_eq_of_lt h10,
      Nat.mod_eq_of_lt h10]
  · rename_i h10
    simp [Nat.toDigits_of_base_le (by decide) (Nat.le_of_not_lt h10),
      Nat.toDigits_of_lt_base (show n / 10 < 10 by omega)]

theorem ofDigitChars_two {m n : Nat} (hm : m < 10) (hn : n < 10) :
    Nat.ofDigitChars 10 [m.digitChar, n.digitChar] 0 = 10 * m + n := by
  rw [Nat.ofDigitChars_cons_digitChar_of_lt_ten hm, Nat.ofDigitChars_cons_digitChar_of_lt_ten hn,
    Nat.ofDigitChars_nil]
  omega

/-! ## The written form -/

namespace AmountText

/-- The written form `-`? (`0` | [1-9][0-9]*) `.` [0-9][0-9]: whole units without a leading
zero, save a lone zero, a point, and exactly two digits of cents. -/
structure Written (a : AmountText) : Prop where
  units : ∀ c ∈ a.units, c.isDigit = true
  leading : a.units = ['0'] ∨ (a.units ≠ [] ∧ a.units.head? ≠ some '0')
  point : a.fraction.isSome = true
  cents : ∀ c ∈ a.fractionDigits, c.isDigit = true
  two : a.fractionDigits.length = 2

/-- The written form as a check that runs. -/
def isWritten (a : AmountText) : Bool :=
  a.units.all Char.isDigit &&
    (decide (a.units = ['0']) || (!a.units.isEmpty && decide (a.units.head? ≠ some '0'))) &&
    a.fraction.isSome && a.fractionDigits.all Char.isDigit && decide (a.fractionDigits.length = 2)

theorem isWritten_iff (a : AmountText) : a.isWritten = true ↔ a.Written := by
  simp only [isWritten, Bool.and_eq_true, Bool.or_eq_true, List.all_eq_true, decide_eq_true_eq,
    Bool.not_eq_true', List.isEmpty_eq_false_iff]
  exact ⟨fun ⟨⟨⟨⟨hu, hl⟩, hp⟩, hc⟩, ht⟩ => ⟨hu, hl, hp, hc, ht⟩,
    fun ⟨hu, hl, hp, hc, ht⟩ => ⟨⟨⟨⟨hu, hl⟩, hp⟩, hc⟩, ht⟩⟩

instance (a : AmountText) : Decidable a.Written := decidable_of_iff _ (isWritten_iff a)

variable {a : AmountText}

theorem Written.wf (ha : a.Written) : a.Wf :=
  have h2 := ha.two
  ⟨ha.units, ha.cents, by omega, .inr (List.ne_nil_of_length_pos (by omega))⟩

theorem Written.fraction_eq (ha : a.Written) :
    ∃ d₁ d₂, d₁.isDigit = true ∧ d₂.isDigit = true ∧ a.fraction = some [d₁, d₂] := by
  obtain ⟨f, hf⟩ := Option.isSome_iff_exists.1 ha.point
  have hlen := ha.two
  have hdig := ha.cents
  simp only [fractionDigits, hf, Option.getD_some] at hlen hdig
  rcases f with _ | ⟨d₁, _ | ⟨d₂, _ | ⟨d₃, r⟩⟩⟩
  · simp at hlen
  · simp at hlen
  · exact ⟨d₁, d₂, hdig d₁ (by simp), hdig d₂ (by simp), hf⟩
  · simp at hlen

theorem Written.toDigits_units (ha : a.Written) :
    Nat.toDigits 10 (Nat.ofDigitChars 10 a.units 0) = a.units := by
  rcases ha.leading with h | ⟨hne, hhead⟩
  · rw [h]
    rfl
  · obtain ⟨d, ds, hds⟩ := List.exists_cons_of_ne_nil hne
    have hd := ha.units d (by simp [hds])
    have hpos : 0 < d.toNat - 48 := by
      have := isDigit_iff.1 hd
      have hd0 : d ≠ '0' := fun h => hhead (by simp [hds, h])
      have : d.toNat ≠ 48 := fun h => hd0 (Char.toNat_inj.1 h)
      omega
    have hv : Nat.ofDigitChars 10 (d :: ds) 0 = Nat.ofDigitChars 10 ds (d.toNat - 48) := by
      rw [Nat.ofDigitChars_cons, Nat.mul_zero, Nat.zero_add]
      rfl
    rw [hds, hv, ← toDigits_append_digits (fun c hc => ha.units c (by simp [hds, hc])) hpos,
      toDigits_digit hd]
    rfl

theorem Written.units_of_zero (ha : a.Written) (h0 : Nat.ofDigitChars 10 a.units 0 = 0) :
    a.units = ['0'] := by
  have h := ha.toDigits_units
  rw [h0] at h
  exact h.symm

def ofCents (c : Int) : AmountText :=
  ⟨decide (c < 0), Nat.toDigits 10 (c.natAbs / 100), some (twoDigits (c.natAbs % 100)).toList⟩

theorem formatCents_toList (c : Int) : (formatCents c).toList = (ofCents c).chars := by
  unfold formatCents ofCents chars body
  by_cases h : c < 0 <;> simp [h, String.toList_append]

theorem ofCents_written (c : Int) : (ofCents c).Written := by
  have hr : c.natAbs % 100 < 100 := Nat.mod_lt _ (by decide)
  refine ⟨fun x hx => Nat.isDigit_of_mem_toDigits (by decide) (by decide) hx, ?_, rfl, ?_, ?_⟩
  · -- a zero numeral is the lone zero; any other does not begin with zero
    by_cases hq : c.natAbs / 100 = 0
    · exact .inl (by simp [ofCents, hq, Nat.toDigits_zero])
    · exact .inr ⟨Nat.toDigits_ne_nil, head_toDigits_ne_zero (by omega)⟩
  · intro x hx
    simp only [ofCents, fractionDigits, Option.getD_some, twoDigits_toList hr, List.mem_cons,
      List.not_mem_nil, or_false] at hx
    rcases hx with rfl | rfl <;> simp [Nat.isDigit_digitChar] <;> omega
  · simp [ofCents, fractionDigits, twoDigits_toList hr]

theorem ofCents_magnitude (c : Int) : (ofCents c).magnitude = c.natAbs := by
  have hr : c.natAbs % 100 < 100 := Nat.mod_lt _ (by decide)
  simp only [magnitude, centDigits, ofCents, fractionDigits, Option.getD_some, twoDigits_toList hr,
    Nat.ofDigitChars_ten_toDigits, ofDigitChars_two (show c.natAbs % 100 / 10 < 10 by omega)
      (Nat.mod_lt _ (by decide)), List.length_cons, List.length_nil, Nat.sub_self,
    List.replicate_zero, List.append_nil]
  omega

theorem ofCents_value (c : Int) : (ofCents c).value = c := by
  have hn : (ofCents c).negative = decide (c < 0) := rfl
  unfold value
  rw [ofCents_magnitude, hn]
  by_cases h : c < 0
  · rw [if_pos (decide_eq_true h)]
    omega
  · rw [if_neg (by simpa using h)]
    omega

theorem natAbs_value (a : AmountText) : a.value.natAbs = a.magnitude := by
  unfold value
  split <;> omega

/-- The magnitude of a text with two digits of cents: its units times a hundred, plus the
number the two digits make. -/
theorem magnitude_of_cents {d₁ d₂ : Char} (hf : a.fraction = some [d₁, d₂]) (h₁ : d₁.isDigit = true)
    (h₂ : d₂.isDigit = true) :
    a.magnitude = Nat.ofDigitChars 10 a.units 0 * 100 + (10 * (d₁.toNat - 48) + (d₂.toNat - 48)) := by
  have hl₁ := isDigit_iff.1 h₁
  have hl₂ := isDigit_iff.1 h₂
  have hcents := ofDigitChars_two (m := d₁.toNat - 48) (n := d₂.toNat - 48) (by omega) (by omega)
  rw [digitChar_toNat_sub h₁, digitChar_toNat_sub h₂] at hcents
  simp [magnitude, centDigits, fractionDigits, hf, hcents]

/-- A text in the written form is the text written for the amount it names, unless it is a
minus sign before a zero amount. -/
theorem Written.eq_ofCents (ha : a.Written) (hz : ¬ (a.negative = true ∧ a.magnitude = 0)) :
    ofCents a.value = a := by
  obtain ⟨d₁, d₂, h₁, h₂, hf⟩ := ha.fraction_eq
  have hmag := magnitude_of_cents hf h₁ h₂
  have hl₁ := isDigit_iff.1 h₁
  have hl₂ := isDigit_iff.1 h₂
  have hneg : decide (a.value < 0) = a.negative := by
    unfold value
    cases hn : a.negative
    · simp
    · have : 0 < a.magnitude := by simp only [hn, true_and] at hz; omega
      simp
      omega
  have hq : a.magnitude / 100 = Nat.ofDigitChars 10 a.units 0 := by omega
  have hr₁ : a.magnitude % 100 / 10 = d₁.toNat - 48 := by omega
  have hr₂ : a.magnitude % 100 % 10 = d₂.toNat - 48 := by omega
  unfold ofCents
  rw [natAbs_value, hneg, hq, ha.toDigits_units, twoDigits_toList (Nat.mod_lt _ (by decide)), hr₁, hr₂,
    digitChar_toNat_sub h₁, digitChar_toNat_sub h₂, ← hf]

theorem Written.chars_of_negative_zero (ha : a.Written) (hn : a.negative = true)
    (h0 : a.magnitude = 0) : a.chars = "-0.00".toList := by
  obtain ⟨d₁, d₂, h₁, h₂, hf⟩ := ha.fraction_eq
  have hmag := magnitude_of_cents hf h₁ h₂
  have hu := ha.units_of_zero (by omega)
  have e₁ : d₁ = '0' := by rw [← digitChar_toNat_sub h₁, show d₁.toNat - 48 = 0 by omega]; rfl
  have e₂ : d₂ = '0' := by rw [← digitChar_toNat_sub h₂, show d₂.toNat - 48 = 0 by omega]; rfl
  rw [chars, if_pos hn, body, hu, hf, e₁, e₂]
  rfl

end AmountText

open AmountText

/-- The text written for an amount reads back as that amount when its magnitude is a 64-bit
integer, and as too large otherwise. -/
theorem parseCents_formatCents (c : Int) :
    parseCents (formatCents c) = if Signed64.max < c.natAbs then .error .overflow else .ok c := by
  have hw := (ofCents_written c).wf
  rw [parseCents_of_chars hw (by rw [formatCents_toList, hw.trim_chars]), ofCents_magnitude,
    ofCents_value]

theorem formatCents_injective : Function.Injective formatCents := by
  intro c c' h
  have hc := congrArg String.toList h
  rw [formatCents_toList, formatCents_toList] at hc
  rw [← ofCents_value c, ← ofCents_value c', chars_inj (ofCents_written c).wf (ofCents_written c').wf hc]

/-- A text of the grammar that reads as `v` names `v`, with a magnitude that is a 64-bit
integer. -/
theorem value_of_parseCents {s : String} {a : AmountText} {v : Int} (ha : a.Wf)
    (ht : Text.trimBlankChars s.toList = a.chars) (h : parseCents s = .ok v) :
    a.value = v ∧ a.magnitude ≤ Signed64.max := by
  rw [parseCents_of_chars ha ht] at h
  split at h
  · cases h
  · rename_i hle
    injection h with h
    exact ⟨h, by omega⟩

theorem natAbs_le_of_parseCents {s : String} {v : Int} (h : parseCents s = .ok v) :
    v.natAbs ≤ Signed64.max := by
  obtain ⟨a, ha, ht⟩ := exists_chars_of_parseCents fun he => by rw [h] at he; cases he
  obtain ⟨rfl, hle⟩ := value_of_parseCents ha ht.symm h
  rw [natAbs_value]
  exact hle

/-- A text in the written form that reads as `v` is the text written for `v`, or `-0.00`. -/
theorem eq_formatCents_of_written {t : String} {v : Int} {a : AmountText} (ha : a.Written)
    (ht : a.chars = t.toList) (h : parseCents t = .ok v) : t = formatCents v ∨ (v = 0 ∧ t = "-0.00") := by
  obtain ⟨rfl, -⟩ := value_of_parseCents ha.wf (by rw [← ht, ha.wf.trim_chars]) h
  -- only a minus sign before a zero amount is not the text written for what it names
  by_cases hz : a.negative = true ∧ a.magnitude = 0
  · refine .inr ⟨by simp [value, hz.1, hz.2], ?_⟩
    rw [← String.toList_inj, ← ht, ha.chars_of_negative_zero hz.1 hz.2]
  · refine .inl ?_
    rw [← String.toList_inj, formatCents_toList, ha.eq_ofCents hz, ht]

/-- Writing and reading amounts: every 64-bit amount but the least reads back as itself, and the
least reads as too large; the written text is `-`? (`0` | [1-9][0-9]*) `.` [0-9][0-9] with the
minus sign exactly for a negative amount; writing is one to one; and whatever a text reads as,
the text written for it reads back as it, and is the only text in the written form that does,
but for `-0.00`, which reads as zero. -/
theorem formatCents_reads_back :
    (∀ c : Int, Signed64.Fits c → c ≠ Signed64.min → parseCents (formatCents c) = .ok c) ∧
    parseCents (formatCents Signed64.min) = .error .overflow ∧
    (∀ c : Int, ∃ a : AmountText,
      a.Written ∧ a.chars = (formatCents c).toList ∧ (a.negative = true ↔ c < 0)) ∧
    Function.Injective formatCents ∧
    ∀ (s : String) (v : Int), parseCents s = .ok v →
      parseCents (formatCents v) = .ok v ∧
      ∀ t : String, (∃ a : AmountText, a.Written ∧ a.chars = t.toList) → parseCents t = .ok v →
        t = formatCents v ∨ (v = 0 ∧ t = "-0.00") := by
  refine ⟨fun c hfit hmin => ?_, ?_, fun c => ?_, formatCents_injective, fun s v h => ⟨?_, ?_⟩⟩
  · rw [parseCents_formatCents, if_neg]
    unfold Signed64.Fits at hfit
    unfold Signed64.min Signed64.max at *
    omega
  · rw [parseCents_formatCents, if_pos (by decide)]
  · exact ⟨ofCents c, ofCents_written c, (formatCents_toList c).symm, by simp [ofCents]⟩
  · rw [parseCents_formatCents, if_neg (by have := natAbs_le_of_parseCents h; omega)]
  · rintro t ⟨a, ha, ht⟩ hv
    exact eq_formatCents_of_written ha ht hv

/-- A minus sign before a zero amount is read and dropped: `-0.00` is in the written form and
reads as zero, though zero is written `0.00`. -/
theorem negative_zero_reads_zero :
    (∃ a : AmountText, a.Written ∧ a.chars = "-0.00".toList) ∧ parseCents "-0.00" = .ok 0 ∧
      "-0.00" ≠ formatCents 0 :=
  ⟨⟨⟨true, ['0'], some ['0', '0']⟩, by decide, rfl⟩, rfl, by decide⟩

end DoubleEntry
