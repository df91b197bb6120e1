import DoubleEntry.Money

/-!
# DoubleEntry.Proofs.AmountGrammar

The texts that `parseCents` reads, as a grammar. Once the blanks around it are trimmed, an
amount typed by a person is `-`? (D+ (`.` D{0,2})? | `.` D{1,2}), with D the ASCII digits.
`AmountText` is such a text cut into its parts, and `AmountText.Wf` says that the parts follow
the grammar. The grammar is unambiguous: a text has at most one cut (`AmountText.chars_inj`).

Main statement: `parseCents_grammar`. A text is refused as badly formed exactly when its
trimmed form is outside the grammar. Otherwise it is refused as too large exactly when the
cents it names, counted without bound, pass the greatest 64-bit integer; else it reads as
those cents with its sign.
-/

namespace DoubleEntry

/-- An amount as a person types it, cut into parts: whether it carries a minus sign, the digits
of whole units, and the digits after the point when there is a point. -/
structure AmountText where
  negative : Bool
  units : List Char
  fraction : Option (List Char)
  deriving DecidableEq, Repr

namespace AmountText

def fractionDigits (a : AmountText) : List Char := a.fraction.getD []

def body (a : AmountText) : List Char := a.units ++ (a.fraction.map ('.' :: ·)).getD []

def chars (a : AmountText) : List Char := if a.negative then '-' :: a.body else a.body

/-- The grammar `-`? (D+ (`.` D{0,2})? | `.` D{1,2}): digits on both sides of the point, at
most two after it, and at least one on one side. -/
structure Wf (a : AmountText) : Prop where
  units : ∀ c ∈ a.units, c.isDigit = true
  fraction : ∀ c ∈ a.fractionDigits, c.isDigit = true
  short : a.fractionDigits.length ≤ 2
  nonempty : a.units ≠ [] ∨ a.fractionDigits ≠ []

def isWf (a : AmountText) : Bool :=
  a.units.all Char.isDigit && a.fractionDigits.all Char.isDigit &&
    decide (a.fractionDigits.length ≤ 2) && !(a.units.isEmpty && a.fractionDigits.isEmpty)

theorem isWf_iff (a : AmountText) : a.isWf = true ↔ a.Wf := by
  simp only [isWf, Bool.and_eq_true, List.all_eq_true, decide_eq_true_eq, Bool.not_eq_true',
    Bool.and_eq_false_iff, List.isEmpty_eq_false_iff]
  exact ⟨fun ⟨⟨⟨hu, hf⟩, hs⟩, hn⟩ => ⟨hu, hf, hs, hn⟩, fun ⟨hu, hf, hs, hn⟩ => ⟨⟨⟨hu, hf⟩, hs⟩, hn⟩⟩

instance (a : AmountText) : Decidable a.Wf := decidable_of_iff _ (isWf_iff a)

def centDigits (a : AmountText) : List Char :=
  a.fractionDigits ++ List.replicate (2 - a.fractionDigits.length) '0'

/-- The cents a text names before its sign, counted without bound: the whole units times a
hundred, and the digits after the point as cents. -/
def magnitude (a : AmountText) : Nat :=
  Nat.ofDigitChars 10 a.units 0 * 100 + Nat.ofDigitChars 10 a.centDigits 0

def value (a : AmountText) : Int := if a.negative then -(a.magnitude : Int) else a.magnitude

example : (⟨true, [], some ['5']⟩ : AmountText).Wf ∧
    (⟨true, [], some ['5']⟩ : AmountText).value = -50 ∧ ¬ (⟨false, [], some []⟩ : AmountText).Wf := by
  decide

end AmountText

/-! ## Characters of the grammar -/

theorem isDigit_iff {c : Char} : c.isDigit = true ↔ 48 ≤ c.toNat ∧ c.toNat ≤ 57 := by
  unfold Char.isDigit
  simp [UInt32.le_iff_toNat_le, ← Char.toNat_val]

theorem ne_of_isDigit {c : Char} (d : Char) (hd : d.isDigit = false) (h : c.isDigit = true) :
    c ≠ d := by
  rintro rfl
  rw [h] at hd
  cases hd

theorem isBlank_eq_false {c : Char} (h : c.isDigit = true ∨ c = '.' ∨ c = '-') :
    Text.isBlank c = false := by
  have hn : 45 ≤ c.toNat ∧ c.toNat ≤ 57 := by
    rcases h with h | rfl | rfl
    · have := isDigit_iff.1 h
      omega
    · decide
    · decide
  simp only [Text.isBlank, Bool.or_eq_false_iff, Bool.and_eq_false_iff, decide_eq_false_iff_not,
    beq_eq_false_iff_ne, ne_eq]
  omega

theorem trimBlankChars_of_not_blank {cs : List Char} (h : ∀ c ∈ cs, Text.isBlank c = false) :
    Text.trimBlankChars cs = cs := by
  have hd : cs.dropWhile Text.isBlank = cs := by
    cases cs with
    | nil => rfl
    | cons c cs => simp [h c List.mem_cons_self]
  have hr : cs.reverse.dropWhile Text.isBlank = cs.reverse := by
    cases hrev : cs.reverse with
    | nil => rfl
    | cons c r =>
      have hc : c ∈ cs := List.mem_reverse.1 (hrev ▸ List.mem_cons_self)
      simp [h c hc]
  simp [Text.trimBlankChars, Text.dropBlankRight, hd, hr]

/-! ## The digits before and after the point -/

theorem digitsValue_eq (ds : List Char) : digitsValue ds = Nat.ofDigitChars 10 ds 0 := by
  unfold digitsValue Nat.ofDigitChars
  simp only [Nat.mul_comm]

theorem fractionCents_eq {ds : List Char} (h : ds.length ≤ 2) :
    fractionCents ds = Nat.ofDigitChars 10 (ds ++ List.replicate (2 - ds.length) '0') 0 := by
  rcases ds with _ | ⟨d, _ | ⟨e, _ | ⟨f, r⟩⟩⟩
  · rfl
  · simp [fractionCents, digitsValue_eq, Nat.ofDigitChars_cons]
  · simp [fractionCents, digitsValue_eq]
  · simp at h

namespace AmountText

variable {a b : AmountText}

theorem splitUnits_body (hu : ∀ c ∈ a.units, c.isDigit = true) :
    splitUnits a.body = (a.units, a.fractionDigits) := by
  have hp : ∀ c ∈ a.units, decide (c ≠ '.') = true := fun c hc => by
    simpa using ne_of_isDigit '.' (by decide) (hu c hc)
  unfold splitUnits body fractionDigits
  rw [List.takeWhile_append_of_pos hp, List.dropWhile_append_of_pos hp]
  cases a.fraction <;> simp

theorem Wf.withSign (ha : a.Wf) (n : Bool) : ({ a with negative := n } : AmountText).Wf :=
  ⟨ha.units, ha.fraction, ha.short, ha.nonempty⟩

theorem body_ne_nil (ha : a.Wf) : a.body ≠ [] := by
  unfold body
  rcases ha.nonempty with hu | hf
  · simp [hu]
  · cases hfr : a.fraction with
    | none => simp [fractionDigits, hfr] at hf
    | some f => simp

theorem body_ne_minus (ha : a.Wf) (rest : List Char) : a.body ≠ '-' :: rest := by
  intro h
  cases hu : a.units with
  | cons c us =>
    rw [body, hu, List.cons_append, List.cons.injEq] at h
    exact ne_of_isDigit '-' (by decide) (ha.units c (hu ▸ List.mem_cons_self)) h.1
  | nil =>
    cases hfr : a.fraction with
    | none => simp [body, hu, hfr] at h
    | some f => simp [body, hu, hfr] at h

theorem Wf.not_blank (ha : a.Wf) : ∀ c ∈ a.chars, Text.isBlank c = false := by
  have hbody : ∀ c ∈ a.body, Text.isBlank c = false := by
    intro c hc
    rcases List.mem_append.1 hc with hc | hc
    · exact isBlank_eq_false (.inl (ha.units c hc))
    · cases hfr : a.fraction with
      | none => simp [hfr] at hc
      | some f =>
        simp only [hfr, Option.map_some, Option.getD_some, List.mem_cons] at hc
        rcases hc with rfl | hc
        · exact isBlank_eq_false (.inr (.inl rfl))
        · exact isBlank_eq_false (.inl (ha.fraction c (by simp [fractionDigits, hfr, hc])))
  unfold chars
  split
  · intro c hc
    rcases List.mem_cons.1 hc with rfl | hc
    · exact isBlank_eq_false (.inr (.inr rfl))
    · exact hbody c hc
  · exact hbody

theorem Wf.trim_chars (ha : a.Wf) : Text.trimBlankChars a.chars = a.chars :=
  trimBlankChars_of_not_blank ha.not_blank

/-- The grammar is unambiguous: two cuts of one text are the same cut. -/
theorem chars_inj (ha : a.Wf) (hb : b.Wf) (h : a.chars = b.chars) : a = b := by
  have hneg : a.negative = b.negative := by
    cases hna : a.negative <;> cases hnb : b.negative <;>
      simp only [chars, hna, hnb, Bool.false_eq_true, if_true, if_false] at h
    · rfl
    · exact absurd h (body_ne_minus ha _)
    · exact absurd h.symm (body_ne_minus hb _)
    · rfl
  have hbody : a.body = b.body := by
    cases hna : a.negative <;>
      simp only [chars, hna, ← hneg, Bool.false_eq_true, if_true, if_false, List.cons.injEq,
        true_and] at h <;> exact h
  have hsplit := splitUnits_body ha.units
  rw [hbody, splitUnits_body hb.units, Prod.mk.injEq] at hsplit
  obtain ⟨hu, hf⟩ := hsplit
  have hfr : a.fraction = b.fraction := by
    unfold body at hbody
    rw [hu, List.append_cancel_left_eq] at hbody
    cases hfa : a.fraction <;> cases hfb : b.fraction <;> simp_all [fractionDigits]
  cases a
  cases b
  simp_all

end AmountText

/-! ## Reading a text of the grammar -/

section Reading

open AmountText

theorem parseMagnitude_body {a : AmountText} (ha : a.Wf) :
    parseMagnitude a.body =
      if Signed64.max < a.magnitude then .error .overflow else .ok a.magnitude := by
  have hdot : a.fractionDigits.contains '.' = false := by
    simpa using fun h => ne_of_isDigit '.' (by decide) (ha.fraction '.' h) rfl
  have hsome : (a.units.isEmpty && a.fractionDigits.isEmpty) = false := by
    rcases ha.nonempty with h | h <;> simp [h]
  unfold parseMagnitude
  rw [splitUnits_body ha.units]
  simp only [List.isEmpty_iff, body_ne_nil ha, if_false, hsome, hdot, Bool.false_or,
    decide_eq_true_eq, Nat.not_lt.2 ha.short, if_false, List.all_eq_true.2 ha.units,
    List.all_eq_true.2 ha.fraction, Bool.not_true, Bool.or_self]
  rw [digitsValue_eq, fractionCents_eq ha.short]
  rfl

theorem dropWhile_point (body : List Char) :
    body.dropWhile (· ≠ '.') = [] ∨
      body.dropWhile (· ≠ '.') = '.' :: (body.dropWhile (· ≠ '.')).drop 1 := by
  cases h : body.dropWhile (· ≠ '.') with
  | nil => exact .inl rfl
  | cons c rest =>
    have hc := List.head_dropWhile_not (fun c : Char => decide (c ≠ '.')) (l := body)
      (by rw [h]; exact List.cons_ne_nil _ _)
    simp only [h, List.head_cons, decide_eq_false_iff_not, Decidable.not_not] at hc
    exact .inr (by rw [hc]; rfl)

theorem exists_body_of_parseMagnitude {cs : List Char}
    (h : parseMagnitude cs ≠ .error .invalidFormat) : ∃ a : AmountText, a.Wf ∧ a.body = cs := by
  have hsplit := List.takeWhile_append_dropWhile (p := fun c : Char => decide (c ≠ '.')) (l := cs)
  have hpt := dropWhile_point cs
  unfold parseMagnitude splitUnits at h
  dsimp only at h
  generalize cs.takeWhile (· ≠ '.') = u at h hsplit
  generalize cs.dropWhile (· ≠ '.') = r at h hsplit hpt
  split at h
  · exact absurd rfl h
  split at h
  · exact absurd rfl h
  split at h
  · exact absurd rfl h
  rename_i hshape hdigits
  simp only [Bool.or_eq_true, Bool.and_eq_true, List.isEmpty_iff, decide_eq_true_eq, not_or,
    List.all_eq_false, Bool.not_eq_eq_eq_not, Bool.not_true, not_exists, not_and,
    Decidable.not_not, Nat.not_lt] at hshape hdigits
  obtain ⟨⟨hne, -⟩, hlen⟩ := hshape
  have hnonempty : u ≠ [] ∨ r.drop 1 ≠ [] := by
    by_cases hu : u = []
    · exact .inr (hne hu)
    · exact .inl hu
  rcases hpt with hr | hr
  · -- no point: the units are the whole body
    subst hr
    refine ⟨⟨false, u, none⟩, ⟨hdigits.1, by simp [fractionDigits], by simp [fractionDigits],
      by simpa [fractionDigits] using hnonempty⟩, by simpa [body] using hsplit⟩
  · -- a point: the fraction is what follows it
    refine ⟨⟨false, u, some (r.drop 1)⟩, ⟨hdigits.1, hdigits.2, hlen, hnonempty⟩, ?_⟩
    rw [body, Option.map_some, Option.getD_some, ← hr, hsplit]

theorem signed_eq_error {f : Int → Int} {x : Except MoneyError Nat} {e : MoneyError} :
    Except.map f (do let m ← x; pure (m : Int)) = .error e ↔ x = .error e := by
  cases x <;> simp [Except.map, bind, Except.bind, pure, Except.pure]

/-- A trimmed text in the grammar reads as the cents it names, with its sign, unless they pass
the greatest 64-bit integer. -/
theorem parseCents_of_chars {s : String} {a : AmountText} (ha : a.Wf)
    (ht : Text.trimBlankChars s.toList = a.chars) :
    parseCents s = if Signed64.max < a.magnitude then .error .overflow else .ok a.value := by
  unfold parseCents value
  rw [ht]
  cases hn : a.negative
  · -- the body begins with a digit or the point, so it is read whole
    have hc : a.chars = a.body := by simp [chars, hn]
    rw [hc]
    split
    · rename_i rest h
      exact absurd h (body_ne_minus ha rest)
    · rw [parseMagnitude_body ha]
      split <;> rfl
  · simp only [chars, hn, if_true]
    rw [parseMagnitude_body ha]
    split <;> rfl

theorem exists_chars_of_parseCents {s : String} (h : parseCents s ≠ .error .invalidFormat) :
    ∃ a : AmountText, a.Wf ∧ a.chars = Text.trimBlankChars s.toList := by
  unfold parseCents at h
  split at h
  · rename_i rest hrest
    obtain ⟨a, ha, hb⟩ := exists_body_of_parseMagnitude fun he => h (signed_eq_error.2 he)
    refine ⟨{ a with negative := true }, ha.withSign true, ?_⟩
    rw [hrest, ← hb]
    rfl
  · obtain ⟨a, ha, hb⟩ := exists_body_of_parseMagnitude fun he => h (signed_eq_error.2 he)
    refine ⟨{ a with negative := false }, ha.withSign false, ?_⟩
    rw [← hb]
    rfl

/-- What `parseCents` does with every text: it refuses a text as badly formed exactly when the
text, trimmed of the blanks around it, is outside the grammar; a text in the grammar it refuses
as too large exactly when the cents it names pass the greatest 64-bit integer, and reads as
those cents with its sign otherwise. -/
theorem parseCents_grammar (s : String) :
    (parseCents s = .error .invalidFormat ↔
      ¬ ∃ a : AmountText, a.Wf ∧ a.chars = Text.trimBlankChars s.toList) ∧
    ∀ a : AmountText, a.Wf → a.chars = Text.trimBlankChars s.toList →
      parseCents s = if Signed64.max < a.magnitude then .error .overflow else .ok a.value := by
  refine ⟨⟨fun h ⟨a, ha, ht⟩ => ?_, fun h => ?_⟩, fun a ha ht => parseCents_of_chars ha ht.symm⟩
  · rw [parseCents_of_chars ha ht.symm] at h
    split at h <;> cases h
  · exact Classical.byContradiction fun hne => h (exists_chars_of_parseCents hne)

end Reading

end DoubleEntry
