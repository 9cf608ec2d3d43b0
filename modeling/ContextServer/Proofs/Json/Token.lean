import ContextServer.Json.Reader
import ContextServer.Json.Writer

/-!
# Written tokens

A string or an integer that was written is read back, whatever text comes after
it (`Json.readString_write`, `Json.readNumber_writeInt`). A number has no mark at
its end, so the text after it must not go on as a number does
(`Json.EndsNumber`); in the text of a value it never does.
-/

namespace ContextServer

namespace Json

/-! ## Strings -/

theorem hexValue?_hexDigit : ∀ n < 16, hexValue? (hexDigit n) = some n := by decide

theorem readString_escape (c : Char) (cs : List Char) :
    readString (escape c ++ cs) = (readString cs).map fun (s, r) => (c :: s, r) := by
  rw [escape]
  -- Seven characters have an escape of their own.
  iterate 7
    split
    · next h => subst h; rfl
  split
  · next h =>
    -- A control character is written in hexadecimal; its code is no surrogate.
    have hv : hexValues? '0' '0' (hexDigit (c.toNat / 16)) (hexDigit (c.toNat % 16)) =
        some c.toNat := by
      have h0 : hexValue? '0' = some 0 := by decide
      simp only [hexValues?, h0, hexValue?_hexDigit (c.toNat / 16) (by omega),
        hexValue?_hexDigit (c.toNat % 16) (by omega), Option.bind_eq_bind, Option.bind_some,
        Option.some.injEq]
      omega
    have hh : isHighSurrogate c.toNat = false := by simp [isHighSurrogate]; omega
    have hl : isLowSurrogate c.toNat = false := by simp [isLowSurrogate]; omega
    simp only [List.cons_append, List.nil_append, readString, hv, hh, hl, Char.ofNat_toNat,
      Bool.false_eq_true, if_false]
  · next h₁ h₂ _ _ _ _ _ h₃ =>
    -- Any other character stands for itself.
    rw [List.singleton_append, readString.eq_def]
    split
    · next he => cases he
    · next he => exact absurd (List.cons.inj he).1 h₂
    · next he => exact absurd (List.cons.inj he).1 h₂
    · next he =>
      cases he
      rw [if_neg h₁, if_neg (not_or.2 ⟨h₂, h₃⟩)]

/-- The characters of a string are read back up to its closing quote. -/
theorem readString_write (s cs : List Char) :
    readString (s.flatMap escape ++ '"' :: cs) = some (s, cs) := by
  induction s with
  | nil => simp [readString]
  | cons c s ih => rw [List.flatMap_cons, List.append_assoc, readString_escape, ih]; rfl

/-! ## Numbers -/

/-- The text does not go on as a number does. -/
def EndsNumber (cs : List Char) : Prop :=
  ∀ c, cs.head? = some c → c.isDigit = false ∧ c ≠ '.' ∧ c ≠ 'e' ∧ c ≠ 'E'

theorem endsNumber_cons {c : Char} (cs : List Char)
    (h : c.isDigit = false ∧ c ≠ '.' ∧ c ≠ 'e' ∧ c ≠ 'E') : EndsNumber (c :: cs) := by
  intro c' hc
  cases hc
  exact h

theorem isDigit_of_mem_digitsOf {n : Nat} {c : Char} (h : c ∈ Decimal.digitsOf n) :
    c.isDigit = true := by
  rw [Decimal.digitsOf, Nat.toList_repr] at h
  exact Nat.isDigit_of_mem_toDigits (by decide) (by decide) h

theorem digitsOf_ne_nil (n : Nat) : Decimal.digitsOf n ≠ [] := by
  rw [Decimal.digitsOf, Nat.toList_repr]
  exact Nat.toDigits_ne_nil

/-- Only zero starts with a zero. -/
theorem head?_digitsOf {n : Nat} (h : n ≠ 0) : (Decimal.digitsOf n).head? ≠ some '0' := by
  rw [Decimal.digitsOf, Nat.toList_repr]
  induction n using Nat.strongRecOn with
  | ind n ih =>
    rcases Nat.lt_or_ge n 10 with hn | hn
    · have hone : ∀ n < 10, n ≠ 0 → [n.digitChar].head? ≠ some '0' := by decide
      rw [Nat.toDigits_of_lt_base hn]
      exact hone n hn h
    · -- The first digit is that of the number without its last digit.
      rw [Nat.toDigits_of_base_le (by decide) hn, List.head?_append, Option.or_of_isSome]
      · exact ih (n / 10) (by omega) (by omega)
      · exact List.isSome_head?.2 Nat.toDigits_ne_nil

theorem le_ofDigitChars (n : Nat) (ds : List Char) : n ≤ Nat.ofDigitChars 10 ds n := by
  induction ds generalizing n with
  | nil => simp
  | cons d ds ih =>
    rw [Nat.ofDigitChars_cons]
    have := ih (10 * n + (d.toNat - '0'.toNat))
    omega

/-- Digits of a number below `2 ^ 64` are all taken. -/
theorem accumulate_eq {n : Nat} {ds : List Char}
    (h : Nat.ofDigitChars 10 ds n < 18446744073709551616) :
    accumulate n ds = (Nat.ofDigitChars 10 ds n, 0) := by
  induction ds generalizing n with
  | nil => simp [accumulate]
  | cons d ds ih =>
    rw [Nat.ofDigitChars_cons, Nat.mul_comm] at h ⊢
    have hn := Nat.lt_of_le_of_lt (le_ofDigitChars _ ds) h
    rw [accumulate]
    exact (if_pos hn).trans (ih h)

theorem accumulate_digitsOf {n : Nat} (h : n < 18446744073709551616) :
    accumulate 0 (Decimal.digitsOf n) = (n, 0) := by
  have hd : Nat.ofDigitChars 10 (Decimal.digitsOf n) 0 = n := by
    rw [Decimal.digitsOf, Nat.toList_repr, Nat.ofDigitChars_ten_toDigits]
  rw [accumulate_eq (hd.symm ▸ h), hd]

theorem readDigits_digitsOf (n : Nat) {cs : List Char} (h : EndsNumber cs) :
    readDigits (Decimal.digitsOf n ++ cs) = some (Decimal.digitsOf n, cs) := by
  have hd : ∀ c ∈ Decimal.digitsOf n, c.isDigit = true := fun _ => isDigit_of_mem_digitsOf
  have hcs : cs.takeWhile Char.isDigit = [] ∧ cs.dropWhile Char.isDigit = cs := by
    cases cs with
    | nil => exact ⟨rfl, rfl⟩
    | cons c cs => simp [(h c rfl).1]
  rw [readDigits, List.takeWhile_append_of_pos hd, List.dropWhile_append_of_pos hd, hcs.1, hcs.2,
    List.append_nil]
  split
  · next he => exact absurd he (digitsOf_ne_nil n)
  · rfl

theorem readFraction_of_endsNumber {cs : List Char} (h : EndsNumber cs) :
    readFraction cs = some (none, cs) := by
  unfold readFraction
  split
  · exact absurd rfl (h '.' rfl).2.1
  · rfl

theorem readExponent_of_endsNumber {cs : List Char} (h : EndsNumber cs) :
    readExponent cs = some (none, cs) := by
  cases cs with
  | nil => rfl
  | cons c cs =>
    unfold readExponent
    exact if_neg (not_or.2 (h c rfl).2.2)

theorem readUnsigned_digitsOf {negative : Bool} {n : Nat} {i : Integer}
    (hn : n < 18446744073709551616) (hz : ¬(negative = true ∧ n = 0))
    (hi : i.val = if negative then -(n : Int) else n) {cs : List Char} (h : EndsNumber cs) :
    readUnsigned negative (Decimal.digitsOf n ++ cs) = some (.integer i, cs) := by
  have hzero : ¬((Decimal.digitsOf n).head? = some '0' ∧ Decimal.digitsOf n ≠ ['0']) := by
    rintro ⟨hh, hne⟩
    by_cases h0 : n = 0
    · exact hne (by subst h0; decide)
    · exact head?_digitsOf h0 hh
  have hnumber : numberOf? negative (Decimal.digitsOf n) none none = some (.integer i) := by
    simp only [numberOf?, accumulate_digitsOf hn, hz, not_false_eq_true, and_self, if_true, ← hi]
    rw [Integer.ofInt?, dif_pos i.inRange]
  simp only [readUnsigned, readDigits_digitsOf n h, readFraction_of_endsNumber h,
    readExponent_of_endsNumber h, hnumber, Option.bind_eq_bind, Option.bind_some, if_neg hzero]

/-- An integer is read back if the text after it does not go on as a number. -/
theorem readNumber_writeInt (i : Integer) {cs : List Char} (h : EndsNumber cs) :
    readNumber (writeInt i.val ++ cs) = some (.integer i, cs) := by
  have hr := i.inRange
  rw [writeInt]
  split
  · next hneg =>
    exact readUnsigned_digitsOf (by omega) (by omega) (by rw [if_pos rfl]; omega) h
  · next hpos =>
    -- A digit comes first, so the reader takes no sign.
    obtain ⟨d, ds, hds⟩ := List.exists_cons_of_ne_nil (digitsOf_ne_nil i.val.natAbs)
    have hd : d ≠ '-' := by
      rintro rfl
      exact absurd (isDigit_of_mem_digitsOf (hds ▸ List.mem_cons_self)) (by decide)
    have hread : readNumber (Decimal.digitsOf i.val.natAbs ++ cs) =
        readUnsigned false (Decimal.digitsOf i.val.natAbs ++ cs) := by
      rw [hds, List.cons_append, readNumber]
      rintro rest ⟨⟩
      exact hd rfl
    rw [hread]
    exact readUnsigned_digitsOf (by omega) (by simp) (by rw [if_neg nofun]; omega) h

end Json

end ContextServer
