/-
# Numerals and the numbers they denote

A numeral denotes the sum of its digits by their places, `placeValue`, and reading it digit by
digit comes to the same.  A number is denoted by the numeral it is written as, whatever zeros
stand in front.  A count below a limit is read from the unsigned decimal numerals, with a plus
sign in front or not, and from no other text.
-/
import Mathlib.Data.List.Induction
import Mathlib.Data.Nat.Digits.Defs
import AsmView.Text.Blank
import AsmView.Text.Digits

namespace AsmView.Text

/-! ## Place values -/

/-- The number that digits denote in a base: the last one counts once, and each further to the
left `base` times as much as the one behind it. -/
def placeValue (base : Nat) (digits : List Char) : Nat :=
  Nat.ofDigits base (digits.reverse.map hexDigitValue)

theorem numeralValue_append (base : Nat) (cs : List Char) (c : Char) :
    numeralValue base (cs ++ [c]) = base * numeralValue base cs + hexDigitValue c := by
  simp [numeralValue]

theorem placeValue_append (base : Nat) (cs : List Char) (c : Char) :
    placeValue base (cs ++ [c]) = base * placeValue base cs + hexDigitValue c := by
  rw [placeValue, List.reverse_append, List.reverse_singleton, List.singleton_append,
    List.map_cons, Nat.ofDigits_cons, Nat.add_comm]
  rfl

/-- Reading digit by digit comes to the value by places. -/
theorem numeralValue_eq_placeValue (base : Nat) (digits : List Char) :
    numeralValue base digits = placeValue base digits := by
  induction digits using List.reverseRecOn with
  | nil => rfl
  | append_singleton cs c ih => rw [numeralValue_append, placeValue_append, ih]

/-- Digits of a kind, at least one, and the number they denote in a base. -/
structure IsNumeral (base : Nat) (isDigit : Char → Bool) (digits : List Char) (n : Nat) : Prop where
  ne_nil : digits ≠ []
  all_digits : ∀ c ∈ digits, isDigit c = true
  value : placeValue base digits = n

/-- A hexadecimal numeral and the number it denotes. -/
abbrev IsHexadecimal : List Char → Nat → Prop :=
  IsNumeral 16 isHexDigit

/-- A decimal numeral and the number it denotes. -/
abbrev IsDecimal : List Char → Nat → Prop :=
  IsNumeral 10 isDecimalDigit

/-- The hexadecimal digits by their codes. -/
theorem isHexDigit_iff (c : Char) : isHexDigit c = true ↔ (0x30 ≤ c.toNat ∧ c.toNat ≤ 0x39) ∨
    (0x61 ≤ c.toNat ∧ c.toNat ≤ 0x66) ∨ (0x41 ≤ c.toNat ∧ c.toNat ≤ 0x46) := by
  simp [isHexDigit, Char.le_def, UInt32.le_iff_toNat_le, or_assoc]

theorem isBlank_eq_false_of_isHexDigit {c : Char} (h : isHexDigit c = true) :
    isBlank c = false := by
  have code := (isHexDigit_iff c).mp h
  simp only [isBlank, Bool.or_eq_false_iff, Bool.and_eq_false_iff, decide_eq_false_iff_not,
    beq_eq_false_iff_ne]
  omega

/-! ## Written numerals -/

theorem digitChar_hex {d : Nat} (h : d < 16) :
    isHexDigit (Nat.digitChar d) = true ∧ hexDigitValue (Nat.digitChar d) = d ∧
      isBlank (Nat.digitChar d) = false := by
  decide +revert

/-- A numeral is read back. -/
theorem numeralValue_toDigits {base : Nat} (several : 1 < base) (few : base ≤ 16) (n : Nat) :
    numeralValue base (Nat.toDigits base n) = n := by
  induction n using Nat.strongRecOn with
  | ind n ih =>
      rw [Nat.toDigits_eq_if several]
      split
      · rename_i small
        simp [numeralValue, (digitChar_hex (Nat.lt_of_lt_of_le small few)).2.1]
      · have high := ih (n / base) (Nat.div_lt_self (by omega) several)
        have low := Nat.lt_of_lt_of_le (Nat.mod_lt n (by omega : 0 < base)) few
        rw [numeralValue_append, high, (digitChar_hex low).2.1, Nat.div_add_mod]

theorem mem_hexNumeral {n : Nat} {c : Char} (h : c ∈ hexNumeral n) :
    ∃ d, d < 16 ∧ c = Nat.digitChar d := by
  induction n using Nat.strongRecOn with
  | ind n ih =>
      rw [hexNumeral, Nat.toDigits_eq_if (by decide)] at h
      split at h
      · rename_i small
        exact ⟨n, small, List.mem_singleton.mp h⟩
      · rcases List.mem_append.mp h with high | low
        · exact ih (n / 16) (by omega) high
        · exact ⟨n % 16, Nat.mod_lt n (by decide), List.mem_singleton.mp low⟩

theorem mem_hexPadded {width n : Nat} {c : Char} (h : c ∈ hexPadded width n) :
    ∃ d, d < 16 ∧ c = Nat.digitChar d := by
  rcases List.mem_append.mp h with zero | digit
  · exact ⟨0, by decide, List.eq_of_mem_replicate zero⟩
  · exact mem_hexNumeral digit

/-- Zeros in front change nothing. -/
theorem numeralValue_hexPadded (width n : Nat) : numeralValue 16 (hexPadded width n) = n := by
  have zeros : ∀ k cs, numeralValue 16 (List.replicate k '0' ++ cs) = numeralValue 16 cs := by
    intro k cs
    induction k with
    | zero => rfl
    | succ k ih => exact ih
  rw [hexPadded, zeros, hexNumeral, numeralValue_toDigits (by decide) (by decide)]

theorem mem_decimal {n : Nat} {c : Char} (h : c ∈ decimal n) : isDecimalDigit c = true := by
  have digit := Nat.isDigit_of_mem_toDigits (by decide) (by decide) h
  simpa [isDecimalDigit, Char.isDigit, Char.le_def] using digit

theorem isDecimal_decimal (n : Nat) : IsDecimal (decimal n) n where
  ne_nil := Nat.toDigits_ne_nil
  all_digits _ := mem_decimal
  value := by
    rw [← numeralValue_eq_placeValue, decimal, numeralValue_toDigits (by decide) (by decide)]

/-! ## Counts -/

/-- An unsigned decimal numeral, with a plus sign in front or not, and the number it denotes. -/
inductive IsCount : List Char → Nat → Prop
  | plain {digits : List Char} {n : Nat} (denotes : IsDecimal digits n) : IsCount digits n
  | signed {digits : List Char} {n : Nat} (denotes : IsDecimal digits n) : IsCount ('+' :: digits) n

theorem le_foldl_digits (m : Nat) (cs : List Char) :
    m ≤ cs.foldl (fun n c => 10 * n + hexDigitValue c) m := by
  induction cs generalizing m with
  | nil => exact Nat.le_refl m
  | cons c cs ih =>
      have further := ih (10 * m + hexDigitValue c)
      rw [List.foldl_cons]
      omega

/-- Digits are read behind a number as long as what they come to stays below the limit. -/
theorem readDigits_eq_ok_iff {limit m n : Nat} (below : m < limit) (cs : List Char) :
    readDigits limit m cs = .ok n ↔ (∀ c ∈ cs, isDecimalDigit c = true) ∧
      cs.foldl (fun n c => 10 * n + hexDigitValue c) m = n ∧ n < limit := by
  induction cs generalizing m with
  | nil =>
      constructor
      · intro read
        obtain rfl := Except.ok.inj read
        exact ⟨nofun, rfl, below⟩
      · rintro ⟨-, rfl, -⟩
        rfl
  | cons c cs ih =>
      rw [readDigits, List.forall_mem_cons, List.foldl_cons]
      by_cases digit : isDecimalDigit c = true
      · by_cases next : 10 * m + hexDigitValue c < limit
        · simp [digit, next, ih next]
        · -- the number only grows from here on
          have beyond := le_foldl_digits (10 * m + hexDigitValue c) cs
          simp only [digit, next, Bool.not_true, Bool.false_eq_true, if_false]
          refine iff_of_false nofun ?_
          rintro ⟨-, rfl, small⟩
          omega
      · simp [digit]

theorem readDigits_isDecimal {limit n : Nat} (below : 0 < limit) {digits : List Char}
    (hdigits : digits ≠ []) :
    readDigits limit 0 digits = .ok n ↔ IsDecimal digits n ∧ n < limit := by
  have value : digits.foldl (fun n c => 10 * n + hexDigitValue c) 0 = placeValue 10 digits :=
    numeralValue_eq_placeValue 10 digits
  rw [readDigits_eq_ok_iff below, value]
  constructor
  · rintro ⟨decimal, value, small⟩
    exact ⟨⟨hdigits, decimal, value⟩, small⟩
  · rintro ⟨denotes, small⟩
    exact ⟨denotes.all_digits, denotes.value, small⟩

theorem isCount_signed_iff {cs : List Char} {n : Nat} :
    IsCount ('+' :: cs) n ↔ IsDecimal cs n := by
  constructor
  · intro count
    cases count with
    | plain denotes => exact absurd (denotes.all_digits '+' List.mem_cons_self) (by decide)
    | signed denotes => exact denotes
  · exact .signed

theorem isCount_plain_iff {cs : List Char} {n : Nat} (unsigned : cs.head? ≠ some '+') :
    IsCount cs n ↔ IsDecimal cs n := by
  constructor
  · intro count
    cases count with
    | plain denotes => exact denotes
    | signed denotes => exact absurd rfl unsigned
  · exact .plain

/-- A count is read from the numerals that denote it, as long as it is below the limit, and from
no other text. -/
theorem readCount_eq_ok_iff {limit n : Nat} (below : 0 < limit) (cs : List Char) :
    readCount limit cs = .ok n ↔ IsCount cs n ∧ n < limit := by
  unfold readCount
  split
  case h_1 =>
    rw [isCount_plain_iff (by simp)]
    exact iff_of_false nofun fun h => h.1.ne_nil rfl
  case h_2 =>
    rw [isCount_signed_iff]
    exact iff_of_false nofun fun h => h.1.ne_nil rfl
  case h_3 digits hdigits =>
    rw [isCount_signed_iff, readDigits_isDecimal below hdigits]
  case h_4 _ hchar _ unsigned =>
    have plain : cs.head? ≠ some '+' := by
      intro sign
      obtain ⟨digits, signed⟩ := List.head?_eq_some_iff.mp sign
      exact unsigned digits signed
    rw [isCount_plain_iff plain, readDigits_isDecimal below hchar]

end AsmView.Text
