/-
# Tokens that are written are read back

A string literal is scanned character by character, and each character comes back from the
form it was written in, whether that is itself, a letter behind a backslash or the four
digits of its code.  A count comes back from its decimal numeral, as long as it is below
2⁶⁴ and nothing follows that a numeral could go on with.
-/
import Mathlib.Data.List.TakeDrop
import AsmView.Json.Printer
import AsmView.Json.Reader
import AsmView.Proofs.Line

namespace AsmView.Json

open Text

/-! ## Strings -/

/-- The four digits of a code that is no surrogate stand for its character. -/
theorem scanString_unit {a b c d : Char} (ha : isHexDigit a = true) (hb : isHexDigit b = true)
    (hc : isHexDigit c = true) (hd : isHexDigit d = true)
    (small : numeralValue 16 [a, b, c, d] < 0xd800) (acc cs : List Char) :
    scanString true (.unit none 0 0) acc (a :: b :: c :: d :: cs) =
      scanString true .plain (Char.ofNat (numeralValue 16 [a, b, c, d]) :: acc) cs := by
  have value : 16 * (16 * (16 * (16 * 0 + hexDigitValue a) + hexDigitValue b) + hexDigitValue c) +
      hexDigitValue d = numeralValue 16 [a, b, c, d] := rfl
  simp only [scanString, ha, hb, hc, hd, value]
  simp [show ¬ 0xdc00 ≤ numeralValue 16 [a, b, c, d] by omega,
    show ¬ 0xd800 ≤ numeralValue 16 [a, b, c, d] by omega]

/-- A code below 32 is written with four digits. -/
theorem hexPadded_control {n : Nat} (h : n < 0x20) :
    ∃ a b c d, hexPadded 4 n = [a, b, c, d] := by
  have four : (hexPadded 4 n).length = 4 := by
    decide +revert
  match digits : hexPadded 4 n, four with
  | [a, b, c, d], _ => exact ⟨a, b, c, d, rfl⟩

/-- A character comes back from its form inside a string. -/
theorem scanString_escapedChar (c : Char) (acc cs : List Char) :
    scanString true .plain acc (escapedChar c ++ cs) = scanString true .plain (c :: acc) cs := by
  unfold escapedChar
  -- the characters that are written as a letter behind a backslash
  iterate 7
    split
    case isTrue h =>
      subst h
      rfl
  split
  case isTrue control =>
    obtain ⟨w, x, y, z, digits⟩ := hexPadded_control control
    have hex : ∀ d ∈ [w, x, y, z], isHexDigit d = true := by
      intro d hd
      obtain ⟨n, hn, rfl⟩ := mem_hexPadded (digits ▸ hd)
      exact (digitChar_hex hn).1
    have value : numeralValue 16 [w, x, y, z] = c.toNat := by
      rw [← digits, numeralValue_hexPadded]
    have scanned := scanString_unit (hex w (by simp)) (hex x (by simp)) (hex y (by simp))
      (hex z (by simp)) (by omega) acc cs
    rw [value, Char.ofNat_toNat] at scanned
    rw [digits]
    exact scanned
  case isFalse noQuote noBackslash _ _ _ _ _ visible =>
    simp [scanString, noQuote, noBackslash, visible]

theorem scanString_literal (cs acc rest : List Char) :
    scanString true .plain acc (cs.flatMap escapedChar ++ '"' :: rest) =
      .ok (String.ofList (acc.reverse ++ cs), rest) := by
  induction cs generalizing acc with
  | nil => simp [scanString]
  | cons c cs ih =>
      rw [List.flatMap_cons, List.append_assoc, scanString_escapedChar, ih]
      simp

/-! ## Counts -/

/-- Nothing follows that a numeral could go on with: the text ends, or a comma or a line
break comes next. -/
inductive Delimited : List Char → Prop
  | nothing : Delimited []
  | comma (rest : List Char) : Delimited (',' :: rest)
  | newline (rest : List Char) : Delimited ('\n' :: rest)

theorem digitChar_decimal {d : Nat} (h : d < 10) : hexDigitValue (Nat.digitChar d) = d :=
  (digitChar_hex (Nat.lt_trans h (by decide))).2.1

theorem decimal_cons (n : Nat) : ∃ c cs, decimal n = c :: cs ∧ isDecimalDigit c = true := by
  obtain ⟨c, cs, digits⟩ := List.exists_cons_of_ne_nil (Nat.toDigits_ne_nil (b := 10) (n := n))
  have first : c ∈ decimal n := by
    rw [decimal, digits]
    exact List.mem_cons_self
  exact ⟨c, cs, digits, mem_decimal first⟩

theorem digit_ne {c d : Char} (hc : isDecimalDigit c = true) (hd : isDecimalDigit d = false) :
    c ≠ d := by
  rintro rfl
  exact nomatch hc.symm.trans hd

/-- A number that is not zero does not begin with a zero. -/
theorem decimal_leading {n : Nat} (h : n ≠ 0) : ∃ c cs, decimal n = c :: cs ∧ c ≠ '0' := by
  induction n using Nat.strongRecOn with
  | ind n ih =>
      unfold decimal
      by_cases small : n < 10
      · rw [Nat.toDigits_of_lt_base small]
        exact ⟨n.digitChar, [], rfl, by simpa using h⟩
      · obtain ⟨c, cs, high, leading⟩ := ih (n / 10) (by omega) (by omega)
        rw [Nat.toDigits_of_base_le (by decide) (by omega), ← decimal, high]
        exact ⟨c, _, rfl, leading⟩

theorem readBelow_append {bound m k : Nat} {cs : List Char}
    (h : readBelow bound m cs = (k, [])) (ds : List Char) :
    readBelow bound m (cs ++ ds) = readBelow bound k ds := by
  induction cs generalizing m with
  | nil =>
      obtain rfl : m = k := congrArg Prod.fst h
      rfl
  | cons c cs ih =>
      rw [readBelow] at h
      rw [List.cons_append, readBelow]
      split at h
      · rename_i below
        rw [if_pos below]
        exact ih h
      · exact nomatch congrArg Prod.snd h

/-- A numeral is read back when its number is below the bound. -/
theorem readBelow_decimal {bound n : Nat} (h : n < bound) :
    readBelow bound 0 (decimal n) = (n, []) := by
  induction n using Nat.strongRecOn with
  | ind n ih =>
      unfold decimal
      by_cases small : n < 10
      · rw [Nat.toDigits_of_lt_base small]
        simp [readBelow, digitChar_decimal small, h]
      · have high := ih (n / 10) (by omega) (by omega)
        have low := digitChar_decimal (Nat.mod_lt n (by decide : 0 < 10))
        rw [Nat.toDigits_of_base_le (by decide) (by omega), ← decimal, readBelow_append high]
        have whole : 10 * (n / 10) + n % 10 = n := by omega
        simp [readBelow, low, whole, h]

theorem scanFraction_delimited (whole : List Char) {rest : List Char} (ends : Delimited rest) :
    scanFraction whole rest = .ok ({ whole }, rest) := by
  cases ends <;> rfl

theorem spanDigits_decimal (n : Nat) {rest : List Char} (ends : Delimited rest) :
    spanDigits (decimal n ++ rest) = (decimal n, rest) := by
  have digits : Run isDecimalDigit (decimal n ++ rest) (decimal n) rest := by
    refine ⟨rfl, fun c => mem_decimal, ?_⟩
    cases ends <;> rintro c ⟨⟩ <;> decide
  rw [spanDigits, List.span_eq_takeWhile_dropWhile, digits.takeWhile, digits.dropWhile]

theorem scanNumeral_decimal (n : Nat) {rest : List Char} (ends : Delimited rest) :
    scanNumeral (decimal n ++ rest) = .ok ({ whole := decimal n }, rest) := by
  by_cases zero : n = 0
  · subst zero
    cases ends <;> rfl
  · obtain ⟨c, cs, digits, leading⟩ := decimal_leading zero
    have digit : isDecimalDigit c = true := mem_decimal (n := n) (by simp [digits])
    have cut := spanDigits_decimal n ends
    have fraction := scanFraction_delimited (decimal n) ends
    rw [digits, List.cons_append] at cut ⊢
    rw [digits] at fraction
    unfold scanNumeral
    split
    · rename_i h
      exact nomatch h
    · rename_i h
      exact absurd (List.cons.inj h).1 leading
    · rename_i h
      obtain ⟨rfl, -⟩ := List.cons.inj h
      rw [if_pos digit, cut]
      exact fraction

/-- A count comes back from its numeral. -/
theorem scanNumber_decimal {n : Nat} (h : n < UInt64.size) {rest : List Char}
    (ends : Delimited rest) :
    scanNumber false (decimal n ++ rest) = .ok (.count n, rest) := by
  have value : Numeral.value false { whole := decimal n } rest = .ok (.count n) := by
    simp [Numeral.value, Numeral.significand, readBelow_decimal h, readBelow, Numeral.integer]
  rw [scanNumber, scanNumeral_decimal n ends]
  show (do let x ← Numeral.value false { whole := decimal n } rest; .ok (x, rest)) = _
  rw [value]
  rfl

end AsmView.Json
