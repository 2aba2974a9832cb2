/-
# A line that begins with an address has that address

The listing is read by its text alone: where to page on and what is focused is the
address that a line begins with.  A written address is read back from any line that is no
comment, whatever decoration stands in front of it, as long as no digit follows; and a line
that begins with a semicolon has none.  So the addresses of a text are those of its
instructions.
-/
import Mathlib.Data.List.TakeWhile
import AsmView.Line
import AsmView.Proofs.Text.Blank
import AsmView.Proofs.Text.Digits
import AsmView.Proofs.Text.Lines

namespace AsmView

open Text

/-! ## Written addresses -/

namespace Address

theorem toNat_injective {a b : Address} (h : a.toNat = b.toNat) : a = b := by
  obtain ⟨v⟩ := a
  obtain ⟨w⟩ := b
  exact congrArg Address.mk (UInt64.toNat_inj.mp h)

theorem lt_iff {a b : Address} : a < b ↔ a.toNat < b.toNat :=
  Iff.rfl

theorem le_iff {a b : Address} : a ≤ b ↔ a.toNat ≤ b.toNat :=
  Iff.rfl

theorem ofNat?_toNat (a : Address) : ofNat? a.toNat = some a := by
  obtain ⟨v⟩ := a
  rw [ofNat?, if_pos (by exact v.toNat_lt)]
  simp [toNat]

theorem ofNat?_eq_some_iff {n : Nat} {a : Address} : ofNat? n = some a ↔ n = a.toNat := by
  constructor
  · intro h
    unfold ofNat? at h
    split at h
    · rename_i fits
      obtain rfl := Option.some.inj h
      exact (Nat.mod_eq_of_lt fits).symm
    · exact nomatch h
  · rintro rfl
    exact ofNat?_toNat a

theorem chars_not_blank {a : Address} {c : Char} (h : c ∈ a.chars) : isBlank c = false := by
  rw [chars] at h
  rcases List.mem_cons.mp h with rfl | h
  · decide
  · rcases List.mem_cons.mp h with rfl | h
    · decide
    · obtain ⟨d, hd, rfl⟩ := mem_hexPadded h
      exact (digitChar_hex hd).2.2

theorem newline_not_mem_chars (a : Address) : '\n' ∉ a.chars := by
  intro h
  exact absurd (chars_not_blank h) (by decide)

/-- A written address is read back. -/
theorem parse_text (a : Address) : parse a.text = .ok a := by
  have whole : trimBlanks a.chars = a.chars := trimBlanks_of_forall fun _ => chars_not_blank
  have digits : (hexPadded digitWidth a.toNat).all isHexDigit = true := by
    refine List.all_eq_true.mpr fun c hc => ?_
    obtain ⟨d, hd, rfl⟩ := mem_hexPadded hc
    exact (digitChar_hex hd).1
  have hdigits : (hexPadded digitWidth a.toNat).isEmpty = false := by
    simp [hexPadded, hexNumeral]
  have marked : dropMarker a.chars = hexPadded digitWidth a.toNat := rfl
  have hchar : a.chars.isEmpty = false := rfl
  simp only [parse, text, String.toList_ofList, whole, marked, hchar, hdigits, digits,
    numeralValue_hexPadded, ofNat?_toNat]
  rfl

/-- An address is found in the word it is written in, if neither a zero stands in front of it nor
a digit behind it. -/
theorem addressInWord?_append {front tail : List Char} (plain : '0' ∉ front)
    (ends : ∀ c, tail.head? = some c → isHexDigit c = false) (a : Address) :
    addressInWord? (front ++ (a.chars ++ tail)) = some a := by
  have cut : cutAt? ['0', 'x'] (front ++ (a.chars ++ tail)) =
      some (front, hexPadded digitWidth a.toNat ++ tail) :=
    cutAt?_append plain ['x'] _
  have digits : Run isHexDigit (hexPadded digitWidth a.toNat ++ tail)
      (hexPadded digitWidth a.toNat) tail := by
    refine ⟨rfl, fun c hc => ?_, ends⟩
    obtain ⟨d, hd, rfl⟩ := mem_hexPadded hc
    exact (digitChar_hex hd).1
  have hdigits : (hexPadded digitWidth a.toNat).isEmpty = false := by
    simp [hexPadded, hexNumeral]
  rw [addressInWord?, cut]
  simp [digits.takeWhile, hdigits, numeralValue_hexPadded, ofNat?_toNat]

/-- A written address is the address in its word. -/
theorem addressInWord?_chars (a : Address) : addressInWord? a.chars = some a := by
  simpa using @addressInWord?_append [] [] (by simp) (by simp) a

/-- A line has the address written in it, if no letter or digit stands in front of it, the line
is no comment, and no hexadecimal digit follows. -/
theorem addressOfChars?_append {front tail : List Char}
    (plain : ∀ c ∈ front, isAlphanumeric c = false) (code : (dropBlanks front).head? ≠ some ';')
    (ends : ∀ c, tail.head? = some c → isHexDigit c = false) (a : Address) :
    addressOfChars? (front ++ (a.chars ++ tail)) = some a := by
  have digit : isAlphanumeric '0' = true := by decide
  have zero : (dropBlanks (a.chars ++ tail)).head? = some '0' := by
    simp [chars, dropBlanks, show isBlank '0' = false by decide]
  have head : (dropBlanks (front ++ (a.chars ++ tail))).head? ≠ some ';' := by
    rw [head?_dropBlanks_append, zero]
    cases first : (dropBlanks front).head? with
    | none => simp
    | some c => simpa [first] using code
  -- the word with the address goes on to the first blank behind it
  obtain ⟨more, rest, run⟩ := exists_run (!isBlank ·) tail
  have whole : a.chars ++ tail = (a.chars ++ more) ++ rest := by
    rw [List.append_assoc, ← run.text]
  have marked : (a.chars ++ more).any isAlphanumeric = true := by
    simp [chars, digit]
  have visible : ∀ c ∈ a.chars ++ more, isBlank c = false := by
    intro c hc
    rcases List.mem_append.mp hc with written | behind
    · exact chars_not_blank written
    · simpa using run.all c behind
  have blank : ∀ c, rest.head? = some c → isBlank c = true := by
    intro c first
    simpa using run.stops c first
  obtain ⟨u, inside, found⟩ := find?_words_append plain marked visible blank
  have unmarked : '0' ∉ u := by
    intro zero
    rw [plain '0' (inside zero)] at digit
    cases digit
  have stops : ∀ c, more.head? = some c → isHexDigit c = false := by
    intro c first
    refine ends c ?_
    rw [run.text, List.head?_append, first]
    rfl
  rw [addressOfChars?, if_neg head, whole, found]
  exact addressInWord?_append unmarked stops a

/-- A line that begins with a written address and a blank has that address. -/
theorem addressOfChars?_chars (a : Address) {b : Char} (hb : isBlank b = true) (rest : List Char) :
    addressOfChars? (a.chars ++ b :: rest) = some a := by
  have hdigit : isHexDigit b = false := by
    cases digit : isHexDigit b with
    | false => rfl
    | true => exact nomatch hb.symm.trans (isBlank_eq_false_of_isHexDigit digit)
  refine @addressOfChars?_append [] _ nofun (by simp [dropBlanks]) ?_ a
  rintro c ⟨⟩
  exact hdigit

end Address

/-- A line that begins with a semicolon has no address. -/
theorem addressOfChars?_semicolon (rest : List Char) : addressOfChars? (';' :: rest) = none := by
  simp [addressOfChars?, dropBlanks, show isBlank ';' = false by decide]

end AsmView
