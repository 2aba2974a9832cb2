/-
# Written addresses are read back

An address is written in one way and read in three: from a line that it stands in, from a text
of its own, and from a JSON value.  Each finds the address that was written, the line whatever
decoration stands in front of it and whatever follows the digits.  So the written form of what a
text denotes is a normal form of the text: it denotes the same, and texts have it in common just
when they denote the same.
-/
import AsmView.Proofs.Address
import AsmView.Proofs.Image.Codec

namespace AsmView.Address

open Text Json

variable {s : String} {a b : Address}

theorem text_injective (same : a.text = b.text) : a = b := by
  have read := parse_text b
  rw [← same, parse_text a] at read
  exact Except.ok.inj read

theorem normalize_of_parse (read : parse s = .ok a) : normalize s = .ok a.text := by
  rw [normalize, read]
  rfl

/-- The text of a normal form is in normal form. -/
theorem normalize_text (a : Address) : normalize a.text = .ok a.text :=
  normalize_of_parse (parse_text a)

theorem lineAddress?_append {front tail : String}
    (plain : ∀ c ∈ front.toList, isAlphanumeric c = false)
    (code : front.toList.find? (!isBlank ·) ≠ some ';')
    (ends : ∀ c, tail.toList.head? = some c → isHexDigit c = false) (a : Address) :
    lineAddress? (front ++ a.text ++ tail) = some a := by
  have chars : (front ++ a.text ++ tail).toList = front.toList ++ (a.chars ++ tail.toList) := by
    simp [text]
  rw [List.find?_not_eq_head?_dropWhile] at code
  rw [lineAddress?, chars]
  exact addressOfChars?_append plain code ends a

/-- Written addresses are read back.  A line has the address written in it, if no letter or digit
stands in front of it, the line is no comment, and no hexadecimal digit follows; the text of an
address is read as the address, and so is its JSON value, whatever depth is left.  Normal forms
of texts that denote an address are in normal form themselves, and the same just when the
addresses are. -/
theorem text_readBack :
    (∀ (a : Address) (front tail : String),
      (∀ c ∈ front.toList, isAlphanumeric c = false) →
      front.toList.find? (!isBlank ·) ≠ some ';' →
      (∀ c, tail.toList.head? = some c → isHexDigit c = false) →
        lineAddress? (front ++ a.text ++ tail) = some a) ∧
    (∀ a : Address, parse a.text = .ok a) ∧
    (∀ (a : Address) (depth : Nat),
      Reader.run (Address.read depth) (Value.text a.text).pretty = .ok a) ∧
    ∀ (s t : String) (a b : Address), parse s = .ok a → parse t = .ok b →
      ∃ u v, normalize s = .ok u ∧ normalize t = .ok v ∧ normalize u = .ok u ∧
        (u = v ↔ a = b) := by
  refine ⟨?_, parse_text, ?_, ?_⟩
  · intro a front tail plain code ends
    exact lineAddress?_append plain code ends a
  · intro a depth
    exact run_pretty (a.decodes depth)
  · intro s t a b read read'
    refine ⟨a.text, b.text, normalize_of_parse read, normalize_of_parse read', normalize_text a,
      text_injective, ?_⟩
    rintro rfl
    rfl

theorem text_readBack_decorated :
    lineAddress? ("│ " ++ text ⟨0xffffffffffffffff⟩ ++ ":  call 0x1010") =
      some ⟨0xffffffffffffffff⟩ ∧
    ∃ u v, normalize " 0X401A2C " = .ok u ∧ normalize "401a2c" = .ok v ∧ normalize u = .ok u ∧
      (u = v ↔ (⟨0x401a2c⟩ : Address) = ⟨0x401a2c⟩) := by
  have upper : parse " 0X401A2C " = .ok ⟨0x401a2c⟩ := by decide +kernel
  have bare : parse "401a2c" = .ok ⟨0x401a2c⟩ := by decide +kernel
  have plain : ("│ ".toList.all fun c => isAlphanumeric c == false) = true := by decide +kernel
  refine ⟨?_, text_readBack.2.2.2 _ _ _ _ upper bare⟩
  refine text_readBack.1 _ _ _ ?_ (by decide +kernel) ?_
  · exact fun c hc => beq_iff_eq.mp (List.all_eq_true.mp plain c hc)
  · rintro c ⟨⟩
    rfl

end AsmView.Address
