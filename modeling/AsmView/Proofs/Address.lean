/-
# What is read as an address

An address is read from hexadecimal digits between blanks, with one marker in front of them or
none.  `Reads` is the whole grammar: it also says which fault any other text has.  Only the
digits behind the marker count, so a second marker is a stray character, and a number is too
large by its value, not by how many digits it has.  `parse_eq_iff_reads` says that a text is read
as the grammar says, and so that the faults divide the texts that are no address among them.
-/
import AsmView.Proofs.Line

namespace AsmView.Address

open Text

variable {t digits : List Char} {a : Address} {r : Except Fault Address}

/-! ## Digits -/

/-- The digits denote the address, in base 16. -/
structure Denotes (digits : List Char) (a : Address) : Prop where
  ne_nil : digits ≠ []
  hexadecimal : ∀ c ∈ digits, isHexDigit c = true
  value : numeralValue 16 digits = a.toNat

theorem denotes_iff_isHexadecimal : Denotes digits a ↔ IsHexadecimal digits a.toNat := by
  constructor
  · rintro ⟨hdigits, hexadecimal, value⟩
    exact ⟨hdigits, hexadecimal, numeralValue_eq_placeValue 16 digits ▸ value⟩
  · rintro ⟨hdigits, hexadecimal, value⟩
    exact ⟨hdigits, hexadecimal, numeralValue_eq_placeValue 16 digits ▸ value⟩

theorem ofNat?_eq_none_iff {n : Nat} : ofNat? n = none ↔ 2 ^ 64 ≤ n := by
  unfold ofNat?
  split
  · rename_i fits
    exact iff_of_false nofun (Nat.not_le.mpr fits)
  · rename_i beyond
    exact iff_of_true rfl (Nat.not_lt.mp beyond)

/-! ## Markers -/

/-- What may stand in front of the digits. -/
inductive Marker : List Char → Prop
  | lower : Marker ['0', 'x']
  | upper : Marker ['0', 'X']

/-- The digits of a text stand behind its marker, or are the whole text when it has none. -/
inductive Behind : List Char → List Char → Prop
  | marked {m digits : List Char} (marker : Marker m) : Behind (m ++ digits) digits
  | plain {t : List Char} (unmarked : ∀ m, Marker m → ¬ m <+: t) : Behind t t

theorem behind_dropMarker (t : List Char) : Behind t (dropMarker t) := by
  unfold dropMarker
  split
  · exact .marked .lower
  · exact .marked .upper
  case h_3 lower upper =>
    refine .plain ?_
    rintro m (_ | _) ⟨digits, marked⟩
    · exact lower digits marked.symm
    · exact upper digits marked.symm

theorem Behind.eq (h : Behind t digits) : dropMarker t = digits := by
  cases h with
  | marked marker => cases marker <;> rfl
  | plain unmarked =>
      unfold dropMarker
      split
      · exact absurd (List.prefix_append ['0', 'x'] _) (unmarked _ .lower)
      · exact absurd (List.prefix_append ['0', 'X'] _) (unmarked _ .upper)
      · rfl

/-- The letter of a marker is no digit, so digits have no marker among them. -/
theorem behind_self (hexadecimal : ∀ c ∈ digits, isHexDigit c = true) : Behind digits digits := by
  refine .plain ?_
  rintro m (_ | _) marked
  · exact absurd (hexadecimal 'x' (marked.subset (by simp))) (by decide)
  · exact absurd (hexadecimal 'X' (marked.subset (by simp))) (by decide)

/-! ## The grammar -/

/-- What a text between blanks is read as: an address, or the fault that it has. -/
inductive Reads (t : List Char) : Except Fault Address → Prop
  | address {m digits : List Char} {a : Address} (text : t = m ++ digits)
      (marker : m = [] ∨ Marker m) (denotes : IsHexadecimal digits a.toNat) : Reads t (.ok a)
  | empty (nothing : t = []) : Reads t (.error .empty)
  | missingDigits (bare : Marker t) : Reads t (.error (.missingDigits (String.ofList t)))
  | invalidDigit {digits : List Char} (behind : Behind t digits)
      (stray : ∃ c ∈ digits, isHexDigit c = false) :
      Reads t (.error (.invalidDigit (String.ofList t)))
  | overflow {digits : List Char} {n : Nat} (behind : Behind t digits)
      (denotes : IsHexadecimal digits n) (beyond : 2 ^ 64 ≤ n) :
      Reads t (.error (.overflow (String.ofList t)))

/-- A text has digits behind its marker, is a marker alone, or is empty. -/
theorem Behind.cases_digits (behind : Behind t digits) : t = [] ∨ Marker t ∨ digits ≠ [] := by
  cases behind with
  | @marked m digits marker =>
      by_cases bare : digits = []
      · subst bare
        rw [List.append_nil]
        exact .inr (.inl marker)
      · exact .inr (.inr bare)
  | plain _ =>
      by_cases nothing : t = []
      · exact .inl nothing
      · exact .inr (.inr nothing)

/-- Every text is read as something. -/
theorem exists_reads (t : List Char) : ∃ r, Reads t r := by
  obtain ⟨digits, behind⟩ : ∃ digits, Behind t digits := ⟨_, behind_dropMarker t⟩
  rcases behind.cases_digits with nothing | bare | hdigits
  · exact ⟨_, .empty nothing⟩
  · exact ⟨_, .missingDigits bare⟩
  by_cases stray : ∃ c ∈ digits, isHexDigit c = false
  · exact ⟨_, .invalidDigit behind stray⟩
  have hexadecimal : ∀ c ∈ digits, isHexDigit c = true := by simpa using stray
  have denotes : IsHexadecimal digits (placeValue 16 digits) := ⟨hdigits, hexadecimal, rfl⟩
  cases fits : ofNat? (placeValue 16 digits) with
  | none => exact ⟨_, .overflow behind denotes (ofNat?_eq_none_iff.mp fits)⟩
  | some a =>
      rw [ofNat?_eq_some_iff.mp fits] at denotes
      cases behind with
      | marked marker => exact ⟨_, .address rfl (.inr marker) denotes⟩
      | plain _ => exact ⟨_, .address (List.nil_append t).symm (.inl rfl) denotes⟩

/-- Digits are behind what stands in front of them, whether that is a marker or nothing. -/
theorem behind_append {m : List Char} {n : Nat} (marker : m = [] ∨ Marker m)
    (denotes : IsHexadecimal digits n) : Behind (m ++ digits) digits := by
  rcases marker with rfl | marker
  · exact behind_self denotes.all_digits
  · exact .marked marker

section Parse

variable {s : String}

/-- What is decided of a text that has digits behind its marker: whether they are all
hexadecimal, and whether the number fits. -/
theorem parse_digits (trimmed : trimBlanks s.toList = t) (behind : Behind t digits)
    (hdigits : digits ≠ []) :
    parse s =
      if digits.all isHexDigit then
        match ofNat? (placeValue 16 digits) with
        | some a => .ok a
        | none => .error (.overflow (String.ofList t))
      else .error (.invalidDigit (String.ofList t)) := by
  have hchar : t.isEmpty = false := by
    cases t with
    | nil => exact absurd behind.eq.symm hdigits
    | cons c t => rfl
  have hdigits : digits.isEmpty = false := by simpa using hdigits
  unfold parse
  simp only [trimmed, behind.eq, hchar, hdigits, numeralValue_eq_placeValue]
  cases digits.all isHexDigit <;> rfl

theorem parse_of_reads (h : Reads (trimBlanks s.toList) r) : parse s = r := by
  generalize trimmed : trimBlanks s.toList = t at h
  cases h with
  | address text marker denotes =>
      subst text
      rw [parse_digits trimmed (behind_append marker denotes) denotes.ne_nil,
        if_pos (List.all_eq_true.mpr denotes.all_digits), denotes.value, ofNat?_toNat]
  | empty nothing =>
      subst nothing
      simp [parse, trimmed]
  | missingDigits bare => cases bare <;> simp [parse, trimmed, dropMarker]
  | @invalidDigit digits behind stray =>
      obtain ⟨c, hc, hdigit⟩ := stray
      have mixed : ¬ digits.all isHexDigit = true := by
        intro all
        rw [List.all_eq_true.mp all c hc] at hdigit
        cases hdigit
      rw [parse_digits trimmed behind (List.ne_nil_of_mem hc), if_neg mixed]
  | overflow behind denotes beyond =>
      rw [parse_digits trimmed behind denotes.ne_nil,
        if_pos (List.all_eq_true.mpr denotes.all_digits), denotes.value,
        ofNat?_eq_none_iff.mpr beyond]

/-- A text is read as the grammar says of what stands between the blanks around it. -/
theorem parse_eq_iff_reads (s : String) (r : Except Fault Address) :
    parse s = r ↔ ∃ t, Trimmed s.toList t ∧ Reads t r := by
  constructor
  · intro read
    obtain ⟨r', reads⟩ := exists_reads (trimBlanks s.toList)
    obtain rfl : r' = r := (parse_of_reads reads).symm.trans read
    exact ⟨_, trimmed_trimBlanks _, reads⟩
  · rintro ⟨t, trimmed, reads⟩
    exact parse_of_reads (trimmed.eq ▸ reads)

/-- Digits between blanks, with one marker at most, are read as the address they denote. -/
theorem parse_eq_ok_iff : parse s = .ok a ↔ Denotes (dropMarker (trimBlanks s.toList)) a := by
  rw [denotes_iff_isHexadecimal]
  constructor
  · intro read
    obtain ⟨r, reads⟩ := exists_reads (trimBlanks s.toList)
    obtain rfl := (parse_of_reads reads).symm.trans read
    generalize trimBlanks s.toList = t at reads
    cases reads with
    | address text marker denotes =>
        subst text
        rwa [(behind_append marker denotes).eq]
  · intro denotes
    rw [parse_digits rfl (behind_dropMarker _) denotes.ne_nil,
      if_pos (List.all_eq_true.mpr denotes.all_digits), denotes.value, ofNat?_toNat]

end Parse

end AsmView.Address
