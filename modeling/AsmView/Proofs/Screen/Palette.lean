/-
# What a palette says

A part of a color is two hexadecimal digits, or four of which the first two count: `PartDenotes`.
The reader is a little more generous, since a plus sign may stand where a leading zero may,
`PartRead`.  `Spelled` is the form of a color and `Listed` that of a palette, for either notion of
a part; what is read is what is spelled with the generous one, and the two agree on texts without
a plus sign.
-/
import Mathlib.Data.List.Forall2
import AsmView.Proofs.Text.Blank
import AsmView.Proofs.Text.Digits
import AsmView.Proofs.Text.Lines
import AsmView.Screen.Palette

namespace AsmView

open Text

/-! ## Lower case -/

namespace Text

variable {c : Char} {cs : List Char}

/-- What is the same for both cases of each letter is the same for both cases of every
character. -/
theorem apply_toLower {α : Type} {f : Char → α}
    (letters : ∀ i < 26, f (Char.ofNat (0x41 + i)).toLower = f (Char.ofNat (0x41 + i)))
    (c : Char) : f c.toLower = f c := by
  by_cases capital : 0x41 ≤ c.toNat ∧ c.toNat ≤ 0x5a
  · have letter := letters (c.toNat - 0x41) (by omega)
    rwa [Nat.add_sub_of_le capital.1, Char.ofNat_toNat] at letter
  · exact congrArg f (dif_neg capital)

theorem isHexDigit_toLower (c : Char) : isHexDigit c.toLower = isHexDigit c :=
  apply_toLower (by decide) c

theorem hexDigitValue_toLower (c : Char) : hexDigitValue c.toLower = hexDigitValue c :=
  apply_toLower (by decide) c

theorem isBlank_toLower (c : Char) : isBlank c.toLower = isBlank c :=
  apply_toLower (by decide) c

/-- The lower case of a letter is no mark. -/
theorem toLower_eq_mark_iff {mark : Char} (h : mark ∈ ['+', '/', ':']) :
    c.toLower = mark ↔ c = mark := by
  have one : mark = '+' ∨ mark = '/' ∨ mark = ':' := by simpa using h
  refine decide_eq_decide.mp (apply_toLower (f := fun c => decide (c = mark)) ?_ c)
  rcases one with rfl | rfl | rfl <;> decide

theorem utf8ByteSize_ofList (cs : List Char) :
    (String.ofList cs).utf8ByteSize = (cs.map Char.utf8Size).sum := by
  induction cs with
  | nil => rfl
  | cons c cs ih =>
      rw [String.ofList_cons, String.utf8ByteSize_append, ih]
      simp

theorem dropBlanks_map_toLower (cs : List Char) :
    dropBlanks (cs.map Char.toLower) = (dropBlanks cs).map Char.toLower := by
  have same : isBlank ∘ Char.toLower = isBlank := funext isBlank_toLower
  rw [dropBlanks, List.dropWhile_map, same, dropBlanks]

theorem trimBlanks_map_toLower (cs : List Char) :
    trimBlanks (cs.map Char.toLower) = (trimBlanks cs).map Char.toLower := by
  simp only [trimBlanks, dropBlanksRight, dropBlanks_map_toLower, ← List.map_reverse]

theorem numeralValue_map_toLower (base : Nat) (cs : List Char) :
    numeralValue base (cs.map Char.toLower) = numeralValue base cs := by
  simp only [numeralValue, List.foldl_map, hexDigitValue_toLower]

theorem splitAt_map_toLower (cs : List Char) :
    splitAt '/' (cs.map Char.toLower) = (splitAt '/' cs).map (·.map Char.toLower) := by
  induction cs with
  | nil => rfl
  | cons c cs ih =>
      have slash : c.toLower = '/' ↔ c = '/' := toLower_eq_mark_iff (by decide)
      simp only [List.map_cons, splitAt, ih, slash]
      split
      · rfl
      · cases splitAt '/' cs <;> rfl

/-! ## Digits -/

theorem hexDigitValue_lt (c : Char) : hexDigitValue c < 16 := by
  simp only [hexDigitValue, Char.le_def, UInt32.le_iff_toNat_le, Bool.and_eq_true,
    decide_eq_true_eq, Char.toNat_val, Char.reduceToNat]
  split_ifs <;> omega

/-- Every hexadecimal digit takes one byte. -/
theorem utf8ByteSize_digits (h : ∀ c ∈ cs, isHexDigit c = true) :
    (String.ofList cs).utf8ByteSize = cs.length := by
  have single : ∀ n ∈ cs.map Char.utf8Size, n = 1 := by
    intro n listed
    obtain ⟨c, hc, rfl⟩ := List.mem_map.mp listed
    have code := (isHexDigit_iff c).mp (h c hc)
    rw [Char.utf8Size_eq_one_iff, UInt32.le_iff_toNat_le]
    change c.toNat ≤ 127
    omega
  rw [utf8ByteSize_ofList, List.eq_replicate_of_mem single]
  simp

end Text

/-! ## Parts -/

namespace Palette

variable {p q r : List Char} {v w : UInt8}

/-- Two hexadecimal digits and the byte they denote. -/
structure Pair (digits : List Char) (v : UInt8) : Prop where
  two : digits.length = 2
  denotes : IsHexadecimal digits v.toNat

/-- A part of a color: two digits, or four of which the first two count. -/
inductive PartDenotes : List Char → UInt8 → Prop
  | two {p : List Char} {v : UInt8} (pair : Pair p v) : PartDenotes p v
  | four {p q : List Char} {v w : UInt8} (high : Pair p v) (low : Pair q w) : PartDenotes (p ++ q) v

/-- A plus sign in front taken for a zero. -/
def zeroForSign : List Char → List Char
  | '+' :: p => '0' :: p
  | p => p

/-- What the reader takes for a part: a plus sign may stand in the place of a leading zero. -/
def PartRead (p : List Char) (v : UInt8) : Prop :=
  PartDenotes (zeroForSign p) v

theorem Pair.value (h : Pair p v) : numeralValue 16 p = v.toNat := by
  rw [numeralValue_eq_placeValue, h.denotes.value]

theorem numeralValue_two {a b : Char} :
    numeralValue 16 [a, b] = 16 * hexDigitValue a + hexDigitValue b := by
  simp [numeralValue]

/-- Two digits denote a byte. -/
theorem pair_iff : Pair p v ↔
    p.length = 2 ∧ (∀ c ∈ p, isHexDigit c = true) ∧ (numeralValue 16 p).toUInt8 = v := by
  constructor
  · intro h
    refine ⟨h.two, h.denotes.all_digits, ?_⟩
    rw [h.value]
    exact UInt8.ofNat_toNat
  · rintro ⟨two, digits, rfl⟩
    obtain ⟨a, b, rfl⟩ := List.length_eq_two.mp two
    have high := hexDigitValue_lt a
    have low := hexDigitValue_lt b
    refine ⟨two, by simp, digits, ?_⟩
    rw [← numeralValue_eq_placeValue, numeralValue_two]
    exact (UInt8.toNat_ofNat_of_lt' (by rw [UInt8.size]; omega)).symm

/-- Digits begin with a pair. -/
theorem exists_pair_append {digits : List Char} {k : Nat} (long : digits.length = 2 + k)
    (h : ∀ c ∈ digits, isHexDigit c = true) :
    ∃ p v rest, digits = p ++ rest ∧ Pair p v ∧ rest.length = k ∧
      ∀ c ∈ rest, isHexDigit c = true := by
  refine ⟨digits.take 2, _, digits.drop 2, (List.take_append_drop 2 digits).symm,
    pair_iff.mpr ⟨?_, ?_, rfl⟩, ?_, ?_⟩
  · rw [List.length_take]
    omega
  · exact fun c hc => h c (List.mem_of_mem_take hc)
  · rw [List.length_drop]
    omega
  · exact fun c hc => h c (List.mem_of_mem_drop hc)

/-- Two more digits count 256 times less. -/
theorem numeralValue_append_two (two : q.length = 2) :
    numeralValue 16 (p ++ q) = 256 * numeralValue 16 p + numeralValue 16 q := by
  obtain ⟨a, b, rfl⟩ := List.length_eq_two.mp two
  rw [← List.singleton_append (x := a), ← List.append_assoc, numeralValue_append,
    numeralValue_append, List.singleton_append, numeralValue_two]
  omega

theorem PartDenotes.digits (h : PartDenotes p v) : ∀ c ∈ p, isHexDigit c = true := by
  cases h with
  | two pair => exact pair.denotes.all_digits
  | four high low =>
      intro c hc
      rcases List.mem_append.mp hc with front | behind
      · exact high.denotes.all_digits c front
      · exact low.denotes.all_digits c behind

/-- The first two of four digits count. -/
theorem numeralValue_four (low : Pair q w) :
    (numeralValue 16 (p ++ q) / 256).toUInt8 = (numeralValue 16 p).toUInt8 := by
  have small : w.toNat < 256 := w.toNat_lt
  have quotient : (256 * numeralValue 16 p + w.toNat) / 256 = numeralValue 16 p := by omega
  rw [numeralValue_append_two low.two, low.value, quotient]

/-- A part by its length and its number. -/
theorem partDenotes_iff : PartDenotes p v ↔ (∀ c ∈ p, isHexDigit c = true) ∧
    (p.length = 2 ∧ (numeralValue 16 p).toUInt8 = v ∨
      p.length = 4 ∧ (numeralValue 16 p / 256).toUInt8 = v) := by
  constructor
  · intro h
    refine ⟨h.digits, ?_⟩
    cases h with
    | two pair => exact .inl ⟨pair.two, (pair_iff.mp pair).2.2⟩
    | four high low =>
        refine .inr ⟨by rw [List.length_append, high.two, low.two], ?_⟩
        rw [numeralValue_four low, (pair_iff.mp high).2.2]
  · rintro ⟨digits, ⟨two, value⟩ | ⟨four, value⟩⟩
    · exact .two (pair_iff.mpr ⟨two, digits, value⟩)
    · obtain ⟨front, _, behind, rfl, high, two, digits⟩ := exists_pair_append (k := 2) four digits
      have low : Pair behind _ := pair_iff.mpr ⟨two, digits, rfl⟩
      rw [numeralValue_four low, (pair_iff.mp high).2.2] at value
      exact .four (value ▸ high) low

theorem partDenotes_map_toLower : PartDenotes (p.map Char.toLower) v ↔ PartDenotes p v := by
  simp only [partDenotes_iff, List.forall_mem_map, isHexDigit_toLower, List.length_map,
    numeralValue_map_toLower]

/-! ## What is read as a part -/

theorem zeroForSign_eq_self (h : p.head? ≠ some '+') : zeroForSign p = p := by
  unfold zeroForSign
  split
  · exact absurd rfl h
  · rfl

theorem utf8ByteSize_zeroForSign (p : List Char) :
    (String.ofList (zeroForSign p)).utf8ByteSize = (String.ofList p).utf8ByteSize := by
  unfold zeroForSign
  split
  · rw [utf8ByteSize_ofList, utf8ByteSize_ofList]
    rfl
  · rfl

theorem zeroForSign_map_toLower (p : List Char) :
    zeroForSign (p.map Char.toLower) = (zeroForSign p).map Char.toLower := by
  by_cases sign : p.head? = some '+'
  · obtain ⟨p, rfl⟩ := List.head?_eq_some_iff.mp sign
    rfl
  · have sign' : (p.map Char.toLower).head? ≠ some '+' := by
      intro lower
      obtain ⟨c, first, mark⟩ := Option.map_eq_some_iff.mp (List.head?_map.symm.trans lower)
      rw [toLower_eq_mark_iff (by decide)] at mark
      exact sign (mark ▸ first)
    rw [zeroForSign_eq_self sign', zeroForSign_eq_self sign]

/-- A number is read from digits, a plus sign in front of them taken for a zero. -/
theorem hexNumber?_eq_some_iff {n : Nat} (more : p ≠ ['+']) : hexNumber? p = some n ↔
    p ≠ [] ∧ (∀ c ∈ zeroForSign p, isHexDigit c = true) ∧ numeralValue 16 (zeroForSign p) = n := by
  by_cases sign : p.head? = some '+'
  · obtain ⟨p, rfl⟩ := List.head?_eq_some_iff.mp sign
    have number : hexNumber? ('+' :: p) =
        if p.isEmpty || !p.all isHexDigit then none else some (numeralValue 16 p) := rfl
    have zero : numeralValue 16 ('0' :: p) = numeralValue 16 p := rfl
    have digit : isHexDigit '0' = true := by decide
    have hdigit : p ≠ [] := fun none => more (by rw [none])
    simp [number, zeroForSign, zero, digit, hdigit]
  · have whole : dropLeading? ['+'] p = none := by
      refine Option.eq_none_iff_forall_ne_some.mpr fun rest dropped => ?_
      rw [dropLeading?_eq_some_iff] at dropped
      exact sign (by rw [dropped]; rfl)
    simp [hexNumber?, whole, zeroForSign_eq_self sign, and_assoc]

/-- A part is read by its size and its number. -/
theorem part_eq_ok_iff_number {cs : List Char} : part cs = .ok v ↔
    ∃ n, hexNumber? (trimBlanks cs) = some n ∧
      ((String.ofList (trimBlanks cs)).utf8ByteSize = 2 ∧ n.toUInt8 = v ∨
        (String.ofList (trimBlanks cs)).utf8ByteSize = 4 ∧ (n / 256).toUInt8 = v) := by
  unfold part
  generalize trimBlanks cs = p
  by_cases two : (String.ofList p).utf8ByteSize = 2
  · cases number : hexNumber? p <;> simp [two, number]
  · by_cases four : (String.ofList p).utf8ByteSize = 4
    · cases number : hexNumber? p <;> simp [four, number]
    · simp [two, four]

theorem part_eq_ok_iff {cs : List Char} : part cs = .ok v ↔ PartRead (trimBlanks cs) v := by
  rw [part_eq_ok_iff_number, PartRead, partDenotes_iff]
  generalize trimBlanks cs = p
  by_cases bare : p = [] ∨ p = ['+']
  · have unread : hexNumber? p = none := by rcases bare with rfl | rfl <;> rfl
    rcases bare with rfl | rfl <;> simp [unread, zeroForSign]
  obtain ⟨hdigit, more⟩ := not_or.mp bare
  simp only [hexNumber?_eq_some_iff more]
  constructor
  · rintro ⟨n, ⟨-, digits, rfl⟩, size⟩
    rw [← utf8ByteSize_zeroForSign, utf8ByteSize_digits digits] at size
    exact ⟨digits, size⟩
  · rintro ⟨digits, size⟩
    rw [← utf8ByteSize_digits digits, utf8ByteSize_zeroForSign] at size
    exact ⟨_, ⟨hdigit, digits, rfl⟩, size⟩

/-- Case makes no difference to what a part is read as. -/
theorem part_map_toLower {cs : List Char} :
    part (cs.map Char.toLower) = .ok v ↔ part cs = .ok v := by
  rw [part_eq_ok_iff, part_eq_ok_iff, trimBlanks_map_toLower, PartRead, zeroForSign_map_toLower,
    partDenotes_map_toLower, PartRead]

/-! ## Colors -/

/-- What may stand in front of the six digits of a color. -/
inductive Mark : List Char → Prop
  | none : Mark []
  | hash : Mark ['#']
  | lower : Mark ['0', 'x']
  | upper : Mark ['0', 'X']

/-- The form of a color: three parts behind `rgb:`, or six digits with or without a mark. -/
inductive Spelled (part : List Char → UInt8 → Prop) : List Char → Color → Prop
  | triple {name r g b : List Char} {x y z : UInt8}
      (rgb : name.map Char.toLower = ['r', 'g', 'b', ':'])
      (red : part (trimBlanks r) x) (green : part (trimBlanks g) y) (blue : part (trimBlanks b) z) :
      Spelled part (name ++ (r ++ '/' :: (g ++ '/' :: b))) (.rgb x y z)
  | digits {mark r g b : List Char} {x y z : UInt8} (marked : Mark mark)
      (red : Pair r x) (green : Pair g y) (blue : Pair b z) :
      Spelled part (mark ++ (r ++ (g ++ b))) (.rgb x y z)

theorem exists_mark (cs : List Char) : ∃ mark, Mark mark ∧ cs = mark ++ dropMark cs := by
  unfold dropMark
  split
  · exact ⟨_, .hash, rfl⟩
  · exact ⟨_, .lower, rfl⟩
  · exact ⟨_, .upper, rfl⟩
  · exact ⟨_, .none, rfl⟩

/-- Digits are not taken for a mark. -/
theorem dropMark_append {mark digits : List Char} (marked : Mark mark)
    (h : ∀ c ∈ digits, isHexDigit c = true) : dropMark (mark ++ digits) = digits := by
  cases marked with
  | none =>
      unfold dropMark
      split <;> simp_all [isHexDigit]
  | hash => rfl
  | lower => rfl
  | upper => rfl

/-- Six digits are three pairs. -/
theorem exists_pairs {digits : List Char} (six : digits.length = 6)
    (h : ∀ c ∈ digits, isHexDigit c = true) :
    ∃ r g b x y z, digits = r ++ (g ++ b) ∧ Pair r x ∧ Pair g y ∧ Pair b z := by
  obtain ⟨r, x, rest, rfl, red, four, h⟩ := exists_pair_append (k := 4) six h
  obtain ⟨g, y, b, rfl, green, two, h⟩ := exists_pair_append (k := 2) four h
  exact ⟨r, g, b, x, y, _, rfl, red, green, pair_iff.mpr ⟨two, h, rfl⟩⟩

theorem pairs_digits {g b : List Char} {x y z : UInt8} (red : Pair r x) (green : Pair g y)
    (blue : Pair b z) : ∀ c ∈ r ++ (g ++ b), isHexDigit c = true := by
  simp only [List.forall_mem_append]
  exact ⟨red.denotes.all_digits, green.denotes.all_digits, blue.denotes.all_digits⟩

/-- What three pairs of digits are read as. -/
theorem numeralValue_pairs {g b : List Char} {x y z : UInt8} (red : Pair r x) (green : Pair g y)
    (blue : Pair b z) :
    let n := numeralValue 16 (r ++ (g ++ b))
    Color.rgb (n / 65536).toUInt8 (n / 256).toUInt8 n.toUInt8 = .rgb x y z := by
  have small := y.toNat_lt
  have small' := z.toNat_lt
  intro n
  have value : n = 256 * (256 * x.toNat + y.toNat) + z.toNat := by
    rw [← red.value, ← green.value, ← blue.value, ← numeralValue_append_two green.two,
      ← numeralValue_append_two blue.two, List.append_assoc]
  have high : n / 65536 = x.toNat := by omega
  have middle : n / 256 % 256 = y.toNat := by omega
  have low : n % 256 = z.toNat := by omega
  rw [high]
  congr
  · exact UInt8.ofNat_toNat
  · apply UInt8.toNat_inj.mp
    simpa using middle
  · apply UInt8.toNat_inj.mp
    simpa using low

theorem splitAt_triple_iff {rest r g b : List Char} : splitAt '/' rest = [r, g, b] ↔
    r ++ '/' :: (g ++ '/' :: b) = rest ∧ '/' ∉ r ∧ '/' ∉ g ∧ '/' ∉ b := by
  rw [splitAt_eq_iff, List.intercalate_cons_cons, List.intercalate_cons_cons,
    List.intercalate_singleton]
  simp

/-- A part has hexadecimal digits, and perhaps a sign. -/
theorem PartRead.mem {c : Char} (h : PartRead p v) (hc : c ∈ p) :
    isHexDigit c = true ∨ c = '+' := by
  by_cases sign : p.head? = some '+'
  · obtain ⟨p, rfl⟩ := List.head?_eq_some_iff.mp sign
    rcases List.mem_cons.mp hc with mark | behind
    · exact .inr mark
    · exact .inl (PartDenotes.digits h c (List.mem_cons_of_mem '0' behind))
  · rw [PartRead, zeroForSign_eq_self sign] at h
    exact .inl (h.digits c hc)

theorem slash_not_mem {cs : List Char} (h : PartRead (trimBlanks cs) v) : '/' ∉ cs := by
  intro slash
  rcases h.mem (mem_trimBlanks slash (by decide)) with digit | sign
  · exact absurd digit (by decide)
  · exact absurd sign (by decide)

section Colors

variable {cs name rest mark r g b : List Char} {c : Color}

/-- What starts with `rgb:` is a triple, and nothing else. -/
theorem color_behind (rgb : name.map Char.toLower = ['r', 'g', 'b', ':'])
    (text : trimBlanks cs = name ++ rest) : color cs =
      match splitAt '/' (rest.map Char.toLower) with
      | [r, g, b] => do .ok (.rgb (← part r) (← part g) (← part b))
      | _ => .error (.badTriple (String.ofList (name ++ rest))) := by
  have htext : (name ++ rest).isEmpty = false := by
    cases name with
    | nil => cases rgb
    | cons c name => rfl
  have behind : dropLeading? ['r', 'g', 'b', ':'] ((name ++ rest).map Char.toLower) =
      some (rest.map Char.toLower) := by
    rw [dropLeading?_eq_some_iff, List.map_append, rgb]
  simp only [color, text, htext, behind]
  rfl

/-- Three parts are read one by one. -/
theorem parts_eq_ok_iff :
    (do Except.ok (Color.rgb (← part r) (← part g) (← part b))) = .ok c ↔
      ∃ x y z, part r = .ok x ∧ part g = .ok y ∧ part b = .ok z ∧ .rgb x y z = c := by
  cases part r <;> cases part g <;> cases part b <;> simp [bind, Except.bind]

/-- The parts of a triple are read as they stand. -/
theorem color_behind_eq_ok_iff (rgb : name.map Char.toLower = ['r', 'g', 'b', ':'])
    (text : trimBlanks cs = name ++ rest) : color cs = .ok c ↔
      ∃ r g b x y z, r ++ '/' :: (g ++ '/' :: b) = rest ∧ PartRead (trimBlanks r) x ∧
        PartRead (trimBlanks g) y ∧ PartRead (trimBlanks b) z ∧ .rgb x y z = c := by
  rw [color_behind rgb text, splitAt_map_toLower]
  constructor
  · intro read
    split at read
    · rename_i pieces
      obtain ⟨r, _, whole, rfl, later⟩ := List.map_eq_cons_iff.mp pieces
      obtain ⟨g, _, rfl, rfl, last⟩ := List.map_eq_cons_iff.mp later
      obtain ⟨b, _, rfl, rfl, nothing⟩ := List.map_eq_cons_iff.mp last
      obtain rfl := List.map_eq_nil_iff.mp nothing
      obtain ⟨x, y, z, red, green, blue, rfl⟩ := parts_eq_ok_iff.mp read
      rw [part_map_toLower, part_eq_ok_iff] at red green blue
      exact ⟨r, g, b, x, y, z, (splitAt_triple_iff.mp whole).1, red, green, blue, rfl⟩
    · cases read
  · rintro ⟨r, g, b, x, y, z, whole, red, green, blue, rfl⟩
    have three : splitAt '/' rest = [r, g, b] := splitAt_triple_iff.mpr
      ⟨whole, slash_not_mem red, slash_not_mem green, slash_not_mem blue⟩
    rw [three]
    rw [← part_eq_ok_iff, ← part_map_toLower] at red green blue
    exact parts_eq_ok_iff.mpr ⟨x, y, z, red, green, blue, rfl⟩

/-- A color that does not start with `rgb:` is six digits behind a mark. -/
theorem color_plain_eq_ok_iff
    (plain : ∀ rest, (trimBlanks cs).map Char.toLower ≠ ['r', 'g', 'b', ':'] ++ rest) :
    color cs = .ok c ↔ ∃ mark r g b x y z, Mark mark ∧ mark ++ (r ++ (g ++ b)) = trimBlanks cs ∧
      Pair r x ∧ Pair g y ∧ Pair b z ∧ .rgb x y z = c := by
  have unmarked : dropLeading? ['r', 'g', 'b', ':'] ((trimBlanks cs).map Char.toLower) = none :=
    Option.eq_none_iff_forall_ne_some.mpr fun rest dropped =>
      plain rest (dropLeading?_eq_some_iff.mp dropped)
  simp only [color, unmarked]
  generalize trimBlanks cs = t
  constructor
  · intro read
    split at read
    · cases read
    · split at read
      · cases read
      · rename_i digits
        obtain ⟨six, digits⟩ : (dropMark t).length = 6 ∧ ∀ c ∈ dropMark t, isHexDigit c = true := by
          simpa using digits
        obtain ⟨mark, marked, whole⟩ := exists_mark t
        obtain ⟨r, g, b, x, y, z, pairs, red, green, blue⟩ := exists_pairs six digits
        refine ⟨mark, r, g, b, x, y, z, marked, ?_, red, green, blue, ?_⟩
        · rw [← pairs, ← whole]
        · rw [← numeralValue_pairs red green blue, ← pairs]
          exact Except.ok.inj read
  · rintro ⟨mark, r, g, b, x, y, z, marked, rfl, red, green, blue, rfl⟩
    have digits := pairs_digits red green blue
    have six : (r ++ (g ++ b)).length = 6 := by simp [red.two, green.two, blue.two]
    have htext : (mark ++ (r ++ (g ++ b))).isEmpty = false := by
      rw [List.isEmpty_eq_false_iff, ← List.length_pos_iff, List.length_append]
      omega
    rw [dropMark_append marked digits, numeralValue_pairs red green blue, htext, six,
      List.all_eq_true.mpr digits]
    rfl

/-- Six digits do not start with `rgb:`. -/
theorem digits_ne_rgb {x y z : UInt8} (marked : Mark mark) (red : Pair r x) (green : Pair g y)
    (blue : Pair b z) : ∀ rest,
      (mark ++ (r ++ (g ++ b))).map Char.toLower ≠ ['r', 'g', 'b', ':'] ++ rest := by
  intro rest lower
  have colon : ':' ∈ (mark ++ (r ++ (g ++ b))).map Char.toLower := by simp [lower]
  obtain ⟨c, inside, same⟩ := List.mem_map.mp colon
  obtain rfl := (toLower_eq_mark_iff (by decide)).mp same
  rcases List.mem_append.mp inside with front | behind
  · cases marked <;> revert front <;> decide
  · exact absurd (pairs_digits red green blue ':' behind) (by decide)

/-- What is read as a color is spelled as one, but for the signs of its parts. -/
theorem color_eq_ok_iff : color cs = .ok c ↔ Spelled PartRead (trimBlanks cs) c := by
  constructor
  · intro read
    by_cases behind : ∃ rest, (trimBlanks cs).map Char.toLower = ['r', 'g', 'b', ':'] ++ rest
    · obtain ⟨_, lower⟩ := behind
      obtain ⟨name, rest, text, rgb, -⟩ := List.map_eq_append_iff.mp lower
      obtain ⟨r, g, b, x, y, z, rfl, red, green, blue, rfl⟩ :=
        (color_behind_eq_ok_iff rgb text).mp read
      rw [text]
      exact .triple rgb red green blue
    · obtain ⟨mark, r, g, b, x, y, z, marked, whole, red, green, blue, rfl⟩ :=
        (color_plain_eq_ok_iff (not_exists.mp behind)).mp read
      rw [← whole]
      exact .digits marked red green blue
  · intro spelled
    generalize text : trimBlanks cs = t at spelled
    cases spelled with
    | triple rgb red green blue =>
        exact (color_behind_eq_ok_iff rgb text).mpr ⟨_, _, _, _, _, _, rfl, red, green, blue, rfl⟩
    | digits marked red green blue =>
        exact (color_plain_eq_ok_iff (text ▸ digits_ne_rgb marked red green blue)).mpr
          ⟨_, _, _, _, _, _, _, marked, text.symm, red, green, blue, rfl⟩

end Colors

/-! ## Texts without a sign -/

theorem PartDenotes.no_sign (h : PartDenotes p v) : '+' ∉ p := by
  intro sign
  exact absurd (h.digits '+' sign) (by decide)

/-- Without a sign, nothing but parts is taken for a part. -/
theorem partDenotes_iff_partRead : PartDenotes p v ↔ PartRead p v ∧ '+' ∉ p := by
  have same (unsigned : '+' ∉ p) : zeroForSign p = p :=
    zeroForSign_eq_self fun first => unsigned (List.mem_of_head? first)
  constructor
  · intro h
    exact ⟨by rwa [PartRead, same h.no_sign], h.no_sign⟩
  · rintro ⟨h, unsigned⟩
    rwa [PartRead, same unsigned] at h

theorem sign_mem_trimBlanks_iff {cs : List Char} : '+' ∈ trimBlanks cs ↔ '+' ∈ cs :=
  ⟨fun h => (infix_trimBlanks cs).subset h, fun h => mem_trimBlanks h (by decide)⟩

/-- The parts of a color that is spelled as documented are those without a sign. -/
theorem spelled_denotes_iff {cs : List Char} {c : Color} :
    Spelled PartDenotes cs c ↔ Spelled PartRead cs c ∧ '+' ∉ cs := by
  constructor
  · intro spelled
    cases spelled with
    | triple rgb red green blue =>
        rw [partDenotes_iff_partRead, sign_mem_trimBlanks_iff] at red green blue
        refine ⟨.triple rgb red.1 green.1 blue.1, ?_⟩
        have unsigned : Char.toLower '+' ∉ ['r', 'g', 'b', ':'] := by decide
        rw [← rgb] at unsigned
        simp [red.2, green.2, blue.2, mt List.mem_map_of_mem unsigned]
    | digits marked red green blue =>
        refine ⟨.digits marked red green blue, fun sign => ?_⟩
        rcases List.mem_append.mp sign with front | behind
        · cases marked <;> revert front <;> decide
        · exact absurd (pairs_digits red green blue '+' behind) (by decide)
  · rintro ⟨spelled, unsigned⟩
    cases spelled with
    | triple rgb red green blue =>
        have denotes {p v} (h : PartRead (trimBlanks p) v) (plain : '+' ∉ p) :
            PartDenotes (trimBlanks p) v :=
          partDenotes_iff_partRead.mpr ⟨h, mt sign_mem_trimBlanks_iff.mp plain⟩
        simp only [List.mem_append, List.mem_cons, not_or] at unsigned
        obtain ⟨-, inRed, -, inGreen, -, inBlue⟩ := unsigned
        exact .triple rgb (denotes red inRed) (denotes green inGreen) (denotes blue inBlue)
    | digits marked red green blue => exact .digits marked red green blue

/-! ## Palettes -/

/-- The colors of a palette in the order of their roles. -/
def colors (p : Palette) : List Color :=
  p.foreground :: p.background :: p.ansi

/-- The form of a palette: as many texts as there are roles, with commas between them, each of
which spells the color of its role. -/
def Listed (part : List Char → UInt8 → Prop) (cs : List Char) (p : Palette) : Prop :=
  ∃ texts, [','].intercalate texts = cs ∧ (∀ t ∈ texts, ',' ∉ t) ∧ texts.length = size ∧
    List.Forall₂ (fun t c => Spelled part (trimBlanks t) c) texts p.colors

/-- Texts are read one by one. -/
theorem mapM_eq_ok_iff {ε α β : Type} {f : α → Except ε β} {xs : List α} {ys : List β} :
    xs.mapM f = .ok ys ↔ List.Forall₂ (fun x y => f x = .ok y) xs ys := by
  induction xs generalizing ys with
  | nil => simp [pure, Except.pure, eq_comm]
  | cons x xs ih =>
      rw [List.mapM_cons, List.forall₂_cons_left_iff]
      simp only [← ih]
      cases f x <;> cases xs.mapM f <;> simp [bind, Except.bind, pure, Except.pure, eq_comm]

theorem parse_eq_ok_iff_mapM {cs : List Char} {p : Palette} : parse cs = .ok p ↔
    (splitAt ',' cs).length = size ∧ (splitAt ',' cs).mapM color = .ok p.colors := by
  simp only [parse]
  generalize splitAt ',' cs = texts
  by_cases all : texts.length = size
  · cases named : texts.mapM color with
    | error fault => simp [all, bind, Except.bind]
    | ok found =>
        have same : (.ok found : Except PaletteFault _) = .ok p.colors ↔ found = p.colors := by simp
        obtain ⟨foreground, background, ansi⟩ := p
        simp only [all, same]
        rcases found with - | ⟨c, - | ⟨d, rest⟩⟩ <;> simp [colors, bind, Except.bind]
  · simp [all]

theorem parse_eq_ok_iff {cs : List Char} {p : Palette} :
    parse cs = .ok p ↔ Listed PartRead cs p := by
  simp only [parse_eq_ok_iff_mapM, mapM_eq_ok_iff, color_eq_ok_iff, Listed]
  constructor
  · rintro ⟨all, named⟩
    obtain ⟨-, whole, plain⟩ := splitAt_eq_iff.mp (rfl : splitAt ',' cs = _)
    exact ⟨_, whole, plain, all, named⟩
  · rintro ⟨texts, whole, plain, all, named⟩
    have htext : texts ≠ [] := by
      rintro rfl
      cases all
    rw [splitAt_eq_iff.mpr ⟨htext, whole, plain⟩]
    exact ⟨all, named⟩

/-- A palette that is spelled as documented is one without a sign. -/
theorem listed_denotes_iff {cs : List Char} {p : Palette} :
    Listed PartDenotes cs p ↔ Listed PartRead cs p ∧ '+' ∉ cs := by
  have unsigned (texts : List (List Char)) :
      '+' ∉ [','].intercalate texts ↔ ∀ t ∈ texts, '+' ∉ t := by
    rw [mem_intercalate_iff (by decide)]
    simp
  have named (texts : List (List Char)) :
      List.Forall₂ (fun t c => Spelled PartDenotes (trimBlanks t) c) texts p.colors ↔
        (∀ t ∈ texts, '+' ∉ t) ∧
          List.Forall₂ (fun t c => Spelled PartRead (trimBlanks t) c) texts p.colors := by
    simp only [spelled_denotes_iff, sign_mem_trimBlanks_iff, and_comm, List.forall₂_and_left]
  simp only [Listed, named]
  constructor
  · rintro ⟨texts, rfl, plain, all, hsigned, spelled⟩
    exact ⟨⟨texts, rfl, plain, all, spelled⟩, (unsigned texts).mpr hsigned⟩
  · rintro ⟨⟨texts, rfl, plain, all, spelled⟩, hsigned⟩
    exact ⟨texts, rfl, plain, all, (unsigned texts).mp hsigned, spelled⟩

/-- A color and a palette are read just if they are spelled with parts as they are read, and those
that are read without a plus sign are the ones that are spelled as documented. -/
theorem spelled_iff_read (cs : List Char) :
    (∀ c, color cs = .ok c ↔ Spelled PartRead (trimBlanks cs) c) ∧
    (∀ c, Spelled PartDenotes (trimBlanks cs) c ↔ color cs = .ok c ∧ '+' ∉ cs) ∧
    (∀ p, parse cs = .ok p ↔ Listed PartRead cs p) ∧
    ∀ p, Listed PartDenotes cs p ↔ parse cs = .ok p ∧ '+' ∉ cs := by
  refine ⟨fun c => color_eq_ok_iff, fun c => ?_, fun p => parse_eq_ok_iff, fun p => ?_⟩
  · rw [spelled_denotes_iff, color_eq_ok_iff, sign_mem_trimBlanks_iff]
  · rw [listed_denotes_iff, parse_eq_ok_iff]

/-- A sign and a digit are read as a part. -/
theorem signed_color_read :
    color "rgb:+f/00/00".toList = .ok (.rgb 15 0 0) ∧
      ∀ c, ¬ Spelled PartDenotes (trimBlanks "rgb:+f/00/00".toList) c := by
  refine ⟨by decide +kernel, fun c spelled => ?_⟩
  exact absurd (spelled_denotes_iff.mp spelled).2 (by decide +kernel)

end Palette

end AsmView
