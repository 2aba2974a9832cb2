/-
# Where the text of a line leads

A line that belongs to no instruction leads where the first transfer in its text does.  `Begins`
says what a transfer looks like, `Occurs` where one stands in a line, and `First` which one
counts: the one that no other stands in front of, whether its number fits in 64 bits or not.

The search goes through the line character by character and knows of what it has passed only
whether a word goes on there.  So what it finds is stated for a line in two parts
(`firstFrom_firstTransfer?`): in the part that is left it finds what occurs first from there on in
the whole line.  At each place there is one transfer at most (`Begins.unique`), since blanks end
the letters of a mnemonic, a marker ends the blanks, and the digits go on as long as there are any.
-/
import AsmView.Proofs.Address
import AsmView.Proofs.Loaded

namespace AsmView

open Text Address

namespace Transfer

variable {cs rest digits digits' front before after line : List Char}

/-! ## Transfers in a text -/

/-- The words that transfer control. -/
inductive Mnemonic : List Char → Prop
  | call : Mnemonic ['c', 'a', 'l', 'l']
  | jump {letters : List Char} (hletter : 1 ≤ letters.length) (few : letters.length ≤ 4)
      (lower : ∀ c ∈ letters, 'a' ≤ c ∧ c ≤ 'z') : Mnemonic ('j' :: letters)

/-- A text begins with a transfer to the number of these digits: a mnemonic, blanks, a marker and
all the digits that follow it. -/
inductive Begins : List Char → List Char → Prop
  | transfer {mnemonic blanks marker rest digits behind : List Char} (named : Mnemonic mnemonic)
      (apart : blanks ≠ []) (blank : ∀ c ∈ blanks, isBlank c = true) (marked : Marker marker)
      (run : Run isHexDigit rest digits behind) (hdigit : digits ≠ []) :
      Begins (mnemonic ++ (blanks ++ (marker ++ rest))) digits

/-- Behind `front` a line has a transfer that does not begin in the middle of a word. -/
structure Occurs (line front digits : List Char) : Prop where
  place : ∃ rest, line = front ++ rest ∧ Begins rest digits
  outside : ∀ c, front.getLast? = some c → isWordCharacter c = false

/-- The digits of the transfer that no other stands in front of. -/
def First (line digits : List Char) : Prop :=
  ∃ front, Occurs line front digits ∧
    ∀ front' digits', Occurs line front' digits' → front.length ≤ front'.length

/-! ## One place -/

theorem isLowerLetter_eq_false_of_isBlank {c : Char} (blank : isBlank c = true) :
    isLowerLetter c = false := by
  simp only [isBlank, Bool.or_eq_true, Bool.and_eq_true, decide_eq_true_eq, beq_iff_eq] at blank
  simp only [isLowerLetter, Char.le_def, UInt32.le_iff_toNat_le, Bool.and_eq_false_iff,
    decide_eq_false_iff_not]
  change ¬ 97 ≤ c.toNat ∨ ¬ c.toNat ≤ 122
  omega

theorem Mnemonic.afterMnemonic? {mnemonic : List Char} (named : Mnemonic mnemonic)
    (blank : rest.head?.any isBlank = true) : afterMnemonic? (mnemonic ++ rest) = some rest := by
  cases named with
  | call => rfl
  | @jump letters hletter few lower =>
    have run : Run isLowerLetter (letters ++ rest) letters rest := by
      refine ⟨rfl, ?_, ?_⟩
      · intro c hc
        simpa [isLowerLetter] using lower c hc
      · intro c first
        rw [first] at blank
        exact isLowerLetter_eq_false_of_isBlank blank
    simp [Transfer.afterMnemonic?, run.takeWhile, hletter, few]

theorem exists_mnemonic (h : afterMnemonic? cs = some rest) :
    ∃ mnemonic, Mnemonic mnemonic ∧ cs = mnemonic ++ rest := by
  unfold afterMnemonic? at h
  split at h
  case h_1 =>
    cases h
    exact ⟨_, .call, rfl⟩
  case h_2 cs =>
    obtain ⟨letters, behind, run⟩ := exists_run isLowerLetter cs
    obtain rfl := run.text
    simp only [run.takeWhile, List.drop_left, Option.ite_none_right_eq_some,
      Option.some.injEq, Bool.and_eq_true, decide_eq_true_eq] at h
    obtain ⟨⟨hletter, few⟩, rfl⟩ := h
    have lower : ∀ c ∈ letters, 'a' ≤ c ∧ c ≤ 'z' := by
      intro c hc
      simpa [isLowerLetter] using run.all c hc
    exact ⟨_, .jump hletter few lower, rfl⟩
  case h_3 => cases h

theorem leadingNumber?_eq_some_iff : leadingNumber? cs = some digits ↔
    ∃ marker rest behind, Marker marker ∧ cs = marker ++ rest ∧
      Run isHexDigit rest digits behind ∧ digits ≠ [] := by
  constructor
  · intro h
    unfold leadingNumber? at h
    split at h
    case h_1 x cs =>
      obtain ⟨digits, behind, run⟩ := exists_run isHexDigit cs
      simp only [run.takeWhile, Option.ite_none_right_eq_some, Option.some.injEq,
        Bool.and_eq_true, Bool.or_eq_true, decide_eq_true_eq, Bool.not_eq_true',
        List.isEmpty_eq_false_iff] at h
      obtain ⟨⟨rfl | rfl, hdigit⟩, rfl⟩ := h
      · exact ⟨_, cs, behind, .lower, rfl, run, hdigit⟩
      · exact ⟨_, cs, behind, .upper, rfl, run, hdigit⟩
    case h_2 => cases h
  · rintro ⟨marker, rest, behind, marked, rfl, run, hdigit⟩
    cases marked <;> simp [leadingNumber?, run.takeWhile, hdigit]

/-- What is tried at a place is whether a transfer begins there. -/
theorem transferHere?_eq_some_iff : transferHere? cs = some digits ↔ Begins cs digits := by
  constructor
  · intro h
    unfold transferHere? at h
    split at h
    case h_1 rest found =>
      obtain ⟨mnemonic, named, rfl⟩ := exists_mnemonic found
      split at h
      case isTrue blank =>
        obtain ⟨marker, number, behind, marked, text, run, hdigit⟩ :=
          leadingNumber?_eq_some_iff.mp h
        obtain ⟨blanks, whole, allBlank⟩ := exists_append_dropBlanks rest
        have apart : blanks ≠ [] := by
          rintro rfl
          rw [whole, List.nil_append, Option.any_eq_true] at blank
          obtain ⟨c, first, blank⟩ := blank
          rw [head?_dropBlanks first] at blank
          cases blank
        rw [whole, text]
        exact .transfer named apart allBlank marked run hdigit
      case isFalse => cases h
    case h_2 => cases h
  · rintro ⟨named, apart, blank, marked, run, hdigit⟩
    rename_i mnemonic blanks marker rest behind
    have first : (blanks ++ (marker ++ rest)).head?.any isBlank = true := by
      cases blanks with
      | nil => exact absurd rfl apart
      | cons c blanks => exact blank c List.mem_cons_self
    have kept : dropBlanks (marker ++ rest) = marker ++ rest := by
      refine dropBlanks_eq_self ?_
      cases marked <;> rintro c ⟨⟩ <;> decide
    rw [transferHere?, named.afterMnemonic? first]
    dsimp only
    rw [if_pos first, dropBlanks_append blank, kept]
    exact leadingNumber?_eq_some_iff.mpr ⟨marker, rest, behind, marked, rfl, run, hdigit⟩

theorem Begins.ne_nil (h : Begins cs digits) : cs ≠ [] := by
  obtain ⟨named, -, -, -, -, -⟩ := h
  cases named <;> exact List.cons_ne_nil _ _

theorem Begins.unique (h : Begins cs digits) (h' : Begins cs digits') : digits = digits' := by
  rw [← transferHere?_eq_some_iff] at h h'
  exact Option.some.inj (h.symm.trans h')

/-! ## The first place -/

theorem occurs_append_iff : Occurs (front ++ cs) front digits ↔
    front.getLast?.any isWordCharacter = false ∧ Begins cs digits := by
  have boundary : front.getLast?.any isWordCharacter = false ↔
      ∀ c, front.getLast? = some c → isWordCharacter c = false := by
    cases front.getLast? <;> simp
  rw [boundary]
  constructor
  · rintro ⟨⟨rest, text, begins⟩, outside⟩
    obtain rfl := List.append_cancel_left text
    exact ⟨outside, begins⟩
  · rintro ⟨outside, begins⟩
    exact ⟨⟨cs, rfl, begins⟩, outside⟩

theorem Occurs.eq_of_length (h : Occurs line front digits) (split : line = before ++ after)
    (same : front.length = before.length) : front = before := by
  obtain ⟨⟨rest, text, -⟩, -⟩ := h
  exact (List.append_inj (text.symm.trans split) same).1

theorem First.unique (h : First line digits) (h' : First line digits') : digits = digits' := by
  obtain ⟨front, occurs, first⟩ := h
  obtain ⟨front', occurs', first'⟩ := h'
  have same := Nat.le_antisymm (first _ _ occurs') (first' _ _ occurs)
  obtain ⟨⟨rest, rfl, begins⟩, -⟩ := occurs
  obtain rfl := occurs'.eq_of_length rfl same.symm
  exact begins.unique (occurs_append_iff.mp occurs').2

/-- The digits of the first transfer from a place on, if there is one. -/
inductive FirstFrom (line : List Char) (n : Nat) : Option (List Char) → Prop
  | transfer {front digits : List Char} (here : Occurs line front digits)
      (behind : n ≤ front.length) (first : ∀ front' digits', Occurs line front' digits' →
        n ≤ front'.length → front.length ≤ front'.length) : FirstFrom line n (some digits)
  | nothing (passed : ∀ front digits, Occurs line front digits → front.length < n) :
      FirstFrom line n none

/-- Where nothing occurs at a place, what is first behind it is first from there on. -/
theorem FirstFrom.of_succ {n : Nat} {r : Option (List Char)} (h : FirstFrom line (n + 1) r)
    (free : ∀ front digits, Occurs line front digits → front.length ≠ n) :
    FirstFrom line n r := by
  cases h with
  | transfer here behind first =>
    refine .transfer here (Nat.le_of_succ_le behind) ?_
    intro front' digits' occurs le
    exact first front' digits' occurs (Nat.lt_of_le_of_ne le (free _ _ occurs).symm)
  | nothing passed =>
    apply FirstFrom.nothing
    intro front digits occurs
    exact Nat.lt_of_le_of_ne (Nat.le_of_lt_succ (passed _ _ occurs)) (free _ _ occurs)

/-- What is found in the rest of a line is what occurs first from there on. -/
theorem firstFrom_firstTransfer? (before cs : List Char) :
    FirstFrom (before ++ cs) before.length
      (firstTransfer? (before.getLast?.any isWordCharacter) cs) := by
  induction cs generalizing before with
  | nil =>
    apply FirstFrom.nothing
    rintro front digits ⟨⟨rest, text, begins⟩, -⟩
    have hrest := List.length_pos_iff.mpr begins.ne_nil
    have total := congrArg List.length text
    simp only [List.append_nil, List.length_append] at total
    omega
  | cons c cs ih =>
    have here : ∀ digits, Occurs (before ++ c :: cs) before digits ↔
        (if before.getLast?.any isWordCharacter then none else transferHere? (c :: cs)) =
          some digits := by
      intro digits
      rw [occurs_append_iff, ← transferHere?_eq_some_iff]
      cases before.getLast?.any isWordCharacter <;> simp
    unfold firstTransfer?
    split
    case h_1 digits found =>
      refine .transfer ((here digits).mpr found) (Nat.le_refl _) ?_
      intro front' digits' _ le
      exact le
    case h_2 missing =>
      -- the character is passed, and what is left goes on behind it
      have next := ih (before ++ [c])
      rw [List.append_assoc, List.singleton_append, List.getLast?_concat, List.length_append] at next
      apply next.of_succ
      intro front digits occurs same
      obtain rfl := occurs.eq_of_length rfl same
      rw [here, missing] at occurs
      cases occurs

theorem firstTransfer?_cases (line : List Char) :
    (firstTransfer? false line = none ∧ ∀ front digits, ¬ Occurs line front digits) ∨
      ∃ digits, firstTransfer? false line = some digits ∧ First line digits := by
  have found : FirstFrom line 0 (firstTransfer? false line) := firstFrom_firstTransfer? [] line
  generalize firstTransfer? false line = r at found
  cases found with
  | @transfer front digits here _ first =>
    refine .inr ⟨digits, rfl, front, here, ?_⟩
    intro front' digits' occurs
    exact first front' digits' occurs (Nat.zero_le _)
  | nothing passed =>
    refine .inl ⟨rfl, ?_⟩
    intro front digits occurs
    exact Nat.not_lt_zero _ (passed front digits occurs)

theorem firstTransfer?_eq_some_iff :
    firstTransfer? false line = some digits ↔ First line digits := by
  obtain ⟨missing, nowhere⟩ | ⟨digits', found, first⟩ := firstTransfer?_cases line
  · rw [missing]
    refine iff_of_false nofun ?_
    rintro ⟨front, occurs, -⟩
    exact nowhere front digits occurs
  · rw [found, Option.some.injEq]
    constructor
    · rintro rfl
      exact first
    · exact first.unique

theorem firstTransfer?_eq_none_iff :
    firstTransfer? false line = none ↔ ∀ front digits, ¬ Occurs line front digits := by
  obtain ⟨missing, nowhere⟩ | ⟨digits, found, front, occurs, -⟩ := firstTransfer?_cases line
  · exact iff_of_true missing nowhere
  · rw [found]
    refine iff_of_false nofun ?_
    intro nowhere
    exact nowhere front digits occurs

/-! ## Targets -/

theorem target?_eq_some_iff {line : String} {a : Address} : target? line = some a ↔
    ∃ digits, First line.toList digits ∧ placeValue 16 digits = a.toNat := by
  simp only [target?, Option.bind_eq_some_iff, firstTransfer?_eq_some_iff, ofNat?_eq_some_iff,
    numeralValue_eq_placeValue]

theorem target?_eq_none_iff {line : String} :
    target? line = none ↔ (∀ front digits, ¬ Occurs line.toList front digits) ∨
      ∃ digits, First line.toList digits ∧ 2 ^ 64 ≤ placeValue 16 digits := by
  rw [target?]
  cases found : firstTransfer? false line.toList with
  | none => exact iff_of_true rfl (.inl (firstTransfer?_eq_none_iff.mp found))
  | some digits =>
    have first := firstTransfer?_eq_some_iff.mp found
    rw [Option.bind_some, ofNat?_eq_none_iff, numeralValue_eq_placeValue]
    constructor
    · intro beyond
      exact .inr ⟨digits, first, beyond⟩
    · rintro (nowhere | ⟨digits', first', beyond⟩)
      · obtain ⟨front, occurs, -⟩ := first
        exact absurd occurs (nowhere front digits)
      · rwa [first.unique first']

end Transfer

namespace Loaded

open Transfer

/-! ## Lines of no instruction -/

theorem slotAt?_load_eq_none {img : Image} {a : Address}
    (unlisted : ∀ i ∈ img.instructions, i.address ≠ a) : (load img).slotAt? a = none := by
  rw [slotAt?_eq_none_iff]
  intro s hs
  exact unlisted s.instruction (mem_instructions.mpr ⟨s, hs, rfl⟩)

theorem transferTarget?_of_unlisted {l : Loaded} {line : String}
    (unlisted : ∀ a, lineAddress? line = some a → l.slotAt? a = none) :
    l.transferTarget? line = Transfer.target? line := by
  have nothing : (lineAddress? line).bind l.slotAt? = none := Option.bind_eq_none_iff.mpr unlisted
  rw [transferTarget?, nothing]

/-- A line that has no address, or one at which no instruction stands, leads where its first
transfer does, whatever was asked before: to the number of that transfer if it fits in 64 bits,
and nowhere if it does not or if there is no transfer. -/
theorem jumpTarget_iff_first (img : Image) (l : Loaded) (asked : Analyzer.Asked (load img) l)
    (line : String)
    (unlisted : ∀ a, lineAddress? line = some a → ∀ i ∈ img.instructions, i.address ≠ a) :
    ∃ target?, (Analyzer.jumpTarget line : Query Loaded (Option Address)).ask l =
        (.ok target?, l) ∧
      (∀ v, target? = some v ↔
        ∃ digits, First line.toList digits ∧ placeValue 16 digits = v.toNat) ∧
      (target? = none ↔ (∀ front digits, ¬ Occurs line.toList front digits) ∨
        ∃ digits, First line.toList digits ∧ 2 ^ 64 ≤ placeValue 16 digits) := by
  have same := sameImage_of_asked asked
  have fallback : l.transferTarget? line = Transfer.target? line := by
    apply transferTarget?_of_unlisted
    intro a has
    rw [same.slotAt?_eq, slotAt?_load_eq_none (unlisted a has)]
  refine ⟨Transfer.target? line, ?_, ?_, target?_eq_none_iff⟩
  · rw [ask_jumpTarget, fallback]
  · intro v
    exact target?_eq_some_iff

/-- Neither the middle of a word nor a mnemonic of too many letters is a transfer; and a number
that is too large hides the one behind it. -/
theorem jumpTarget_iff_first_pair :
    (Analyzer.jumpTarget "0x00001004  xcall 0x1 jecxzq 0x2 call rax jmp\t0X1010h"
        : Query Loaded (Option Address)).ask (load .pair) =
          (.ok (some ⟨0x1010⟩), load .pair) ∧
      (Analyzer.jumpTarget "call 0x10000000000000000 call 0x1010"
        : Query Loaded (Option Address)).ask (load .pair) = (.ok none, load .pair) := by
  constructor
  · have unlisted : ∀ a, lineAddress?
        "0x00001004  xcall 0x1 jecxzq 0x2 call rax jmp\t0X1010h" = some a →
          ∀ i ∈ Image.pair.instructions, i.address ≠ a := by
      intro a has
      obtain rfl : (⟨0x1004⟩ : Address) = a := by
        refine Option.some.inj (Eq.trans ?_ has)
        decide +kernel
      decide
    obtain ⟨target?, answer, fits, -⟩ := jumpTarget_iff_first .pair _ .refl _ unlisted
    have found : target? = some ⟨0x1010⟩ := by
      refine (fits _).mpr ⟨"1010".toList, firstTransfer?_eq_some_iff.mp ?_, ?_⟩
      · decide +kernel
      · decide +kernel
    rw [answer, found]
  · have unlisted : ∀ a, lineAddress? "call 0x10000000000000000 call 0x1010" = some a →
        ∀ i ∈ Image.pair.instructions, i.address ≠ a := by
      intro a has
      have none : lineAddress? "call 0x10000000000000000 call 0x1010" = none := by decide +kernel
      cases none.symm.trans has
    obtain ⟨target?, answer, -, missing⟩ := jumpTarget_iff_first .pair _ .refl _ unlisted
    have found : target? = none := by
      refine missing.mpr (.inr ⟨"10000000000000000".toList, firstTransfer?_eq_some_iff.mp ?_, ?_⟩)
      · decide +kernel
      · decide +kernel
    rw [answer, found]

end Loaded

end AsmView
