/-
# The columns of an instruction, written and painted

An instruction is written in columns: its address, its raw bytes in a column of fixed width, its
text, and its comment behind a mark.  The painter does not know the widths.  It takes the comment
from the first mark on, and of what is in front of it the first word for the address and the second
for the bytes.  So the columns come back as long as there are bytes to be the second word, and the
mark does not show before the comment does: the blanks in front of a text and behind it are enough
to make one of a semicolon at its ends.  There is no other way for an instruction to be taken apart
wrongly.  That the text cannot be cut in its middle is a matter of counting semicolons.
-/
import AsmView.Proofs.Loaded.Text
import AsmView.Proofs.Screen.Painting

namespace AsmView

open Text Screen

/-! ## The mark of a comment -/

namespace Screen

variable {part front body behind comment : List Char}

/-- A comment is found where its mark begins, as long as the mark neither stands in front nor comes
about with the first blank of it. -/
theorem firstPart_commentMark_iff :
    FirstPart commentMark (body ++ (commentMark ++ comment)) body comment ↔
      ¬ commentMark <:+: body ++ [' '] := by
  have spaced : body ++ (commentMark ++ comment) = body ++ [' '] ++ (' ' :: ';' :: ' ' :: comment) := by
    simp [commentMark]
  constructor
  · rintro ⟨-, first⟩ ⟨front, behind, whole⟩
    have sooner := first front (behind ++ ' ' :: ';' :: ' ' :: comment)
      (by rw [spaced, ← whole]; simp)
    have lengths := congrArg List.length whole
    simp only [List.length_append, commentMark, List.length_cons, List.length_nil] at lengths
    omega
  · intro unmarked
    refine ⟨rfl, ?_⟩
    intro front behind whole
    by_contra sooner
    rw [spaced] at whole
    rcases List.append_eq_append_iff.mp whole with ⟨ahead, rfl, -⟩ | ⟨inside, cut, marked⟩
    · simp only [List.length_append, List.length_cons, List.length_nil] at sooner
      omega
    -- how much of the mark stands in the body with its blank decides which character clashes
    have lengths := congrArg List.length cut
    simp only [List.length_append, List.length_cons, List.length_nil] at lengths
    rcases inside with _ | ⟨w, _ | ⟨x, _ | ⟨y, _ | ⟨z, more⟩⟩⟩⟩
    · simp only [List.length_nil] at lengths
      omega
    · simp only [List.length_cons, List.length_nil] at lengths
      omega
    · simp [commentMark] at marked
    · have last := congrArg List.getLast? cut
      simp only [List.getLast?_append] at last
      obtain ⟨rfl, rfl, rfl, -⟩ : ' ' = w ∧ ' ' = x ∧ ';' = y ∧ _ := by
        simpa [commentMark] using marked
      simp at last
    · obtain ⟨rfl, rfl, rfl, rfl, -⟩ : ' ' = w ∧ ' ' = x ∧ ';' = y ∧ ' ' = z ∧ _ := by
        simpa [commentMark] using marked
      exact unmarked ⟨front, more, by rw [cut]; simp [commentMark]⟩

theorem cutComment_eq_none_iff {cs : List Char} :
    cutComment cs = (cs, none) ↔ ¬ commentMark <:+: cs := by
  rw [← cutAt?_eq_none_iff, cutComment]
  cases cutAt? commentMark cs <;> simp

theorem cutComment_eq_some_iff {cs : List Char} :
    cutComment cs = (body, some (commentMark ++ comment)) ↔
      FirstPart commentMark cs body comment := by
  rw [← cutAt?_eq_some_iff, cutComment]
  cases cutAt? commentMark cs with
  | none => simp
  | some parts =>
      obtain ⟨front, behind⟩ := parts
      simp

theorem exists_firstPart_of_cutComment {cs shown : List Char}
    (h : cutComment cs = (body, some shown)) :
    ∃ comment, shown = commentMark ++ comment ∧ FirstPart commentMark cs body comment := by
  rw [cutComment] at h
  cases cut : cutAt? commentMark cs with
  | none => simp [cut] at h
  | some parts =>
      obtain ⟨front, behind⟩ := parts
      obtain ⟨rfl, rfl⟩ : front = body ∧ commentMark ++ behind = shown := by simpa [cut] using h
      exact ⟨behind, rfl, cutAt?_eq_some_iff.mp cut⟩

/-- What stands between two marks that overlap or follow one another has a semicolon in it. -/
theorem semicolon_of_marks {more : List Char}
    (h : commentMark ++ behind = more ++ (commentMark ++ comment)) : more = [] ∨ ';' ∈ more := by
  rcases more with _ | ⟨x, _ | ⟨y, _ | ⟨z, more⟩⟩⟩
  · exact .inl rfl
  · simp [commentMark] at h
  · simp [commentMark] at h
  · obtain ⟨-, -, rfl, -⟩ : ' ' = x ∧ ' ' = y ∧ ';' = z ∧ _ := by
      simpa [commentMark] using h
    exact .inr (by simp)

end Screen

theorem isBlank_of_mem_pair {c : Char} (hc : c ∈ [' ', ' ']) : isBlank c = true := by
  obtain rfl : c = ' ' := by simpa using hc
  decide

/-! ## What is written -/

namespace Instruction

/-- The raw bytes without the blanks among them. -/
def rawBytes (i : Instruction) : List Char :=
  i.bytes.toList.filter (!isBlank ·)

/-- The comment that is shown, which an empty one is not. -/
def shownComment? (i : Instruction) : Option String :=
  i.comment.filter (!·.isEmpty)

/-- What the columns of an instruction are to say: its address, bytes and text, and behind a
semicolon its comment. -/
def columns (i : Instruction) : List String :=
  [i.address.text, String.ofList i.rawBytes, i.text] ++ (i.shownComment?.map ("; " ++ ·)).toList

/-- The blanks that fill the column of bytes, and the one behind it. -/
def padding (i : Instruction) : List Char :=
  List.replicate (Loaded.bytesColumn - i.rawBytes.length) ' ' ++ [' ']

/-- Everything in front of the text. -/
def leadChars (i : Instruction) : List Char :=
  i.address.chars ++ ([' ', ' '] ++ (i.rawBytes ++ i.padding))

/-- The text, with the blank behind it when a comment follows. -/
def spacedText (i : Instruction) : List Char :=
  i.text.toList ++ if i.shownComment?.isSome then [' '] else []

/-- Bytes of hexadecimal digits and blanks, and a text with no blank at its ends and no mark of a
comment in it. -/
structure Tidy (i : Instruction) : Prop where
  bytes : ∀ c ∈ i.bytes.toList, isHexDigit c = true ∨ isBlank c = true
  text : trimBlanks i.text.toList = i.text.toList
  unmarked : ¬ commentMark <:+: i.text.toList

/-- No mark of a comment comes about from the text and the blanks around it. -/
structure Separable (i : Instruction) : Prop where
  start : i.rawBytes.length < Loaded.bytesColumn → ¬ [';', ' '] <+: i.spacedText
  stop : ¬ commentMark <:+: i.spacedText

variable {i : Instruction}

/-- A text without a semicolon is taken apart in the right place. -/
theorem separable_of_not_mem (plain : ';' ∉ i.text.toList) : i.Separable := by
  have spaced : ';' ∉ i.spacedText := by
    unfold spacedText
    split <;> simp [plain]
  exact
    { start := fun _ mark => spaced (mark.subset (by simp))
      stop := fun mark => spaced (mark.subset (by simp [commentMark])) }

theorem tidy_of_not_mem (bytes : ∀ c ∈ i.bytes.toList, isHexDigit c = true ∨ isBlank c = true)
    (text : trimBlanks i.text.toList = i.text.toList) (plain : ';' ∉ i.text.toList) : i.Tidy where
  bytes := bytes
  text := text
  unmarked mark := plain (mark.subset (by simp [commentMark]))

theorem lineChars_append (i : Instruction) :
    Loaded.lineChars i =
      i.leadChars ++ i.text.toList ++
        ((i.shownComment?.map fun c => commentMark ++ c.toList).getD []) := by
  unfold Loaded.lineChars leadChars padding shownComment?
  cases i.comment with
  | none => simp [rawBytes, padRight]
  | some c =>
      cases empty : c.isEmpty <;> simp [rawBytes, padRight, empty, commentMark, Option.filter]

theorem lineAddress?_lineOf (i : Instruction) :
    lineAddress? (Loaded.lineOf i) = some i.address := by
  obtain ⟨rest, begins⟩ := Loaded.lineChars_eq i
  rw [lineAddress?, Loaded.lineOf, String.toList_ofList, begins]
  exact Address.addressOfChars?_chars _ (by decide) _

theorem eq_blank_of_mem_padding {c : Char} (hc : c ∈ i.padding) : c = ' ' := by
  rcases List.mem_append.mp hc with filling | last
  · exact List.eq_of_mem_replicate filling
  · exact List.mem_singleton.mp last

theorem isBlank_of_mem_padding {c : Char} (hc : c ∈ i.padding) : isBlank c = true := by
  rw [eq_blank_of_mem_padding hc]
  decide

theorem isBlank_of_mem_gap {c : Char} (hc : c ∈ [' ', ' '] ++ i.padding) : isBlank c = true := by
  rcases List.mem_append.mp hc with gap | filling
  · exact isBlank_of_mem_pair gap
  · exact isBlank_of_mem_padding filling

/-- Without bytes there is nothing but blanks behind the address. -/
theorem trimBlanks_leadChars (hbyte : i.rawBytes = []) :
    trimBlanks i.leadChars = i.address.chars := by
  rw [leadChars, hbyte]
  exact trimBlanks_word (fun _ => Address.chars_not_blank) fun _ => isBlank_of_mem_gap

/-! ## What is painted -/

/-- What the spans of an instruction's line say, without the blanks around it. -/
def painted (theme : Theme) (hcursor : Bool) (i : Instruction) : List String :=
  (disassemblyLine theme (Loaded.lineOf i) hcursor).spans.map (trim ·.text)

/-- The columns as they are written: the comment comes with all of its mark. -/
def columnChars (i : Instruction) : List (List Char) :=
  [i.address.chars, i.rawBytes, i.text.toList] ++
    (i.shownComment?.map (commentMark ++ ·.toList)).toList

theorem painted_eq (theme : Theme) (hcursor : Bool) (i : Instruction) :
    painted theme hcursor i =
      ((columnsOf (Loaded.lineChars i)).map trimBlanks).map String.ofList := by
  have texts := texts_disassemblyLine theme (Loaded.lineOf i) hcursor
  rw [lineAddress?_lineOf, Option.isNone_some, if_neg Bool.false_ne_true] at texts
  have trims : painted theme hcursor i =
      ((disassemblyLine theme (Loaded.lineOf i) hcursor).spans.map (·.text)).map trim := by
    rw [List.map_map]
    rfl
  rw [trims, texts, Loaded.lineOf, String.toList_ofList, List.map_map, List.map_map]
  refine List.map_congr_left fun cs _ => ?_
  simp [trim]

/-- The blanks in front of a mark make no difference to what is trimmed. -/
theorem trimBlanks_commentMark (cs : List Char) :
    trimBlanks (commentMark ++ cs) = trimBlanks (';' :: ' ' :: cs) :=
  congrArg dropBlanksRight (dropBlanks_append (fun _ => isBlank_of_mem_pair) (';' :: ' ' :: cs))

theorem map_trim_columns (i : Instruction) :
    i.columns.map trim = (i.columnChars.map trimBlanks).map String.ofList := by
  rw [columns, columnChars]
  cases i.shownComment? with
  | none => simp [trim, Address.text]
  | some c => simp [trim, Address.text, trimBlanks_commentMark]

theorem painted_eq_columns_iff (theme : Theme) (hcursor : Bool) (i : Instruction) :
    painted theme hcursor i = i.columns.map trim ↔
      (columnsOf (Loaded.lineChars i)).map trimBlanks = i.columnChars.map trimBlanks := by
  rw [painted_eq, map_trim_columns]
  exact List.map_inj_right fun _ _ => String.ofList_inj.mp

/-! ## The comment -/

section Tidy

variable (tidy : i.Tidy)
include tidy

theorem Tidy.isHexDigit_of_mem {c : Char} (hc : c ∈ i.rawBytes) : isHexDigit c = true := by
  obtain ⟨listed, visible⟩ := List.mem_filter.mp hc
  rcases tidy.bytes c listed with digit | blank
  · exact digit
  · simp [blank] at visible

theorem Tidy.not_isBlank_of_mem {c : Char} (hc : c ∈ i.rawBytes) : isBlank c = false :=
  isBlank_eq_false_of_isHexDigit (tidy.isHexDigit_of_mem hc)

theorem Tidy.semicolon_not_mem : ';' ∉ i.leadChars := by
  have digits : isHexDigit ';' = false := by decide
  intro h
  simp only [leadChars, Address.chars, List.mem_cons, List.mem_append, List.not_mem_nil,
    or_false] at h
  rcases h with (zero | marker | digit) | (blank | blank) | byte | padding
  · exact absurd zero (by decide)
  · exact absurd marker (by decide)
  · obtain ⟨d, hd, eq⟩ := mem_hexPadded digit
    rw [eq, (digitChar_hex hd).1] at digits
    cases digits
  · exact absurd blank (by decide)
  · exact absurd blank (by decide)
  · rw [tidy.isHexDigit_of_mem byte] at digits
    cases digits
  · exact absurd (eq_blank_of_mem_padding padding) (by decide)

theorem Tidy.trimmed : Trimmed i.text.toList i.text.toList := by
  have trimmed := trimmed_trimBlanks i.text.toList
  rwa [tidy.text] at trimmed

/-- Two blanks stand in front of the text when the bytes do not fill their column. -/
theorem Tidy.blanks_suffix_iff :
    [' ', ' '] <:+ i.leadChars ↔ i.rawBytes.length < Loaded.bytesColumn := by
  have split : i.leadChars = i.address.chars ++ ([' ', ' '] ++ (i.rawBytes ++
      List.replicate (Loaded.bytesColumn - i.rawBytes.length) ' ')) ++ [' '] := by
    simp [leadChars, padding]
  rw [split, ← List.singleton_append (l := [' ']), List.suffix_append_self_iff]
  constructor
  · intro blank
    by_contra full
    have none : Loaded.bytesColumn - i.rawBytes.length = 0 := by omega
    have hbytes : i.rawBytes ≠ [] := by
      intro empty
      simp [empty, Loaded.bytesColumn] at full
    rw [none, List.replicate_zero, List.append_nil, ← List.dropLast_concat_getLast hbytes,
      ← List.append_assoc, ← List.append_assoc,
      List.singleton_suffix_append_singleton_iff] at blank
    have digit := tidy.isHexDigit_of_mem (List.getLast_mem hbytes)
    rw [← blank] at digit
    exact absurd digit (by decide)
  · intro short
    obtain ⟨n, filling⟩ : ∃ n, Loaded.bytesColumn - i.rawBytes.length = n + 1 :=
      ⟨Loaded.bytesColumn - i.rawBytes.length - 1, by omega⟩
    rw [filling, List.replicate_succ', ← List.append_assoc, ← List.append_assoc,
      ← List.append_assoc]
    exact List.suffix_append _ _

theorem Tidy.not_blank_first : ¬ [' ', ';', ' '] <+: i.spacedText := by
  unfold spacedText
  cases text : i.text.toList with
  | nil => cases i.shownComment? <;> simp
  | cons c cs =>
      have visible := tidy.trimmed.first c (by rw [text]; rfl)
      intro blank
      obtain ⟨rfl, -⟩ := List.cons_prefix_cons.mp blank
      exact absurd visible (by decide)

/-- A mark comes about in front of the text only from two blanks and a semicolon. -/
theorem Tidy.separable_iff :
    i.Separable ↔ ¬ commentMark <:+: i.leadChars ++ i.spacedText := by
  constructor
  · rintro ⟨start, stop⟩ marked
    rcases List.infix_append_iff_ne_nil.mp marked with
      lead | text | ⟨front, back, some_front, some_back, mark, ends, begins⟩
    · exact tidy.semicolon_not_mem (lead.subset (by simp [commentMark]))
    · exact stop text
    -- the mark lies across the start of the text, with one, two or three characters in front of it
    · rcases front with _ | ⟨w, _ | ⟨x, _ | ⟨y, more⟩⟩⟩
      · exact some_front rfl
      · obtain ⟨rfl, rfl⟩ : ' ' = w ∧ [' ', ';', ' '] = back := by simpa [commentMark] using mark
        exact tidy.not_blank_first begins
      · obtain ⟨rfl, rfl, rfl⟩ : ' ' = w ∧ ' ' = x ∧ [';', ' '] = back := by
          simpa [commentMark] using mark
        exact start (tidy.blanks_suffix_iff.mp ends) begins
      · obtain ⟨-, -, rfl, -⟩ : ' ' = w ∧ ' ' = x ∧ ';' = y ∧ _ := by
          simpa [commentMark] using mark
        exact tidy.semicolon_not_mem (ends.subset (by simp))
  · intro unmarked
    refine ⟨?_, ?_⟩
    · intro short begins
      have across : ∃ front back, commentMark = front ++ back ∧ front <:+ i.leadChars ∧
          back <+: i.spacedText :=
        ⟨[' ', ' '], [';', ' '], rfl, tidy.blanks_suffix_iff.mpr short, begins⟩
      exact unmarked (List.infix_append_iff.mpr (.inr (.inr across)))
    · intro text
      exact unmarked (List.infix_append_iff.mpr (.inr (.inl text)))

/-- The comment is cut off where it was put exactly when no mark comes about sooner. -/
theorem Tidy.cutComment_iff :
    cutComment (Loaded.lineChars i) =
        (i.leadChars ++ i.text.toList, i.shownComment?.map (commentMark ++ ·.toList)) ↔
      i.Separable := by
  rw [tidy.separable_iff, lineChars_append, spacedText]
  cases i.shownComment? with
  | none => simp [cutComment_eq_none_iff]
  | some c =>
      simp only [Option.map_some, Option.getD_some]
      rw [cutComment_eq_some_iff,
        firstPart_commentMark_iff, Option.isSome_some, if_pos rfl, List.append_assoc]

/-! ## The way back -/

/-- With bytes, the body of a line falls apart into its columns. -/
theorem Tidy.cutWord_bytes (hbytes : i.rawBytes ≠ []) :
    cutWord (i.leadChars ++ i.text.toList) =
      (i.address.chars ++ [' ', ' '], i.rawBytes ++ (i.padding ++ i.text.toList)) := by
  have columns : i.leadChars ++ i.text.toList =
      i.address.chars ++ ([' ', ' '] ++ (i.rawBytes ++ (i.padding ++ i.text.toList))) := by
    simp [leadChars]
  have first : FirstWord (i.leadChars ++ i.text.toList) [] i.address.chars [' ', ' ']
      (i.rawBytes ++ (i.padding ++ i.text.toList)) := by
    rw [columns]
    refine firstWord_append (List.cons_ne_nil _ _) (fun _ => Address.chars_not_blank) (by simp)
      (fun _ => isBlank_of_mem_pair) ?_
    intro c first
    obtain ⟨d, more, bytes⟩ := List.exists_cons_of_ne_nil hbytes
    rw [bytes] at first
    obtain rfl : d = c := Option.some.inj first
    exact tidy.not_isBlank_of_mem (by simp [bytes])
  exact first.cutWord

/-- The bytes are the second word. -/
theorem Tidy.cutWord_text (hbytes : i.rawBytes ≠ []) :
    cutWord (i.rawBytes ++ (i.padding ++ i.text.toList)) =
      (i.rawBytes ++ i.padding, i.text.toList) := by
  have first : FirstWord (i.rawBytes ++ (i.padding ++ i.text.toList)) [] i.rawBytes i.padding
      i.text.toList := by
    exact firstWord_append hbytes (fun _ => tidy.not_isBlank_of_mem) (by simp [padding])
      (fun _ => isBlank_of_mem_padding) tidy.trimmed.first
  exact first.cutWord

/-- Without bytes, the text is all that is left behind the first word. -/
theorem Tidy.cutWord_bytesless (hbyte : i.rawBytes = []) :
    cutWord (i.leadChars ++ i.text.toList) = (i.leadChars, i.text.toList) := by
  have columns : i.leadChars = i.address.chars ++ ([' ', ' '] ++ i.padding) := by
    simp [leadChars, hbyte]
  have first : FirstWord (i.leadChars ++ i.text.toList) [] i.address.chars
      ([' ', ' '] ++ i.padding) i.text.toList := by
    rw [columns, List.append_assoc]
    exact firstWord_append (List.cons_ne_nil _ _) (fun _ => Address.chars_not_blank) (by simp)
      (fun _ => isBlank_of_mem_gap) tidy.trimmed.first
  rw [first.cutWord, columns, List.nil_append]

/-- The first word of a text and the rest of it come out without blanks around them. -/
theorem Tidy.cutWord_mnemonic (htext : i.text.toList ≠ []) :
    ∃ gap rest, i.text.toList = i.mnemonic.toList ++ (gap ++ rest) ∧
      (∀ c ∈ gap, isBlank c = true) ∧ i.mnemonic.toList ≠ [] ∧
      trimBlanks (cutWord i.text.toList).1 = i.mnemonic.toList ∧
      trimBlanks (cutWord i.text.toList).2 = rest := by
  obtain ⟨lead, word, gap, rest, first⟩ := exists_firstWord i.text.toList
  obtain rfl := first.lead_eq_nil tidy.trimmed.first
  have mnemonic : i.mnemonic.toList = word := by
    rw [mnemonic, String.toList_ofList, first.firstWord]
  have visible : ∀ c ∈ word, isBlank c = false := by
    intro c hc
    simpa using first.word.all c hc
  have trimmed : trimBlanks rest = rest := by
    refine trimBlanks_eq_self first.gap.stops fun c last => tidy.trimmed.last c ?_
    rw [first.text, List.getLast?_append, last]
    rfl
  rw [mnemonic, first.cutWord]
  refine ⟨gap, rest, first.lead.text, first.gap.all,
    first.word_ne_nil htext tidy.trimmed.first, ?_, trimmed⟩
  exact trimBlanks_word visible first.gap.all

/-- The columns of an instruction whose comment is cut off in the right place. -/
theorem Tidy.columnsOf_eq (separable : i.Separable) :
    columnsOf (Loaded.lineChars i) =
      let body := cutWord (i.leadChars ++ i.text.toList)
      [body.1, (cutWord body.2).1, (cutWord body.2).2] ++
        (i.shownComment?.map (commentMark ++ ·.toList)).toList := by
  rw [columnsOf, tidy.cutComment_iff.mpr separable]

/-- The columns come back, if a mark comes about no sooner and there are bytes where there is a
text. -/
theorem Tidy.columns_come_back (separable : i.Separable)
    (bytes : i.rawBytes = [] → i.text.toList = []) :
    (columnsOf (Loaded.lineChars i)).map trimBlanks = i.columnChars.map trimBlanks := by
  rw [tidy.columnsOf_eq separable, columnChars, List.map_append, List.map_append]
  refine congrArg (· ++ _) ?_
  have visible : ∀ c ∈ i.address.chars, isBlank c = false := fun _ => Address.chars_not_blank
  have address : trimBlanks i.address.chars = i.address.chars := trimBlanks_of_forall visible
  by_cases hbyte : i.rawBytes = []
  · have lead := trimBlanks_leadChars hbyte
    have nothing : cutWord [] = ([], []) := rfl
    rw [tidy.cutWord_bytesless hbyte, bytes hbyte, hbyte]
    simp only [nothing, List.map_cons, lead, address]
  · have front : trimBlanks (i.address.chars ++ [' ', ' ']) = i.address.chars :=
      trimBlanks_word visible fun _ => isBlank_of_mem_pair
    have filled : trimBlanks (i.rawBytes ++ i.padding) = i.rawBytes :=
      trimBlanks_word (fun _ => tidy.not_isBlank_of_mem) fun _ => isBlank_of_mem_padding
    have raw : trimBlanks i.rawBytes = i.rawBytes :=
      trimBlanks_of_forall fun _ => tidy.not_isBlank_of_mem
    rw [tidy.cutWord_bytes hbyte]
    simp only [tidy.cutWord_text hbyte, List.map_cons, front, filled, raw, address]

/-- When the text is found in front of the comment, the comment is cut off in the right place: the
mark that is cut at cannot stand sooner, for then one of the semicolons of the text, which are all
there are in front, would be behind it. -/
theorem Tidy.separable_of_text {body : List Char} {comment? : Option (List Char)}
    (cut : cutComment (Loaded.lineChars i) = (body, comment?))
    (shown : comment?.isSome = i.shownComment?.isSome) (text : i.text.toList <:+: body) :
    i.Separable := by
  refine tidy.cutComment_iff.mp ?_
  have line := lineChars_append i
  cases here : i.shownComment? with
  | none =>
      rw [here] at shown line
      obtain rfl : comment? = none := by simpa using shown
      have whole := cutComment_append (Loaded.lineChars i)
      rw [cut, line] at whole
      rw [cut, Option.map_none]
      exact congrArg (·, none) (by simpa using whole)
  | some c =>
      rw [here, Option.map_some, Option.getD_some] at line
      obtain ⟨d, rfl⟩ : ∃ d, comment? = some d := by
        rw [here, Option.isSome_some] at shown
        exact Option.isSome_iff_exists.mp shown
      obtain ⟨rest, rfl, first⟩ := exists_firstPart_of_cutComment cut
      have sooner := first.first _ _ line
      obtain ⟨more, lead, marks⟩ : ∃ more, i.leadChars ++ i.text.toList = body ++ more ∧
          commentMark ++ rest = more ++ (commentMark ++ c.toList) := by
        rcases List.append_eq_append_iff.mp (first.text.symm.trans line) with
          ⟨more, lead, marks⟩ | ⟨more, shorter, marks⟩
        · exact ⟨more, lead, marks⟩
        · obtain rfl : more = [] := by
            have lengths := congrArg List.length shorter
            rw [List.length_append] at lengths
            exact List.length_eq_zero_iff.mp (by omega)
          rw [List.append_nil] at shorter
          rw [List.nil_append] at marks
          exact ⟨[], by rw [shorter, List.append_nil], marks.symm⟩
      have hmore : more = [] := by
        refine (semicolon_of_marks marks).resolve_right fun semicolon => ?_
        have counts := congrArg (List.count ';') lead
        have inside := text.sublist.count_le ';'
        have positive := List.count_pos_iff.mpr semicolon
        rw [List.count_append, List.count_append, List.count_eq_zero.mpr tidy.semicolon_not_mem]
          at counts
        omega
      rw [hmore, List.append_nil] at lead
      rw [hmore, List.nil_append] at marks
      rw [cut, Option.map_some, lead, marks]

/-- The columns come back from no other line. -/
theorem Tidy.separable_of_columns
    (h : (columnsOf (Loaded.lineChars i)).map trimBlanks = i.columnChars.map trimBlanks) :
    i.Separable := by
  generalize cut : cutComment (Loaded.lineChars i) = parts
  obtain ⟨body, comment?⟩ := parts
  rw [columnsOf, cut, columnChars, List.map_append, List.map_append] at h
  obtain ⟨words, comments⟩ := List.append_inj h rfl
  have text : trimBlanks (cutWord (cutWord body).2).2 = i.text.toList := by
    have third := congrArg (·[2]?) words
    simpa [tidy.text] using third
  refine tidy.separable_of_text cut ?_ ?_
  · have both := congrArg List.isEmpty comments
    simp only [List.isEmpty_map] at both
    revert both
    cases comment? <;> cases i.shownComment? <;> simp
  · rw [← text]
    exact (infix_trimBlanks _).trans
      ((cutWord_suffix _).isInfix.trans (cutWord_suffix _).isInfix)

/-- Without bytes, the first word of the text is painted as if it were the bytes. -/
theorem Tidy.mnemonic_for_bytes (separable : i.Separable) (hbyte : i.rawBytes = [])
    (htext : i.text.toList ≠ []) :
    ∃ gap rest, i.text.toList = i.mnemonic.toList ++ (gap ++ rest) ∧
      (∀ c ∈ gap, isBlank c = true) ∧ i.mnemonic.toList ≠ [] ∧
      (columnsOf (Loaded.lineChars i)).map trimBlanks =
        [i.address.chars, i.mnemonic.toList, rest] ++
          (i.shownComment?.map (trimBlanks <| commentMark ++ ·.toList)).toList := by
  obtain ⟨gap, rest, text, blank, hchar, mnemonic, operands⟩ :=
    tidy.cutWord_mnemonic htext
  refine ⟨gap, rest, text, blank, hchar, ?_⟩
  rw [tidy.columnsOf_eq separable, List.map_append, tidy.cutWord_bytesless hbyte]
  simp only [List.map_cons, mnemonic, operands, trimBlanks_leadChars hbyte]
  cases i.shownComment? <;> rfl

theorem Tidy.columns_iff :
    (columnsOf (Loaded.lineChars i)).map trimBlanks = i.columnChars.map trimBlanks ↔
      i.Separable ∧ (i.rawBytes = [] → i.text.toList = []) := by
  constructor
  · intro h
    have separable := tidy.separable_of_columns h
    refine ⟨separable, fun hbyte => ?_⟩
    by_contra htext
    obtain ⟨_, _, _, _, hchar, painted⟩ :=
      tidy.mnemonic_for_bytes separable hbyte htext
    rw [painted, columnChars, hbyte] at h
    have second := congrArg (·[1]?) h
    exact hchar (Option.some.inj second)
  · rintro ⟨separable, bytes⟩
    exact tidy.columns_come_back separable bytes

end Tidy

/-- The columns come back when they are painted, unless a mark of a comment comes about from the
text and the blanks around it, or there is a text and no bytes.  In that case the first word of the
text is painted for the bytes. -/
theorem painted_columns_iff (theme : Theme) (hcursor : Bool) (i : Instruction) (tidy : i.Tidy) :
    (painted theme hcursor i = i.columns.map trim ↔
      i.Separable ∧ (i.rawBytes = [] → i.text = "")) ∧
    (i.Separable → i.rawBytes = [] → i.text ≠ "" →
      ∃ gap rest, i.text.toList = i.mnemonic.toList ++ (gap ++ rest) ∧
        (∀ c ∈ gap, isBlank c = true) ∧ i.mnemonic ≠ "" ∧
        painted theme hcursor i =
          [i.address.text, i.mnemonic, String.ofList rest] ++
            (i.shownComment?.map (trim <| "; " ++ ·)).toList) := by
  constructor
  · rw [painted_eq_columns_iff, tidy.columns_iff, String.toList_eq_nil_iff]
  · intro separable hbyte htext
    obtain ⟨gap, rest, text, blank, hchar, columns⟩ :=
      tidy.mnemonic_for_bytes separable hbyte (by simpa using htext)
    refine ⟨gap, rest, text, blank, by simpa using hchar, ?_⟩
    rw [painted_eq, columns, List.map_append]
    cases i.shownComment? with
    | none => simp [Address.text]
    | some c => simp [Address.text, trim, trimBlanks_commentMark]

/-- An instruction with all of its columns. -/
theorem painted_columns_iff_push :
    let i : Instruction :=
      { address := ⟨0x1000⟩, bytes := "55", text := "push rbp", comment := some "frame" }
    i.Tidy ∧ painted {} false i = i.columns.map trim := by
  intro i
  have plain : ';' ∉ i.text.toList := by decide
  have tidy : i.Tidy := by
    refine tidy_of_not_mem ?_ (by decide) plain
    intro c hc
    obtain rfl : c = '5' := by simpa [i] using hc
    exact .inl (by decide)
  exact ⟨tidy, (painted_columns_iff {} false i tidy).1.mpr
    ⟨separable_of_not_mem plain, by decide⟩⟩

/-- Without bytes, the columns do not come back. -/
theorem bytesless_painted_apart :
    ¬ ∀ (theme : Theme) (hcursor : Bool) (i : Instruction), i.Tidy → '\n' ∉ i.text.toList →
      (∀ c ∈ i.comment, '\n' ∉ c.toList) → painted theme hcursor i = i.columns.map trim := by
  intro back
  let i : Instruction := { address := ⟨0x1000⟩, text := "push rbp" }
  have tidy : i.Tidy := by
    refine tidy_of_not_mem ?_ (by decide) (by decide)
    simp [i]
  have columns := (painted_eq_columns_iff {} false i).mp (back {} false i tidy (by decide) nofun)
  exact absurd ((tidy.columns_iff.mp columns).2 rfl) (by decide)

end Instruction

end AsmView
