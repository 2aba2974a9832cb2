/-
# Nothing of a line is lost when it is painted

A line is painted in pieces that are its words with the blanks around them and its comment, and the
pieces put back together are the line.  `FirstWord` says what is cut off in front: three runs, each
as long as it can be.  In memory the cuts are made at byte offsets, each counted from the one
before; every one of them is the size of a front part of the text, so none falls into a character,
and the slices are the pieces.
-/
import AsmView.Proofs.Text.Blank
import AsmView.Proofs.Text.Lines
import AsmView.Screen.Slices

namespace AsmView

open Text

/-! ## Offsets -/

namespace Text

variable {p : Char → Bool} {front behind : List Char}

/-- The size of a front part is an offset to cut at. -/
theorem sliceAt?_append (front behind : String) :
    sliceAt? (front ++ behind) front.utf8ByteSize = some (front, behind) := by
  have valid : String.Pos.Raw.IsValid (front ++ behind) ⟨front.utf8ByteSize⟩ :=
    String.Pos.Raw.isValid_iff_exists_append.mpr ⟨front, behind, rfl, rfl⟩
  have parts : ((front ++ behind).pos ⟨front.utf8ByteSize⟩ valid).Splits front behind := ⟨rfl, rfl⟩
  obtain ⟨before, after⟩ := (String.Pos.splits _).eq parts
  rw [sliceAt?, dif_pos valid]
  exact congrArg some (Prod.ext before after)

theorem sliceAt?_ofList (front behind : List Char) :
    sliceAt? (String.ofList (front ++ behind)) (String.ofList front).utf8ByteSize =
      some (String.ofList front, String.ofList behind) := by
  rw [String.ofList_append]
  exact sliceAt?_append _ _

theorem utf8ByteSize_ofList_append (front behind : List Char) :
    (String.ofList (front ++ behind)).utf8ByteSize =
      (String.ofList front).utf8ByteSize + (String.ofList behind).utf8ByteSize := by
  rw [String.ofList_append, String.utf8ByteSize_append]

/-- An offset counted from an offset to cut at is one, too. -/
theorem sliceAt?_behind (front part behind : List Char) :
    sliceAt? (String.ofList (front ++ (part ++ behind)))
        ((String.ofList front).utf8ByteSize + (String.ofList part).utf8ByteSize) =
      some (String.ofList (front ++ part), String.ofList behind) := by
  rw [← utf8ByteSize_ofList_append, ← List.append_assoc]
  exact sliceAt?_ofList _ _

/-- The first character of a class stands where the run in front of it ends; when there is none,
the run is the whole text. -/
theorem offsetOf?_run (run : Run (!p ·) (front ++ behind) front behind) :
    (offsetOf? p (String.ofList (front ++ behind))).getD
        (String.ofList (front ++ behind)).utf8ByteSize =
      (String.ofList front).utf8ByteSize := by
  have hfront : front.any p = false := by
    rw [List.any_eq_false]
    intro c hc
    simpa using run.all c hc
  rw [offsetOf?, String.toList_ofList, run.takeWhile, List.any_append, hfront,
    Bool.false_or]
  cases behind with
  | nil => simp
  | cons c behind =>
      have here : p c = true := by simpa using run.stops c rfl
      rw [List.any_cons, here, Bool.true_or, if_pos rfl, Option.getD_some]

/-- The same offset, counted from the start of a text that the run stands further behind in. -/
theorem offsetOf?_run_behind (before : List Char) (run : Run (!p ·) (front ++ behind) front behind) :
    ((offsetOf? p (String.ofList (front ++ behind))).map
        ((String.ofList before).utf8ByteSize + ·)).getD
          (String.ofList (before ++ (front ++ behind))).utf8ByteSize =
      (String.ofList (before ++ front)).utf8ByteSize := by
  rw [utf8ByteSize_ofList_append, Option.getD_map, offsetOf?_run run, ← utf8ByteSize_ofList_append]

theorem offsetOfPart?_eq_some {part cs : List Char} (h : FirstPart part cs front behind) :
    offsetOfPart? part (String.ofList cs) = some (String.ofList front).utf8ByteSize := by
  rw [offsetOfPart?, String.toList_ofList, cutAt?_eq_some_iff.mpr h, Option.map_some]

theorem offsetOfPart?_eq_none {part cs : List Char} (h : cutAt? part cs = none) :
    offsetOfPart? part (String.ofList cs) = none := by
  rw [offsetOfPart?, String.toList_ofList, h, Option.map_none]

end Text

/-! ## The address -/

theorem sliceWordAddress?_eq (word : List Char) :
    sliceWordAddress? (String.ofList word) = some (addressInWord? word) := by
  unfold sliceWordAddress? addressInWord?
  cases cut : cutAt? ['0', 'x'] word with
  | none => rw [offsetOfPart?_eq_none cut]
  | some parts =>
      obtain ⟨front, rest⟩ := parts
      have marked := cutAt?_eq_some_iff.mp cut
      obtain ⟨digits, tail, run⟩ := exists_run isHexDigit rest
      have stop : (offsetOf? (!isHexDigit ·) (String.ofList rest)).getD
          (String.ofList rest).utf8ByteSize = (String.ofList digits).utf8ByteSize := by
        rw [run.text]
        exact offsetOf?_run (by simpa only [Bool.not_not, ← run.text] using run)
      have behindMarker := sliceAt?_behind front ['0', 'x'] rest
      have digitSlice := sliceAt?_ofList digits tail
      have hempty : (String.ofList digits).utf8ByteSize = 0 ↔ digits.isEmpty = true := by
        rw [String.utf8ByteSize_eq_zero_iff, String.ofList_eq_empty_iff, List.isEmpty_iff]
      rw [← run.text] at digitSlice
      rw [← marked.text] at behindMarker
      rw [offsetOfPart?_eq_some marked]
      change (sliceAt? _ _).bind _ = _
      rw [behindMarker, Option.bind_some]
      dsimp only
      rw [stop, run.takeWhile]
      simp only [hempty, digitSlice]
      cases digits.isEmpty <;> simp

theorem sliceAddress?_eq (line : String) : sliceAddress? line = some (lineAddress? line) := by
  unfold sliceAddress? lineAddress? addressOfChars?
  split
  · rfl
  · cases (words line.toList).find? (·.any isAlphanumeric) with
    | none => rfl
    | some word => exact sliceWordAddress?_eq word

namespace Screen

/-! ## The first word -/

/-- A text taken apart around its first word: the blanks in front of the word, the word, the blanks
behind it, and the rest.  Each of the three runs goes as far as it can. -/
structure FirstWord (t lead word gap rest : List Char) : Prop where
  lead : Run isBlank t lead (word ++ (gap ++ rest))
  word : Run (!isBlank ·) (word ++ (gap ++ rest)) word (gap ++ rest)
  gap : Run isBlank (gap ++ rest) gap rest

variable {t lead word gap rest : List Char}

theorem exists_firstWord (t : List Char) : ∃ lead word gap rest, FirstWord t lead word gap rest := by
  obtain ⟨lead, afterBlanks, runLead⟩ := exists_run isBlank t
  obtain ⟨word, afterWord, runWord⟩ := exists_run (!isBlank ·) afterBlanks
  obtain ⟨gap, rest, runGap⟩ := exists_run isBlank afterWord
  obtain rfl := runGap.text
  obtain rfl := runWord.text
  exact ⟨lead, word, gap, rest, runLead, runWord, runGap⟩

theorem FirstWord.text (h : FirstWord t lead word gap rest) :
    t = lead ++ (word ++ gap) ++ rest := by
  rw [h.lead.text, List.append_assoc, List.append_assoc]

/-- A word with blanks behind it is cut off a text that begins with it. -/
theorem firstWord_append (hchar : word ≠ []) (visible : ∀ c ∈ word, isBlank c = false)
    (hblank : gap ≠ []) (blank : ∀ c ∈ gap, isBlank c = true)
    (stops : ∀ c, rest.head? = some c → isBlank c = false) :
    FirstWord (word ++ (gap ++ rest)) [] word gap rest where
  lead := by
    refine ⟨rfl, nofun, ?_⟩
    intro c first
    obtain ⟨d, more, rfl⟩ := List.exists_cons_of_ne_nil hchar
    obtain rfl : d = c := by simpa using first
    exact visible d List.mem_cons_self
  word := by
    refine ⟨rfl, fun c hc => by simp [visible c hc], ?_⟩
    intro c first
    obtain ⟨d, more, rfl⟩ := List.exists_cons_of_ne_nil hblank
    obtain rfl : d = c := by simpa using first
    simp [blank d List.mem_cons_self]
  gap := ⟨rfl, blank, stops⟩

theorem FirstWord.firstWord (h : FirstWord t lead word gap rest) : Text.firstWord t = word := by
  rw [Text.firstWord, dropBlanks, h.lead.dropWhile, h.word.takeWhile]

/-- A text that does not begin with a blank begins with its first word. -/
theorem FirstWord.lead_eq_nil (h : FirstWord t lead word gap rest)
    (visible : ∀ c, t.head? = some c → isBlank c = false) : lead = [] := by
  cases lead with
  | nil => rfl
  | cons c lead =>
      have blank := h.lead.all c List.mem_cons_self
      rw [visible c (by rw [h.lead.text]; rfl)] at blank
      cases blank

theorem FirstWord.word_ne_nil (h : FirstWord t lead word gap rest) (hchar : t ≠ [])
    (visible : ∀ c, t.head? = some c → isBlank c = false) : word ≠ [] := by
  rintro rfl
  obtain ⟨c, more, rfl⟩ := List.exists_cons_of_ne_nil hchar
  have text := h.lead.text
  rw [h.lead_eq_nil visible, List.nil_append] at text
  have stop := h.word.stops c (by rw [← List.nil_append (gap ++ rest), ← text]; rfl)
  simp [visible c rfl] at stop

theorem FirstWord.cutWord (h : FirstWord t lead word gap rest) :
    cutWord t = (lead ++ (word ++ gap), rest) := by
  rw [Screen.cutWord, h.lead.takeWhile, h.lead.dropWhile, h.word.takeWhile, h.word.dropWhile,
    h.gap.takeWhile, h.gap.dropWhile, List.append_assoc]

/-- The two parts that a word is cut into are the text. -/
theorem cutWord_append (t : List Char) : (cutWord t).1 ++ (cutWord t).2 = t := by
  obtain ⟨lead, word, gap, rest, h⟩ := exists_firstWord t
  rw [h.cutWord]
  exact h.text.symm

/-- The second part of a text that is cut is its end. -/
theorem cutWord_suffix (t : List Char) : (cutWord t).2 <:+ t :=
  ⟨(cutWord t).1, cutWord_append t⟩

/-- The offsets are the sizes of the blanks in front, of these with the word, and of these with
the blanks behind it. -/
theorem FirstWord.sliceWord? (h : FirstWord t lead word gap rest) :
    sliceWord? (String.ofList t) =
      some (String.ofList (lead ++ (word ++ gap)), String.ofList rest) := by
  have text : t = lead ++ (word ++ (gap ++ rest)) := h.lead.text
  have start : (String.ofList t).utf8ByteSize - (String.ofList (dropBlanks t)).utf8ByteSize =
      (String.ofList lead).utf8ByteSize := by
    rw [dropBlanks, h.lead.dropWhile, text, utf8ByteSize_ofList_append, Nat.add_sub_cancel_right]
  have wordEnd := offsetOf?_run_behind lead h.word
  have restStart := offsetOf?_run_behind (lead ++ word) (p := (!isBlank ·))
    (by simpa only [Bool.not_not] using h.gap)
  rw [← text] at wordEnd
  rw [List.append_assoc, ← text, List.append_assoc] at restStart
  have leadSlice := sliceAt?_ofList lead (word ++ (gap ++ rest))
  have wordSlice := sliceAt?_ofList (lead ++ word) (gap ++ rest)
  have gapSlice := sliceAt?_ofList (lead ++ (word ++ gap)) rest
  rw [← text] at leadSlice
  rw [List.append_assoc, ← text] at wordSlice
  rw [← h.text] at gapSlice
  unfold Screen.sliceWord?
  simp only [String.toList_ofList, start, leadSlice, Option.bind_eq_bind, Option.bind_some, wordEnd,
    wordSlice, restStart, gapSlice]

theorem sliceWord?_eq (t : List Char) :
    sliceWord? (String.ofList t) =
      some (String.ofList (cutWord t).1, String.ofList (cutWord t).2) := by
  obtain ⟨lead, word, gap, rest, h⟩ := exists_firstWord t
  rw [h.cutWord]
  exact h.sliceWord?

/-! ## The comment -/

/-- The two parts of a line with a comment are the line. -/
theorem cutComment_append (cs : List Char) :
    (cutComment cs).1 ++ (cutComment cs).2.getD [] = cs := by
  unfold cutComment
  cases cut : cutAt? commentMark cs with
  | none => exact List.append_nil cs
  | some parts => exact (cutAt?_eq_some_iff.mp cut).text.symm

theorem sliceComment?_eq (cs : List Char) :
    sliceComment? (String.ofList cs) =
      some (String.ofList (cutComment cs).1, (cutComment cs).2.map String.ofList) := by
  unfold sliceComment? cutComment
  cases cut : cutAt? commentMark cs with
  | none =>
      rw [offsetOfPart?_eq_none cut]
      rfl
  | some parts =>
      obtain ⟨body, comment⟩ := parts
      have marked := cutAt?_eq_some_iff.mp cut
      have slice := sliceAt?_ofList body (commentMark ++ comment)
      rw [← marked.text] at slice
      rw [offsetOfPart?_eq_some marked]
      dsimp only
      rw [slice]
      rfl

/-! ## The line -/

/-- The pieces of a line that begins with an address: its first word, its second word, the rest of
it, and the comment if there is one. -/
def columnsOf (line : List Char) : List (List Char) :=
  let (body, comment?) := cutComment line
  let (address, rest) := cutWord body
  let (bytes, text) := cutWord rest
  [address, bytes, text] ++ comment?.toList

theorem columnsOf_flatten (line : List Char) : (columnsOf line).flatten = line := by
  have words := cutWord_append (cutComment line).1
  have further := cutWord_append (cutWord (cutComment line).1).2
  have whole := cutComment_append line
  have comment : (cutComment line).2.toList.flatten = (cutComment line).2.getD [] := by
    cases (cutComment line).2 <;> simp
  unfold columnsOf
  simp only [List.flatten_append, List.flatten_cons, List.flatten_nil, List.append_nil, comment]
  rw [further, words, whole]

/-- What the pieces of a line say. -/
theorem texts_disassemblyLine (theme : Theme) (line : String) (hcursor : Bool) :
    (disassemblyLine theme line hcursor).spans.map (·.text) =
      if (lineAddress? line).isNone then [line] else (columnsOf line.toList).map String.ofList := by
  have plain : (disassemblySpans theme line).map (·.text) =
      if (lineAddress? line).isNone then [line] else (columnsOf line.toList).map String.ofList := by
    unfold disassemblySpans columnsOf
    split
    · rfl
    · generalize cutComment line.toList = parts
      obtain ⟨body, comment?⟩ := parts
      cases comment? <;> rfl
  cases hcursor with
  | false => exact plain
  | true => rw [← plain, disassemblyLine, if_pos rfl, List.map_map]; rfl

theorem slicePieces?_eq (line : String) :
    slicePieces? line =
      some (if (lineAddress? line).isNone then [line]
        else (columnsOf line.toList).map String.ofList) := by
  unfold slicePieces? columnsOf
  rw [sliceAddress?_eq, Option.bind_eq_bind, Option.bind_some]
  cases lineAddress? line with
  | none => rfl
  | some a =>
      have comment := sliceComment?_eq line.toList
      rw [String.ofList_toList] at comment
      simp only [comment, sliceWord?_eq, Option.bind_eq_bind, Option.bind_some, Option.isNone_some]
      generalize cutComment line.toList = parts
      obtain ⟨body, comment?⟩ := parts
      cases comment? <;> rfl

/-- Painting a line loses nothing: its pieces put together are the line.  What is cut off in front
is a word with the blanks around it, and no cut falls into a character. -/
theorem disassemblyLine_whole (theme : Theme) (line : String) (hcursor : Bool) :
    String.join ((disassemblyLine theme line hcursor).spans.map (·.text)) = line ∧
    slicePieces? line = some ((disassemblyLine theme line hcursor).spans.map (·.text)) ∧
    ∀ t : String, ∃ lead word gap rest, FirstWord t.toList lead word gap rest ∧
      cutWord t.toList = (lead ++ (word ++ gap), rest) ∧
      sliceWord? t = some (String.ofList (lead ++ (word ++ gap)), String.ofList rest) ∧
      String.ofList (lead ++ (word ++ gap)) ++ String.ofList rest = t := by
  refine ⟨?_, ?_, ?_⟩
  · rw [texts_disassemblyLine]
    split
    · rw [String.join_cons, String.join_nil, String.append_empty]
    · refine String.toList_inj.mp ?_
      rw [String.toList_join, List.flatMap_map]
      simp only [String.toList_ofList]
      rw [List.flatMap_id', columnsOf_flatten]
  · rw [slicePieces?_eq, texts_disassemblyLine]
  · intro t
    obtain ⟨lead, word, gap, rest, h⟩ := exists_firstWord t.toList
    have slices := h.sliceWord?
    rw [String.ofList_toList] at slices
    refine ⟨lead, word, gap, rest, h, h.cutWord, slices, ?_⟩
    rw [← String.ofList_append, ← h.text, String.ofList_toList]

end Screen

end AsmView
