/-
# Lines that stand one behind the other

A text that is put together from lines, each ended by a line feed, falls apart into the
same lines, but for a carriage return at the end of a line, which the line feed takes
along.  `withoutReturn` is what is left of a line then.  Words are cut off in the same
way: a run without blanks in front of a blank is the first word.
-/
import AsmView.Text.Lines

namespace AsmView.Text

/-! ## Lines -/

/-- A line without the carriage return at its end. -/
def withoutReturn : List Char → List Char
  | [] => []
  | ['\r'] => []
  | c :: cs => c :: withoutReturn cs

theorem withoutReturn_cons (c : Char) {cs : List Char} (h : cs ≠ []) :
    withoutReturn (c :: cs) = c :: withoutReturn cs := by
  cases cs with
  | nil => exact absurd rfl h
  | cons d cs => simp [withoutReturn]

/-- In front of a character that stays, everything stays. -/
theorem withoutReturn_append_cons (xs : List Char) {c : Char} (h : c ≠ '\r') (cs : List Char) :
    withoutReturn (xs ++ c :: cs) = xs ++ c :: withoutReturn cs := by
  induction xs with
  | nil =>
      cases cs with
      | nil => simp [withoutReturn, h]
      | cons d cs => exact withoutReturn_cons c (List.cons_ne_nil d cs)
  | cons x xs ih =>
      rw [List.cons_append, withoutReturn_cons x (by simp), ih, List.cons_append]

theorem withoutReturn_eq_self {cs : List Char} (h : '\r' ∉ cs) : withoutReturn cs = cs := by
  induction cs with
  | nil => rfl
  | cons c cs ih =>
      have hc : c ≠ '\r' := fun e => h (e ▸ List.mem_cons_self)
      rw [← List.nil_append (c :: cs), withoutReturn_append_cons [] hc,
        ih fun m => h (List.mem_cons_of_mem c m)]

theorem lines_cons {c : Char} (hc : c ≠ '\n') {cs : List Char} (h : c = '\r' → cs.head? ≠ some '\n') :
    lines (c :: cs) = consFirst c (lines cs) := by
  rw [lines]
  · exact hc
  · rintro ds rfl rfl
    exact h rfl rfl

/-- The first line of a text ends at its first line feed. -/
theorem lines_append_newline {cs : List Char} (h : '\n' ∉ cs) (rest : List Char) :
    lines (cs ++ '\n' :: rest) = withoutReturn cs :: lines rest := by
  induction cs with
  | nil => simp [lines, withoutReturn]
  | cons c cs ih =>
      have hc : c ≠ '\n' := fun e => h (e ▸ List.mem_cons_self)
      have hcs : '\n' ∉ cs := fun m => h (List.mem_cons_of_mem c m)
      cases cs with
      | nil =>
          by_cases hr : c = '\r'
          · simp [hr, lines, withoutReturn]
          · rw [List.singleton_append, lines_cons hc (fun e => absurd e hr), lines]
            simp [withoutReturn, consFirst, hr]
      | cons d cs =>
          have hd : d ≠ '\n' := fun e => hcs (e ▸ List.mem_cons_self)
          rw [List.cons_append, lines_cons hc (fun _ => by simpa using hd), ih hcs,
            withoutReturn_cons c (List.cons_ne_nil d cs), consFirst]

theorem afterFirstLine_append_newline {cs : List Char} (h : '\n' ∉ cs) (rest : List Char) :
    afterFirstLine (cs ++ '\n' :: rest) = rest := by
  induction cs with
  | nil => rfl
  | cons c cs ih =>
      have hc : c ≠ '\n' := fun e => h (e ▸ List.mem_cons_self)
      rw [List.cons_append, afterFirstLine]
      · exact ih fun m => h (List.mem_cons_of_mem c m)
      · exact hc

/-! ## Words -/

section Words

variable {c d : Char} {w rest front : List Char}

theorem words_cons_blank (hc : isBlank c = true) (cs : List Char) :
    words (c :: cs) = words cs := by
  cases cs with
  | nil => simp [words, hc]
  | cons d cs => simp [words, hc]

theorem words_cons_last (hc : isBlank c = false) (hd : isBlank d = true) (cs : List Char) :
    words (c :: d :: cs) = [c] :: words (d :: cs) := by
  simp [words, hc, hd]

theorem words_cons_visible (hc : isBlank c = false) (hd : isBlank d = false) (cs : List Char) :
    words (c :: d :: cs) = consFirst c (words (d :: cs)) := by
  simp [words, hc, hd]

/-- A run without blanks at whose end the text ends or a blank follows is the first word. -/
theorem words_append (hw : w ≠ []) (h : ∀ c ∈ w, isBlank c = false)
    (ends : ∀ c, rest.head? = some c → isBlank c = true) :
    words (w ++ rest) = w :: words rest := by
  induction w with
  | nil => exact absurd rfl hw
  | cons c w ih =>
      have hc : isBlank c = false := h c List.mem_cons_self
      cases w with
      | nil =>
          cases rest with
          | nil => simp [words, hc]
          | cons d rest => exact words_cons_last hc (ends d rfl) rest
      | cons d w =>
          have hd : isBlank d = false := h d (by simp)
          have step := ih (List.cons_ne_nil d w) fun x hx => h x (List.mem_cons_of_mem c hx)
          rw [List.cons_append, List.cons_append, words_cons_visible hc hd, ← List.cons_append,
            step, consFirst]

/-- A character that does not mark a word changes nothing about which word is the first to be
marked. -/
theorem find?_consFirst {p : Char → Bool} (plain : p c = false) {words : List (List Char)}
    (found : words.find? (·.any p) = some w) :
    (consFirst c words).find? (·.any p) = some w ∨
      (consFirst c words).find? (·.any p) = some (c :: w) := by
  cases words with
  | nil => exact nomatch found
  | cons v vs =>
      rw [consFirst, List.find?_cons, List.any_cons, plain, Bool.false_or]
      rw [List.find?_cons] at found
      cases marked : v.any p with
      | true =>
          rw [marked] at found
          exact .inr (congrArg (fun w => some (c :: w)) (Option.some.inj found))
      | false =>
          rw [marked] at found
          exact .inl found

/-- The first marked word of a text whose front has no mark begins in the front, if not behind
it, and goes on to the end of its run. -/
theorem find?_words_append {p : Char → Bool} (plain : ∀ c ∈ front, p c = false)
    (marked : w.any p = true) (h : ∀ c ∈ w, isBlank c = false)
    (ends : ∀ c, rest.head? = some c → isBlank c = true) :
    ∃ u, u ⊆ front ∧ (words (front ++ (w ++ rest))).find? (·.any p) = some (u ++ w) := by
  have hw : w ≠ [] := by
    rintro rfl
    exact nomatch marked
  induction front with
  | nil =>
      refine ⟨[], List.nil_subset _, ?_⟩
      rw [List.nil_append, List.nil_append, words_append hw h ends, List.find?_cons, marked]
  | cons c front ih =>
      obtain ⟨hc, later⟩ := List.forall_mem_cons.mp plain
      obtain ⟨u, inside, found⟩ := ih later
      have wider : u ⊆ c :: front := List.subset_cons_of_subset c inside
      obtain ⟨d, more, cut⟩ : ∃ d more, front ++ (w ++ rest) = d :: more :=
        List.exists_cons_of_ne_nil (by simp [hw])
      rw [List.cons_append, cut]
      rw [cut] at found
      by_cases blank : isBlank c = true
      · exact ⟨u, wider, by rw [words_cons_blank blank, found]⟩
      · have visible : isBlank c = false := by simpa using blank
        by_cases last : isBlank d = true
        · refine ⟨u, wider, ?_⟩
          rw [words_cons_last visible last, List.find?_cons, List.any_cons, List.any_nil, hc]
          exact found
        · rw [words_cons_visible visible (by simpa using last)]
          rcases find?_consFirst hc found with same | longer
          · exact ⟨u, wider, same⟩
          · exact ⟨c :: u, List.cons_subset_cons c inside, longer⟩

end Words

/-! ## Pieces -/

section Pieces

variable {sep : Char} {cs : List Char} {pieces : List (List Char)}

theorem splitAt_eq_splitOn (sep : Char) (cs : List Char) : splitAt sep cs = cs.splitOn sep := by
  induction cs with
  | nil => rfl
  | cons c cs ih =>
      rw [splitAt, List.splitOn_cons_eq_if_modifyHead, ← ih]
      by_cases same : c = sep
      · simp [same]
      · obtain ⟨p, ps, pieces⟩ := List.exists_cons_of_ne_nil (ih ▸ List.splitOn_ne_nil sep cs)
        simp [same, pieces, consFirst]

theorem splitAt_ne_nil (sep : Char) (cs : List Char) : splitAt sep cs ≠ [] := by
  rw [splitAt_eq_splitOn]
  exact List.splitOn_ne_nil sep cs

theorem not_mem_of_mem_splitAt {p : List Char} (h : p ∈ splitAt sep cs) : sep ∉ p := by
  induction cs generalizing p with
  | nil =>
      obtain rfl := List.mem_singleton.mp h
      exact List.not_mem_nil
  | cons c cs ih =>
      rw [splitAt] at h
      split at h
      · rcases List.mem_cons.mp h with rfl | later
        · exact List.not_mem_nil
        · exact ih later
      · rename_i other
        obtain ⟨q, qs, pieces⟩ := List.exists_cons_of_ne_nil (splitAt_ne_nil sep cs)
        rw [pieces] at h ih
        rcases List.mem_cons.mp h with rfl | later
        · exact List.not_mem_cons_of_ne_of_not_mem (Ne.symm other) (ih List.mem_cons_self)
        · exact ih (List.mem_cons_of_mem q later)

/-- The pieces make up the text with the separator between them, and have it nowhere inside. -/
theorem splitAt_eq_iff : splitAt sep cs = pieces ↔
    pieces ≠ [] ∧ [sep].intercalate pieces = cs ∧ ∀ p ∈ pieces, sep ∉ p := by
  constructor
  · rintro rfl
    refine ⟨splitAt_ne_nil sep cs, ?_, fun p => not_mem_of_mem_splitAt⟩
    rw [splitAt_eq_splitOn, List.intercalate_splitOn]
  · rintro ⟨hpiece, rfl, plain⟩
    rw [splitAt_eq_splitOn, List.splitOn_intercalate sep plain hpiece]

/-- What stands in the text besides the separators stands in a piece. -/
theorem mem_intercalate_iff {c : Char} (other : c ≠ sep) :
    c ∈ [sep].intercalate pieces ↔ ∃ p ∈ pieces, c ∈ p := by
  induction pieces with
  | nil => simp
  | cons p ps ih =>
      cases ps with
      | nil => simp
      | cons q qs =>
          rw [List.intercalate_cons_cons, List.mem_append, List.mem_append, ih]
          simp [other]

end Pieces

/-! ## Parts -/

/-- A part stands in a text between `front` and `behind`, and nowhere nearer to the start. -/
structure FirstPart (part cs front behind : List Char) : Prop where
  text : cs = front ++ (part ++ behind)
  first : ∀ front' behind', cs = front' ++ (part ++ behind') → front.length ≤ front'.length

theorem FirstPart.unique {part cs front behind front' behind' : List Char}
    (h : FirstPart part cs front behind) (h' : FirstPart part cs front' behind') :
    front = front' ∧ behind = behind' := by
  have same : front.length = front'.length :=
    Nat.le_antisymm (h.first _ _ h'.text) (h'.first _ _ h.text)
  have whole : front ++ (part ++ behind) = front' ++ (part ++ behind') := h.text.symm.trans h'.text
  obtain ⟨rfl, tails⟩ := List.append_inj whole same
  exact ⟨rfl, List.append_cancel_left tails⟩

theorem dropLeading?_eq_some_iff {part cs rest : List Char} :
    dropLeading? part cs = some rest ↔ cs = part ++ rest := by
  rw [dropLeading?]
  split
  · rename_i here
    obtain ⟨behind, rfl⟩ := List.isPrefixOf_iff_prefix.mp here
    simp
  · rename_i elsewhere
    refine iff_of_false nofun ?_
    rintro rfl
    exact elsewhere (List.isPrefixOf_iff_prefix.mpr (List.prefix_append part rest))

theorem cutAt?_isSome_iff (part cs : List Char) :
    (cutAt? part cs).isSome = true ↔ part <:+: cs := by
  induction cs with
  | nil => cases part <;> simp [cutAt?]
  | cons c cs ih =>
      rw [cutAt?, List.infix_cons_iff, ← List.isPrefixOf_iff_prefix]
      split
      · simp [*]
      · simp [*]

/-- A text is cut where the part stands first. -/
theorem firstPart_of_cutAt? {part cs front behind : List Char}
    (cut : cutAt? part cs = some (front, behind)) : FirstPart part cs front behind := by
  induction cs generalizing front with
  | nil =>
      cases part with
      | nil =>
          obtain ⟨rfl, rfl⟩ : [] = front ∧ [] = behind := by simpa [cutAt?] using cut
          exact ⟨rfl, fun _ _ _ => Nat.zero_le _⟩
      | cons d part => exact nomatch cut
  | cons c cs ih =>
      rw [cutAt?] at cut
      split at cut
      · rename_i here
        obtain ⟨rest, whole⟩ := List.isPrefixOf_iff_prefix.mp here
        obtain ⟨rfl, rfl⟩ : [] = front ∧ (c :: cs).drop part.length = behind := by simpa using cut
        refine ⟨?_, fun _ _ _ => Nat.zero_le _⟩
        rw [← whole, List.drop_left, List.nil_append]
      · rename_i elsewhere
        obtain ⟨⟨front, behind⟩, later, rfl, rfl⟩ := Option.map_eq_some_iff.mp cut
        obtain ⟨rfl, first⟩ := ih later
        refine ⟨rfl, ?_⟩
        intro front' behind' whole
        cases front' with
        | nil =>
            have here : part <+: c :: (front ++ (part ++ behind)) := ⟨behind', whole.symm⟩
            exact absurd (List.isPrefixOf_iff_prefix.mpr here) elsewhere
        | cons d front' => exact Nat.succ_le_succ (first front' behind' (List.cons.inj whole).2)

theorem cutAt?_eq_some_iff {part cs front behind : List Char} :
    cutAt? part cs = some (front, behind) ↔ FirstPart part cs front behind := by
  constructor
  · exact firstPart_of_cutAt?
  · intro h
    have inside : part <:+: cs := ⟨front, behind, by rw [h.text, List.append_assoc]⟩
    obtain ⟨⟨front', behind'⟩, cut⟩ :=
      Option.isSome_iff_exists.mp ((cutAt?_isSome_iff part cs).mpr inside)
    obtain ⟨rfl, rfl⟩ := h.unique (firstPart_of_cutAt? cut)
    exact cut

theorem cutAt?_eq_none_iff {part cs : List Char} : cutAt? part cs = none ↔ ¬ part <:+: cs := by
  rw [← cutAt?_isSome_iff, Option.not_isSome_iff_eq_none]

/-- The text is cut at the first place where a part can begin. -/
theorem cutAt?_append {c : Char} {front : List Char} (h : c ∉ front) (part rest : List Char) :
    cutAt? (c :: part) (front ++ c :: (part ++ rest)) = some (front, rest) := by
  induction front with
  | nil => simp [cutAt?]
  | cons d front ih =>
      obtain ⟨hd, later⟩ := not_or.mp (mt List.mem_cons.mpr h)
      rw [List.cons_append, cutAt?, ih later]
      simp [List.isPrefixOf, hd]

end AsmView.Text
