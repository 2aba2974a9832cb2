/-
# What a page says besides its template

A payload stands where the first marker of the template stood, whatever markers it has in it.  The
graph page takes its description as a string literal, from which the description can be read back.
A literal protects its quotes, backslashes and control characters, but no markup: a part that
begins with an angle bracket shows in the literal exactly when it shows in the description.  So
the page has the end of a script besides those of its template just if the description has one.
-/
import AsmView.Proofs.Json.Reader
import AsmView.Proofs.Text.Lines
import AsmView.Template

namespace AsmView

open Text

/-! ## Parts beside a character -/

namespace Text

variable {mark : Char} {part front behind x y : List Char}

/-- A part that does not have a character in it stands in front of the character or behind it. -/
theorem part_beside (unmarked : mark ∉ part) (whole : front ++ mark :: behind = x ++ (part ++ y)) :
    (∃ y', front = x ++ (part ++ y') ∧ y = y' ++ mark :: behind) ∨
      ∃ x', x = front ++ mark :: x' ∧ behind = x' ++ (part ++ y) := by
  rcases List.append_eq_append_iff.mp whole with ⟨more, rfl, rest⟩ | ⟨more, rfl, rest⟩
  · cases more with
    | nil =>
        cases part with
        | nil => exact .inl ⟨[], by simp, rest.symm⟩
        | cons c part =>
            obtain ⟨rfl, -⟩ := List.cons.inj rest
            exact absurd List.mem_cons_self unmarked
    | cons c more =>
        obtain ⟨rfl, rfl⟩ := List.cons.inj rest
        exact .inr ⟨more, rfl, rfl⟩
  · rcases List.append_eq_append_iff.mp rest with ⟨between, rfl, behindPart⟩ | ⟨inside, rfl, cut⟩
    · exact .inl ⟨between, rfl, behindPart⟩
    · cases inside with
      | nil => exact .inl ⟨[], by simp, cut.symm⟩
      | cons c inside =>
          obtain ⟨rfl, -⟩ := List.cons.inj cut
          exact absurd (by simp) unmarked

/-- A run without its first character makes no difference to where a part occurs. -/
theorem cons_infix_append_iff {c : Char} {tail run cs : List Char} (none : c ∉ run) :
    c :: tail <:+: run ++ cs ↔ c :: tail <:+: cs := by
  induction run with
  | nil => rfl
  | cons d run ih =>
      obtain ⟨other, later⟩ := not_or.mp (mt List.mem_cons.mpr none)
      rw [List.cons_append, List.infix_cons_iff, List.cons_prefix_cons, ih later]
      exact or_iff_right fun first => other first.1

end Text

/-! ## Markup in a literal -/

namespace Json

/-- A character is written as it is, or behind a backslash and without an angle bracket. -/
theorem escapedChar_cases (c : Char) :
    escapedChar c = [c] ∨ c ≠ '<' ∧ '<' ∉ escapedChar c ∧ ∃ tail, escapedChar c = '\\' :: tail := by
  unfold escapedChar
  -- the characters that are written as a letter behind a backslash
  iterate 7
    split
    case isTrue h =>
      subst h
      exact .inr ⟨by decide, by decide, _, rfl⟩
  split
  case isTrue control =>
    refine .inr ⟨?_, ?_, _, rfl⟩
    · rintro rfl
      exact absurd control (by decide)
    · have hdigit : '<' ∉ hexPadded 4 c.toNat := by
        intro listed
        obtain ⟨d, hd, same⟩ := mem_hexPadded listed
        have digit := (digitChar_hex hd).1
        rw [← same] at digit
        exact absurd digit (by decide)
      simp [hdigit]
  case isFalse =>
    exact .inl rfl

variable {part tail cs : List Char}

/-- A part that is written as it is begins the written text just if it begins the text. -/
theorem prefix_flatMap_escapedChar_iff (plain : ∀ c ∈ part, escapedChar c = [c])
    (cs : List Char) : part <+: cs.flatMap escapedChar ↔ part <+: cs := by
  induction part generalizing cs with
  | nil => simp
  | cons c part ih =>
      have here := plain c List.mem_cons_self
      have later : ∀ d ∈ part, escapedChar d = [d] := fun d hd => plain d (List.mem_cons_of_mem _ hd)
      cases cs with
      | nil => simp
      | cons d cs =>
          rw [List.flatMap_cons]
          rcases escapedChar_cases d with self | ⟨-, -, rest, escape⟩
          · rw [self, List.singleton_append, List.cons_prefix_cons, List.cons_prefix_cons, ih later]
          · rw [escape, List.cons_append, List.cons_prefix_cons, List.cons_prefix_cons]
            constructor
            · rintro ⟨rfl, -⟩
              exact absurd here (by decide)
            · rintro ⟨rfl, -⟩
              rw [here] at escape
              obtain ⟨rfl, -⟩ := List.cons.inj escape
              exact absurd here (by decide)

/-- Markup shows in the written text just if it shows in the text. -/
theorem infix_flatMap_escapedChar_iff (plain : ∀ c ∈ '<' :: tail, escapedChar c = [c]) :
    '<' :: tail <:+: cs.flatMap escapedChar ↔ '<' :: tail <:+: cs := by
  induction cs with
  | nil => simp
  | cons d cs ih =>
      rcases escapedChar_cases d with self | ⟨other, none, -⟩
      · have first := prefix_flatMap_escapedChar_iff plain (d :: cs)
        rw [List.flatMap_cons, self, List.singleton_append] at first ⊢
        rw [List.infix_cons_iff, List.infix_cons_iff, first, ih]
      · have single : '<' ∉ [d] := by simpa using other.symm
        rw [List.flatMap_cons, cons_infix_append_iff none, ih]
        exact (cons_infix_append_iff single).symm

/-- A literal is read back as the string it was written for. -/
theorem run_stringLiteral (s : String) :
    Reader.run Reader.string (String.ofList (stringLiteral s)) = .ok s :=
  run_of_decodes (decodes_string s) (by simp [Value.chars]) blank_nil .nothing

end Json

/-! ## Pages -/

namespace TemplateSource

variable {source : TemplateSource} {kind : PageKind} {t : String} {before after : List Char}

theorem text_builtin (kind : PageKind) : TemplateSource.builtin.text kind = .ok kind.builtin :=
  rfl

/-- The payload stands where the first marker stood. -/
theorem render_eq_ok (kept : source.text kind = .ok t)
    (marked : FirstPart marker t.toList before after) (payload : List Char) :
    source.render kind payload = .ok (String.ofList (before ++ (payload ++ after))) := by
  have occurs : occursIn marker t.toList = true := by
    rw [occursIn, cutAt?_eq_some_iff.mpr marked]
    rfl
  have loaded : source.load kind = .ok t := by
    rw [load, kept]
    exact if_pos occurs
  rw [render, loaded]
  change Except.ok (String.ofList (replaceFirst marker payload t.toList)) = _
  rw [replaceFirst, cutAt?_eq_some_iff.mpr marked, ← List.append_assoc]

theorem toList_builtin_graph :
    PageKind.graph.builtin.toList = Template.graphPage.flatMap fun l => l.toList ++ ['\n'] := by
  simp [PageKind.builtin, String.toList_join, List.flatMap_map]

/-- The built-in graph page has one marker. -/
theorem exists_marker_builtin :
    ∃ before after, FirstPart marker PageKind.graph.builtin.toList before after ∧
      ∀ b a, PageKind.graph.builtin.toList = b ++ (marker ++ a) → b = before ∧ a = after := by
  have braces : PageKind.graph.builtin.toList.count '\x7b' = 2 := by
    rw [toList_builtin_graph]
    decide +kernel
  have found : (cutAt? marker PageKind.graph.builtin.toList).isSome = true := by
    rw [toList_builtin_graph]
    decide +kernel
  obtain ⟨⟨before, after⟩, cut⟩ := Option.isSome_iff_exists.mp found
  refine ⟨before, after, cutAt?_eq_some_iff.mp cut, ?_⟩
  intro b a whole
  have markerBraces : marker.count '\x7b' = 2 := by decide
  have unbraced : '\x7b' ∉ b := by
    rw [whole, List.count_append, List.count_append, markerBraces] at braces
    exact List.count_eq_zero.mp (by omega)
  have same : cutAt? marker PageKind.graph.builtin.toList = some (b, a) := by
    rw [whole]
    exact cutAt?_append unbraced _ a
  rw [cut] at same
  obtain ⟨rfl, rfl⟩ := Prod.mk.inj (Option.some.inj same)
  exact ⟨rfl, rfl⟩

/-! ## Descriptions -/

/-- Wherever a part stands in a page, it stands in the text before or in the text after. -/
def OnlyAround (part before after page : List Char) : Prop :=
  ∀ x y, page = x ++ (part ++ y) →
    (∃ y', before = x ++ (part ++ y')) ∨ ∃ x', after = x' ++ (part ++ y)

/-- What a script ends with. -/
def scriptEnd : List Char :=
  "</script".toList

variable {tail : List Char}

/-- Markup stands in a page besides its template just if the description has it: it cannot lie
across the quotes of the literal, and inside it is written as it is. -/
theorem onlyAround_literal_iff (plain : ∀ c ∈ '<' :: tail, Json.escapedChar c = [c])
    (description : String) :
    OnlyAround ('<' :: tail) before after (before ++ (Json.stringLiteral description ++ after)) ↔
      ¬ '<' :: tail <:+: description.toList := by
  have unquoted : '"' ∉ '<' :: tail := fun quote => absurd (plain _ quote) (by decide)
  have page : before ++ (Json.stringLiteral description ++ after) =
      before ++ '"' :: (description.toList.flatMap Json.escapedChar ++ '"' :: after) := by
    simp [Json.stringLiteral]
  rw [page, ← Json.infix_flatMap_escapedChar_iff plain]
  constructor
  · rintro around ⟨front, behind, inside⟩
    rcases around (before ++ '"' :: front) (behind ++ '"' :: after) (by simp [← inside]) with
      ⟨y', whole⟩ | ⟨x', whole⟩ <;>
    -- what stands around the part here is longer than the text on either side
    · have lengths := congrArg List.length whole
      simp only [List.length_append, List.length_cons] at lengths
      omega
  · intro none x y whole
    rcases part_beside unquoted whole with ⟨y', early, -⟩ | ⟨x', -, later⟩
    · exact .inl ⟨y', early⟩
    · rcases part_beside unquoted later with ⟨y', inside, -⟩ | ⟨x'', -, late⟩
      · exact absurd ⟨x', y', by rw [inside, List.append_assoc]⟩ none
      · exact .inr ⟨x'', late⟩

theorem scriptEnd_eq : scriptEnd = '<' :: "/script".toList := by
  decide

theorem escapedChar_of_mem_scriptEnd :
    ∀ c ∈ '<' :: "/script".toList, Json.escapedChar c = [c] := by
  have all : ('<' :: "/script".toList).all (fun c => Json.escapedChar c == [c]) = true := by decide
  intro c hc
  simpa using List.all_eq_true.mp all c hc

/-- The graph page is its template with a literal for the marker, and the literal stands for the
description.  A script ends in it where one ends in the template, and nowhere else unless the
description ends one. -/
theorem graphPage_builtin (description : String) :
    ∃ before after,
      (∀ b a, PageKind.graph.builtin.toList = b ++ (marker ++ a) ↔ b = before ∧ a = after) ∧
      TemplateSource.builtin.graphPage description =
        .ok (String.ofList (before ++ (Json.stringLiteral description ++ after))) ∧
      Json.Reader.run Json.Reader.string (String.ofList (Json.stringLiteral description)) =
        .ok description ∧
      (OnlyAround scriptEnd before after
          (before ++ (Json.stringLiteral description ++ after)) ↔
        ¬ scriptEnd <:+: description.toList) := by
  obtain ⟨before, after, marked, only⟩ := exists_marker_builtin
  refine ⟨before, after, ?_, ?_, Json.run_stringLiteral description, ?_⟩
  · intro b a
    constructor
    · exact only b a
    · rintro ⟨rfl, rfl⟩
      exact marked.text
  · exact render_eq_ok (text_builtin .graph) marked _
  · rw [scriptEnd_eq]
    exact onlyAround_literal_iff escapedChar_of_mem_scriptEnd description

/-- A description can end the script that it stands in. -/
theorem graphPage_ends_script :
    ¬ ∀ (description page : String) (before after : List Char),
      PageKind.graph.builtin.toList = before ++ (marker ++ after) →
      TemplateSource.builtin.graphPage description = .ok page →
      OnlyAround scriptEnd before after page.toList := by
  intro around
  obtain ⟨before, after, marked, -⟩ := exists_marker_builtin
  have page := render_eq_ok (text_builtin .graph) marked
    (Json.stringLiteral "</script>")
  have only := around "</script>" _ before after marked.text page
  rw [String.toList_ofList, scriptEnd_eq, onlyAround_literal_iff escapedChar_of_mem_scriptEnd]
    at only
  exact only ⟨[], ['>'], by decide⟩

end TemplateSource

end AsmView
