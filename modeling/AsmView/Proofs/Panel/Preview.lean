/-
# What the preview of a jump shows

A preview is looked for in two windows, one at the entry of the function that holds the target
and one at the target itself, and the first that has a line of the target is shown.  If neither
has one, the first with a line at all is shown, without a highlight.  `Fetches` is the run of
the analyzer through the windows it was asked for, and `Shown` what may be shown of them: the
panel is cleared only when every window was empty, and the highlight is missing only when no
window had a line of the target.

In a loaded image the window at an instruction begins with the line of that instruction, so
there the preview of a jump to an instruction always has a highlight.  This needs neither
distinct addresses nor texts of one line, since the first line of a batch has its address in
front.  Where all instructions lie in the image, the preview does not fail either.
-/
import AsmView.Proofs.Loaded.Home
import AsmView.Proofs.Loaded.Panels

namespace AsmView

open Text Refill Handler

variable {σ : Type} [Analyzer σ]

/-- A window that was fetched: where it starts, and its text. -/
structure Fetched where
  start : Address
  text : String

namespace Fetched

/-- The lines of the window. -/
def lines (w : Fetched) : List String :=
  linesOf w.text

/-- The window as a preview of a target. -/
def preview? (target : Address) (w : Fetched) : Option TargetWindow :=
  window? target w.text

end Fetched

/-- Windows of a size are fetched one after another, each at its start. -/
inductive Fetches (size : Nat) : σ → List Fetched → σ → Prop
  | done (s : σ) : Fetches size s [] s
  | fetch {s t u : σ} {w : Fetched} {ws : List Fetched}
      (answer : (Query.batchAt w.start size).ask s = (.ok w.text, t)) (rest : Fetches size t ws u) :
      Fetches size s (w :: ws) u

/-- The index is that of the first line of the target. -/
def FirstLineOf (target : Address) (lines : List String) (i : Nat) : Prop :=
  (∃ line, lines[i]? = some line ∧ lineAddress? line = some target) ∧
    ∀ j < i, ∀ line, lines[j]? = some line → lineAddress? line ≠ some target

/-- What may be shown of the windows that were fetched for a target. -/
inductive Shown (target : Address) (ws : List Fetched) : Option Content → Prop
  | cleared (empty : ∀ w ∈ ws, w.lines = []) : Shown target ws none
  | window {w : Fetched} {highlight? : Option Nat} (fetched : w ∈ ws) (hline : w.lines ≠ [])
      (first : ∀ i, highlight? = some i ↔ FirstLineOf target w.lines i)
      (missed : highlight? = none → ∀ v ∈ ws, ∀ line ∈ v.lines, lineAddress? line ≠ some target) :
      Shown target ws (some (.jumpPreview ⟨target, w.lines, highlight?⟩))

/-- Windows were fetched for a target, and this is what is shown of them. -/
structure Previewed (size : Nat) (target : Address) (s : σ) (ws : List Fetched) (t : σ)
    (content? : Option Content) : Prop where
  fetches : Fetches size s ws t
  /-- A window starts at the target, or at the entry of the function that holds it. -/
  starts : ∀ w ∈ ws, w.start = target ∨ ∃ r,
    (Analyzer.functions s).find? (·.contains target) = some r ∧ w.start = r.entry
  shown : Shown target ws content?
  /-- Unless a line of the target was found, there is no window that was not fetched. -/
  exhausted : (∀ p, content? = some (.jumpPreview p) → p.highlight? = none) →
    ws.map (·.start) = windowStarts target (Analyzer.functions s)

variable {settings : RefillSettings} {e : FocusEvent} {size : Nat} {s t : σ} {d d' : Desk σ}
  {target : Address} {starts : List Address} {w : Fetched} {ws : List Fetched}
  {preview fallback : Option TargetWindow} {p : TargetWindow} {content? : Option Content}

/-! ## One window -/

theorem Fetched.preview?_eq_none : w.preview? target = none ↔ w.lines = [] := by
  unfold preview? window? lines
  cases linesOf w.text with
  | nil => simp
  | cons line more => simp

theorem Fetched.preview?_eq_some (h : w.preview? target = some p) :
    w.lines ≠ [] ∧
      p = ⟨target, w.lines, w.lines.findIdx? (lineAddress? · = some target)⟩ := by
  have hline : w.lines ≠ [] := by
    intro empty
    rw [preview?_eq_none.mpr empty] at h
    exact nomatch h
  refine ⟨hline, ?_⟩
  have given : w.preview? target =
      some ⟨target, w.lines, w.lines.findIdx? (lineAddress? · = some target)⟩ :=
    if_neg (by simpa [lines] using hline)
  exact Option.some.inj (h.symm.trans given)

theorem firstLineOf_iff (lines : List String) (i : Nat) :
    lines.findIdx? (lineAddress? · = some target) = some i ↔ FirstLineOf target lines i := by
  rw [List.findIdx?_eq_some_iff_getElem]
  constructor
  · rintro ⟨inside, here, before⟩
    refine ⟨⟨lines[i], List.getElem?_eq_getElem inside, of_decide_eq_true here⟩, ?_⟩
    intro j lt line at_
    obtain ⟨-, rfl⟩ := List.getElem?_eq_some_iff.mp at_
    exact of_decide_eq_false (by simpa using before j lt)
  · rintro ⟨⟨line, at_, here⟩, before⟩
    obtain ⟨inside, rfl⟩ := List.getElem?_eq_some_iff.mp at_
    refine ⟨inside, decide_eq_true here, ?_⟩
    intro j lt
    simpa using before j lt lines[j] (List.getElem?_eq_getElem (Nat.lt_trans lt inside))

/-- A preview without a highlight has no line of the target. -/
theorem Fetched.ne_of_highlight?_eq_none (h : w.preview? target = some p)
    (missing : p.highlight? = none) : ∀ line ∈ w.lines, lineAddress? line ≠ some target := by
  obtain ⟨-, rfl⟩ := preview?_eq_some h
  intro line listed
  exact of_decide_eq_false (List.findIdx?_eq_none_iff.mp missing line listed)

/-! ## The search through the windows -/

/-- What the search comes to, from the windows that were fetched and what it had to fall back
on. -/
inductive Search (target : Address) (starts : List Address) (fallback : Option TargetWindow)
    (ws : List Fetched) : Option TargetWindow → Prop
  | found {w : Fetched} {p : TargetWindow} (fetched : w ∈ ws) (here : w.preview? target = some p)
      (highlighted : p.highlight?.isSome = true) : Search target starts fallback ws (some p)
  | missed (all : ws.map (·.start) = starts)
      (hfound : ∀ w ∈ ws, ∀ p, w.preview? target = some p → p.highlight? = none) :
      Search target starts fallback ws (fallback.or (ws.findSome? (·.preview? target)))

/-- Moving the analyzer and asking for a batch is asking for the batch there. -/
theorem on_batchAt (start : Address) (size : Nat) (d : Desk σ) :
    (ask (Analyzer.reposition start) >>= fun _ => ask (Analyzer.disassemble size) :
      Handler σ String).on d = (ask (Query.batchAt start size)).on d := by
  rw [on_bind, on_ask, on_ask, Query.batchAt_ask]
  cases (Analyzer.reposition start : Query σ Unit).ask d.engine with
  | mk placed engine =>
      cases placed with
      | error f => rfl
      | ok u => exact on_ask _ _

/-- A window that has no line of the target is only something to fall back on. -/
theorem Search.cons {fallback' : Option TargetWindow}
    (h : Search target starts fallback' ws preview)
    (passed : ∀ p, w.preview? target = some p → p.highlight? = none)
    (kept : fallback' = fallback.or (w.preview? target)) :
    Search target (w.start :: starts) fallback (w :: ws) preview := by
  cases h with
  | found fetched here highlighted =>
      exact .found (List.mem_cons_of_mem w fetched) here highlighted
  | missed all hfound =>
      have back : fallback'.or (ws.findSome? (·.preview? target)) =
          fallback.or ((w :: ws).findSome? (·.preview? target)) := by
        rw [kept, Option.or_assoc, List.findSome?_cons]
        cases w.preview? target <;> rfl
      rw [back]
      refine .missed (congrArg (w.start :: ·) all) ?_
      intro v hv p here
      rcases List.mem_cons.mp hv with rfl | later
      · exact passed p here
      · exact hfound v later p here

theorem previewFrom_search (starts : List Address) (fallback : Option TargetWindow)
    (answer : (previewFrom target size starts fallback).on d = (.ok preview, d')) :
    ∃ ws, Fetches size d.engine ws d'.engine ∧ ws.map (·.start) <+: starts ∧
      Search target starts fallback ws preview := by
  induction starts generalizing fallback d with
  | nil =>
      obtain ⟨same, rfl⟩ := Prod.mk.inj answer
      obtain rfl := Except.ok.inj same
      refine ⟨[], .done _, List.prefix_rfl, ?_⟩
      have missed : Search target [] fallback [] (fallback.or none) := .missed rfl (by simp)
      rwa [Option.or_none] at missed
  | cons start starts ih =>
      rw [previewFrom, ← bind_assoc] at answer
      obtain ⟨text, t, fetched, rest⟩ := bind_eq_ok answer
      rw [on_batchAt] at fetched
      obtain ⟨engine, given, rfl⟩ := ask_eq_ok fetched
      let w : Fetched := ⟨start, text⟩
      -- a window without a line of the target is passed by, and kept to fall back on
      have goes_on : ∀ {fallback'}, (previewFrom target size starts fallback').on
          { d with engine } = (.ok preview, d') →
          (∀ p, w.preview? target = some p → p.highlight? = none) →
          fallback' = fallback.or (w.preview? target) →
          ∃ ws, Fetches size d.engine ws d'.engine ∧ ws.map (·.start) <+: start :: starts ∧
            Search target (start :: starts) fallback ws preview := by
        intro fallback' answer passed kept
        obtain ⟨ws, run, places, search⟩ := ih fallback' answer
        exact ⟨w :: ws, .fetch given run, List.prefix_cons_inj start |>.mpr places,
          search.cons passed kept⟩
      have here : w.preview? target = window? target text := rfl
      cases shown : window? target text with
      | none =>
          rw [shown] at rest
          refine goes_on rest ?_ ?_
          · intro p hline
            rw [here, shown] at hline
            cases hline
          · rw [here, shown, Option.or_none]
      | some p =>
          rw [shown] at rest
          dsimp only at rest
          split at rest
          · rename_i highlighted
            obtain ⟨same, rfl⟩ := Prod.mk.inj rest
            obtain rfl := Except.ok.inj same
            exact ⟨[w], .fetch given (.done _), List.prefix_append [start] starts,
              .found List.mem_cons_self (here.trans shown) highlighted⟩
          · rename_i missing
            refine goes_on rest ?_ ?_
            · intro q same
              obtain rfl := Option.some.inj ((here.trans shown).symm.trans same)
              simpa using missing
            · rw [here, shown]

/-- Whatever the search comes to may be shown. -/
theorem Search.shown (h : Search target starts none ws preview) :
    Shown target ws (preview.map .jumpPreview) := by
  cases h with
  | @found w p fetched here highlighted =>
      obtain ⟨hline, rfl⟩ := Fetched.preview?_eq_some here
      refine .window fetched hline (firstLineOf_iff w.lines) ?_
      intro missing
      rw [missing] at highlighted
      exact nomatch highlighted
  | missed all hfound =>
      rw [Option.none_or]
      have missed : ∀ v ∈ ws, ∀ line ∈ v.lines, lineAddress? line ≠ some target := by
        intro v hv
        cases shown : v.preview? target with
        | none =>
            rw [Fetched.preview?_eq_none.mp shown]
            exact fun line listed => nomatch listed
        | some p => exact Fetched.ne_of_highlight?_eq_none shown (hfound v hv p shown)
      cases first : ws.findSome? (·.preview? target) with
      | none =>
          refine .cleared ?_
          intro w hw
          exact Fetched.preview?_eq_none.mp (List.findSome?_eq_none_iff.mp first w hw)
      | some p =>
          obtain ⟨w, hw, here⟩ := List.exists_of_findSome?_eq_some first
          obtain ⟨hline, rfl⟩ := Fetched.preview?_eq_some here
          exact .window hw hline (firstLineOf_iff w.lines) fun _ => missed

/-- A search that found no line of the target went through all windows. -/
theorem Search.exhausted (h : Search target starts fallback ws preview)
    (unfound : ∀ p, preview = some p → p.highlight? = none) : ws.map (·.start) = starts := by
  cases h with
  | found fetched here highlighted =>
      rw [unfound _ rfl] at highlighted
      exact nomatch highlighted
  | missed all hfound => exact all

/-- A window starts at the target, or at the entry of the function that holds it. -/
theorem mem_windowStarts {functions : List KnownFunction} {start : Address}
    (h : start ∈ windowStarts target functions) :
    start = target ∨
      ∃ r, functions.find? (·.contains target) = some r ∧ start = r.entry := by
  rcases List.mem_append.mp h with owned | here
  · obtain ⟨entry, -⟩ := Option.filter_eq_some_iff.mp (Option.mem_toList.mp owned)
    obtain ⟨r, found, rfl⟩ := Option.map_eq_some_iff.mp entry
    exact .inr ⟨r, found, rfl⟩
  · exact .inl (List.mem_singleton.mp here)

theorem jumpPreview_previewed
    (leads : (Analyzer.jumpTarget e.line : Query σ (Option Address)).ask d.engine =
      (.ok (some target), s))
    (answer : (handler settings e .jumpPreview).on d = (.ok content?, d')) :
    ∃ ws, Previewed settings.previewLines target s ws d'.engine content? := by
  obtain ⟨target?, t, asked, rest⟩ := bind_eq_ok answer
  obtain ⟨engine, given, rfl⟩ := ask_eq_ok asked
  obtain ⟨same, rfl⟩ := Prod.mk.inj (leads.symm.trans given)
  obtain rfl := Except.ok.inj same
  obtain ⟨desk, t, got, rest⟩ := bind_eq_ok rest
  obtain ⟨same, rfl⟩ := Prod.mk.inj got
  obtain rfl := Except.ok.inj same
  obtain ⟨preview, t, searched, rest⟩ := bind_eq_ok rest
  obtain ⟨same, rfl⟩ := Prod.mk.inj rest
  obtain rfl := Except.ok.inj same
  obtain ⟨ws, run, places, search⟩ := previewFrom_search _ _ searched
  refine ⟨ws, run, ?_, search.shown, ?_⟩
  · intro w hw
    exact mem_windowStarts (places.subset (List.mem_map_of_mem hw))
  · intro unfound
    refine search.exhausted ?_
    rintro p rfl
    exact unfound p rfl

/-! ## Jumps to an instruction of an image -/

/-- Whatever window was fetched was the answer to a question put on the way. -/
theorem Fetches.answer_of_mem (run : Fetches size s ws t) (hw : w ∈ ws) :
    ∃ u v, Analyzer.Asked s u ∧ (Query.batchAt w.start size).ask u = (.ok w.text, v) := by
  induction run with
  | done s => exact nomatch hw
  | fetch answer rest ih =>
      rcases List.mem_cons.mp hw with rfl | later
      · exact ⟨_, _, .refl, answer⟩
      · obtain ⟨u, v, asked, given⟩ := ih later
        exact ⟨u, v, ((Query.plain_batchAt _ _).asked answer).trans asked, given⟩

namespace Loaded

variable {l : Loaded} {img : Image} {a : Address} {i : Instruction}

/-- The slots from the address of an instruction on begin there. -/
theorem slotsFrom_instruction (hi : i ∈ img.instructions) :
    ∃ s rest, (load img).slotsFrom i.address = s :: rest ∧ s.address = i.address := by
  obtain ⟨t, ht, rfl⟩ := mem_instructions.mp hi
  cases cut : (load img).slotsFrom t.instruction.address with
  | nil => exact absurd (Nat.le_refl _) (slotsFrom_eq_nil cut t ht)
  | cons s rest =>
      obtain ⟨-, above, least⟩ := head?_slotsFrom cut
      refine ⟨s, rest, rfl, Address.toNat_injective (Nat.le_antisymm ?_ above)⟩
      exact least t ht (Nat.le_refl _)

/-- A window at an instruction has a line of it. -/
theorem window_at_instruction (hi : i ∈ img.instructions) (hline : 1 ≤ size)
    (same : (load img).SameImage l) {m : Loaded} {text : String}
    (answer : (Query.batchAt i.address size).ask l = (.ok text, m)) :
    ∃ line ∈ linesOf text, lineAddress? line = some i.address := by
  obtain ⟨rfl, -⟩ := batch_of_answer answer
  obtain ⟨s, rest, cut, address⟩ := slotsFrom_instruction hi
  obtain ⟨n, rfl⟩ := Nat.exists_eq_succ_of_ne_zero (Nat.one_le_iff_ne_zero.mp hline)
  obtain ⟨line, more, lines, first⟩ := firstLine_batchText s (rest.take n)
  rw [same.slotsFrom, cut, List.take_succ_cons, lines]
  exact ⟨line, List.mem_cons_self, first.trans (congrArg some address)⟩

/-- Unless a line of it was found before, the window at the instruction was fetched. -/
theorem exists_line_of_exhausted (hi : i ∈ img.instructions) (hline : 1 ≤ size)
    {l m : Loaded} (same : (load img).SameImage l)
    (previewed : Previewed size i.address l ws m content?)
    (unfound : ∀ p, content? = some (.jumpPreview p) → p.highlight? = none) :
    ∃ w ∈ ws, ∃ line ∈ w.lines, lineAddress? line = some i.address := by
  have all := previewed.exhausted unfound
  have listed : i.address ∈ windowStarts i.address (Analyzer.functions l) :=
    List.mem_append_right _ (List.mem_singleton.mpr rfl)
  rw [← all] at listed
  obtain ⟨w, hw, hat⟩ := List.mem_map.mp listed
  obtain ⟨u, v, asked, answer⟩ := previewed.fetches.answer_of_mem hw
  rw [hat] at answer
  exact ⟨w, hw, window_at_instruction hi hline (same.trans (sameImage_of_asked asked)) answer⟩

/-- The preview of a jump to an instruction has a highlight. -/
theorem highlighted_of_previewed (hi : i ∈ img.instructions) (hline : 1 ≤ size)
    {l m : Loaded} (same : (load img).SameImage l)
    (previewed : Previewed size i.address l ws m content?) :
    ∃ p n, content? = some (.jumpPreview p) ∧ p.target = i.address ∧ p.highlight? = some n := by
  have hat := exists_line_of_exhausted hi hline same previewed
  cases previewed.shown with
  | cleared empty =>
      obtain ⟨w, hw, line, listed, -⟩ := hat fun p shown => nomatch shown
      rw [empty w hw] at listed
      exact nomatch listed
  | @window w highlight? fetched hline first missed =>
      cases highlight? with
      | some n => exact ⟨_, n, rfl, rfl, rfl⟩
      | none =>
          have unfound : ∀ p, some (Content.jumpPreview ⟨i.address, w.lines, none⟩) =
              some (.jumpPreview p) → p.highlight? = none := by
            rintro p ⟨⟩
            rfl
          obtain ⟨v, hv, line, listed, here⟩ := hat unfound
          exact absurd here (missed rfl v hv line listed)

/-- Where all windows lie in the image, the search through them does not fail. -/
theorem exists_previewFrom (target : Address) (size : Nat) (starts : List Address)
    (fallback : Option TargetWindow) (inside : ∀ a ∈ starts, l.covers a = true) {d : Desk Loaded}
    (same : l.SameImage d.engine) :
    ∃ preview d', (previewFrom target size starts fallback).on d = (.ok preview, d') := by
  induction starts generalizing fallback d with
  | nil => exact ⟨fallback, d, rfl⟩
  | cons start starts ih =>
      obtain ⟨covered, later⟩ := List.forall_mem_cons.mp inside
      rw [previewFrom, ← bind_assoc, on_bind, on_batchAt, on_ask, ask_batchAt, same.covers,
        if_pos covered]
      dsimp only [Except.mapError]
      split
      · exact ih _ later ⟨same.image, same.slots⟩
      · split
        · exact ⟨_, _, rfl⟩
        · exact ih _ later ⟨same.image, same.slots⟩

/-- The entry of a function is the address of an instruction. -/
theorem exists_instruction_of_record {r : KnownFunction}
    (listed : r ∈ Analyzer.functions (load img)) :
    ∃ i ∈ img.instructions, i.address = r.entry := by
  obtain ⟨f, hf, record⟩ := List.mem_filterMap.mp listed
  obtain ⟨entry, start, rfl⟩ := Option.map_eq_some_iff.mp record
  obtain ⟨i, head, rfl⟩ := Option.map_eq_some_iff.mp start
  refine ⟨i, ?_, rfl⟩
  have inside : i ∈ (load img).image.routines.flatMap (·.instructions) :=
    List.mem_flatMap.mpr ⟨f, hf, List.mem_of_head? head⟩
  exact (instructions_sortRoutines img.routines).mem_iff.mp inside

/-- Where all instructions lie in the image, the handler does not fail at a jump to one. -/
theorem exists_jumpPreview (covered : ∀ i ∈ img.instructions, (load img).covers i.address = true)
    (hi : i ∈ img.instructions) {d : Desk Loaded} {s : Loaded}
    (same : (load img).SameImage s)
    (leads : (Analyzer.jumpTarget e.line : Query Loaded (Option Address)).ask d.engine =
      (.ok (some i.address), s)) :
    ∃ content? d', (handler settings e .jumpPreview).on d = (.ok content?, d') := by
  have inside : ∀ a ∈ windowStarts i.address (Analyzer.functions s),
      (load img).covers a = true := by
    intro a ha
    rcases mem_windowStarts ha with rfl | ⟨r, found, rfl⟩
    · exact covered i hi
    · have listed := List.mem_of_find?_eq_some found
      rw [same.functions] at listed
      obtain ⟨j, hj, entry⟩ := exists_instruction_of_record listed
      exact entry ▸ covered j hj
  obtain ⟨preview, d', searched⟩ := exists_previewFrom i.address settings.previewLines _ none
    inside (d := { d with engine := s }) same
  refine ⟨preview.map .jumpPreview, d', ?_⟩
  show (jumpPreview settings e).on d = _
  rw [jumpPreview, on_bind, on_ask, leads]
  show (get >>= _ : Handler Loaded _).on _ = _
  rw [on_bind, on_get]
  dsimp only
  rw [on_bind, searched]
  rfl

end Loaded

/-- The preview of a jump shows the target whenever it can.  Whatever the analyzer, a handler
that does not fail shows the lines of a window it fetched, at the target or at the entry of the
function that holds it, with the first line of the target for its highlight; it misses the
highlight only if no window has a line of the target, and clears the panel only if all are
empty.  In a loaded image with windows of a line at least, the target of a jump to an
instruction is always highlighted, unless the handler fails; and it does not where all
instructions lie in the image. -/
theorem jumpPreview_shows :
    (∀ {σ : Type} [Analyzer σ] (settings : RefillSettings) (e : FocusEvent) (d d' : Desk σ)
      (s : σ) (target : Address) (content? : Option Content),
      (Analyzer.jumpTarget e.line : Query σ (Option Address)).ask d.engine =
          (.ok (some target), s) →
        (handler settings e .jumpPreview).on d = (.ok content?, d') →
          ∃ ws, Previewed settings.previewLines target s ws d'.engine content?) ∧
    (∀ (img : Image) (settings : RefillSettings) (e : FocusEvent) (d : Desk Loaded) (s : Loaded),
      Analyzer.Asked (Loaded.load img) d.engine → ∀ i ∈ img.instructions,
      (Analyzer.jumpTarget e.line : Query Loaded (Option Address)).ask d.engine =
          (.ok (some i.address), s) →
        (1 ≤ settings.previewLines → ∀ content? d',
          (handler settings e .jumpPreview).on d = (.ok content?, d') →
            ∃ p n, content? = some (.jumpPreview p) ∧ p.target = i.address ∧
              p.highlight? = some n) ∧
        ((∀ j ∈ img.instructions, (Loaded.load img).covers j.address = true) →
          ∃ content? d', (handler settings e .jumpPreview).on d = (.ok content?, d'))) := by
  refine ⟨?_, ?_⟩
  · intro σ _ settings e d d' s target content? leads answer
    exact jumpPreview_previewed leads answer
  · intro img settings e d s asked i hi leads
    have moved := (Query.plain_query (.jumpTarget e.line)).asked leads
    have same := Loaded.sameImage_of_asked (asked.trans moved)
    refine ⟨?_, ?_⟩
    · intro hline content? d' answer
      obtain ⟨ws, previewed⟩ := jumpPreview_previewed leads answer
      exact Loaded.highlighted_of_previewed hi hline same previewed
    · intro covered
      exact Loaded.exists_jumpPreview covered hi same leads

/-- A look at the call of the small image. -/
def callFocus : FocusEvent :=
  ⟨⟨0x1000⟩, "main", "0x00001000  e80b000000   call 0x1010"⟩

theorem jumpPreview_shows_pair :
    ∃ (d' : Desk Loaded) (ws : List Fetched) (p : TargetWindow) (n : Nat),
      (handler ⟨.builtin, 8⟩ callFocus .jumpPreview).on ⟨Loaded.load .pair, {}⟩ =
        (.ok (some (.jumpPreview p)), d') ∧
      Previewed 8 ⟨0x1010⟩ (Loaded.load .pair) ws d'.engine (some (.jumpPreview p)) ∧
      p.target = ⟨0x1010⟩ ∧ p.highlight? = some n := by
  have leads : (Analyzer.jumpTarget callFocus.line : Query Loaded (Option Address)).ask
      (Loaded.load .pair) = (.ok (some ⟨0x1010⟩), Loaded.load .pair) := by
    rw [Loaded.load_pair, Loaded.ask_jumpTarget, Loaded.transferTarget?,
      funext Loaded.pair.slotAt?_eq]
    rfl
  have covered : ∀ j ∈ Image.pair.instructions, (Loaded.load .pair).covers j.address = true := by
    rw [Loaded.load_pair]
    decide
  obtain ⟨highlighted, answered⟩ := jumpPreview_shows.2 .pair ⟨.builtin, 8⟩ callFocus
    ⟨Loaded.load .pair, {}⟩ _ .refl { address := ⟨0x1010⟩, bytes := "c3", text := "ret" }
    (by decide) leads
  obtain ⟨content?, d', answer⟩ := answered covered
  obtain ⟨p, n, rfl, target, highlight⟩ := highlighted (by decide) content? d' answer
  obtain ⟨ws, previewed⟩ := jumpPreview_shows.1 ⟨.builtin, 8⟩ callFocus _ d' _ _ _ leads answer
  exact ⟨d', ws, p, n, answer, previewed, target, highlight⟩

end AsmView
