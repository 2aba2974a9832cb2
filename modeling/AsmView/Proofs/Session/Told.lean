/-
# What a session tells

A session queues events for whoever shows it.  Of these only `refreshed` speaks of a new
text and only `focusChanged` of the focus; what fails gives rise to notices, and those speak
of neither.  `Notes` says that a session goes on with notices alone, and `Tells` how it goes
on telling and what of it is about new texts.  A focus pass tells nothing about them, and
`updateFocus_turns` has what it tells of the focus: one change at most, and that to the focus
it leaves.
-/
import AsmView.Proofs.Session.Focus

namespace AsmView

/-- The anchor and the number of lines of a new text, in an event that tells of one. -/
def ViewEvent.newText? : ViewEvent → Option (Option Address × Nat)
  | .refreshed anchor lines => some (anchor, lines)
  | .focusChanged _ _ => none
  | .notice _ => none

/-- The focus, in an event that tells of one. -/
def ViewEvent.focus? : ViewEvent → Option Focus
  | .focusChanged a name => some ⟨some a, name⟩
  | .refreshed _ _ => none
  | .notice _ => none

namespace Session

variable {σ : Type}

/-- The focuses told of by the events that are still queued, oldest first. -/
def foci (s : Session σ) : List Focus :=
  s.events.filterMap ViewEvent.focus?

/-! ## Notices -/

/-- The second session has told what the first one has and some notices. -/
def Notes (s t : Session σ) : Prop :=
  ∃ texts : List String, t.events = s.events ++ texts.map ViewEvent.notice

theorem Notes.nothing {s t : Session σ} (h : t.events = s.events) : s.Notes t :=
  ⟨[], by rw [h, List.map_nil, List.append_nil]⟩

theorem Notes.trans {s t u : Session σ} (h : s.Notes t) (h' : t.Notes u) : s.Notes u := by
  obtain ⟨texts, first⟩ := h
  obtain ⟨texts', second⟩ := h'
  exact ⟨texts ++ texts', by rw [second, first, List.append_assoc, List.map_append]⟩

theorem notes_announce (s : Session σ) (text : String) : s.Notes (s.announce text) := by
  unfold announce
  split
  · exact .nothing rfl
  · exact ⟨[text], rfl⟩

theorem notes_applyFailure (s : Session σ) (failure : Panel × PanelFault) :
    s.Notes (s.applyFailure failure) := by
  unfold applyFailure
  dsimp only
  split
  · exact .nothing rfl
  · exact ⟨[_], rfl⟩

theorem notes_foldl_applyFailure (s : Session σ) (failures : List (Panel × PanelFault)) :
    s.Notes (failures.foldl applyFailure s) := by
  induction failures generalizing s with
  | nil => exact .nothing rfl
  | cons failure failures ih => exact (notes_applyFailure s failure).trans (ih _)

/-- A report that is applied tells of failures at most. -/
theorem notes_report (s : Session σ) (r : Refill.Report) :
    s.Notes (r.failures.foldl applyFailure (r.writes.foldl applyUpdate s)) := by
  obtain ⟨announced, filled⟩ := foldl_applyUpdate s r.writes
  have written : s.Notes (r.writes.foldl applyUpdate s) := .nothing (by rw [filled])
  exact written.trans (notes_foldl_applyFailure _ r.failures)

theorem notes_refill [Analyzer σ] (s : Session σ) (e : FocusEvent) (scope : Refill.Scope) :
    s.Notes (s.refill e scope) := by
  have counted : ∀ stats engine cache, s.Notes { s with stats, engine, cache } :=
    fun _ _ _ => .nothing rfl
  exact (counted _ _ _).trans (notes_report _ (s.report e scope))

/-- No notice speaks of the focus. -/
theorem Notes.foci {s t : Session σ} (h : s.Notes t) : t.foci = s.foci := by
  obtain ⟨texts, more⟩ := h
  have silent : (texts.map ViewEvent.notice).filterMap ViewEvent.focus? = [] := by
    rw [List.filterMap_map, List.filterMap_eq_nil_iff]
    exact fun _ _ => rfl
  rw [Session.foci, more, List.filterMap_append, silent, List.append_nil]
  rfl

/-! ## New texts -/

/-- The second session has told what the first one has and some more, of which this much is
about new texts. -/
def Tells (texts : List (Option Address × Nat)) (s t : Session σ) : Prop :=
  ∃ told, t.events = s.events ++ told ∧ told.filterMap ViewEvent.newText? = texts

section Tells

variable {s t u : Session σ} {texts texts' : List (Option Address × Nat)}

theorem Tells.nothing (h : t.events = s.events) : Tells [] s t :=
  ⟨[], by rw [h, List.append_nil], rfl⟩

theorem Tells.congr (h : Tells texts s t) {s' t' : Session σ} (before : s'.events = s.events)
    (after : t'.events = t.events) : Tells texts s' t' := by
  obtain ⟨told, more, new⟩ := h
  exact ⟨told, by rw [after, before, more], new⟩

theorem Tells.trans (h : Tells texts s t) (h' : Tells texts' t u) :
    Tells (texts ++ texts') s u := by
  obtain ⟨told, first, rfl⟩ := h
  obtain ⟨told', second, rfl⟩ := h'
  exact ⟨told ++ told', by rw [second, first, List.append_assoc], List.filterMap_append⟩

theorem tells_emit (s : Session σ) (e : ViewEvent) :
    Tells (e.newText?.toList) s (s.emit e) :=
  ⟨[e], rfl, by cases e <;> rfl⟩

/-- No notice speaks of a new text. -/
theorem Notes.tells (h : s.Notes t) : Tells [] s t := by
  obtain ⟨texts, more⟩ := h
  refine ⟨texts.map ViewEvent.notice, more, ?_⟩
  rw [List.filterMap_map, List.filterMap_eq_nil_iff]
  exact fun _ _ => rfl

variable [Analyzer σ]

theorem tells_updateFocus (s : Session σ) : Tells [] s s.updateFocus := by
  unfold updateFocus
  dsimp only
  generalize s.watch.observe s.listing.cursorLine? s.engine = found
  obtain ⟨outcome, watch, engine⟩ := found
  let s₁ : Session σ := { s with
    watch, engine, stats := { s.stats with focusPasses := s.stats.focusPasses + 1 } }
  have looked : Tells [] s s₁ := .nothing rfl
  cases outcome with
  | error f => exact looked.trans (notes_announce _ _).tells
  | ok finding =>
      cases finding with
      | ignored => exact looked
      | sameFunction e =>
          have filled := looked.trans (notes_refill s₁ e .perAddress).tells
          dsimp only
          split
          · exact filled
          · exact filled.trans (tells_emit _ _)
      | functionChanged e =>
          have filled := looked.trans (notes_refill s₁ e .full).tells
          exact filled.trans (tells_emit _ _)

end Tells

/-! ## Changes of the focus -/

variable [Analyzer σ]

/-- The change of focus that a focus pass tells of: none when the line is passed over, when
its owner is not found, and when the address and its function are those focused already. -/
def turn? (s : Session σ) : Option FocusEvent :=
  match (s.watch.observe s.listing.cursorLine? s.engine).1 with
  | .ok (.functionChanged e) => some e
  | .ok (.sameFunction e) => if s.watch.focus.address = some e.address then none else some e
  | .ok .ignored => none
  | .error _ => none

/-- A focus pass tells of its turn behind what failed in it, and leaves the focus there. -/
theorem updateFocus_turns (s : Session σ) :
    ∃ noted, s.Notes noted ∧ match s.turn? with
      | none => s.updateFocus.events = noted.events ∧ s.updateFocus.watch.focus = s.watch.focus
      | some e => s.updateFocus.events = noted.events ++ [.focusChanged e.address e.function] ∧
          s.updateFocus.watch.focus = ⟨some e.address, e.function⟩ := by
  have seen := FocusWatch.observed s.watch s.listing.cursorLine? s.engine
  unfold updateFocus turn?
  dsimp only
  generalize s.watch.observe s.listing.cursorLine? s.engine = result at seen ⊢
  obtain ⟨outcome, watch, engine⟩ := result
  dsimp only at seen ⊢
  let s₁ : Session σ := { s with
    watch, engine, stats := { s.stats with focusPasses := s.stats.focusPasses + 1 } }
  have looked : s.Notes s₁ := .nothing rfl
  cases seen with
  | ignored => exact ⟨s₁, looked, rfl, rfl⟩
  | @failed _ _ f =>
      obtain ⟨_, _, announced⟩ := announce_eq s₁ s!"cannot resolve focus: {f.message}"
      refine ⟨_, looked.trans (notes_announce s₁ s!"cannot resolve focus: {f.message}"), rfl, ?_⟩
      dsimp only
      rw [announced]
  | @sameFunction line a name _ _ _ _ _ same =>
      have watch := watch_refill s₁ ⟨a, name, line⟩ .perAddress
      refine ⟨_, looked.trans (notes_refill s₁ ⟨a, name, line⟩ .perAddress), ?_⟩
      by_cases here : s.watch.focus.address = some a
      · simp only [if_pos here]
        refine ⟨rfl, (congrArg (·.focus) watch).trans ?_⟩
        show (⟨some a, name⟩ : Focus) = s.watch.focus
        rw [← here, ← same]
      · simp only [if_neg here]
        exact ⟨rfl, congrArg (·.focus) watch⟩
  | @functionChanged line a name =>
      have watch := watch_refill s₁ ⟨a, name, line⟩ .full
      exact ⟨_, looked.trans (notes_refill s₁ ⟨a, name, line⟩ .full), rfl,
        congrArg (·.focus) watch⟩

end Session

end AsmView
