/-
# The application between two operations

A list of references can become longer, shorter or empty with every focus pass, behind the back
of the row selected in it, and panes lose the focus when the side panel is hidden.  `InOrder` is
what holds all the same whenever an operation is over: the events are taken last, and with them
the selections are put back into their lists.  While the prompt is open a key edits the query
(`typed`), in which neither view nor analyzer have a part; only Enter does more.
-/
import AsmView.Proofs.App

namespace AsmView.App

variable {σ : Type}

/-- A row is selected in each list that has rows, and it is one of them; a pane that is hidden
is not focused. -/
structure InOrder (a : App σ) : Prop where
  unselected : ∀ d, (a.place d).selected? = none ↔ a.rowCount d = 0
  selected : ∀ d row, (a.place d).selected? = some row → row < a.rowCount d
  seen : a.FocusSeen

/-- Panels, selections and panes decide about the order of an application. -/
theorem InOrder.of_same {a b : App σ} (h : a.InOrder) (panels : b.session.panels = a.session.panels)
    (selected : ∀ d, (b.place d).selected? = (a.place d).selected?)
    (side : b.sideVisible = a.sideVisible) (pane : b.pane = a.pane) : b.InOrder where
  unselected := by
    intro d
    rw [selected d, rowCount, panels]
    exact h.unselected d
  selected := by
    intro d
    rw [selected d, rowCount, panels]
    exact h.selected d
  seen := by
    intro hidden
    exact pane.trans (h.seen (side ▸ hidden))

/-- Whatever became of the lists, their selections are in range once the events are taken. -/
theorem inOrder_takeEvents {a : App σ} (seen : a.FocusSeen) : a.takeEvents.InOrder := by
  rw [takeEvents_eq]
  refine ⟨fun d => ?_, fun d row => ?_, seen⟩
  · cases d <;> exact ListPlace.selected?_clamp_eq_none _ _
  · cases d <;> exact ListPlace.lt_of_selected?_clamp

variable [Analyzer σ]

theorem InOrder.draw {a : App σ} (h : a.InOrder) (width height : Nat) :
    (a.draw width height).1.InOrder := by
  obtain ⟨outgoing, incoming, toast?, drawn, out, into⟩ := a.draw_eq width height
  have taken : (a.sized height).InOrder := inOrder_takeEvents h.seen
  rw [drawn]
  refine taken.of_same rfl (fun d => ?_) rfl rfl
  cases d with
  | outgoing => exact out
  | incoming => exact into

theorem InOrder.sync {a : App σ} (h : a.InOrder) : a.sync.InOrder := by
  rcases a.sync_eq with ⟨target, board?, -, synced⟩ | ⟨-, synced⟩
  · have gone : ({ a with board? }.updateSession (·.goTo target)).takeEvents.InOrder :=
      inOrder_takeEvents h.seen
    rw [synced]
    exact gone.of_same rfl (fun d => by cases d <;> rfl) rfl rfl
  · rw [synced]
    exact h

theorem InOrder.perform {a : App σ} (h : a.InOrder) (op : Operation) : (a.perform op).InOrder := by
  cases op with
  | start =>
      have started : (a.updateSession (·.goToStart)).takeEvents.InOrder := inOrder_takeEvents h.seen
      exact started.of_same rfl (fun d => by cases d <;> rfl) rfl rfl
  | press k =>
      show (a.press k).1.InOrder
      rw [press_eq]
      exact inOrder_takeEvents ((a.handled_pressed k).seen h.seen)
  | sync => exact h.sync
  | request target => exact h.of_same rfl (fun d => by cases d <;> rfl) rfl rfl
  | draw width height => exact h.draw width height
  | post => exact h.of_same rfl (fun d => by cases d <;> rfl) rfl rfl
  | expire => exact h.of_same rfl (fun d => by cases d <;> rfl) rfl rfl

omit [Analyzer σ] in
theorem inOrder_opening (engine : σ) (config : Config) (templates : TemplateStore) (theme : Theme)
    (board? : Option Board) : (opening engine config templates theme board?).InOrder where
  unselected := by
    intro d
    cases d <;> exact iff_of_true rfl rfl
  selected := by
    intro d row h
    cases d <;> exact nomatch h
  seen := nofun

theorem InOrder.run {a : App σ} (h : a.InOrder) (ops : List Operation) : (a.run ops).InOrder := by
  induction ops generalizing a with
  | nil => exact h
  | cons op ops ih => exact ih (h.perform op)

/-! ## Whoever leaves has left -/

theorem quit_perform {a : App σ} (h : a.quit = true) (op : Operation) :
    (a.perform op).quit = true := by
  cases op with
  | press k =>
      show (a.press k).1.quit = true
      rw [press_eq, takeEvents_eq]
      exact (a.handled_pressed k).quit h
  | start =>
      show ((a.updateSession (·.goToStart)).takeEvents).quit = true
      rw [takeEvents_eq]
      exact h
  | sync =>
      show a.sync.quit = true
      rcases a.sync_eq with ⟨target, board?, -, synced⟩ | ⟨-, synced⟩
      · rw [synced, takeEvents_eq]
        exact h
      · rw [synced]
        exact h
  | draw width height =>
      obtain ⟨_, _, _, drawn, -⟩ := a.draw_eq width height
      show (a.draw width height).1.quit = true
      rw [drawn, sized, takeEvents_eq]
      exact h
  | request target => exact h
  | post => exact h
  | expire => exact h

theorem quit_run {a : App σ} (h : a.quit = true) (ops : List Operation) :
    (a.run ops).quit = true := by
  induction ops generalizing a with
  | nil => exact h
  | cons op ops ih => exact ih (quit_perform h op)

/-! ## While the prompt is open -/

omit [Analyzer σ] in
/-- What a key other than Enter does to the query; no analyzer has a part in it. -/
def typed (a : App σ) (query : String) : Key → App σ
  | .escape => { a with prompt? := none }
  | .backspace => { a with prompt? := some (String.ofList query.toList.dropLast) }
  | .char c => { a with prompt? := some (query.push c) }
  | _ => a

theorem press_of_prompt {a : App σ} {query : String} (h : a.prompt? = some query) {k : Key}
    (hk : k ≠ .enter) : (a.press k).1 = (a.typed query k).takeEvents := by
  rw [press_eq, pressed, h]
  cases k with
  | enter => exact absurd rfl hk
  | _ => rfl

/-- The view is as it was, but that its events were taken, and so is what is shown around
it. -/
structure Undisturbed (a b : App σ) : Prop where
  session : b.session = a.session.takeEvents.2
  pane : b.pane = a.pane
  tab : b.tab = a.tab
  chart : b.chart = a.chart
  theme : b.theme = a.theme
  side : b.sideVisible = a.sideVisible
  quit : b.quit = a.quit

theorem undisturbed_press {a : App σ} {query : String} (h : a.prompt? = some query) {k : Key}
    (hk : k ≠ .enter) : a.Undisturbed (a.press k).1 := by
  rw [press_of_prompt h hk, takeEvents_eq]
  cases k <;> exact ⟨rfl, rfl, rfl, rfl, rfl, rfl, rfl⟩

/-- After any operations, over whatever analyzer: each list with rows has one of them selected
and an empty one has none, nothing hidden is focused, and an application that was left stays
left.  A key other than Enter, pressed while the prompt is open, leaves the view and all that is
shown around it alone, and asks the analyzer nothing. -/
theorem run_selections (engine : σ) (config : Config) (templates : TemplateStore) (theme : Theme)
    (board? : Option Board) (ops : List Operation) :
    ((opening engine config templates theme board?).run ops).InOrder ∧
      (((opening engine config templates theme board?).run ops).quit = true →
        ∀ more, (((opening engine config templates theme board?).run ops).run more).quit = true) ∧
      (∀ (a : App σ) (query : String) (k : Key), a.prompt? = some query → k ≠ .enter →
        a.Undisturbed (a.press k).1) ∧
      ∀ (a : App (Logged σ)) (query : String) (k : Key), a.prompt? = some query → k ≠ .enter →
        (a.press k).1.session.engine = a.session.engine := by
  refine ⟨(inOrder_opening engine config templates theme board?).run ops,
    fun h more => quit_run h more, fun a query k h hk => undisturbed_press h hk, ?_⟩
  intro a query k h hk
  exact congrArg (·.engine) (undisturbed_press h hk).session

end AsmView.App
