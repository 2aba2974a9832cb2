/-
# The cursor stays on the screen

A frame resizes the window to the screen, and that alone may leave the cursor behind.  Between
two screens of the same height it stays in the window whatever is done (`run_shows`): each key
and each request lets the view do what `Session.Shows` was shown of, and taking the events is
nothing to the text.  So whatever is posted on the board shows the line under the cursor.
-/
import AsmView.Proofs.App
import AsmView.Proofs.Loaded
import AsmView.Proofs.Session.OnScreen

namespace AsmView

variable {σ : Type} [Analyzer σ]

namespace Session

theorem perform_shows {s : Session σ} (rest : s.channels.AtRest) (order : s.listing.InOrder)
    {op : Operation} (steers : op.Steers) : s.listing.Shows (s.perform op).listing := by
  cases op with
  | goToStart => exact goToStart_shows rest order
  | goTo target => exact goTo_shows rest order target
  | goBack => exact goBack_shows rest order
  | goToQuery query =>
      have found : s.perform (.goToQuery query) = (s.goToQuery query).1 := rfl
      rw [found]
      exact goToQuery_shows rest order query
  | showAnew => exact showAnew_shows rest order
  | placeCursor c => exact placeCursor_shows order c
  | stepCursor delta => exact placeCursor_shows order _
  | followTransfer => exact followTransfer_shows rest order
  | followRow direction index => exact followRow_shows rest order direction index
  | request target => exact steers.elim
  | refresh => exact steers.elim
  | setHeight height => exact steers.elim
  | scrollTo top => exact steers.elim
  | scrollBy delta => exact steers.elim
  | raise channel => exact steers.elim
  | updateFocus => exact steers.elim
  | takeEvents => exact steers.elim

theorem Steered.shows {s t : Session σ} (h : s.Steered t) (rest : s.channels.AtRest)
    (order : s.listing.InOrder) : s.listing.Shows t.listing := by
  cases h with
  | still => exact .of_same rfl
  | performed op steers => exact perform_shows rest order steers
  | paged delta => exact page_shows order delta

end Session

namespace App

/-- An operation that leaves a window its height. -/
def Operation.Fits (height : Nat) : Operation → Prop
  | .draw _ rows => max (rows - 3) 1 = height
  | _ => True

theorem stirred_shows {a : App σ} (rest : a.session.channels.AtRest)
    (order : a.session.listing.InOrder) {op : Operation}
    (fits : op.Fits a.session.listing.height) :
    a.session.listing.Shows (a.stirred op).listing := by
  cases op with
  | start => exact Session.goToStart_shows rest order
  | press k => exact (a.handled_pressed k).session.shows rest order
  | sync =>
      unfold stirred
      cases a.board?.bind (·.pending?) with
      | none => exact .of_same rfl
      | some target => exact Session.goTo_shows rest order target
  | draw width height =>
      have same : max (max (height - 3) 1) 1 = a.session.listing.height :=
        (Nat.max_eq_left (Nat.le_max_right _ _)).trans fits
      have stays : a.session.setHeight (max (height - 3) 1) = a.session := if_pos same
      exact .of_same (congrArg (·.listing) stays)
  | request target => exact .of_same rfl
  | post => exact .of_same rfl
  | expire => exact .of_same rfl

theorem perform_shows {a : App σ} (rest : a.session.channels.AtRest)
    (order : a.session.listing.InOrder) {op : Operation}
    (fits : op.Fits a.session.listing.height) :
    a.session.listing.Shows (a.perform op).session.listing := by
  rcases a.session_perform op with taken | same
  · rw [taken]
    exact stirred_shows rest order fits
  · exact .of_same (congrArg (·.listing) same)

section Running

variable (engine : σ) (config : Config) (templates : TemplateStore) (theme : Theme)
  (board? : Option Board)

/-- In a window that keeps its height the cursor stays, from any state that operations lead
to. -/
theorem run_shows (before after : List Operation)
    (fits : ∀ op ∈ after,
      op.Fits ((opening engine config templates theme board?).run before).session.listing.height) :
    ((opening engine config templates theme board?).run before).session.listing.Shows
      ((opening engine config templates theme board?).run (before ++ after)).session.listing := by
  induction after generalizing before with
  | nil =>
      rw [List.append_nil]
      exact .of_same rfl
  | cons op after ih =>
      -- the operation is made one of those before, so that the next state is reached as well
      let a := (opening engine config templates theme board?).run before
      obtain ⟨ops, reached⟩ := (opening engine config templates theme board?).session_run before
      have rest : a.session.channels.AtRest := by
        rw [reached]
        exact (Session.run_steps (Session.calm_new engine config templates) ops).1.rest
      have order : a.session.listing.InOrder := by
        rw [reached]
        exact (Session.feed_inOrder engine config templates ops).listing
      have first := perform_shows rest order (fits op List.mem_cons_self)
      have next : (opening engine config templates theme board?).run (before ++ [op]) =
          a.perform op := run_append _ before [op]
      have later := ih (before ++ [op]) fun op' there => by
        rw [next, first.height]
        exact fits op' (List.mem_cons_of_mem op there)
      rw [next, List.append_assoc] at later
      exact first.trans later

/-- Operations lead an application, over whatever analyzer, to a state in which the text is
empty, as at first, or the cursor is in the window.  After any further ones that fit the window
it has kept its height and the cursor is still in it, if there is a text; and what is to be seen
from outside has the line under the cursor. -/
theorem run_onScreen (before after : List Operation)
    (shown :
      ((opening engine config templates theme board?).run before).session.listing.OnScreen)
    {height : Nat}
    (tall :
      ((opening engine config templates theme board?).run before).session.listing.height = height)
    (fits : ∀ op ∈ after, op.Fits height) {s : Session σ}
    (reached :
      ((opening engine config templates theme board?).run (before ++ after)).session = s) :
    s.listing.height = height ∧
      (s.listing.lines = [] ∨
        s.listing.top ≤ s.listing.cursor.line ∧
          s.listing.cursor.line < s.listing.top + height) ∧
      s.snapshot.cursorLine? = s.listing.cursorLine? := by
  subst tall
  have shows' := run_shows engine config templates theme board? before after fits
  rw [reached] at shows'
  have onScreen := shows'.onScreen shown
  refine ⟨shows'.height, ?_, Session.cursorLine?_snapshot onScreen⟩
  rw [← shows'.height]
  exact onScreen

end Running

/-- Over the small image: a frame, the start, a page on and the end of the text. -/
theorem run_onScreen_pair : ∃ s : Session Loaded,
    ((opening (Loaded.load .pair) {} .builtin {} none).run
        [.draw 80 35, .start, .press .pageDown, .press .last]).session = s ∧
      s.listing.height = 32 ∧ s.snapshot.cursorLine? = s.listing.cursorLine? := by
  have fits : ∀ op ∈ ([.draw 80 35, .start, .press .pageDown, .press .last] : List Operation),
      op.Fits 32 := by
    simp [Operation.Fits]
  obtain ⟨s, reached⟩ : ∃ s : Session Loaded,
      ((opening (Loaded.load .pair) {} .builtin {} none).run
        [.draw 80 35, .start, .press .pageDown, .press .last]).session = s := ⟨_, rfl⟩
  obtain ⟨height, -, line⟩ := run_onScreen (Loaded.load .pair) {} .builtin {} none [] _
    (.inl rfl) rfl fits reached
  exact ⟨s, reached, height, line⟩

end App

end AsmView
