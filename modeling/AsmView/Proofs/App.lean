/-
# Whatever is done with the application

`App.Operation` has what happens to an application: it is started, a key is pressed, a request
from the board is taken up or left there, a frame is drawn.  The key tables are long, but a key
does one of three things to the view, and `Handled` says which (`handled_pressed`): it leaves
the view, it lets it make one operation that takes the window along with the cursor, or it
pages.  The rest of what a key may do is said there once too, so that what holds of the
application between two operations is a matter of the events that are taken afterwards.
-/
import AsmView.App.Frame
import AsmView.App.Keys
import AsmView.Proofs.Analyzer.Logged
import AsmView.Proofs.Session.Step

namespace AsmView

variable {σ : Type}

namespace Session

/-- An operation that a key or a request can lead to.  It leaves the height of the window, and
does not scroll but for the sake of the cursor. -/
def Operation.Steers : Operation → Prop
  | .goToStart => True
  | .goTo _ => True
  | .goBack => True
  | .goToQuery _ => True
  | .showAnew => True
  | .placeCursor _ => True
  | .stepCursor _ => True
  | .followTransfer => True
  | .followRow _ _ => True
  | _ => False

/-- What one key makes of a view. -/
inductive Steered [Analyzer σ] (s : Session σ) : Session σ → Prop
  | still : Steered s s
  | performed (op : Operation) (steers : op.Steers) : Steered s (s.perform op)
  | paged (delta : Int) : Steered s ((s.scrollBy delta).stepCursor delta)

/-- A key makes some operations of the view, and takes no events. -/
theorem Steered.ops [Analyzer σ] {s t : Session σ} (h : s.Steered t) :
    ∃ ops, t = s.run ops ∧ .takeEvents ∉ ops := by
  cases h with
  | still => exact ⟨[], rfl, nofun⟩
  | performed op steers =>
      refine ⟨[op], rfl, fun taking => ?_⟩
      rw [List.mem_singleton] at taking
      exact (taking ▸ steers : Operation.Steers .takeEvents)
  | paged delta => exact ⟨[.scrollBy delta, .stepCursor delta], rfl, by simp⟩

end Session

namespace ListPlace

theorem selected?_clamp_eq_none (p : ListPlace) (count : Nat) :
    (p.clamp count).selected? = none ↔ count = 0 := by
  unfold clamp
  split
  · simp_all
  · cases p.selected? <;> simp_all [select]

theorem lt_of_selected?_clamp {p : ListPlace} {count row : Nat}
    (h : (p.clamp count).selected? = some row) : row < count := by
  unfold clamp at h
  split at h
  · exact nomatch h
  · cases selected : p.selected? with
    | none =>
        obtain rfl : 0 = row := by simpa [selected, select] using h
        omega
    | some row' =>
        obtain rfl : min row' (count - 1) = row := by simpa [selected, select] using h
        omega

@[simp] theorem selected?_scrollInto (p : ListPlace) (columns rows count : Nat) :
    (p.scrollInto columns rows count).selected? = p.selected? := by
  unfold scrollInto
  split <;> rfl

end ListPlace

namespace App

/-- A new application over an analyzer. -/
def opening (engine : σ) (config : Config) (templates : TemplateStore) (theme : Theme)
    (board? : Option Board) : App σ :=
  { session := Session.new engine config templates, theme, board? }

/-- What happens to an application. -/
inductive Operation where
  | start
  | press (k : Key)
  /-- A request is taken up from the board. -/
  | sync
  /-- A request is left on the board. -/
  | request (target : Address)
  | draw (width height : Nat)
  | post
  | expire

variable [Analyzer σ]

/-- The application behind an operation. -/
def perform (a : App σ) : Operation → App σ
  | .start => a.start
  | .press k => (a.press k).1
  | .sync => a.sync
  | .request target => { a with board? := a.board?.map fun b => (b.request target).1 }
  | .draw width height => (a.draw width height).1
  | .post => a.post
  | .expire => a.expireToast

/-- The application behind a row of operations. -/
def run (a : App σ) (ops : List Operation) : App σ :=
  ops.foldl perform a

theorem run_append (a : App σ) (before after : List Operation) :
    a.run (before ++ after) = (a.run before).run after :=
  List.foldl_append

/-! ## Taking the events -/

omit [Analyzer σ] in
/-- The events are taken, the last notice among them is shown, and the lists are kept in
range. -/
theorem takeEvents_eq (a : App σ) :
    a.takeEvents = { a with
      session := a.session.takeEvents.2
      toast? := (lastNotice? a.session.events).elim a.toast? fun text => some { message := text }
      outgoing := a.outgoing.clamp (a.rowCount .outgoing)
      incoming := a.incoming.clamp (a.rowCount .incoming) } := by
  unfold takeEvents Session.takeEvents
  dsimp only
  cases lastNotice? a.session.events <;> rfl

/-! ## What a key does before the events are taken -/

/-- The application behind a key, before the events are taken. -/
def pressed (a : App σ) (k : Key) : App σ × Bool :=
  match a.prompt? with
  | some query => a.promptKey query k
  | none =>
    match a.viewKey? k with
    | some b => (b, true)
    | none => (a, false)

theorem press_eq (a : App σ) (k : Key) :
    a.press k = ((a.pressed k).1.takeEvents, (a.pressed k).2) :=
  rfl

/-- A pane that is hidden is not focused. -/
def FocusSeen (a : App σ) : Prop :=
  a.sideVisible = false → a.pane = .disassembly

/-- What a key may do to the application, as far as the view, the focused pane and leaving it
are concerned. -/
structure Handled (a b : App σ) : Prop where
  session : a.session.Steered b.session
  seen : a.FocusSeen → b.FocusSeen
  quit : a.quit = true → b.quit = true

/-- What leaves the view, the pane and the side panel alone is in order. -/
theorem Handled.of_same {a b : App σ} (session : a.session.Steered b.session)
    (side : b.sideVisible = a.sideVisible) (pane : b.pane = a.pane ∨ b.pane = .disassembly)
    (quit : b.quit = a.quit) : a.Handled b where
  session := session
  seen := by
    intro seen hidden
    rcases pane with same | first
    · exact same.trans (seen (side ▸ hidden))
    · exact first
  quit := quit ▸ id

/-- A key that lets the view make an operation. -/
theorem handled_perform (a : App σ) (op : Session.Operation) (steers : op.Steers) :
    a.Handled (a.updateSession (·.perform op)) :=
  .of_same (.performed op steers) rfl (.inl rfl) rfl

theorem handled_moveBy (a : App σ) (delta : Int) : a.Handled (a.moveBy delta) := by
  unfold moveBy
  split
  · exact a.handled_perform (.stepCursor delta) trivial
  · rename_i d _
    split
    · exact .of_same .still rfl (.inl rfl) rfl
    · cases d <;> exact .of_same .still rfl (.inl rfl) rfl

theorem handled_page (a : App σ) (sign : Int) : a.Handled (a.page sign) := by
  unfold page
  split
  · exact .of_same (.paged _) rfl (.inl rfl) rfl
  · exact .of_same .still rfl (.inl rfl) rfl

theorem handled_follow (a : App σ) : a.Handled a.follow := by
  -- whichever way it goes, there is a message at most
  have gone : ∀ result : Session σ × Bool, a.session.Steered result.1 →
      a.Handled (if result.2 then { a with session := result.1 } else
        ({ a with session := result.1 } : App σ).say "Nothing to follow") := by
    rintro ⟨session, followed⟩ steered
    cases followed <;> exact .of_same steered rfl (.inl rfl) rfl
  unfold follow
  cases a.pane.direction? with
  | none => exact gone a.session.followTransfer (.performed .followTransfer trivial)
  | some d =>
      exact gone (a.session.followRow d ((a.place d).selected?.getD 0))
        (.performed (.followRow d _) trivial)

theorem handled_back (a : App σ) : a.Handled a.back := by
  have steered : a.session.Steered a.session.goBack.1 := .performed .goBack trivial
  unfold back
  generalize a.session.goBack = result at steered
  obtain ⟨session, moved⟩ := result
  cases moved <;> exact .of_same steered rfl (.inl rfl) rfl

theorem handled_submit (a : App σ) (query : String) : a.Handled (a.submit query) := by
  have steered : a.session.Steered (a.session.goToQuery query).1 :=
    .performed (.goToQuery query) trivial
  unfold submit
  split
  · exact .of_same .still rfl (.inl rfl) rfl
  · generalize a.session.goToQuery query = result at steered
    obtain ⟨session, target?⟩ := result
    cases target? with
    | some target => exact .of_same steered rfl (.inr rfl) rfl
    | none => exact .of_same steered rfl (.inl rfl) rfl

theorem handled_toggleSide (a : App σ) : a.Handled a.toggleSide := by
  unfold toggleSide
  cases side : a.sideVisible with
  | true => exact ⟨.still, fun _ _ => rfl, id⟩
  | false => exact ⟨.still, fun _ hidden => (nomatch hidden), id⟩

theorem handled_nextPane (a : App σ) : a.Handled { a with pane := a.nextPane } := by
  refine ⟨.still, fun _ hidden => ?_, id⟩
  show a.nextPane = .disassembly
  unfold nextPane
  rw [show a.sideVisible = false from hidden]
  rfl

theorem handled_charKey {a b : App σ} {c : Char} (h : a.charKey? c = some b) : a.Handled b := by
  unfold charKey? at h
  split at h
  all_goals cases h
  · exact ⟨.still, id, fun _ => rfl⟩
  · exact a.handled_moveBy 1
  · exact a.handled_moveBy (-1)
  · exact .of_same .still rfl (.inl rfl) rfl
  · exact .of_same .still rfl (.inl rfl) rfl
  · exact .of_same .still rfl (.inl rfl) rfl
  · exact .of_same .still rfl (.inl rfl) rfl
  · exact .of_same .still rfl (.inl rfl) rfl
  · exact .of_same .still rfl (.inl rfl) rfl
  · exact .of_same .still rfl (.inl rfl) rfl
  · exact .of_same (.performed .showAnew trivial) rfl (.inl rfl) rfl
  · exact a.handled_toggleSide

theorem handled_viewKey {a b : App σ} {k : Key} (h : a.viewKey? k = some b) : a.Handled b := by
  cases k with
  | char c => exact handled_charKey h
  | down =>
      obtain rfl : a.moveBy 1 = b := Option.some.inj h
      exact a.handled_moveBy 1
  | up =>
      obtain rfl : a.moveBy (-1) = b := Option.some.inj h
      exact a.handled_moveBy (-1)
  | pageDown =>
      obtain rfl : a.page 1 = b := Option.some.inj h
      exact a.handled_page 1
  | pageUp =>
      obtain rfl : a.page (-1) = b := Option.some.inj h
      exact a.handled_page (-1)
  | home =>
      obtain rfl := Option.some.inj h
      exact a.handled_perform (.placeCursor {}) trivial
  | last =>
      obtain rfl := Option.some.inj h
      exact a.handled_perform (.placeCursor ⟨a.session.listing.count - 1, 0⟩) trivial
  | enter =>
      obtain rfl : a.follow = b := Option.some.inj h
      exact a.handled_follow
  | escape =>
      obtain rfl : a.back = b := Option.some.inj h
      exact a.handled_back
  | tab =>
      obtain rfl := Option.some.inj h
      exact a.handled_nextPane
  | backspace => exact nomatch h
  | other => exact nomatch h

/-- Whatever key it is, and whether or not the prompt is open. -/
theorem handled_pressed (a : App σ) (k : Key) : a.Handled (a.pressed k).1 := by
  have still : ∀ b : App σ, b.session = a.session → b.sideVisible = a.sideVisible →
      b.pane = a.pane → b.quit = a.quit → a.Handled b :=
    fun b session side pane quit => .of_same (session ▸ .still) side (.inl pane) quit
  unfold pressed
  cases a.prompt? with
  | none =>
      dsimp only
      cases meant : a.viewKey? k with
      | none => exact still a rfl rfl rfl rfl
      | some b => exact handled_viewKey meant
  | some query =>
      cases k with
      | enter =>
          have submitted := handled_submit { a with prompt? := none } query
          exact ⟨submitted.session, submitted.seen, submitted.quit⟩
      | _ => exact still _ rfl rfl rfl rfl

/-! ## What a frame does -/

omit [Analyzer σ] in
theorem scrollLists_eq (a : App σ) (width height : Nat) :
    ∃ outgoing incoming, a.scrollLists width height = { a with outgoing, incoming } ∧
      outgoing.selected? = a.outgoing.selected? ∧ incoming.selected? = a.incoming.selected? := by
  unfold scrollLists
  split
  · exact ⟨a.outgoing, a.incoming, rfl, rfl, rfl⟩
  · refine ⟨_, _, rfl, ?_, ?_⟩
    · exact ListPlace.selected?_scrollInto _ _ _ _
    · exact ListPlace.selected?_scrollInto _ _ _ _

/-- The application with the window that a screen of a height has for it, and the events of
that taken. -/
def sized (a : App σ) (height : Nat) : App σ :=
  (a.updateSession (·.setHeight (max (height - 3) 1))).takeEvents

/-- A frame changes no more besides than the rows that the lists start at, and the message. -/
theorem draw_eq (a : App σ) (width height : Nat) :
    ∃ outgoing incoming toast?,
      (a.draw width height).1 = { a.sized height with outgoing, incoming, toast? } ∧
        outgoing.selected? = (a.sized height).outgoing.selected? ∧
        incoming.selected? = (a.sized height).incoming.selected? := by
  obtain ⟨outgoing, incoming, scrolled, same⟩ := (a.sized height).scrollLists_eq width (height - 1)
  have drawn : (a.draw width height).1 =
      let b := (a.sized height).scrollLists width (height - 1)
      { b with toast? := b.toast?.filter (!·.expired) } := rfl
  rw [scrolled] at drawn
  exact ⟨outgoing, incoming, _, drawn, same⟩

/-! ## The view of an application -/

/-- The view as an operation leaves it before its events are taken. -/
def stirred (a : App σ) : Operation → Session σ
  | .start => a.session.goToStart
  | .press k => (a.pressed k).1.session
  | .sync =>
    match a.board?.bind (·.pending?) with
    | some target => a.session.goTo target
    | none => a.session
  | .draw _ height => a.session.setHeight (max (height - 3) 1)
  | _ => a.session

/-- A request that is pending on the board is taken up, and without one nothing is done. -/
theorem sync_eq (a : App σ) :
    (∃ target board?, a.board?.bind (·.pending?) = some target ∧
      a.sync = (({ a with board? }.updateSession (·.goTo target)).takeEvents).say
        s!"Seek {target} (MCP)") ∨
    a.board?.bind (·.pending?) = none ∧ a.sync = a := by
  unfold sync
  cases board : a.board? with
  | none => exact .inr ⟨rfl, rfl⟩
  | some b =>
      cases pending : b.pending? with
      | none =>
          have taken : b.takePending = (b, none) := by rw [Board.takePending, pending]
          refine .inr ⟨pending, ?_⟩
          rw [Option.map_some, taken]
          dsimp only
          rw [← board]
      | some target =>
          have taken : b.takePending = ({ b with pending? := none }.touch, some target) := by
            rw [Board.takePending, pending]
          refine .inl ⟨target, some { b with pending? := none }.touch, pending, ?_⟩
          rw [Option.map_some, taken]

/-- Of an operation the view keeps what it was stirred to, and its events are taken. -/
theorem session_perform (a : App σ) (op : Operation) :
    (a.perform op).session = (a.stirred op).takeEvents.2 ∨ (a.perform op).session = a.session := by
  cases op with
  | start =>
      refine .inl ?_
      show (a.updateSession (·.goToStart)).takeEvents.session = _
      rw [takeEvents_eq]
      rfl
  | press k =>
      refine .inl ?_
      show (a.press k).1.session = _
      rw [press_eq, takeEvents_eq]
      rfl
  | sync =>
      rcases a.sync_eq with ⟨target, board?, pending, synced⟩ | ⟨-, synced⟩
      · refine .inl ?_
        show a.sync.session = _
        rw [synced, takeEvents_eq, stirred, pending]
        rfl
      · exact .inr (congrArg (·.session) synced)
  | draw width height =>
      obtain ⟨_, _, _, drawn, -⟩ := a.draw_eq width height
      refine .inl ?_
      show (a.draw width height).1.session = _
      rw [drawn, sized, takeEvents_eq]
      rfl
  | request target => exact .inr rfl
  | post => exact .inr rfl
  | expire => exact .inr rfl

/-- The view is stirred by operations of its own. -/
theorem stirred_ops (a : App σ) (op : Operation) :
    ∃ ops, a.stirred op = a.session.run ops ∧ .takeEvents ∉ ops := by
  cases op with
  | start => exact ⟨[.goToStart], rfl, by simp⟩
  | press k => exact (a.handled_pressed k).session.ops
  | sync =>
      unfold stirred
      cases a.board?.bind (·.pending?) with
      | none => exact ⟨[], rfl, by simp⟩
      | some target => exact ⟨[.goTo target], rfl, by simp⟩
  | draw width height => exact ⟨[.setHeight (max (height - 3) 1)], rfl, by simp⟩
  | request target => exact ⟨[], rfl, by simp⟩
  | post => exact ⟨[], rfl, by simp⟩
  | expire => exact ⟨[], rfl, by simp⟩

/-- Whatever becomes of an application, its view is one that operations of its own lead to. -/
theorem session_run (a : App σ) (ops : List Operation) :
    ∃ ops', (a.run ops).session = a.session.run ops' := by
  induction ops generalizing a with
  | nil => exact ⟨[], rfl⟩
  | cons op ops ih =>
      obtain ⟨first, stirred, -⟩ := a.stirred_ops op
      obtain ⟨rest, later⟩ := ih (a.perform op)
      rcases a.session_perform op with taken | same
      · refine ⟨first ++ [.takeEvents] ++ rest, later.trans ?_⟩
        rw [taken, stirred]
        simp only [Session.run, List.foldl_append, List.foldl_cons, List.foldl_nil]
        rfl
      · exact ⟨rest, later.trans (congrArg (·.run rest) same)⟩

end App

end AsmView
