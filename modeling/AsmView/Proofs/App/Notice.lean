/-
# Which notices a user gets to see

A view queues a notice when something failed, and the application shows the last of them as its
message.  Keys have messages of their own, but these are shown first and the events taken
afterwards, so that a notice has the last word (`toast?_press`); the same holds when the
application is started.  A request from the board is the other way round: its own message is
shown after the events were taken, and with that no notice of it is ever seen (`toast?_sync`).
-/
import AsmView.Proofs.App.Order
import AsmView.Proofs.Session.Whole
import AsmView.Proofs.Loaded

namespace AsmView

variable {σ : Type}

/-! ## Events are only added to the queue -/

namespace Session

/-- The second session has queued some events more than the first. -/
def Queues (s t : Session σ) : Prop :=
  ∃ told, t.events = s.events ++ told

theorem Queues.of_same {s t : Session σ} (h : t.events = s.events) : s.Queues t :=
  ⟨[], by rw [h, List.append_nil]⟩

theorem Queues.trans {s t u : Session σ} (h : s.Queues t) (h' : t.Queues u) : s.Queues u := by
  obtain ⟨told, first⟩ := h
  obtain ⟨told', second⟩ := h'
  exact ⟨told ++ told', by rw [second, first, List.append_assoc]⟩

variable [Analyzer σ]

theorem updateFocus_queues (s : Session σ) : s.Queues s.updateFocus := by
  obtain ⟨_, _, _, _, _, events, _, _, _, -, h⟩ := updateFocus_eq s
  exact ⟨events, by rw [h]⟩

theorem reload_queues {s : Session σ} (rest : s.channels.AtRest) : s.Queues s.reload.1 := by
  cases goal : s.reloadTarget? with
  | none =>
      rw [reload_nowhere goal]
      exact .of_same rfl
  | some target =>
      obtain ⟨-, -, whole⟩ := reload_whole rest goal
      cases answer : ((Query.batchAt target s.config.batchSize).ask s.engine).1 with
      | error f =>
          rw [answer] at whole
          obtain ⟨told, more, -⟩ := Untouched.tells whole
          exact ⟨told, more⟩
      | ok batch =>
          rw [answer] at whole
          obtain ⟨told, more, -⟩ := Replaced.tells whole
          exact ⟨told, more⟩

theorem Move.queues {s t : Session σ} (h : Move s t) (calm : s.Calm) : s.Queues t := by
  cases h with
  | text h =>
      obtain ⟨_, events, _, _, _, _, rfl⟩ := h.steps.eq
      exact ⟨events, rfl⟩
  | moved c => exact updateFocus_queues (s.withCursor c)
  | focused => exact updateFocus_queues s
  | reloaded => exact reload_queues calm.rest
  | dropped => exact .of_same rfl
  | noted _ _ => exact .of_same rfl

theorem Moves.queues {s t : Session σ} (h : Moves s t) (calm : s.Calm) :
    t.Calm ∧ s.Queues t := by
  induction h with
  | refl => exact ⟨calm, .of_same rfl⟩
  | tail _ last ih =>
      obtain ⟨calm, told⟩ := ih
      exact ⟨last.calm calm, told.trans (last.queues calm)⟩

/-- Operations that do not take the events only add to them. -/
theorem run_queues {s : Session σ} (calm : s.Calm) {ops : List Operation}
    (h : .takeEvents ∉ ops) : s.Queues (s.run ops) := by
  induction ops generalizing s with
  | nil => exact .of_same rfl
  | cons op ops ih =>
      have first : op ≠ .takeEvents := fun taking => h (taking ▸ List.mem_cons_self)
      have rest : .takeEvents ∉ ops := fun later => h (List.mem_cons_of_mem op later)
      obtain ⟨calm, told⟩ := (perform_moves calm first).queues calm
      exact told.trans (ih calm rest)

end Session

namespace App

/-- Notices queued later are shown before those queued earlier. -/
theorem lastNotice?_append (earlier later : List ViewEvent) :
    lastNotice? (earlier ++ later) = (lastNotice? later).or (lastNotice? earlier) := by
  unfold lastNotice?
  rw [List.filterMap_append, List.getLast?_append]

/-- Once the events are taken, the last notice that was queued is shown. -/
theorem toast?_takeEvents {a : App σ} {earlier told : List ViewEvent}
    (queued : a.session.events = earlier ++ told) {text : String}
    (notice : lastNotice? told = some text) :
    a.takeEvents.toast? = some { message := text } := by
  rw [takeEvents_eq, queued, lastNotice?_append, notice]
  rfl

variable [Analyzer σ]

theorem toast?_press (a : App σ) (k : Key) {told : List ViewEvent}
    (queued : (a.stirred (.press k)).events = a.session.events ++ told) {text : String}
    (notice : lastNotice? told = some text) :
    (a.press k).1.toast? = some { message := text } :=
  toast?_takeEvents queued notice

theorem toast?_start (a : App σ) {told : List ViewEvent}
    (queued : (a.stirred .start).events = a.session.events ++ told) {text : String}
    (notice : lastNotice? told = some text) : a.start.toast? = some { message := text } :=
  toast?_takeEvents (a := a.updateSession (·.goToStart)) queued notice

/-- A request says where it goes, whatever came of it. -/
theorem toast?_sync {a : App σ} {target : Address}
    (pending : a.board?.bind (·.pending?) = some target) :
    a.sync.toast? = some { message := s!"Seek {target} (MCP)" } := by
  rcases a.sync_eq with ⟨target', board?, pending', synced⟩ | ⟨nothing, -⟩
  · obtain rfl : target = target' := Option.some.inj (pending.symm.trans pending')
    rw [synced]
    rfl
  · exact nomatch pending.symm.trans nothing

/-- What an application shows of the notices that its view queues.  When it is started or a key
is pressed the last of them is shown, if there is one; when a request is taken up it is shown
where that goes, whatever was queued; and without a request nothing happens. -/
structure Announces (a : App σ) : Prop where
  own : ∀ op, (op = .start ∨ ∃ k, op = .press k) →
    ∃ told, (a.stirred op).events = a.session.events ++ told ∧
      ∀ text, lastNotice? told = some text → (a.perform op).toast? = some { message := text }
  request : ∀ target, a.board?.bind (·.pending?) = some target →
    ∃ told, (a.stirred .sync).events = a.session.events ++ told ∧
      (a.perform .sync).toast? = some { message := s!"Seek {target} (MCP)" }
  idle : a.board?.bind (·.pending?) = none → a.perform .sync = a

theorem announces_of_calm {a : App σ} (calm : a.session.Calm) : a.Announces := by
  have queued : ∀ op, ∃ told, (a.stirred op).events = a.session.events ++ told := by
    intro op
    obtain ⟨ops, stirred, untaken⟩ := a.stirred_ops op
    rw [stirred]
    exact Session.run_queues calm untaken
  refine ⟨?_, ?_, ?_⟩
  · rintro op (rfl | ⟨k, rfl⟩)
    · obtain ⟨told, more⟩ := queued .start
      exact ⟨told, more, fun text notice => toast?_start a more notice⟩
    · obtain ⟨told, more⟩ := queued (.press k)
      exact ⟨told, more, fun text notice => toast?_press a k more notice⟩
  · intro target pending
    obtain ⟨told, more⟩ := queued .sync
    exact ⟨told, more, toast?_sync pending⟩
  · intro nothing
    rcases a.sync_eq with ⟨target, _, pending, -⟩ | ⟨-, same⟩
    · exact nomatch nothing.symm.trans pending
    · exact same

/-- In every state that operations lead an application to, whatever the analyzer: starting it
and pressing a key show the last notice that the view queued meanwhile, and only taking up a
request from the board shows another message instead. -/
theorem run_notices (engine : σ) (config : Config) (templates : TemplateStore) (theme : Theme)
    (board? : Option Board) (ops : List Operation) :
    ((opening engine config templates theme board?).run ops).Announces := by
  obtain ⟨ops', same⟩ := (opening engine config templates theme board?).session_run ops
  refine announces_of_calm ?_
  rw [same]
  exact (Session.run_steps (Session.calm_new engine config templates) ops').1

/-- A request for a place outside the small image queues a notice that it does not load, and the
message says that it was gone to. -/
theorem sync_hides_notice :
    lastNotice? (((opening (Loaded.load .pair) {} .builtin {} (some {})).run
        [.request ⟨0x5000⟩]).stirred .sync).events =
      some "cannot load disassembly at 0x00005000: address 0x00005000 is outside the loaded program" ∧
    ((opening (Loaded.load .pair) {} .builtin {} (some {})).run
        [.request ⟨0x5000⟩, .sync]).toast? = some { message := "Seek 0x00005000 (MCP)" } := by
  decide +kernel

end App

end AsmView
