/-
# When everything is shown anew

`passAt?` has the session on which an operation makes its focus pass, for the operations that
make one; `perform_passes` says that there is no other pass in it, and that nothing but the
pass touches the watch.  The passes of a run and the announcements of a new analysis make up
its `past`, in which an earlier part alone decides whether a pass refills everything: the owner
of the line is another one than was last found out, or the analysis changed and nothing was
shown in full since.  `run_passes` is that for every run.
-/
import AsmView.Proofs.Session.Calls
import AsmView.Proofs.Session.Whole

namespace AsmView.Session

variable {σ : Type} [Analyzer σ]

/-! ## The session on which a pass is made -/

/-- The session that a reload has rewritten, before its focus pass. -/
def rewritten? (s : Session σ) : Option (Session σ) :=
  s.reloadTarget?.map fun target =>
    match (s.rewriting s.engine).replaceText target s.pending?.isNone with
    | (.error f, t) => (t.announce (refusal target f)).letGo
    | (.ok _, t) => { t with lastNotice? := none }.letGo

/-- The session as an operation finds it, and out of date where the analysis changed. -/
def primed {σ : Type} (s : Session σ) : Operation → Session σ
  | .showAnew => { s with watch := s.watch.markStale, cache := {}, announced := [] }
  | _ => s

/-- The session as the reload of an operation finds it. -/
def departing (s : Session σ) (op : Operation) (target : Address) : Session σ :=
  match op with
  | .refresh => s
  | .showAnew => s.primed .showAnew
  | .goBack => { s with history := s.history.tail, pending? := some target }
  | op => { s with engine := s.analyzerFor op, pending? := some target }

/-- The session on which moving the cursor makes a pass, if the cursor moves. -/
def moving? (s : Session σ) (c : Cursor) : Option (Session σ) :=
  if (s.listing.setCursor c).cursor = s.listing.cursor then none else some (s.withCursor c)

/-- The session on which an operation makes its focus pass, if it makes one. -/
def passAt? (s : Session σ) : Operation → Option (Session σ)
  | .updateFocus => some s
  | .raise .cursor => some { s with stats := { s.stats with delivered := s.stats.delivered + 1 } }
  | .placeCursor c => s.moving? c
  | .stepCursor delta =>
    s.moving? ⟨(s.listing.cursor.line + delta).toNat, s.listing.cursor.column⟩
  | op => (s.destination? op).bind fun target => (s.departing op target).rewritten?

/-! ## What passes leave to be done -/

/-- Nothing was done to the watch, and no pass was made. -/
structure Quiet (s t : Session σ) : Prop where
  watch : t.watch = s.watch
  passes : t.stats.focusPasses = s.stats.focusPasses
  full : t.stats.fullRefills = s.stats.fullRefills

omit [Analyzer σ] in
theorem Quiet.trans {s t u : Session σ} (h : s.Quiet t) (h' : t.Quiet u) : s.Quiet u :=
  ⟨h'.watch.trans h.watch, h'.passes.trans h.passes, h'.full.trans h.full⟩

/-- All that leads from one session to another is one focus pass on a given session, or none
when there is no such session. -/
def Passes (s t : Session σ) : Option (Session σ) → Prop
  | none => s.Quiet t
  | some u => s.Quiet u ∧ u.updateFocus.Quiet t

/-- Neither the watch nor the records of refills and failures were touched, and nothing that was
told is gone. -/
structure Aside (s t : Session σ) : Prop extends s.Quiet t where
  light : t.stats.lightRefills = s.stats.lightRefills
  announced : t.announced = s.announced
  events : s.events <+: t.events

/-- As `Passes`, with nothing else done but aside. -/
def Attends (s t : Session σ) : Option (Session σ) → Prop
  | none => s.Aside t
  | some u => s.Aside u ∧ u.updateFocus.Aside t

theorem Attends.passes {s t : Session σ} {u? : Option (Session σ)} (h : s.Attends t u?) :
    s.Passes t u? := by
  cases u? with
  | none => exact Aside.toQuiet h
  | some u => exact ⟨h.1.toQuiet, h.2.toQuiet⟩

section Aside

variable {σ : Type} {s t u : Session σ}

theorem Aside.of_kept (watch : t.watch = s.watch) (stats : t.stats = s.stats)
    (announced : t.announced = s.announced) (events : t.events = s.events) : s.Aside t :=
  ⟨⟨watch, by rw [stats], by rw [stats]⟩, by rw [stats], announced, events ▸ List.prefix_refl _⟩

theorem Aside.refl (s : Session σ) : s.Aside s :=
  .of_kept rfl rfl rfl rfl

theorem Aside.trans (h : s.Aside t) (h' : t.Aside u) : s.Aside u :=
  ⟨h.toQuiet.trans h'.toQuiet, h'.light.trans h.light, h'.announced.trans h.announced,
    h.events.trans h'.events⟩

theorem Aside.letGo (h : s.Aside t) : s.Aside t.letGo :=
  h.trans (.of_kept rfl rfl rfl rfl)

end Aside

theorem TextSteps.aside {s t : Session σ} (h : TextSteps s t) : s.Aside t := by
  obtain ⟨_, events, _, _, _, _, rfl⟩ := h.eq
  exact ⟨⟨rfl, rfl, rfl⟩, rfl, rfl, List.prefix_append s.events events⟩

theorem install_aside {s : Session σ} (silent : s.channels.Silenced) (target : Address)
    (batch : String) (cursor : Cursor) (top : Nat) :
    s.Aside (s.install target batch cursor top) := by
  obtain ⟨filled, grow, finish⟩ := install_steps silent target batch cursor top
  have restarted : s.Aside { s with toFeed := s.toFeed.restart target batch } :=
    .of_kept rfl rfl rfl rfl
  have placed : filled.Aside { filled with listing := filled.listing.setCursor cursor } :=
    .of_kept rfl rfl rfl rfl
  exact restarted.trans (grow.aside.trans (placed.trans finish.aside))

theorem replaceText_aside {s : Session σ} (silent : s.channels.Silenced) (target : Address)
    (hkeep : Bool) : s.Aside (s.replaceText target hkeep).2 := by
  rw [replaceText_eq]
  cases (Query.batchAt target s.config.batchSize).ask s.engine with
  | mk answer engine =>
      have asked : s.Aside { s with engine } := .of_kept rfl rfl rfl rfl
      cases answer with
      | error f => exact asked
      | ok batch =>
          exact asked.trans (install_aside (s := { s with engine }) silent target batch _ _)

/-- A reload makes one pass, on the session it has rewritten, if it has somewhere to go. -/
theorem reload_attends {s : Session σ} (rest : s.channels.AtRest) :
    s.Attends s.reload.1 s.rewritten? := by
  unfold rewritten?
  cases goal : s.reloadTarget? with
  | none =>
      rw [reload_nowhere goal]
      exact .of_kept rfl rfl rfl rfl
  | some target =>
      have started : s.Aside (s.rewriting s.engine) := .of_kept rfl rfl rfl rfl
      have replaced := replaceText_aside (s := s.rewriting s.engine) rest.silenced target
        s.pending?.isNone
      rw [Option.map_some]
      cases rewritten : (s.rewriting s.engine).replaceText target s.pending?.isNone with
      | mk result t =>
          rw [reload_of_replaceText goal rewritten]
          rw [rewritten] at replaced
          cases result with
          | error f =>
              have told : t.Aside (t.announce (refusal target f)) :=
                TextSteps.aside (.single (announce_step t _))
              exact ⟨started.trans (replaced.trans told.letGo), .refl _⟩
          | ok _ =>
              exact ⟨started.trans (replaced.trans (.of_kept rfl rfl rfl rfl)), .refl _⟩

/-! ## The passes of an operation -/

/-- An operation that reloads is a reload of the session it departs from, but for the history. -/
theorem perform_eq_reload {s : Session σ} {op : Operation} {target : Address}
    (h : s.destination? op = some target) :
    ∃ history, s.perform op = { (s.departing op target).reload.1 with history } := by
  -- what follows a navigation can only concern the history
  have gone : ∀ s : Session σ, ∃ history, s.goTo target =
      { ({ s with pending? := some target } : Session σ).reload.1 with history } := by
    intro s
    unfold goTo
    rw [show (s.request target).1 = { s with pending? := some target } from rfl]
    generalize ({ s with pending? := some target } : Session σ).reload = result
    obtain ⟨after, loaded⟩ := result
    dsimp only
    split
    · exact ⟨_, rfl⟩
    · exact ⟨_, rfl⟩
  cases op with
  | goToStart =>
      have start : Analyzer.start? s.engine = some target := h
      show ∃ history, s.goToStart = _
      rw [goToStart, start]
      exact ⟨_, rfl⟩
  | goTo place =>
      obtain rfl : place = target := Option.some.inj h
      exact gone s
  | goBack =>
      show ∃ history, s.goBack.1 = _
      unfold goBack departing
      cases history : s.history with
      | nil => simp [destination?, history] at h
      | cons place places =>
          obtain rfl : place = target := by simpa [destination?, history] using h
          dsimp only
          rw [show (({ s with history := places } : Session σ).request place).1 =
            { s with history := places, pending? := some place } from rfl, List.tail_cons]
          generalize ({ s with history := places, pending? := some place } : Session σ).reload =
            result
          obtain ⟨after, loaded⟩ := result
          cases loaded <;> exact ⟨_, rfl⟩
  | goToQuery query =>
      obtain ⟨found, resolved, rfl⟩ := Option.map_eq_some_iff.mp h
      show ∃ history, (s.goToQuery query).1 = _
      rw [goToQuery, resolved]
      exact gone s
  | refresh => exact ⟨_, rfl⟩
  | showAnew => exact ⟨_, rfl⟩
  | followTransfer =>
      have transfer : s.transfer? = some target := h
      show ∃ history, s.followTransfer.1 = _
      unfold transfer? at transfer
      unfold followTransfer departing analyzerFor
      cases line : s.listing.cursorLine? with
      | none => simp [line] at transfer
      | some text =>
          rw [line] at transfer
          dsimp only [Feed.ask] at transfer ⊢
          generalize (knownTarget text).ask s.engine = answer at transfer ⊢
          obtain ⟨result, engine⟩ := answer
          cases result with
          | error f => simp at transfer
          | ok target? =>
              obtain rfl : target? = some target := transfer
              exact gone { s with engine }
  | followRow direction index =>
      obtain ⟨entry, listed, rfl⟩ := Option.map_eq_some_iff.mp h
      show ∃ history, (s.followRow direction index).1 = _
      rw [followRow, listed]
      exact gone s
  | request _ => cases h
  | setHeight _ => cases h
  | scrollTo _ => cases h
  | scrollBy _ => cases h
  | placeCursor _ => cases h
  | stepCursor _ => cases h
  | raise _ => cases h
  | updateFocus => cases h
  | takeEvents => cases h

theorem aside_departing (s : Session σ) (op : Operation) (target : Address) :
    (s.primed op).Aside (s.departing op target) := by
  cases op <;> exact .of_kept rfl rfl rfl rfl

theorem Attends.congr {s s' t t' : Session σ} {u? : Option (Session σ)} (h : s.Attends t u?)
    (before : s'.Aside s) (after : t.Aside t') : s'.Attends t' u? := by
  cases u? with
  | none => exact before.trans (Aside.trans h after)
  | some u => exact ⟨before.trans h.1, h.2.trans after⟩

/-- A cursor that is moved is followed by one pass, and then the window. -/
theorem placeCursor_attends {s : Session σ} (calm : s.Calm) (c : Cursor) :
    s.Attends (s.placeCursor c) (s.moving? c) := by
  unfold placeCursor moving?
  by_cases still : (s.listing.setCursor c).cursor = s.listing.cursor
  · rw [if_pos still, if_pos still]
    exact .refl s
  · rw [if_neg still, if_neg still]
    have moved : s.setCursor c = (s.withCursor c).updateFocus := by
      unfold setCursor raise
      dsimp only
      rw [if_neg still, if_pos (calm.rest.attached .cursor)]
      rfl
    dsimp only
    rw [moved]
    refine ⟨⟨⟨rfl, rfl, rfl⟩, rfl, rfl, List.prefix_refl _⟩, ?_⟩
    split
    · exact (setTop_steps _ _).aside
    · split
      · exact (setTop_steps _ _).aside
      · exact .refl _

/-- An operation that takes no events makes at most one focus pass, on the session that `passAt?`
has for it, and does the rest aside, but where the analysis changed. -/
theorem perform_attends {s : Session σ} (calm : s.Calm) {op : Operation}
    (keeps : op ≠ .takeEvents) : (s.primed op).Attends (s.perform op) (s.passAt? op) := by
  cases going : s.destination? op with
  | some target =>
      obtain ⟨history, performed⟩ := perform_eq_reload going
      have rest : (s.departing op target).channels.AtRest := by
        cases op <;> exact calm.rest
      have at_ : s.passAt? op = (s.departing op target).rewritten? := by
        have bound := congrArg (·.bind fun target => (s.departing op target).rewritten?) going
        cases op <;> first | exact bound | exact absurd going (by simp [destination?])
      rw [at_, performed]
      exact (reload_attends rest).congr (s.aside_departing op target) (.of_kept rfl rfl rfl rfl)
  | none =>
      have nowhere : ∀ t : Session σ, (s.primed op).Aside t →
          (s.primed op).Attends t ((s.destination? op).bind fun target =>
            (s.departing op target).rewritten?) := by
        intro t aside
        rw [going]
        exact aside
      have homeless : op.Navigates → s.Aside (s.perform op) :=
        fun navigates => (perform_steps_of_nowhere navigates going).aside
      cases op with
      | request target => exact .of_kept rfl rfl rfl rfl
      | refresh =>
          refine nowhere _ ?_
          show s.Aside s.reload.1
          rw [reload_nowhere going]
          exact .of_kept rfl rfl rfl rfl
      | showAnew =>
          refine nowhere _ ?_
          show (s.primed .showAnew).Aside (s.primed .showAnew).reload.1
          rw [reload_nowhere (s := s.primed .showAnew) going]
          exact .of_kept rfl rfl rfl rfl
      | setHeight height => exact (TextMove.resized s height).steps.aside
      | scrollTo top => exact (setTop_steps s top).aside
      | scrollBy delta => exact (setTop_steps s _).aside
      | placeCursor c => exact placeCursor_attends calm c
      | stepCursor delta => exact placeCursor_attends calm _
      | raise channel =>
          cases channel with
          | scroll => exact (raise_scroll_steps s).aside
          | cursor =>
              have attached := calm.rest.attached .cursor
              show s.Attends (s.raise .cursor) _
              unfold raise
              rw [if_pos attached]
              exact ⟨⟨⟨rfl, rfl, rfl⟩, rfl, rfl, List.prefix_refl _⟩, .refl _⟩
      | updateFocus => exact ⟨.refl s, .refl _⟩
      | takeEvents => exact absurd rfl keeps
      | _ => exact nowhere _ (homeless trivial)

/-- An operation makes at most one focus pass, on the session that `passAt?` has for it, and
does nothing else to the watch but put it out of date where the analysis changed. -/
theorem perform_passes {s : Session σ} (calm : s.Calm) (op : Operation) :
    (s.primed op).Passes (s.perform op) (s.passAt? op) := by
  by_cases takes : op = .takeEvents
  · subst takes
    exact ⟨rfl, rfl, rfl⟩
  · exact (perform_attends calm takes).passes

/-! ## The past of a run -/

/-- What happened in a run, as far as the extent of refills depends on it. -/
inductive Happening where
  /-- The analysis changed. -/
  | renewed
  /-- A focus pass was made, which refilled everything or not. -/
  | passed (sighting : Sighting) (full : Bool)
deriving DecidableEq, Repr

namespace Happening

/-- The owner that a pass found out. -/
def name? : Happening → Option String
  | .renewed => none
  | .passed sighting _ => sighting.name?

/-- Whether it was a focus pass. -/
def isPass : Happening → Bool
  | .renewed => false
  | .passed _ _ => true

/-- Whether it was a pass that refilled everything. -/
def isFull : Happening → Bool
  | .renewed => false
  | .passed _ full => full

end Happening

/-- What an operation adds to the past. -/
def happenings (s : Session σ) (op : Operation) : List Happening :=
  (match op with
    | .showAnew => [.renewed]
    | _ => []) ++ ((s.passAt? op).map fun u => .passed u.sighting u.refillsAll).toList

/-- What happens in a row of operations, in this order. -/
def past (s : Session σ) : List Operation → List Happening
  | [] => []
  | op :: ops => s.happenings op ++ (s.perform op).past ops

/-- The owner that was found out last; empty before the first. -/
def lastName (past : List Happening) : String :=
  (past.filterMap Happening.name?).getLast?.getD ""

/-- The analysis changed, and nothing was shown in full since. -/
def Outstanding (past : List Happening) : Prop :=
  ∃ before after, past = before ++ .renewed :: after ∧ ∀ h ∈ after, h.isFull = false

/-- What decides whether a pass refills everything: it finds out an owner, and that is another
one than the last, or a change of the analysis is outstanding. -/
def Warrants (before : List Happening) (sighting : Sighting) : Prop :=
  ∃ name, sighting.name? = some name ∧ (name ≠ lastName before ∨ Outstanding before)

/-- Exactly the passes that have reason to refill everything do so. -/
def Lawful (past : List Happening) : Prop :=
  ∀ before sighting full after, past = before ++ .passed sighting full :: after →
    (full = true ↔ Warrants before sighting)

theorem eq_of_append_singleton {α : Type} {past before after : List α} {h k : α}
    (same : past ++ [h] = before ++ k :: after) :
    (past = before ∧ h = k ∧ after = []) ∨
      ∃ rest, after = rest ++ [h] ∧ past = before ++ k :: rest := by
  rcases List.eq_nil_or_concat after with rfl | ⟨rest, last, rfl⟩
  · obtain ⟨rfl, last⟩ := List.append_inj' same rfl
    exact .inl ⟨rfl, List.head_eq_of_cons_eq last, rfl⟩
  · rw [List.concat_eq_append] at same ⊢
    rw [← List.cons_append, ← List.append_assoc] at same
    obtain ⟨rfl, last⟩ := List.append_inj' same rfl
    obtain rfl := List.head_eq_of_cons_eq last
    exact .inr ⟨rest, rfl, rfl⟩

theorem outstanding_append {past : List Happening} {h : Happening} :
    Outstanding (past ++ [h]) ↔ h = .renewed ∨ Outstanding past ∧ h.isFull = false := by
  constructor
  · rintro ⟨before, after, same, light⟩
    rcases eq_of_append_singleton same with ⟨-, rfl, -⟩ | ⟨rest, rfl, rfl⟩
    · exact .inl rfl
    · refine .inr ⟨⟨before, rest, rfl, fun k hk => ?_⟩, ?_⟩
      · exact light k (List.mem_append_left _ hk)
      · exact light h (List.mem_append_right _ List.mem_cons_self)
  · rintro (rfl | ⟨⟨before, after, rfl, light⟩, last⟩)
    · exact ⟨past, [], rfl, nofun⟩
    · refine ⟨before, after ++ [h], by rw [List.append_assoc, List.cons_append], ?_⟩
      intro k hk
      rcases List.mem_append.mp hk with earlier | now
      · exact light k earlier
      · obtain rfl := List.mem_singleton.mp now
        exact last

theorem lastName_append (past : List Happening) (h : Happening) :
    lastName (past ++ [h]) = h.name?.getD (lastName past) := by
  unfold lastName
  rw [List.filterMap_append]
  cases name : h.name? with
  | none => simp [name]
  | some name' => simp [name]

theorem Lawful.append {past : List Happening} (lawful : Lawful past) {h : Happening}
    (last : ∀ sighting full, h = .passed sighting full →
      (full = true ↔ Warrants past sighting)) : Lawful (past ++ [h]) := by
  intro before sighting full after same
  rcases eq_of_append_singleton same with ⟨rfl, rfl, -⟩ | ⟨rest, rfl, rfl⟩
  · exact last sighting full rfl
  · exact lawful before sighting full rest rfl

/-! ## The past decides -/

/-- The watch of a session, and its counts, are what the past makes of them. -/
structure Remembers (s : Session σ) (past : List Happening) : Prop where
  lawful : Lawful past
  function : s.watch.focus.function = lastName past
  stale : s.watch.stale = true ↔ Outstanding past
  passes : s.stats.focusPasses = past.countP Happening.isPass
  full : s.stats.fullRefills = past.countP Happening.isFull

omit [Analyzer σ] in
theorem Remembers.of_quiet {s t : Session σ} {past : List Happening} (h : s.Remembers past)
    (quiet : s.Quiet t) : t.Remembers past where
  lawful := h.lawful
  function := (congrArg (·.focus.function) quiet.watch).trans h.function
  stale := by
    rw [quiet.watch]
    exact h.stale
  passes := quiet.passes.trans h.passes
  full := quiet.full.trans h.full

omit [Analyzer σ] in
/-- A new analysis puts the watch out of date. -/
theorem Remembers.renewed {s : Session σ} {past : List Happening} (h : s.Remembers past) :
    (s.primed .showAnew).Remembers (past ++ [.renewed]) where
  lawful := h.lawful.append nofun
  function := h.function.trans (lastName_append past .renewed).symm
  stale := iff_of_true rfl (outstanding_append.mpr (.inl rfl))
  passes := h.passes.trans (by simp [Happening.isPass])
  full := h.full.trans (by simp [Happening.isFull])

/-- A pass counts by what it found and by what it refilled. -/
theorem Remembers.passed {s : Session σ} {past : List Happening} (h : s.Remembers past) :
    s.updateFocus.Remembers (past ++ [.passed s.sighting s.refillsAll]) where
  lawful := by
    refine h.lawful.append ?_
    rintro _ _ ⟨⟩
    rw [refillsAll_iff, h.function, h.stale]
    exact Iff.rfl
  function := by
    rw [function_updateFocus, h.function]
    exact (lastName_append past (.passed s.sighting s.refillsAll)).symm
  stale := by
    rw [stale_updateFocus, outstanding_append, ← h.stale]
    simp [Happening.isFull]
  passes := by
    rw [focusPasses_updateFocus, h.passes]
    simp [Happening.isPass]
  full := by
    rw [fullRefills_updateFocus, h.full]
    cases s.refillsAll <;> simp [Happening.isFull]

theorem Remembers.passAt {s t : Session σ} {past : List Happening} {u? : Option (Session σ)}
    (h : s.Remembers past) (passes : s.Passes t u?) :
    t.Remembers (past ++ (u?.map fun u => Happening.passed u.sighting u.refillsAll).toList) := by
  cases u? with
  | none =>
      rw [Option.map_none, Option.toList_none, List.append_nil]
      exact h.of_quiet passes
  | some u => exact (h.of_quiet passes.1).passed.of_quiet passes.2

theorem perform_remembers {s : Session σ} (calm : s.Calm) {past : List Happening}
    (h : s.Remembers past) (op : Operation) :
    (s.perform op).Remembers (past ++ s.happenings op) := by
  have passes := perform_passes calm op
  unfold happenings
  rw [← List.append_assoc]
  refine Remembers.passAt ?_ passes
  cases op with
  | showAnew => exact h.renewed
  | _ =>
      rw [List.append_nil]
      exact h

theorem run_remembers {s : Session σ} (calm : s.Calm) {before : List Happening}
    (h : s.Remembers before) (ops : List Operation) :
    (s.run ops).Remembers (before ++ s.past ops) := by
  induction ops generalizing s before with
  | nil =>
      rw [past, List.append_nil]
      exact h
  | cons op ops ih =>
      rw [past, ← List.append_assoc]
      exact ih (run_steps calm [op]).1 (perform_remembers calm h op)

omit [Analyzer σ] in
theorem remembers_new (engine : σ) (config : Config) (templates : TemplateStore) :
    (Session.new engine config templates).Remembers [] where
  lawful := by
    intro before sighting full after same
    exact absurd same (by simp)
  function := rfl
  stale := iff_of_false Bool.false_ne_true (by
    rintro ⟨before, after, same, -⟩
    exact absurd same (by simp))
  passes := rfl
  full := rfl

/-- In every run, whatever the analyzer answers: a focus pass refills everything exactly when it
finds out the owner of the line and that is another one than was found out last, or the analysis
changed and nothing was refilled in full since; the watch and the counts of the session are those
of the past.  Passes that do not find out an owner leave the watch alone, and all passes ask the
analyzer no more than they may. -/
theorem run_passes (engine : σ) (config : Config) (templates : TemplateStore)
    (ops : List Operation) :
    ((Session.new engine config templates).run ops).Remembers
        ((Session.new engine config templates).past ops) ∧
      ∀ s : Session σ, s.PassCalls ∧
        (s.sighting.name? = none → s.updateFocus.watch = s.watch) := by
  refine ⟨?_, fun s => ⟨s.passCalls_lawful, watch_updateFocus_of_unresolved⟩⟩
  exact run_remembers (calm_new engine config templates) (remembers_new engine config templates) ops

end AsmView.Session
