/-
# The failure of a panel is announced once

A panel that fails is news until it was told, and becomes news again when the panel is given a
content or the analysis changes; a panel that is merely cleared makes no news.  The incidents
of a run are what this is about, in the order in which they happen: where a panel fails,
whatever applying the failure put in the queue of events is part of the incident.  `Chronicled`
is what each of them keeps: the failures that a session takes for announced are those that the
earlier incidents announced, and so are the numbers of its refills.  What the incidents queued
is found, in this order, among the events of the run.
-/
import AsmView.Proofs.Loaded
import AsmView.Proofs.Session.Passes
import AsmView.Proofs.Session.Stream

namespace AsmView.Session

open Refill

/-! ## Incidents -/

/-- What happens in a run, as far as the announcement of failures depends on it. -/
inductive Incident where
  /-- The analysis changed. -/
  | renewed
  /-- A refill began. -/
  | refilled (scope : Scope)
  /-- A panel was given a content. -/
  | filled (panel : Panel)
  /-- A panel failed, and events were queued because of it. -/
  | failed (panel : Panel) (fault : PanelFault) (queued : List ViewEvent)
deriving DecidableEq, Repr

namespace Incident

/-- The failures of a panel are news again. -/
def Rearms (k : Panel) : Incident → Prop
  | .renewed => True
  | .filled j => j = k
  | .refilled _ => False
  | .failed _ _ _ => False

def panel? : Incident → Option Panel
  | .filled k => some k
  | .failed k _ _ => some k
  | _ => none

/-- The events that a failure queued. -/
def queued : Incident → List ViewEvent
  | .failed _ _ queued => queued
  | _ => []

/-- What an update of a panel adds to the incidents. -/
def ofUpdate? : PanelUpdate → Option Incident
  | .fill c => some (.filled c.panel)
  | .clear _ => none

end Incident

/-- A failure of the kind was announced for the panel, and has not become news again since. -/
def Announced (past : List Incident) (k : Panel) (kind : PanelFault.Kind) : Prop :=
  ∃ before fault queued after, past = before ++ .failed k fault queued :: after ∧
    fault.kind = kind ∧ queued ≠ [] ∧ ∀ i ∈ after, ¬ i.Rearms k

/-- The notice of a failure. -/
def failureNotice (k : Panel) (fault : PanelFault) : ViewEvent :=
  .notice s!"{k.name} panel: {fault.message}"

/-- What a failure may queue: nothing when it was announced, and else its notice. -/
def Due (past : List Incident) (k : Panel) (fault : PanelFault) (queued : List ViewEvent) : Prop :=
  (Announced past k fault.kind → queued = []) ∧
    (¬ Announced past k fault.kind → queued = [failureNotice k fault])

/-- Every failure queues what is due. -/
def Sparing (past : List Incident) : Prop :=
  ∀ before k fault queued after, past = before ++ .failed k fault queued :: after →
    Due before k fault queued

/-- Failures are announced at most once until they are news again, and then they are. -/
structure Announcing (past : List Incident) : Prop where
  once : ∀ before between after k fault fault' queued queued',
    past = before ++ .failed k fault queued :: (between ++ .failed k fault' queued' :: after) →
    fault.kind = fault'.kind → queued ≠ [] → queued' ≠ [] → ∃ i ∈ between, i.Rearms k
  always : ∀ before k fault queued after, past = before ++ .failed k fault queued :: after →
    ¬ Announced before k fault.kind → queued = [failureNotice k fault]

theorem Sparing.announcing {past : List Incident} (h : Sparing past) : Announcing past where
  always before k fault queued after cut := (h before k fault queued after cut).2
  once := by
    intro before between after k fault fault' queued queued' cut kind told told'
    by_contra none
    have quiet : ∀ i ∈ between, ¬ i.Rearms k := fun i hi rearms => none ⟨i, hi, rearms⟩
    have due := h (before ++ .failed k fault queued :: between) k fault' queued' after
      (by rw [cut, List.append_assoc, List.cons_append])
    exact told' (due.1 ⟨before, fault, queued, between, rfl, kind, told, quiet⟩)

theorem announced_append {past : List Incident} {i : Incident} {k : Panel}
    {kind : PanelFault.Kind} :
    Announced (past ++ [i]) k kind ↔
      (∃ fault queued, i = .failed k fault queued ∧ fault.kind = kind ∧ queued ≠ []) ∨
        Announced past k kind ∧ ¬ i.Rearms k := by
  constructor
  · rintro ⟨before, fault, queued, after, same, rfl, told, quiet⟩
    rcases eq_of_append_singleton same with ⟨-, rfl, -⟩ | ⟨rest, rfl, rfl⟩
    · exact .inl ⟨fault, queued, rfl, rfl, told⟩
    · refine .inr ⟨⟨before, fault, queued, rest, rfl, rfl, told, fun j hj => ?_⟩, ?_⟩
      · exact quiet j (List.mem_append_left _ hj)
      · exact quiet i (List.mem_append_right _ List.mem_cons_self)
  · rintro (⟨fault, queued, rfl, rfl, told⟩ |
      ⟨⟨before, fault, queued, after, rfl, rfl, told, quiet⟩, last⟩)
    · exact ⟨past, fault, queued, [], rfl, rfl, told, nofun⟩
    · refine ⟨before, fault, queued, after ++ [i], ?_, rfl, told, fun j hj => ?_⟩
      · rw [List.append_assoc, List.cons_append]
      · rcases List.mem_append.mp hj with earlier | now
        · exact quiet j earlier
        · exact List.mem_singleton.mp now ▸ last

theorem Sparing.append {past : List Incident} (h : Sparing past) {i : Incident}
    (due : ∀ k fault queued, i = .failed k fault queued → Due past k fault queued) :
    Sparing (past ++ [i]) := by
  intro before k fault queued after same
  rcases eq_of_append_singleton same with ⟨rfl, rfl, -⟩ | ⟨rest, rfl, rfl⟩
  · exact due k fault queued rfl
  · exact h before k fault queued rest rfl

/-! ## The incidents of a run -/

section Incidents

variable {σ : Type}

/-- The incidents of failures that are applied one after the other. -/
def failureIncidents (s : Session σ) : List (Panel × PanelFault) → List Incident
  | [] => []
  | failure :: rest =>
    .failed failure.1 failure.2 ((s.applyFailure failure).events.drop s.events.length) ::
      (s.applyFailure failure).failureIncidents rest

variable [Analyzer σ]

/-- The session of a refill, when the panels were asked about and none was updated. -/
def refilling (s : Session σ) (e : FocusEvent) (scope : Scope) : Session σ :=
  let desk := (Refill.run s.settings e scope ⟨s.engine, {}⟩).2
  { s with
    engine := desk.engine
    cache := desk.cache
    stats := match scope with
      | .full => { s.stats with fullRefills := s.stats.fullRefills + 1 }
      | .perAddress => { s.stats with lightRefills := s.stats.lightRefills + 1 } }

/-- The session of a refill, when the panels that did not fail were updated. -/
def written (s : Session σ) (e : FocusEvent) (scope : Scope) : Session σ :=
  (s.report e scope).writes.foldl applyUpdate (s.refilling e scope)

theorem refill_eq_foldl (s : Session σ) (e : FocusEvent) (scope : Scope) :
    s.refill e scope = (s.report e scope).failures.foldl applyFailure (s.written e scope) :=
  rfl

/-- The incidents of a refill. -/
def refillIncidents (s : Session σ) (e : FocusEvent) (scope : Scope) : List Incident :=
  .refilled scope :: ((s.report e scope).writes.filterMap Incident.ofUpdate? ++
    (s.written e scope).failureIncidents (s.report e scope).failures)

/-- The incidents of a focus pass. -/
def passIncidents (s : Session σ) : List Incident :=
  let (outcome, watch, engine) := s.watch.observe s.listing.cursorLine? s.engine
  let s := { s with
    watch, engine, stats := { s.stats with focusPasses := s.stats.focusPasses + 1 } }
  match outcome with
  | .ok (.sameFunction e) => s.refillIncidents e .perAddress
  | .ok (.functionChanged e) => s.refillIncidents e .full
  | .ok .ignored => []
  | .error _ => []

/-- What the announcement of a new analysis adds to the incidents. -/
def Operation.renewal : Operation → List Incident
  | .showAnew => [.renewed]
  | _ => []

/-- What an operation adds to the incidents. -/
def incidents (s : Session σ) (op : Operation) : List Incident :=
  op.renewal ++ ((s.passAt? op).map passIncidents).getD []

/-- The incidents of a row of operations, in this order. -/
def chronicle (s : Session σ) : List Operation → List Incident
  | [] => []
  | op :: ops => s.incidents op ++ (s.perform op).chronicle ops

end Incidents

/-! ## The incidents decide -/

variable {σ : Type}

/-- What a session takes for announced, and its counts of refills, are what the incidents make
of them, and every failure among these queued what was due. -/
structure Chronicled (s : Session σ) (past : List Incident) : Prop where
  sparing : Sparing past
  announced : ∀ k kind, (k, kind) ∈ s.announced ↔ Announced past k kind
  full : s.stats.fullRefills = past.count (.refilled .full)
  light : s.stats.lightRefills = past.count (.refilled .perAddress)

section Parts

variable {s t : Session σ} {past : List Incident}

theorem Chronicled.of_aside (h : s.Chronicled past) (aside : s.Aside t) : t.Chronicled past where
  sparing := h.sparing
  announced := by
    rw [aside.announced]
    exact h.announced
  full := aside.full.trans h.full
  light := aside.light.trans h.light

/-- A new analysis makes every failure news. -/
theorem Chronicled.renewed (h : s.Chronicled past) :
    (s.primed .showAnew).Chronicled (past ++ [.renewed]) where
  sparing := h.sparing.append nofun
  announced k kind := by
    rw [announced_append]
    refine iff_of_false (List.not_mem_nil) ?_
    rintro (⟨_, _, same, -⟩ | ⟨-, last⟩)
    · exact nomatch same
    · exact last trivial
  full := h.full.trans (by simp)
  light := h.light.trans (by simp)

/-- An update makes the failures of its panel news when it gives the panel a content. -/
theorem Chronicled.update (h : s.Chronicled past) (w : PanelUpdate) :
    (s.applyUpdate w).Chronicled (past ++ (Incident.ofUpdate? w).toList) := by
  cases w with
  | clear k =>
      rw [show (Incident.ofUpdate? (.clear k)).toList = [] from rfl, List.append_nil]
      exact ⟨h.sparing, h.announced, h.full, h.light⟩
  | fill c =>
      refine ⟨h.sparing.append nofun, fun k kind => ?_, h.full.trans ?_, h.light.trans ?_⟩
      · show (k, kind) ∈ s.announced.filter (·.1 ≠ c.panel) ↔
          Announced (past ++ [.filled c.panel]) k kind
        rw [List.mem_filter, h.announced, announced_append]
        constructor
        · rintro ⟨told, other⟩
          exact .inr ⟨told, fun same => of_decide_eq_true other same.symm⟩
        · rintro (⟨_, _, same, -⟩ | ⟨told, other⟩)
          · exact nomatch same
          · exact ⟨told, decide_eq_true fun same => other same.symm⟩
      · simp [Incident.ofUpdate?]
      · simp [Incident.ofUpdate?]

theorem Chronicled.updates (h : s.Chronicled past) (ws : List PanelUpdate) :
    (ws.foldl applyUpdate s).Chronicled (past ++ ws.filterMap Incident.ofUpdate?) := by
  induction ws generalizing s past with
  | nil => rwa [List.filterMap_nil, List.append_nil]
  | cons w ws ih =>
      have rest := ih (h.update w)
      rw [List.append_assoc] at rest
      cases made : Incident.ofUpdate? w with
      | none =>
          rw [made] at rest
          rwa [List.filterMap_cons_none made]
      | some i =>
          rw [made] at rest
          rwa [List.filterMap_cons_some made]

/-- A failure queues its notice and is taken for announced, unless it was already. -/
theorem Chronicled.failure (h : s.Chronicled past) (failure : Panel × PanelFault) :
    (s.applyFailure failure).Chronicled (past ++ [.failed failure.1 failure.2
      ((s.applyFailure failure).events.drop s.events.length)]) := by
  obtain ⟨k, fault⟩ := failure
  have known := h.announced k fault.kind
  unfold applyFailure
  dsimp only
  by_cases told : (k, fault.kind) ∈ s.announced
  · -- It was announced, and nothing is queued.
    rw [if_pos (List.contains_iff_mem.mpr told)]
    have nothing : s.events.drop s.events.length = [] := List.drop_length
    refine ⟨h.sparing.append ?_, fun j kind => ?_, h.full.trans ?_, h.light.trans ?_⟩
    · rintro _ _ _ ⟨⟩
      exact ⟨fun _ => nothing, fun new => absurd (known.mp told) new⟩
    · refine (h.announced j kind).trans ?_
      rw [announced_append]
      constructor
      · exact fun old => .inr ⟨old, id⟩
      · rintro (⟨_, _, same, -, hevent⟩ | ⟨old, -⟩)
        · obtain ⟨-, -, rfl⟩ := Incident.failed.inj same
          exact absurd nothing hevent
        · exact old
    · simp
    · simp
  · -- It is news, and is announced now.
    rw [if_neg (by rwa [List.contains_iff_mem])]
    have queued : (s.events ++ [failureNotice k fault]).drop s.events.length =
        [failureNotice k fault] := List.drop_left
    refine ⟨h.sparing.append ?_, fun j kind => ?_, h.full.trans ?_, h.light.trans ?_⟩
    · rintro _ _ _ ⟨⟩
      exact ⟨fun old => absurd (known.mpr old) told, fun _ => queued⟩
    · show (j, kind) ∈ s.announced ++ [(k, fault.kind)] ↔ _
      rw [announced_append, List.mem_append, List.mem_singleton, h.announced]
      constructor
      · rintro (old | new)
        · exact .inr ⟨old, id⟩
        · obtain ⟨rfl, rfl⟩ := Prod.mk.inj new
          refine .inl ⟨fault, _, rfl, rfl, ?_⟩
          show (s.events ++ [failureNotice j fault]).drop s.events.length ≠ []
          rw [queued]
          exact List.cons_ne_nil _ _
      · rintro (⟨_, _, same, kinds, -⟩ | ⟨old, -⟩)
        · obtain ⟨rfl, rfl, -⟩ := Incident.failed.inj same
          exact .inr (by rw [kinds])
        · exact .inl old
    · simp
    · simp

theorem Chronicled.failures (h : s.Chronicled past) (failures : List (Panel × PanelFault)) :
    (failures.foldl applyFailure s).Chronicled (past ++ s.failureIncidents failures) := by
  induction failures generalizing s past with
  | nil => rwa [failureIncidents, List.append_nil]
  | cons failure rest ih =>
      have later := ih (h.failure failure)
      rwa [List.append_assoc] at later

variable [Analyzer σ]

theorem Chronicled.refilling (h : s.Chronicled past) (e : FocusEvent) (scope : Scope) :
    (s.refilling e scope).Chronicled (past ++ [.refilled scope]) where
  sparing := h.sparing.append nofun
  announced k kind := by
    rw [announced_append]
    refine (h.announced k kind).trans ⟨fun old => .inr ⟨old, id⟩, ?_⟩
    rintro (⟨_, _, same, -⟩ | ⟨old, -⟩)
    · exact nomatch same
    · exact old
  full := by cases scope <;> simp [Session.refilling, h.full]
  light := by cases scope <;> simp [Session.refilling, h.light]

theorem Chronicled.refill (h : s.Chronicled past) (e : FocusEvent) (scope : Scope) :
    (s.refill e scope).Chronicled (past ++ s.refillIncidents e scope) := by
  have applied := ((h.refilling e scope).updates (s.report e scope).writes).failures
    (s.report e scope).failures
  rw [refill_eq_foldl, refillIncidents]
  rwa [List.append_assoc, List.append_assoc, List.singleton_append] at applied

theorem Chronicled.updateFocus (h : s.Chronicled past) :
    s.updateFocus.Chronicled (past ++ s.passIncidents) := by
  unfold Session.updateFocus passIncidents
  dsimp only
  generalize s.watch.observe s.listing.cursorLine? s.engine = result
  obtain ⟨outcome, watch, engine⟩ := result
  let s₁ : Session σ := { s with
    watch, engine, stats := { s.stats with focusPasses := s.stats.focusPasses + 1 } }
  have looked : s₁.Chronicled past := ⟨h.sparing, h.announced, h.full, h.light⟩
  cases outcome with
  | error f =>
      dsimp only
      rw [List.append_nil]
      exact looked.of_aside (TextSteps.aside (.single (announce_step s₁ _)))
  | ok finding =>
      cases finding with
      | ignored =>
          dsimp only
          rwa [List.append_nil]
      | sameFunction e =>
          have refilled := looked.refill e .perAddress
          dsimp only
          split
          · exact refilled
          · exact ⟨refilled.sparing, refilled.announced, refilled.full, refilled.light⟩
      | functionChanged e =>
          have refilled := looked.refill e .full
          dsimp only [emit]
          exact ⟨refilled.sparing, refilled.announced, refilled.full, refilled.light⟩

end Parts

/-! ## Every operation -/

variable [Analyzer σ]

theorem Chronicled.attends {s t : Session σ} {past : List Incident} {u? : Option (Session σ)}
    (h : s.Chronicled past) (attends : s.Attends t u?) :
    t.Chronicled (past ++ (u?.map passIncidents).getD []) := by
  cases u? with
  | none =>
      rw [Option.map_none, Option.getD_none, List.append_nil]
      exact h.of_aside attends
  | some u => exact (h.of_aside attends.1).updateFocus.of_aside attends.2

theorem perform_chronicled {s : Session σ} (calm : s.Calm) {past : List Incident}
    (h : s.Chronicled past) (op : Operation) :
    (s.perform op).Chronicled (past ++ s.incidents op) := by
  by_cases takes : op = .takeEvents
  · subst takes
    rw [show s.incidents .takeEvents = [] from rfl, List.append_nil]
    exact ⟨h.sparing, h.announced, h.full, h.light⟩
  · have attends := perform_attends calm takes
    rw [incidents, ← List.append_assoc]
    refine Chronicled.attends ?_ attends
    cases op with
    | showAnew => exact h.renewed
    | _ => exact (List.append_nil past).symm ▸ h

theorem run_chronicled {s : Session σ} (calm : s.Calm) {past : List Incident}
    (h : s.Chronicled past) (ops : List Operation) :
    (s.run ops).Chronicled (past ++ s.chronicle ops) := by
  induction ops generalizing s past with
  | nil =>
      rw [chronicle, List.append_nil]
      exact h
  | cons op ops ih =>
      rw [chronicle, ← List.append_assoc]
      exact ih (perform_keeps calm op).1 (perform_chronicled calm h op)

omit [Analyzer σ] in
theorem chronicled_new (engine : σ) (config : Config) (templates : TemplateStore) :
    (Session.new engine config templates).Chronicled [] where
  sparing := by
    intro before k fault queued after same
    exact absurd same (by simp)
  announced k kind := by
    refine iff_of_false List.not_mem_nil ?_
    rintro ⟨before, fault, queued, after, same, -⟩
    exact absurd same (by simp)
  full := rfl
  light := rfl

/-! ## What the incidents queue -/

/-- The second session has queued these events behind what the first one has, and others
around them. -/
def Enqueues (queued : List ViewEvent) (s t : Session σ) : Prop :=
  ∃ more, t.events = s.events ++ more ∧ queued.Sublist more

section Enqueues

variable {s t u : Session σ} {queued queued' : List ViewEvent}

omit [Analyzer σ]

theorem Enqueues.trans (h : Enqueues queued s t) (h' : Enqueues queued' t u) :
    Enqueues (queued ++ queued') s u := by
  obtain ⟨more, first, inside⟩ := h
  obtain ⟨more', second, inside'⟩ := h'
  exact ⟨more ++ more', by rw [second, first, List.append_assoc], inside.append inside'⟩

theorem Aside.enqueues (h : s.Aside t) : Enqueues [] s t := by
  obtain ⟨more, same⟩ := h.events
  exact ⟨more, same.symm, List.nil_sublist more⟩

/-- The failures of a refill queue what their incidents say. -/
theorem events_failures (s : Session σ) (failures : List (Panel × PanelFault)) :
    (failures.foldl applyFailure s).events =
      s.events ++ (s.failureIncidents failures).flatMap Incident.queued := by
  induction failures generalizing s with
  | nil => rw [failureIncidents, List.flatMap_nil, List.append_nil]; rfl
  | cons failure rest ih =>
      obtain ⟨announced, events, applied⟩ := applyFailure_eq s failure
      have more : (s.applyFailure failure).events =
          s.events ++ (s.applyFailure failure).events.drop s.events.length := by
        rw [applied]
        exact congrArg (s.events ++ ·) List.drop_left.symm
      rw [List.foldl_cons, ih, failureIncidents, List.flatMap_cons, ← List.append_assoc]
      exact congrArg (· ++ _) more

theorem queued_ofUpdate (ws : List PanelUpdate) :
    (ws.filterMap Incident.ofUpdate?).flatMap Incident.queued = [] := by
  rw [List.flatMap_eq_nil_iff]
  intro i hi
  obtain ⟨w, -, made⟩ := List.mem_filterMap.mp hi
  cases w with
  | fill c =>
      obtain rfl := Option.some.inj made
      rfl
  | clear k => exact nomatch made

end Enqueues

/-- A refill queues what its incidents say, and nothing else. -/
theorem events_refill (s : Session σ) (e : FocusEvent) (scope : Scope) :
    (s.refill e scope).events =
      s.events ++ (s.refillIncidents e scope).flatMap Incident.queued := by
  have written : (s.written e scope).events = s.events := by
    obtain ⟨announced, filled⟩ := foldl_applyUpdate (s.refilling e scope) (s.report e scope).writes
    rw [Session.written, filled]
    rfl
  rw [refill_eq_foldl, events_failures, written, refillIncidents, List.flatMap_cons,
    List.flatMap_append, queued_ofUpdate]
  rfl

theorem passIncidents_queued (s : Session σ) :
    Enqueues (s.passIncidents.flatMap Incident.queued) s s.updateFocus := by
  unfold updateFocus passIncidents
  dsimp only
  generalize s.watch.observe s.listing.cursorLine? s.engine = result
  obtain ⟨outcome, watch, engine⟩ := result
  let s₁ : Session σ := { s with
    watch, engine, stats := { s.stats with focusPasses := s.stats.focusPasses + 1 } }
  cases outcome with
  | error f =>
      have told : s₁.Aside (s₁.announce s!"cannot resolve focus: {f.message}") :=
        TextSteps.aside (.single (announce_step s₁ _))
      exact told.enqueues
  | ok finding =>
      cases finding with
      | ignored => exact ⟨[], (List.append_nil _).symm, List.nil_sublist _⟩
      | sameFunction e =>
          have refilled := events_refill s₁ e .perAddress
          dsimp only
          split
          · exact ⟨_, refilled, List.Sublist.refl _⟩
          · refine ⟨_ ++ [.focusChanged e.address e.function], ?_, List.sublist_append_left _ _⟩
            rw [← List.append_assoc]
            exact congrArg (· ++ _) refilled
      | functionChanged e =>
          have refilled := events_refill s₁ e .full
          refine ⟨_ ++ [.focusChanged e.address e.function], ?_, List.sublist_append_left _ _⟩
          rw [← List.append_assoc]
          exact congrArg (· ++ _) refilled

theorem incidents_queued {s : Session σ} (calm : s.Calm) {op : Operation}
    (keeps : op ≠ .takeEvents) :
    Enqueues ((s.incidents op).flatMap Incident.queued) s (s.perform op) := by
  have attends := perform_attends calm keeps
  have before : Enqueues [] s (s.primed op) := by
    refine ⟨[], ?_, List.nil_sublist _⟩
    rw [List.append_nil]
    cases op <;> rfl
  have silent : op.renewal.flatMap Incident.queued = [] := by
    cases op <;> rfl
  rw [incidents, List.flatMap_append, silent, List.nil_append]
  cases pass : s.passAt? op with
  | none =>
      rw [pass] at attends
      exact before.trans (Aside.enqueues attends)
  | some u =>
      rw [pass] at attends
      have around := (before.trans attends.1.enqueues).trans
        ((passIncidents_queued u).trans attends.2.enqueues)
      rwa [List.append_nil, List.nil_append, List.append_nil] at around

/-- What the incidents of a run queue is among its events. -/
theorem chronicle_queued {s : Session σ} (calm : s.Calm) (ops : List Operation) :
    ∃ more, s.stream ops = s.events ++ more ∧
      ((s.chronicle ops).flatMap Incident.queued).Sublist more := by
  induction ops generalizing s with
  | nil => exact ⟨[], (List.append_nil _).symm, .refl _⟩
  | cons op ops ih =>
      obtain ⟨later, streamed, inside⟩ := ih (perform_keeps calm op).1
      rw [stream, chronicle, List.flatMap_append, streamed]
      by_cases takes : op = .takeEvents
      · -- The queue is handed over, and begins anew.
        subst takes
        exact ⟨later, rfl, inside⟩
      · obtain ⟨now, performed, here⟩ := incidents_queued calm takes
        refine ⟨now ++ later, ?_, here.append inside⟩
        rw [taken_of_ne s takes, performed, List.nil_append, List.append_assoc]

/-! ## Whole runs -/

/-- In every run, whatever the analyzer answers and the passes find for templates: between two
notices of failures of one panel and one kind, the panel was given a content or the analysis
changed, and a failure that was not announced since then is announced.  What a session takes for
announced, and the numbers of its refills, are those of its incidents; what a refill queues is
what its incidents say; and what the incidents of the run queued is among its events, in their
order. -/
theorem run_announces (engine : σ) (config : Config) (templates : TemplateStore)
    (ops : List Operation) :
    Announcing ((Session.new engine config templates).chronicle ops) ∧
      ((Session.new engine config templates).run ops).Chronicled
        ((Session.new engine config templates).chronicle ops) ∧
      (((Session.new engine config templates).chronicle ops).flatMap Incident.queued).Sublist
        ((Session.new engine config templates).stream ops) ∧
      ∀ (s : Session σ) (e : FocusEvent) (scope : Scope), (s.refill e scope).events =
        s.events ++ (s.refillIncidents e scope).flatMap Incident.queued := by
  have calm := calm_new engine config templates
  have chronicled := run_chronicled calm (chronicled_new engine config templates) ops
  rw [List.nil_append] at chronicled
  obtain ⟨more, streamed, inside⟩ := chronicle_queued calm ops
  refine ⟨chronicled.sparing.announcing, chronicled, ?_, events_refill⟩
  rw [streamed]
  exact inside.trans (List.sublist_append_right _ _)

/-- A directory whose templates can be read in the second pass only. -/
def mended : TemplateStore :=
  .directory "t" fun pass _ => if pass = 2 then .ok "\x7b\x7bpayload\x7d\x7d" else .error .notFound

/-- With templates that are put in place and taken away again, while the cursor goes to and fro
between two functions: the charts fail and it is told, they are shown, they fail and it is told
anew, and then they fail and nothing is told. -/
theorem run_announces_mended : ∃ past fault,
    (Session.new (Loaded.load .pair) {} mended).chronicle
      [.goTo ⟨0x1000⟩, .placeCursor ⟨3, 0⟩, .placeCursor ⟨0, 0⟩, .placeCursor ⟨3, 0⟩] = past ∧
    past.filter (·.panel? = some .charts) =
      [.failed .charts fault [failureNotice .charts fault], .filled .charts,
        .failed .charts fault [failureNotice .charts fault], .failed .charts fault []] ∧
    fault.kind = .template ∧ Announcing past := by
  have announces := (run_announces (Loaded.load .pair) {} mended
    [.goTo ⟨0x1000⟩, .placeCursor ⟨3, 0⟩, .placeCursor ⟨0, 0⟩, .placeCursor ⟨3, 0⟩]).1
  refine ⟨_, .template (.missing "fcn_bar.html" "t/fcn_bar.html" .notFound), rfl, ?_, rfl,
    announces⟩
  rw [Loaded.load_pair]
  decide +kernel

end AsmView.Session
