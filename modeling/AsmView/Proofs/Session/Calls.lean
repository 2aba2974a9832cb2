/-
# What a focus pass asks

A focus pass over a logged analyzer does what it does over the analyzer
(`plain_updateFocus`), so the record shows what the pass asks.  To track the line it asks only
where the line is and whose; what follows is the questions of the panels it brings up to date.
`PassCalls` has what this comes to: while the function stays, nothing is asked about a whole
function and once where the line leads, and when it changes, nothing expensive is asked twice.
-/
import AsmView.Proofs.Panel.Thrift
import AsmView.Proofs.Session.Focus

namespace AsmView

variable {σ : Type}

namespace Session

/-- The session over the analyzer that is logged. -/
def plain (s : Session (Logged σ)) : Session σ :=
  { s with engine := s.engine.engine }

/-- The session over its analyzer, logged from here on. -/
def logged (s : Session σ) : Session (Logged σ) :=
  { s with engine := ⟨s.engine, []⟩ }

theorem plain_announce (s : Session (Logged σ)) (text : String) :
    (s.announce text).plain = s.plain.announce text := by
  unfold announce
  show Session.plain (if s.lastNotice? = some text then s else _) =
    if s.lastNotice? = some text then s.plain else _
  split <;> rfl

theorem plain_applyFailure (s : Session (Logged σ)) (failure : Panel × PanelFault) :
    (s.applyFailure failure).plain = s.plain.applyFailure failure := by
  obtain ⟨panel, fault⟩ := failure
  unfold applyFailure
  show Session.plain (if s.announced.contains (panel, fault.kind) then _ else _) =
    if s.announced.contains (panel, fault.kind) then _ else _
  split <;> rfl

/-- Applying a report has nothing to do with the analyzer. -/
theorem plain_apply_report (s : Session (Logged σ)) (r : Refill.Report) :
    (r.failures.foldl applyFailure (r.writes.foldl applyUpdate s)).plain =
      r.failures.foldl applyFailure (r.writes.foldl applyUpdate s.plain) := by
  have written : (r.writes.foldl applyUpdate s).plain = r.writes.foldl applyUpdate s.plain :=
    (List.foldl_hom Session.plain fun _ _ => rfl).symm
  rw [← written]
  exact (List.foldl_hom Session.plain fun s failure => (plain_applyFailure s failure).symm).symm

variable [Analyzer σ]

theorem plain_refill (s : Session (Logged σ)) (e : FocusEvent) (scope : Refill.Scope) :
    (s.refill e scope).plain = s.plain.refill e scope := by
  have same := Refill.runPanels_plain s.settings e scope.panels (d := ⟨s.engine, {}⟩)
  unfold refill
  dsimp only
  rw [plain_apply_report]
  unfold Refill.run at *
  rw [show (⟨s.plain.engine, {}⟩ : Desk σ) = Desk.plain ⟨s.engine, {}⟩ from rfl,
    show s.plain.settings = s.settings from rfl, same]
  rfl

end Session

namespace FocusWatch

variable [Analyzer σ]

theorem ownerAt_mirrors (a : Address) :
    Query.Mirrors (σ := σ) (·.isTracking = true) (ownerAt a) (ownerAt a) := by
  have placed := Query.mirrors_query (σ := σ) (S := (·.isTracking = true)) (.reposition a) rfl
  exact placed.bind fun _ => Query.mirrors_query (.functionNameAt a) rfl

/-- Tracking a line over a logged analyzer finds what it finds over the analyzer, and asks
only where the line is and whose. -/
theorem observe_logged (t : FocusWatch) (line? : Option String) (r : Logged σ) :
    ∃ asked, (∀ c ∈ asked, c.1.isTracking = true) ∧
      t.observe line? r = ((t.observe line? r.engine).1, (t.observe line? r.engine).2.1,
        ⟨(t.observe line? r.engine).2.2, r.calls ++ asked⟩) := by
  have nothing : ∃ asked : List (Call × Bool), (∀ c ∈ asked, c.1.isTracking = true) ∧
      (⟨r.engine, r.calls⟩ : Logged σ) = ⟨r.engine, r.calls ++ asked⟩ :=
    ⟨[], nofun, by rw [List.append_nil]⟩
  cases line? with
  | none =>
      obtain ⟨asked, sorted, same⟩ := nothing
      exact ⟨asked, sorted, congrArg (Except.ok FocusFinding.ignored, t, ·) same⟩
  | some line =>
      cases address : lineAddress? line with
      | none =>
          obtain ⟨asked, sorted, same⟩ := nothing
          simp only [observe, address]
          exact ⟨asked, sorted, congrArg (Except.ok FocusFinding.ignored, t, ·) same⟩
      | some a =>
          obtain ⟨asked, sorted, same⟩ := ownerAt_mirrors a r
          refine ⟨asked, sorted, ?_⟩
          simp only [observe, address, same]
          cases (ownerAt a).ask r.engine with
          | mk result engine => cases result <;> rfl

end FocusWatch

namespace Session

/-! ## The work of a focus pass -/

/-- What tracking the line under the cursor comes to: the line has no address, its owner is not
found out, or it is. -/
inductive Sighting where
  | ignored
  | failed (fault : EngineFault)
  | resolved (name : String)
deriving DecidableEq, Repr

/-- The owner that was found. -/
def Sighting.name? : Sighting → Option String
  | .resolved name => some name
  | _ => none

variable [Analyzer σ]

/-- What a focus pass on the session finds. -/
def sighting (s : Session σ) : Sighting :=
  match s.listing.cursorLine?.bind lineAddress? with
  | none => .ignored
  | some a =>
    match ((FocusWatch.ownerAt a).ask s.engine).1 with
    | .error f => .failed f
    | .ok name => .resolved name

/-- A focus pass on the session brings all panels up to date. -/
def refillsAll (s : Session σ) : Bool :=
  s.stats.fullRefills < s.updateFocus.stats.fullRefills

/-- The analyzer, after the line under the cursor was tracked. -/
def tracked (s : Session σ) : σ :=
  (s.watch.observe s.listing.cursorLine? s.engine).2.2

/-- The analyzer, after the panels of a scope were asked about. -/
def consulted (s : Session σ) (e : FocusEvent) (scope : Refill.Scope) : σ :=
  (Refill.run s.nextPass.settings e scope ⟨s.tracked, {}⟩).2.engine

/-- What a focus pass makes of the watch, the number of full refills and the analyzer. -/
inductive FocusWork (s t : Session σ) : Prop
  | none (unresolved : s.sighting.name? = none) (watch : t.watch = s.watch)
      (count : t.stats.fullRefills = s.stats.fullRefills) (engine : t.engine = s.tracked)
  | light {e : FocusEvent} (resolved : s.sighting.name? = some e.function)
      (fresh : s.watch.stale = false) (same : s.watch.focus.function = e.function)
      (watch : t.watch = ⟨⟨some e.address, e.function⟩, false⟩)
      (count : t.stats.fullRefills = s.stats.fullRefills)
      (engine : t.engine = s.consulted e .perAddress)
  | full {e : FocusEvent} (resolved : s.sighting.name? = some e.function)
      (changed : s.watch.stale = true ∨ s.watch.focus.function ≠ e.function)
      (watch : t.watch = ⟨⟨some e.address, e.function⟩, false⟩)
      (count : t.stats.fullRefills = s.stats.fullRefills + 1)
      (engine : t.engine = s.consulted e .full)

/-- A refill asks what its handlers ask, and counts itself. -/
theorem refill_work (s : Session σ) (e : FocusEvent) (scope : Refill.Scope) :
    (s.refill e scope).watch = s.watch ∧
      (s.refill e scope).engine = (Refill.run s.settings e scope ⟨s.engine, {}⟩).2.engine ∧
      (s.refill e scope).stats.fullRefills =
        s.stats.fullRefills + if scope = .full then 1 else 0 := by
  unfold refill
  dsimp only
  generalize Refill.run s.settings e scope ⟨s.engine, {}⟩ = result
  obtain ⟨report, desk⟩ := result
  dsimp only
  cases scope with
  | full =>
      obtain ⟨announced, events, h⟩ := apply_report
        { s with
          stats := { s.stats with fullRefills := s.stats.fullRefills + 1 }
          engine := desk.engine, cache := desk.cache } report
      dsimp only
      rw [h]
      exact ⟨rfl, rfl, rfl⟩
  | perAddress =>
      obtain ⟨announced, events, h⟩ := apply_report
        { s with
          stats := { s.stats with lightRefills := s.stats.lightRefills + 1 }
          engine := desk.engine, cache := desk.cache } report
      dsimp only
      rw [h]
      exact ⟨rfl, rfl, rfl⟩

theorem focusWork (s : Session σ) : s.FocusWork s.updateFocus := by
  have seen := FocusWatch.observed s.watch s.listing.cursorLine? s.engine
  have last : s.tracked = (s.watch.observe s.listing.cursorLine? s.engine).2.2 := rfl
  unfold updateFocus
  dsimp only
  generalize s.watch.observe s.listing.cursorLine? s.engine = result at seen last ⊢
  obtain ⟨outcome, watch, engine⟩ := result
  dsimp only at seen last ⊢
  let s₁ : Session σ := { s with
    watch, engine, stats := { s.stats with focusPasses := s.stats.focusPasses + 1 } }
  cases seen with
  | ignored none =>
      refine .none ?_ rfl rfl last.symm
      rw [sighting, none]
      rfl
  | @failed line a f _ under address answer =>
      obtain ⟨_, _, announced⟩ := announce_eq s₁ s!"cannot resolve focus: {f.message}"
      dsimp only
      rw [announced]
      refine .none ?_ rfl rfl last.symm
      rw [sighting, under, Option.bind_some, address]
      dsimp only
      rw [answer]
      rfl
  | @sameFunction line a name _ under address answer fresh same =>
      obtain ⟨watch, asked, count⟩ := refill_work s₁ ⟨a, name, line⟩ .perAddress
      have found : s.sighting.name? = some name := by
        rw [sighting, under, Option.bind_some, address]
        dsimp only
        rw [answer]
        rfl
      dsimp only
      refine .light (e := ⟨a, name, line⟩) found fresh same ?_ ?_ ?_
      · have settled : s₁.watch = ⟨⟨some a, name⟩, false⟩ := congrArg (FocusWatch.mk _) fresh
        split <;> exact watch.trans settled
      · split <;> exact count
      · rw [consulted, last]
        split <;> exact asked
  | @functionChanged line a name _ under address answer changed =>
      obtain ⟨watch, asked, count⟩ := refill_work s₁ ⟨a, name, line⟩ .full
      have found : s.sighting.name? = some name := by
        rw [sighting, under, Option.bind_some, address]
        dsimp only
        rw [answer]
        rfl
      refine .full (e := ⟨a, name, line⟩) found changed watch count ?_
      rw [consulted, last]
      exact asked

/-- A pass refills everything when it finds out an owner, and that is another one than the last
or the watch is out of date. -/
theorem refillsAll_iff (s : Session σ) :
    s.refillsAll = true ↔ ∃ name, s.sighting.name? = some name ∧
      (name ≠ s.watch.focus.function ∨ s.watch.stale = true) := by
  unfold refillsAll
  rw [decide_eq_true_iff]
  cases focusWork s with
  | none unresolved _ count _ => simp [unresolved, count]
  | light resolved fresh same _ count _ => simp [resolved, fresh, same, count]
  | @full e resolved changed _ count _ =>
      refine iff_of_true (by omega) ⟨e.function, resolved, ?_⟩
      exact changed.symm.imp Ne.symm id

theorem fullRefills_updateFocus (s : Session σ) :
    s.updateFocus.stats.fullRefills = s.stats.fullRefills + if s.refillsAll then 1 else 0 := by
  unfold refillsAll
  cases focusWork s with
  | none _ _ count _ => simp [count]
  | light _ _ _ _ count _ => simp [count]
  | full _ _ _ count _ => simp [count]

theorem focusPasses_updateFocus (s : Session σ) :
    s.updateFocus.stats.focusPasses = s.stats.focusPasses + 1 := by
  obtain ⟨_, _, _, _, _, _, _, _, _, -, focused⟩ := updateFocus_eq s
  rw [focused]

/-- The function of the focus is the owner that was found out last. -/
theorem function_updateFocus (s : Session σ) :
    s.updateFocus.watch.focus.function = s.sighting.name?.getD s.watch.focus.function := by
  cases focusWork s with
  | none unresolved watch _ _ => rw [watch, unresolved]; rfl
  | light resolved _ _ watch _ _ => rw [watch, resolved]; rfl
  | full resolved _ watch _ _ => rw [watch, resolved]; rfl

/-- Only showing everything brings the watch up to date. -/
theorem stale_updateFocus (s : Session σ) :
    s.updateFocus.watch.stale = (s.watch.stale && !s.refillsAll) := by
  unfold refillsAll
  cases focusWork s with
  | none _ watch count _ => simp [watch, count]
  | light _ fresh _ watch _ _ => simp [watch, fresh]
  | full _ _ watch count _ => simp [watch, count]

/-- A focus pass that does not find out the owner of the line leaves the watch alone. -/
theorem watch_updateFocus_of_unresolved {s : Session σ} (unresolved : s.sighting.name? = none) :
    s.updateFocus.watch = s.watch := by
  cases focusWork s with
  | none _ watch _ _ => exact watch
  | light resolved _ _ _ _ _ => exact nomatch unresolved.symm.trans resolved
  | full resolved _ _ _ _ => exact nomatch unresolved.symm.trans resolved

/-! ## A focus pass over a logged analyzer -/

theorem plain_updateFocus (s : Session (Logged σ)) :
    s.updateFocus.plain = s.plain.updateFocus := by
  obtain ⟨asked, -, same⟩ := s.watch.observe_logged s.listing.cursorLine? s.engine
  unfold updateFocus
  dsimp only
  rw [show s.plain.watch = s.watch from rfl, show s.plain.listing = s.listing from rfl,
    show s.plain.engine = s.engine.engine from rfl, same]
  generalize s.watch.observe s.listing.cursorLine? s.engine.engine = result
  obtain ⟨outcome, watch, engine⟩ := result
  cases outcome with
  | error f => exact plain_announce _ _
  | ok finding =>
      cases finding with
      | ignored => rfl
      | sameFunction e =>
          have refilled := plain_refill
            { s with
              watch, engine := ⟨engine, s.engine.calls ++ asked⟩
              stats := { s.stats with focusPasses := s.stats.focusPasses + 1 } } e .perAddress
          dsimp only at refilled ⊢
          split
          · exact refilled
          · exact congrArg (emit · (.focusChanged e.address e.function)) refilled
      | functionChanged e =>
          have refilled := plain_refill
            { s with
              watch, engine := ⟨engine, s.engine.calls ++ asked⟩
              stats := { s.stats with focusPasses := s.stats.focusPasses + 1 } } e .full
          exact congrArg (emit · (.focusChanged e.address e.function)) refilled

theorem logged_tracked (s : Session σ) :
    ∃ asked, (∀ c ∈ asked, c.1.isTracking = true) ∧ s.logged.tracked = ⟨s.tracked, asked⟩ := by
  obtain ⟨asked, sorted, same⟩ := s.watch.observe_logged s.listing.cursorLine? ⟨s.engine, []⟩
  exact ⟨asked, sorted, congrArg (·.2.2) same⟩

theorem logged_sighting (s : Session σ) : s.logged.sighting = s.sighting := by
  unfold sighting
  rw [show s.logged.listing = s.listing from rfl]
  cases s.listing.cursorLine?.bind lineAddress? with
  | none => rfl
  | some a =>
      obtain ⟨_, -, same⟩ := FocusWatch.ownerAt_mirrors (σ := σ) a ⟨s.engine, []⟩
      dsimp only
      rw [show s.logged.engine = ⟨s.engine, []⟩ from rfl, same]

/-- What a focus pass on the session asks the analyzer, and what of it is answered. -/
def passCalls (s : Session σ) : List (Call × Bool) :=
  s.logged.updateFocus.engine.calls

/-- Body and graph are asked for once at most, and references not again once they were
answered. -/
structure Modest (calls : List (Call × Bool)) : Prop where
  bodies : calls.countP (·.1.isBody) ≤ 1
  graphs : calls.countP (·.1.isGraph) ≤ 1
  unrepeated : Unrepeated calls

/-- What a focus pass on the session may ask, which recording it does not change.  A pass that
does not find out the owner of the line asks nothing else; one that does, but refills only for
the address, asks nothing about a whole function, and once where the line leads. -/
structure PassCalls (s : Session σ) : Prop where
  same : s.logged.updateFocus.plain = s.updateFocus
  modest : Modest s.passCalls
  unresolved : s.sighting.name? = none → ∀ c ∈ s.passCalls, c.1.isTracking = true
  light : s.sighting.name?.isSome → s.refillsAll = false →
    (∀ c ∈ s.passCalls, c.1.isHeavy = false) ∧ s.passCalls.countP (·.1.isTransfer) = 1

theorem count_tracked (s : Session σ) {p : Call → Bool}
    (other : ∀ c : Call, c.isTracking = true → p c = false) : s.logged.tracked.count p = 0 := by
  obtain ⟨asked, sorted, tracked⟩ := s.logged_tracked
  rw [tracked]
  exact Logged.count_eq_zero.mpr fun c hc => other c.1 (sorted c hc)

section Consulted

variable (s : Session σ) (e : FocusEvent) (scope : Refill.Scope)

/-- A question that only one panel has a use for is put as often as its handler puts it. -/
theorem count_consulted {p : Call → Bool} {own : Panel} {n : Nat}
    (other : ∀ c : Call, c.isTracking = true → p c = false)
    (only : ∀ k c, Refill.Asks k c → p c = true → k = own)
    (adds : Handler.Leaves (Desk.Adds (σ := σ) p n)
      (Refill.handler s.nextPass.settings e own)) :
    (s.logged.consulted e scope).count p = if own ∈ scope.panels then n else 0 := by
  have added : (s.logged.consulted e scope).count p = s.logged.tracked.count p + _ :=
    Refill.runPanels_adds _ e only adds (nodup_panels scope) ⟨s.logged.tracked, {}⟩
  rw [added, s.count_tracked other, Nat.zero_add]

theorem count_isTransfer_consulted : (s.logged.consulted e scope).count Call.isTransfer = 1 := by
  have adds := Refill.jumpPreview_adds (σ := σ) s.nextPass.settings e
  rw [s.count_consulted e scope (fun _ h => (Call.not_of_isTracking h).2.1)
    (fun _ _ => Refill.Asks.panel_of_isTransfer) adds]
  cases scope <;> rfl

theorem count_isBody_consulted : (s.logged.consulted e scope).count Call.isBody ≤ 1 := by
  have adds := Refill.decompiled_adds (σ := σ) s.nextPass.settings e
  rw [s.count_consulted e scope (fun _ h => (Call.not_of_isTracking h).2.2.1)
    (fun _ _ => Refill.Asks.panel_of_isBody) adds]
  grind

theorem count_isGraph_consulted : (s.logged.consulted e scope).count Call.isGraph ≤ 1 := by
  have adds := Refill.miniGraph_adds (σ := σ) s.nextPass.settings e
  rw [s.count_consulted e scope (fun _ h => (Call.not_of_isTracking h).2.2.2.1)
    (fun _ _ => Refill.Asks.panel_of_isGraph) adds]
  grind

theorem unrepeated_consulted : Unrepeated (s.logged.consulted e scope).calls := by
  obtain ⟨asked, sorted, tracked⟩ := s.logged_tracked
  have other : ∀ c ∈ asked, c.1.isReferences = false :=
    fun c hc => (Call.not_of_isTracking (sorted c hc)).2.2.2.2
  have start : Desk.Thrifty e.address ⟨s.logged.tracked, {}⟩ := by
    rw [tracked]
    refine ⟨Unrepeated.append .nil other, fun b k h => ?_⟩
    have asks : (.references b k, true) ∈ [] ++ asked := h
    rw [mem_references_append other] at asks
    exact nomatch asks
  exact (Refill.runPanels_saves _ e scope.panels _ start).unrepeated

/-- For an address nothing is asked about a whole function. -/
theorem not_isHeavy_consulted :
    ∀ c ∈ (s.logged.consulted e .perAddress).calls, c.1.isHeavy = false := by
  have other : ∀ k ∈ Refill.Scope.perAddress.panels, ∀ c, Refill.Asks k c → c.isHeavy = false := by
    intro k hk c asks
    have trigger : k.trigger = .perAddress := of_decide_eq_true (List.mem_filter.mp hk).2
    cases heavy : c.isHeavy with
    | false => rfl
    | true => exact nomatch trigger.symm.trans (asks.trigger_of_isHeavy heavy)
  have added : (s.logged.consulted e .perAddress).count Call.isHeavy =
      s.logged.tracked.count Call.isHeavy + 0 :=
    Refill.runPanels_adds_none s.nextPass.settings e other ⟨_, {}⟩
  rw [s.count_tracked fun _ h => (Call.not_of_isTracking h).1] at added
  exact Logged.count_eq_zero.mp added

theorem modest_consulted : Modest (s.logged.consulted e scope).calls :=
  ⟨s.count_isBody_consulted e scope, s.count_isGraph_consulted e scope,
    s.unrepeated_consulted e scope⟩

end Consulted

/-- Tracking a line is modest. -/
theorem modest_of_isTracking {calls : List (Call × Bool)}
    (tracking : ∀ c ∈ calls, c.1.isTracking = true) : Modest calls where
  bodies := by
    rw [List.countP_eq_zero.mpr fun c hc => by
      simp [(Call.not_of_isTracking (tracking c hc)).2.2.1]]
    exact Nat.zero_le 1
  graphs := by
    rw [List.countP_eq_zero.mpr fun c hc => by
      simp [(Call.not_of_isTracking (tracking c hc)).2.2.2.1]]
    exact Nat.zero_le 1
  unrepeated :=
    Unrepeated.append .nil fun c hc => (Call.not_of_isTracking (tracking c hc)).2.2.2.2

theorem passCalls_lawful (s : Session σ) : s.PassCalls := by
  have same := plain_updateFocus s.logged
  have stats : s.logged.updateFocus.stats = s.updateFocus.stats := congrArg (·.stats) same
  have calls : s.passCalls = s.logged.updateFocus.engine.calls := rfl
  have found := s.logged_sighting
  cases focusWork s.logged with
  | none unresolved _ _ engine =>
      obtain ⟨asked, tracking, tracked⟩ := s.logged_tracked
      rw [engine, tracked] at calls
      dsimp only at calls
      rw [found] at unresolved
      refine ⟨same, ?_, ?_, ?_⟩
      · exact calls ▸ modest_of_isTracking tracking
      · exact fun _ => calls ▸ tracking
      · intro resolved
        rw [unresolved] at resolved
        exact nomatch resolved
  | @light e resolved _ _ _ _ engine =>
      rw [engine] at calls
      rw [found] at resolved
      refine ⟨same, ?_, ?_, ?_⟩
      · exact calls ▸ s.modest_consulted e .perAddress
      · exact fun unresolved => nomatch resolved.symm.trans unresolved
      · intro _ _
        rw [calls]
        exact ⟨s.not_isHeavy_consulted e, s.count_isTransfer_consulted e .perAddress⟩
  | @full e resolved _ _ count engine =>
      rw [engine] at calls
      rw [found] at resolved
      refine ⟨same, ?_, ?_, ?_⟩
      · exact calls ▸ s.modest_consulted e .full
      · exact fun unresolved => nomatch resolved.symm.trans unresolved
      · intro _ light
        have more : s.stats.fullRefills < s.updateFocus.stats.fullRefills := by
          rw [← stats, count]
          exact Nat.lt_succ_self _
        exact absurd more (of_decide_eq_false light)

end Session

end AsmView
