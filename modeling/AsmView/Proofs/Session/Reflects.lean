/-
# The panels show what is under the cursor

While the cursor stays in a function only two panels are filled anew, and the others are
left as they are.  Over a loaded image nothing is lost by this: whenever a session is not
in the middle of an operation, every panel but the label of the function holds what a
refill of all panels would put there.  This needs templates that nobody edits, since a
page that is left as it is does not show an edit.  `Backed` is what a focus pass relies on:
the panels of the function are those of the address focused last, and nothing is shown
before the first focus.  A focus pass makes it `Reflects`, which adds that the focus is the line
under the cursor; the other steps keep it, since they leave line and panels alone or end
in a focus pass.
-/
import AsmView.Proofs.Loaded.Listed
import AsmView.Proofs.Loaded.Owner
import AsmView.Proofs.Session.Landing

namespace AsmView

open Text Loaded Refill

/-- All passes find the same templates. -/
def TemplateStore.Steady (store : TemplateStore) : Prop :=
  ∀ m n, store.inPass m = store.inPass n

@[simp]
theorem TemplateStore.inPass_still (source : TemplateSource) (pass : Nat) :
    (still source).inPass pass = source := by
  cases source <;> rfl

theorem TemplateStore.steady_still (source : TemplateSource) : (still source).Steady :=
  fun _ _ => by simp

namespace Session

/-- The focus lies in the image, and the panels of the function are those of the focus. -/
structure Backed (l : Loaded) (s : Session Loaded) : Prop where
  listed : s.toFeed.Listed l
  steady : s.templates.Steady
  unfocused : s.watch.focus.address = none →
    s.watch.focus.function = "" ∧ ∀ k, s.panels.content? k = none
  focused : ∀ a, s.watch.focus.address = some a →
    l.covers a = true ∧ s.watch.focus.function = l.nameAt a ∧
      ∀ line k, k.trigger = .perFunction → k ≠ .function →
        s.panels.content? k = l.found s.settings ⟨a, l.nameAt a, line⟩ k

/-- The focus is the line under the cursor, if that has an address, and every panel but the
label of the function shows it. -/
structure Reflects (l : Loaded) (s : Session Loaded) : Prop extends Backed l s where
  cursor : ∀ line a, s.listing.cursorLine? = some line → lineAddress? line = some a →
    s.watch.focus = ⟨some a, l.nameAt a⟩ ∧
      ∀ k, k ≠ .function → s.panels.content? k = l.found s.settings ⟨a, l.nameAt a, line⟩ k

variable {l : Loaded}

theorem settings_eq {s t : Session Loaded} (steady : s.templates.Steady)
    (templates : t.templates = s.templates) (config : t.config = s.config) :
    t.settings = s.settings := by
  rw [settings, settings, templates, config, steady]

/-- What holds of focus, panels and text does not depend on the rest of the session. -/
theorem Backed.of_same {s t : Session Loaded} (h : s.Backed l) (listed : t.toFeed.Listed l)
    (templates : t.templates = s.templates) (config : t.config = s.config)
    (focus : t.watch.focus = s.watch.focus) (panels : t.panels = s.panels) : t.Backed l where
  listed := listed
  steady := templates ▸ h.steady
  unfocused := by
    rw [focus, panels]
    exact h.unfocused
  focused := by
    rw [focus, panels, settings_eq h.steady templates config]
    exact h.focused

theorem Reflects.of_same {s t : Session Loaded} (h : s.Reflects l) (listed : t.toFeed.Listed l)
    (templates : t.templates = s.templates) (config : t.config = s.config)
    (focus : t.watch.focus = s.watch.focus) (panels : t.panels = s.panels)
    (cursor : t.listing.cursorLine? = s.listing.cursorLine?) : t.Reflects l where
  toBacked := h.toBacked.of_same listed templates config focus panels
  cursor := by
    rw [cursor, focus, panels, settings_eq h.steady templates config]
    exact h.cursor

/-! ## A focus pass -/

/-- The owner of an address that lies in the image is its name there. -/
theorem ask_ownerAt {m : Loaded} (h : l.SameImage m) {a : Address} (inside : l.covers a = true) :
    ((FocusWatch.ownerAt a).ask m).1 = .ok (l.nameAt a) := by
  rw [FocusWatch.ownerAt, Query.ask_bind, ask_reposition, h.covers, if_pos inside]
  show Except.ok (((m.image.routines.find? (·.contains a)).map (·.name)).getD "") = _
  rw [h.image]
  rfl

/-- An owner that was given is the name the image has for the address. -/
theorem name_of_answer {m engine : Loaded} (h : l.SameImage m) {a : Address}
    (inside : l.covers a = true) {name : String}
    (answer : (FocusWatch.ownerAt a).ask m = (.ok name, engine)) :
    name = l.nameAt a ∧ l.SameImage engine := by
  have owner := ask_ownerAt h inside
  rw [answer] at owner
  exact ⟨Except.ok.inj owner,
    h.trans (sameImage_of_asked ((FocusWatch.plain_ownerAt a).asked answer))⟩

/-- What a refill over the image has for a panel. -/
theorem content?_report {s : Session Loaded} {engine : Loaded} (h : l.SameImage engine)
    {e : FocusEvent} {scope : Scope} {k : Panel} (hk : k ∈ scope.panels) :
    (({ s with engine } : Session Loaded).report e scope).content? k = l.found s.settings e k :=
  content?_runPanels s.settings e (nodup_panels scope) hk h

theorem mem_panels_full (k : Panel) : k ∈ Scope.full.panels := by
  cases k <;> decide

theorem trigger_eq_perFunction {k : Panel} (h : k ∉ Scope.perAddress.panels) :
    k.trigger = .perFunction := by
  cases k with
  | offset => exact absurd (by decide) h
  | jumpPreview => exact absurd (by decide) h
  | _ => rfl

/-- A session that focuses the line under its cursor and shows it. -/
theorem Reflects.of_shown {t : Session Loaded} (listed : t.toFeed.Listed l)
    (steady : t.templates.Steady) {a : Address}
    {line : String} (inside : l.covers a = true) (under : t.listing.cursorLine? = some line)
    (address : lineAddress? line = some a) (focus : t.watch.focus = ⟨some a, l.nameAt a⟩)
    (shown : ∀ k, k ≠ .function →
      t.panels.content? k = l.found t.settings ⟨a, l.nameAt a, line⟩ k) : t.Reflects l where
  listed := listed
  steady := steady
  unfocused := by
    rw [focus]
    exact fun h => nomatch h
  focused := by
    rw [focus]
    rintro b ⟨⟩
    refine ⟨inside, rfl, fun other k trigger hk => ?_⟩
    rw [shown k hk]
    refine found_eq_of_sameFunction t.settings ?_ ?_ ?_ ?_ trigger hk
    · exact inside
    · exact inside
    · exact .refl l a
    · rfl
  cursor := by
    intro other b under' address'
    obtain rfl : line = other := Option.some.inj (under.symm.trans under')
    obtain rfl : a = b := Option.some.inj (address.symm.trans address')
    exact ⟨focus, shown⟩

/-- While the function stays the same, the panels of the function are those that the
address under the cursor asks for. -/
theorem Backed.content?_of_sameFunction {s : Session Loaded} (h : s.Backed l) (named : l.WellNamed)
    {a : Address} (inside : l.covers a = true) (same : s.watch.focus.function = l.nameAt a)
    (line : String) {k : Panel} (trigger : k.trigger = .perFunction) (hk : k ≠ .function) :
    s.panels.content? k = l.found s.settings ⟨a, l.nameAt a, line⟩ k := by
  cases focus : s.watch.focus.address with
  | none =>
      -- Nothing was shown yet, and there is nothing to show where no function is.
      obtain ⟨unnamed, empty⟩ := h.unfocused focus
      have unowned : l.nameAt a = "" := same.symm.trans unnamed
      rw [empty k, unowned, named.found_eq_none s.settings unowned inside trigger hk]
  | some b =>
      obtain ⟨inside', name, shown⟩ := h.focused b focus
      have names : l.nameAt b = l.nameAt a := name.symm.trans same
      rw [shown line k trigger hk]
      refine found_eq_of_sameFunction s.settings ?_ ?_ ?_ ?_ trigger hk
      · exact inside'
      · exact inside
      · exact named.sameFunction names
      · exact names

/-- After a focus pass the panels show the line under the cursor. -/
theorem Backed.updateFocus {s : Session Loaded} (h : s.Backed l) (named : l.WellNamed)
    (covered : ∀ r ∈ l.slots, l.covers r.address = true) : s.updateFocus.Reflects l := by
  obtain ⟨engine, asked, feed⟩ := updateFocus_feed s
  have settled := updateFocus_settled s
  have pass := focusPass s
  generalize s.updateFocus = t at feed settled pass ⊢
  have listing : t.listing = s.listing := by rw [feed]
  have settings : t.settings = s.settings :=
    settings_eq h.steady settled.templates settled.config
  have nextPass : s.nextPass.settings = s.settings := settings_eq h.steady rfl rfl
  have steady : t.templates.Steady := settled.templates ▸ h.steady
  have listed : t.toFeed.Listed l := h.listed.of_lines (by rw [feed]; exact asked) (by rw [listing])
  -- The line under the cursor, if it has an address, is that of an instruction.
  have inside : ∀ {line a}, s.listing.cursorLine? = some line → lineAddress? line = some a →
      l.covers a = true := by
    intro line a under address
    obtain ⟨slot, hslot, rfl⟩ := h.listed.lines line (List.mem_of_getElem? under) a address
    exact covered slot hslot
  cases pass with
  | ignored none focus panels =>
      have kept := h.of_same listed settled.templates settled.config focus panels
      refine ⟨kept, fun line a under address => ?_⟩
      rw [listing] at under
      rw [under, Option.bind_some, address] at none
      exact nomatch none
  | failed under address answer =>
      have owner := ask_ownerAt h.listed.engine (inside under address)
      rw [answer] at owner
      exact nomatch owner
  | @sameFunction line a name engine' under address answer same focus panels =>
      have here := inside under address
      obtain ⟨rfl, image⟩ := name_of_answer h.listed.engine here answer
      refine .of_shown listed steady here (listing ▸ under) address focus fun k hk => ?_
      rw [panels k, settings]
      split
      · rename_i perAddress
        exact nextPass ▸ content?_report image perAddress
      · rename_i perFunction
        exact h.content?_of_sameFunction named here same line
          (trigger_eq_perFunction perFunction) hk
  | @functionChanged line a name engine' under address answer focus panels =>
      have here := inside under address
      obtain ⟨rfl, image⟩ := name_of_answer h.listed.engine here answer
      refine .of_shown listed steady here (listing ▸ under) address focus fun k _ => ?_
      rw [panels k, settings, if_pos (mem_panels_full k)]
      exact nextPass ▸ content?_report image (mem_panels_full k)

/-! ## Every step -/

theorem Move.reflects {s t : Session Loaded} (step : Move s t) (named : l.WellNamed)
    (covered : ∀ r ∈ l.slots, l.covers r.address = true) (oneLined : ∀ r ∈ l.slots, r.OneLined)
    (calm : s.Calm) (order : s.toFeed.InOrder) (h : s.Reflects l) : t.Reflects l := by
  have listed : t.toFeed.Listed l := (step.feed calm).listed h.listed oneLined
  cases step with
  | text step =>
      have frame := step.steps.frame
      exact h.of_same listed frame.templates frame.config (by rw [frame.watch]) frame.panels
        (Feed.shifts_cursorLine? step.steps.shifts order).1
  | moved c =>
      have placed : (s.withCursor c).Backed l :=
        h.toBacked.of_same (h.listed.of_lines .refl rfl) rfl rfl rfl rfl
      exact placed.updateFocus named covered
  | focused => exact h.toBacked.updateFocus named covered
  | reloaded =>
      cases target : s.reloadTarget? with
      | none =>
          rw [reload_nowhere target]
          exact h.of_same h.listed rfl rfl rfl rfl rfl
      | some _ =>
          obtain ⟨u, rewritten, reloaded⟩ := reload_rewritten calm.rest (by rw [target]; rfl)
          have backed : u.Backed l := h.toBacked.of_same
            (rewritten.feed.listed h.listed oneLined) rewritten.templates rewritten.config
            (by rw [rewritten.watch]) rewritten.panels
          rw [reloaded]
          exact backed.updateFocus named covered
  | dropped => exact h.of_same h.listed rfl rfl rfl rfl rfl
  | noted _ _ => exact h.of_same h.listed rfl rfl rfl rfl rfl

theorem Step.reflects {s t : Session Loaded} (step : Step s t) (named : l.WellNamed)
    (covered : ∀ r ∈ l.slots, l.covers r.address = true) (oneLined : ∀ r ∈ l.slots, r.OneLined)
    (calm : s.Calm) (order : s.toFeed.InOrder) (h : s.Reflects l) : t.Reflects l := by
  cases step with
  | move step => exact step.reflects named covered oneLined calm order h
  | taken => exact h.of_same h.listed rfl rfl rfl rfl rfl

/-! ## Whole runs -/

theorem reflects_new (img : Image) (config : Config) (source : TemplateSource) :
    (Session.new (load img) config (.still source)).Reflects (load img) where
  listed := ⟨.refl _, fun _ h => nomatch h⟩
  steady := TemplateStore.steady_still source
  unfocused := fun _ => ⟨rfl, fun k => by cases k <;> rfl⟩
  focused := fun _ h => nomatch h
  cursor := fun _ _ h => nomatch h

/-- For a lawful image whose functions have names of their own, whose texts are single lines
and whose instructions lie in it, after any operations with templates that nobody edits: if the
line under the cursor has an address, the focus is that address and its owner, and every panel
but the label of the function holds what refilling all panels of a new session for that line
puts there. -/
theorem run_reflects {img : Image} (accepted : img.breach? = none)
    (distinct : (img.routines.map (·.name)).Nodup) (oneLined : img.OneLined)
    (covered : ∀ i ∈ img.instructions, (load img).covers i.address = true) (config : Config)
    (source : TemplateSource) (ops : List Operation) (line : String) (a : Address)
    (under : ((Session.new (load img) config (.still source)).run ops).listing.cursorLine? =
      some line)
    (address : lineAddress? line = some a) :
    ∃ name, ((Analyzer.functionNameAt a : Query Loaded String).ask
        ((Session.new (load img) config (.still source)).run ops).engine).1 = .ok name ∧
      ((Session.new (load img) config (.still source)).run ops).watch.focus = ⟨some a, name⟩ ∧
      ∀ k, k ≠ .function →
        ((Session.new (load img) config (.still source)).run ops).panels.content? k =
          ((Session.new ((Session.new (load img) config (.still source)).run ops).engine config
            (.still source)).refill ⟨a, name, line⟩ .full).panels.content? k := by
  have named := wellNamed_load accepted distinct
  have inside : ∀ r ∈ (load img).slots, (load img).covers r.address = true := fun r hr =>
    covered r.instruction (mem_instructions.mpr ⟨r, hr, rfl⟩)
  have single : ∀ r ∈ (load img).slots, r.OneLined := fun _ hr => oneLined_load oneLined hr
  have settings := (run_steps (calm_new (load img) config (.still source)) ops).2
  obtain ⟨-, -, reflects⟩ := run_invariant
    (P := fun s => s.toFeed.InOrder ∧ s.Reflects (load img))
    (fun step calm ⟨order, reflects⟩ => ⟨(step.feed calm).inOrder order,
      step.reflects named inside single calm order reflects⟩)
    (calm_new (load img) config (.still source))
    ⟨inOrder_new (load img) config (.still source), reflects_new img config source⟩ ops
  generalize (Session.new (load img) config (.still source)).run ops = s
    at under settings reflects ⊢
  obtain ⟨focus, shown⟩ := reflects.cursor line a under address
  have image := reflects.listed.engine
  let fresh := Session.new s.engine config (.still source)
  have same : fresh.settings = s.settings :=
    settings_eq reflects.steady settings.2.1.symm settings.1.symm
  refine ⟨(load img).nameAt a, ?_, focus, fun k hk => ?_⟩
  · show Except.ok (((s.engine.image.routines.find? (·.contains a)).map (·.name)).getD "") = _
    rw [image.image]
    rfl
  · rw [content?_refill, if_pos (mem_panels_full k), shown k hk, ← same]
    exact (content?_report (s := fresh) image (mem_panels_full k)).symm

/-- In the small image, going to the call puts the cursor on its line, and the panels show
the call. -/
theorem run_reflects_pair : ∃ line,
    ((Session.new (load .pair) {}).run [.goTo ⟨0x1000⟩]).listing.cursorLine? = some line ∧
      lineAddress? line = some ⟨0x1000⟩ ∧ ∃ name,
        ((Analyzer.functionNameAt ⟨0x1000⟩ : Query Loaded String).ask
          ((Session.new (load .pair) {}).run [.goTo ⟨0x1000⟩]).engine).1 = .ok name ∧
        ((Session.new (load .pair) {}).run [.goTo ⟨0x1000⟩]).watch.focus =
          ⟨some ⟨0x1000⟩, name⟩ ∧
        ∀ k, k ≠ .function →
          ((Session.new (load .pair) {}).run [.goTo ⟨0x1000⟩]).panels.content? k =
            ((Session.new ((Session.new (load .pair) {}).run [.goTo ⟨0x1000⟩]).engine {}
              .builtin).refill ⟨⟨0x1000⟩, name, line⟩ .full).panels.content? k := by
  have accepted : Image.pair.breach? = none := by
    rw [Image.breach?, Image.sortedSpans, List.mergeSort_of_pairwise (by decide)]
    decide
  have named : (Image.pair.routines.map (·.name)).Nodup := by decide
  have oneLined : Image.pair.OneLined := ⟨by decide, by decide, by decide⟩
  have covered : ∀ i ∈ Image.pair.instructions, (load .pair).covers i.address = true := by decide
  obtain ⟨i, here, under⟩ := goTo_call_pair
  have address : lineAddress? (shownLine i) = some ⟨0x1000⟩ := by
    rw [lineAddress?_shownLine, here]
  exact ⟨_, under, address, run_reflects accepted named oneLined covered {} .builtin
    [.goTo ⟨0x1000⟩] _ _ under address⟩

end Session

end AsmView
