/-
# Analyzers whose answers are fixed

The handlers of a pass share the analyzer, which keeps a place of its own, and a cache,
which a handler that fails may leave half filled.  Neither can be seen in what they come to
when the analyzer is a book: each question has its one answer, and a batch depends on the
place last moved to besides.  `FixedAnswers` is such an analyzer.  On a desk whose cache
remembers only what the book says every handler comes to the same as on a desk with an empty
one.
-/
import AsmView.Proofs.Feed
import AsmView.Proofs.Panel.Report

namespace AsmView

/-- The answer to the question does not depend on the place of the analyzer. -/
def Question.Still {α : Type} : Question α → Prop
  | .disassemble _ => False
  | _ => True

/-- An analyzer with fixed answers, as long as it is in one of the states `On`.  Only a batch
depends on something besides its question: on the place that the analyzer was moved to
last. -/
structure FixedAnswers (σ : Type) [Analyzer σ] where
  On : σ → Prop
  place? : σ → Option Address
  answer : {α : Type} → Question α → Except EngineFault α
  batch : Nat → Option Address → Except EngineFault String
  functions : List KnownFunction
  stays_on : ∀ {α : Type} (q : Question α) (s : σ), On s → On (q.query.ask s).2
  ask_still : ∀ {α : Type} (q : Question α), q.Still → ∀ s : σ, On s → (q.query.ask s).1 = answer q
  ask_batch : ∀ (n : Nat) (s : σ), On s →
    ((Analyzer.disassemble n : Query σ String).ask s).1 = batch n (place? s)
  place?_moved : ∀ (a : Address) (s : σ), On s → answer (.reposition a) = .ok () →
    place? ((Analyzer.reposition a : Query σ Unit).ask s).2 = some a
  functions_eq : ∀ s : σ, On s → Analyzer.functions s = functions

namespace FixedAnswers

open Handler Refill

variable {σ α : Type} [Analyzer σ] (F : FixedAnswers σ)

/-! ## What the book says -/

/-- What a handler is told when it puts a question. -/
def told (q : Question α) : Except PanelFault α :=
  (F.answer q).mapError .engine

/-- The references of the function at an address. -/
def referencesAt (a : Address) (direction : Direction) : Except PanelFault (List Reference) := do
  F.told (.reposition a)
  F.told (.references a direction)

/-- The numbers of the function at an address. -/
def metricsAt (a : Address) : Except PanelFault Metrics := do
  let outgoing ← F.referencesAt a .outgoing
  let incoming ← F.referencesAt a .incoming
  F.told (.reposition a)
  let complexity ← F.told (.complexity a)
  let blocks ← F.told (.blockCount a)
  let exits ← F.told (.exitCount a)
  pure ⟨outgoing.length.toUInt64, incoming.length.toUInt64, complexity, blocks, exits⟩

/-- A batch from an address on. -/
def batchAt (a : Address) (count : Nat) : Except PanelFault String := do
  F.told (.reposition a)
  (F.batch count (some a)).mapError .engine

/-- What the cache remembers of an address is what the book says of it. -/
structure Sound (c : FocusFacts) : Prop where
  references : ∀ {a direction edges}, c.address = some a → c.references? direction = some edges →
    F.referencesAt a direction = .ok edges
  metrics : ∀ {a m}, c.address = some a → c.metrics? = some m → F.metricsAt a = .ok m

/-- The same of a cache that belongs to an address. -/
structure SoundAt (a : Address) (c : FocusFacts) : Prop extends F.Sound c where
  address : c.address = some a

theorem sound_empty : F.Sound {} :=
  ⟨fun h => (nomatch h), fun h => (nomatch h)⟩

variable {F}

theorem Sound.focusOn {c : FocusFacts} (h : F.Sound c) (a : Address) : F.SoundAt a (c.focusOn a) := by
  unfold FocusFacts.focusOn
  split
  · rename_i here
    exact ⟨h, here⟩
  · refine ⟨⟨fun {_ direction _} _ found => ?_, fun _ found => nomatch found⟩, rfl⟩
    cases direction <;> exact nomatch found

theorem SoundAt.setReferences {a : Address} {c : FocusFacts} (h : F.SoundAt a c)
    {direction : Direction} {edges : List Reference}
    (right : F.referencesAt a direction = .ok edges) :
    F.SoundAt a (c.setReferences edges direction) := by
  have address : (c.setReferences edges direction).address = some a := by
    cases direction <;> exact h.address
  have metrics : (c.setReferences edges direction).metrics? = c.metrics? := by
    cases direction <;> rfl
  refine ⟨⟨fun {b other edges'} hb found => ?_, fun {b m} hb found => ?_⟩, address⟩
  · obtain rfl : a = b := Option.some.inj (address.symm.trans hb)
    by_cases same : other = direction
    · subst same
      have now : (c.setReferences edges other).references? other = some edges := by
        cases other <;> rfl
      rw [right, Option.some.inj (now.symm.trans found)]
    · refine h.references h.address ?_
      rw [← found]
      cases direction <;> cases other <;> first | rfl | exact absurd rfl same
  · obtain rfl : a = b := Option.some.inj (address.symm.trans hb)
    exact h.metrics h.address (metrics ▸ found)

theorem SoundAt.setMetrics {a : Address} {c : FocusFacts} (h : F.SoundAt a c) {m : Metrics}
    (right : F.metricsAt a = .ok m) : F.SoundAt a { c with metrics? := some m } := by
  refine ⟨⟨fun {b direction edges} hb found => ?_, fun {b n} hb found => ?_⟩, h.address⟩
  · refine h.references hb ?_
    cases direction <;> exact found
  · obtain rfl : a = b := Option.some.inj (h.address.symm.trans hb)
    obtain rfl : m = n := Option.some.inj found
    exact right

variable (F)

/-! ## Desks with the book on them -/

/-- A desk with the analyzer in one of its states, and something known of the cache. -/
def OnDesk (P : FocusFacts → Prop) (d : Desk σ) : Prop :=
  F.On d.engine ∧ P d.cache

theorem fresh {engine : σ} (h : F.On engine) : F.OnDesk F.Sound ⟨engine, {}⟩ :=
  ⟨h, F.sound_empty⟩

variable {P Q : FocusFacts → Prop}

theorem yields_ask (q : Question α) (still : q.Still) :
    Yields (F.OnDesk P) (F.OnDesk P) (ask q.query) (F.told q) := by
  rintro d ⟨on, facts⟩
  rw [on_ask, F.ask_still q still d.engine on]
  exact ⟨rfl, F.stays_on q d.engine on, facts⟩

theorem yields_updateCache {f : FocusFacts → FocusFacts} (h : ∀ c, P c → Q (f c)) :
    Yields (F.OnDesk P) (F.OnDesk Q) (updateCache f) (.ok ()) :=
  fun d hd => ⟨rfl, hd.1, h d.cache hd.2⟩

/-- A batch, asked for in two questions, is cut where the first of them moved to. -/
theorem yields_batchAt (a : Address) (count : Nat) :
    Yields (F.OnDesk P) (F.OnDesk P)
      (ask (Analyzer.reposition a) >>= fun _ => ask (Analyzer.disassemble count))
      (F.batchAt a count) := by
  rintro d ⟨on, facts⟩
  have placed := F.ask_still (.reposition a) trivial d.engine on
  have moved := F.place?_moved a d.engine on
  have left := F.stays_on (.reposition a) d.engine on
  dsimp only [Question.query] at placed left
  rw [on_bind, on_ask, batchAt, told, placed]
  generalize (Analyzer.reposition a : Query σ Unit).ask d.engine = asked at moved left ⊢
  obtain ⟨_, engine⟩ := asked
  cases answer : F.answer (.reposition a) with
  | error f => exact ⟨rfl, left, facts⟩
  | ok u =>
      have given := F.ask_batch count engine left
      rw [moved answer] at given
      have second : (ask (Analyzer.disassemble count) : Handler σ String).on { d with engine } =
          ((F.batch count (some a)).mapError .engine,
            { d with engine := ((Analyzer.disassemble count : Query σ String).ask engine).2 }) := by
        rw [on_ask, given]
      show ((ask (Analyzer.disassemble count) : Handler σ String).on { d with engine }).1 = _ ∧
        F.OnDesk P ((ask (Analyzer.disassemble count) : Handler σ String).on { d with engine }).2
      rw [second]
      exact ⟨rfl, F.stays_on (.disassemble count) engine left, facts⟩

/-! ## What is shared between the handlers -/

theorem sharedReferences_yields (a : Address) (direction : Direction) :
    Yields (F.OnDesk F.Sound) (F.OnDesk (F.SoundAt a)) (sharedReferences a direction)
      (F.referencesAt a direction) := by
  refine Yields.bind (r := .ok ()) (k := fun _ => F.referencesAt a direction)
    (F.yields_updateCache fun c h => h.focusOn a) fun _ _ => .get_bind fun d hd => ?_
  cases found : d.cache.references? direction with
  | some edges =>
      rw [hd.2.references hd.2.address found]
      exact ⟨rfl, hd⟩
  | none =>
      have asked : Yields (F.OnDesk (F.SoundAt a)) (F.OnDesk (F.SoundAt a))
          (do
            ask (Analyzer.reposition a)
            let edges ← ask (Analyzer.references a direction)
            updateCache (·.setReferences edges direction)
            pure edges : Handler σ (List Reference))
          (F.told (.reposition a) >>= fun _ => F.told (.references a direction) >>= pure) := by
        refine .bind (F.yields_ask (.reposition a) trivial) fun _ placed => ?_
        refine .bind (F.yields_ask (.references a direction) trivial) fun edges answer => ?_
        have right : F.referencesAt a direction = .ok edges := by
          rw [referencesAt, placed]
          exact answer
        exact .bind (r := .ok ()) (F.yields_updateCache fun c h => h.setReferences right)
          fun _ _ => .pure edges
      simp only [bind_pure] at asked
      exact asked d hd

theorem sharedMetrics_yields (a : Address) :
    Yields (F.OnDesk F.Sound) (F.OnDesk (F.SoundAt a)) (sharedMetrics a) (F.metricsAt a) := by
  refine Yields.bind (r := .ok ()) (k := fun _ => F.metricsAt a)
    (F.yields_updateCache fun c h => h.focusOn a) fun _ _ => .get_bind fun d hd => ?_
  have shared : ∀ direction, Yields (F.OnDesk (F.SoundAt a)) (F.OnDesk (F.SoundAt a))
      (sharedReferences a direction) (F.referencesAt a direction) :=
    fun direction d hd => F.sharedReferences_yields a direction d ⟨hd.1, hd.2.toSound⟩
  cases found : d.cache.metrics? with
  | some m =>
      rw [hd.2.metrics hd.2.address found]
      exact ⟨rfl, hd⟩
  | none =>
      refine Yields.bind (shared .outgoing) (fun outgoing h₁ => ?_) d hd
      refine .bind (shared .incoming) fun incoming h₂ => ?_
      refine .bind (F.yields_ask (.reposition a) trivial) fun _ h₃ => ?_
      refine .bind (F.yields_ask (.complexity a) trivial) fun complexity h₄ => ?_
      refine .bind (F.yields_ask (.blockCount a) trivial) fun blocks h₅ => ?_
      refine .bind (F.yields_ask (.exitCount a) trivial) fun exits h₆ => ?_
      have right : F.metricsAt a = .ok
          ⟨outgoing.length.toUInt64, incoming.length.toUInt64, complexity, blocks, exits⟩ := by
        rw [metricsAt, h₁, h₂, h₃, h₄, h₅, h₆]
        rfl
      exact .bind (r := .ok ()) (F.yields_updateCache fun c h => h.setMetrics right)
        fun _ _ => .pure _

/-- On every desk with the book on it, whose cache remembers what it says, the handler comes
to the result. -/
abbrev Finds (h : Handler σ α) (r : Except PanelFault α) : Prop :=
  Yields (F.OnDesk F.Sound) (F.OnDesk F.Sound) h r

theorem sharedReferences_finds (a : Address) (direction : Direction) :
    F.Finds (sharedReferences a direction) (F.referencesAt a direction) :=
  (F.sharedReferences_yields a direction).mono fun _ h => ⟨h.1, h.2.toSound⟩

theorem sharedMetrics_finds (a : Address) : F.Finds (sharedMetrics a) (F.metricsAt a) :=
  (F.sharedMetrics_yields a).mono fun _ h => ⟨h.1, h.2.toSound⟩

/-! ## Each handler comes to the same wherever it is started -/

/-- Two desks with the book on them, whose caches remember what it says. -/
abbrev Desks : Desk σ → Desk σ → Prop :=
  Both (F.OnDesk F.Sound)

theorem alike_ask (q : Question α) (still : q.Still) : Alike F.Desks (ask q.query) (ask q.query) :=
  (F.yields_ask q still).alike (F.yields_ask q still)

theorem offset_alike (e : FocusEvent) : Alike F.Desks (offset e) (offset e) := by
  refine .bind (F.alike_ask (.reposition e.address) trivial) fun _ => ?_
  refine .bind (F.alike_ask (.offsetInfo e.address) trivial) fun info => ?_
  refine .bind (F.alike_ask (.opcodeDescription e.address) trivial) fun description => ?_
  dsimp only
  split <;> exact .pure _

theorem previewFrom_alike (target : Address) (count : Nat) (starts : List Address)
    (fallback : Option TargetWindow) :
    Alike F.Desks (previewFrom target count starts fallback)
      (previewFrom target count starts fallback) := by
  induction starts generalizing fallback with
  | nil => exact .pure fallback
  | cons start starts ih =>
      rw [previewFrom, ← bind_assoc]
      refine .bind ((F.yields_batchAt start count).alike (F.yields_batchAt start count)) fun text => ?_
      split
      · exact ih fallback
      · split
        · exact .pure _
        · exact ih _

theorem jumpPreview_alike (settings : RefillSettings) (e : FocusEvent) :
    Alike F.Desks (jumpPreview settings e) (jumpPreview settings e) := by
  refine .bind (F.alike_ask (.jumpTarget e.line) trivial) fun target? => ?_
  cases target? with
  | none => exact .pure none
  | some target =>
      intro c d both
      rw [on_bind, on_bind, on_get, on_get]
      dsimp only
      rw [F.functions_eq c.engine both.1.1, F.functions_eq d.engine both.2.1]
      exact Alike.bind (F.previewFrom_alike target _ _ none) (fun window? => .pure _) both

theorem function_alike (e : FocusEvent) : Alike F.Desks (function e) (function e) := by
  refine .bind (F.alike_ask (.reposition e.address) trivial) fun _ => ?_
  refine .bind (F.alike_ask (.functionAt e.address) trivial) fun record? => ?_
  cases record? with
  | none => dsimp only; split <;> exact .pure _
  | some r => dsimp only; split <;> exact .pure _

theorem entries_alike (direction : Direction) (edges : List Reference) :
    Alike F.Desks (entries direction edges) (entries direction edges) := by
  induction edges with
  | nil => exact .pure []
  | cons r rs ih =>
      refine .bind (F.alike_ask (.disassembleOne r.source) trivial) fun line => ?_
      exact .bind ih fun rest => .pure _

/-- The book says the same of two addresses, as far as functions go. -/
structure SameFunction (a b : Address) : Prop where
  references : ∀ direction, F.referencesAt a direction = F.referencesAt b direction
  metrics : F.metricsAt a = F.metricsAt b

theorem SameFunction.refl (a : Address) : F.SameFunction a a :=
  ⟨fun _ => rfl, rfl⟩

variable {F}

theorem SameFunction.sharedReferences_alike {a b : Address} (same : F.SameFunction a b)
    (direction : Direction) :
    Alike F.Desks (sharedReferences a direction) (sharedReferences b direction) := by
  have first := F.sharedReferences_finds a direction
  rw [same.references direction] at first
  exact first.alike (F.sharedReferences_finds b direction)

theorem SameFunction.sharedMetrics_alike {a b : Address} (same : F.SameFunction a b) :
    Alike F.Desks (sharedMetrics a) (sharedMetrics b) := by
  have first := F.sharedMetrics_finds a
  rw [same.metrics] at first
  exact first.alike (F.sharedMetrics_finds b)

/-- The panels of a whole function, save its label, are filled alike at two addresses that
the book says the same of. -/
theorem SameFunction.perFunction_alike {e e' : FocusEvent}
    (same : F.SameFunction e.address e'.address) (name : e.function = e'.function)
    (settings : RefillSettings) {k : Panel} (trigger : k.trigger = .perFunction)
    (hk : k ≠ .function) : Alike F.Desks (handler settings e k) (handler settings e' k) := by
  cases k with
  | offset => exact nomatch trigger
  | jumpPreview => exact nomatch trigger
  | function => exact absurd rfl hk
  | references =>
      refine .bind (same.sharedReferences_alike .outgoing) fun out => ?_
      refine .bind (F.entries_alike .outgoing out) fun outgoing => ?_
      refine .bind (same.sharedReferences_alike .incoming) fun into => ?_
      refine .bind (F.entries_alike .incoming into) fun incoming => ?_
      split <;> exact .pure _
  | charts =>
      refine .bind same.sharedMetrics_alike fun m => ?_
      split
      · exact .pure none
      · exact .bind (.page _) fun pages => .pure _
  | decompiled =>
      show Alike F.Desks (decompiled e) (decompiled e')
      unfold decompiled
      rw [name]
      split
      · exact .pure none
      · refine .bind (F.alike_ask (.decompile e'.function) trivial) fun text => ?_
        split <;> exact .pure _
  | miniGraph =>
      show Alike F.Desks (miniGraph settings e) (miniGraph settings e')
      unfold miniGraph
      rw [name]
      split
      · exact .pure none
      · refine .bind (F.alike_ask (.simplifiedGraph e'.function) trivial) fun description => ?_
        split
        · exact .pure none
        · exact .bind (.page _) fun page => .pure _

variable (F)

theorem handler_alike (settings : RefillSettings) (e : FocusEvent) (k : Panel) :
    Alike F.Desks (handler settings e k) (handler settings e k) := by
  have same := SameFunction.refl F e.address
  cases k with
  | offset => exact F.offset_alike e
  | jumpPreview => exact F.jumpPreview_alike settings e
  | function => exact F.function_alike e
  | references => exact same.perFunction_alike rfl settings rfl nofun
  | charts => exact same.perFunction_alike rfl settings rfl nofun
  | decompiled => exact same.perFunction_alike rfl settings rfl nofun
  | miniGraph => exact same.perFunction_alike rfl settings rfl nofun

/-! ## A whole pass -/

variable (settings : RefillSettings) (e : FocusEvent) {d : Desk σ} {alone : σ}

variable {F}

/-- A handler comes to what it comes to alone, and leaves a desk on which the next one
does. -/
theorem outcome_eq_alone (hd : F.OnDesk F.Sound d) (other : F.On alone) (k : Panel) :
    outcome settings e k d = outcome settings e k ⟨alone, {}⟩ ∧
      F.OnDesk F.Sound (deskAfter settings e k d) := by
  obtain ⟨same, left, -⟩ := F.handler_alike settings e k
    (show F.Desks d ⟨alone, {}⟩ from ⟨hd, F.fresh other⟩)
  exact ⟨same, left⟩

/-- A pass finds for each panel what its handler finds alone. -/
theorem content?_eq_alone (hd : F.OnDesk F.Sound d) (other : F.On alone) {ks : List Panel}
    (nodup : ks.Nodup) {k : Panel} (hk : k ∈ ks) :
    (runPanels settings e ks d).1.content? k =
      (updateOf k (outcome settings e k ⟨alone, {}⟩)).content? := by
  induction ks generalizing d with
  | nil => exact nomatch hk
  | cons j ks ih =>
      obtain ⟨hj, hks⟩ := List.nodup_cons.mp nodup
      obtain ⟨same, left⟩ := outcome_eq_alone settings e hd other j
      rw [content?_cons settings e hj]
      rcases List.mem_cons.mp hk with rfl | later
      · rw [if_pos rfl, same]
      · have ne : k ≠ j := by
          rintro rfl
          exact hj later
        rw [if_neg ne]
        exact ih left hks later

end FixedAnswers

end AsmView
