/-
# What the handlers of the panels ask

Over a logged analyzer a handler does what it does over the analyzer itself, and all that it
puts on record is of the sort that `Asks` has for its panel (`handler_mirrors`).  Since no two
panels share a question that is put at most once, the number of such questions in a pass over
several panels is that of the one handler which puts them (`runPanels_adds`).
-/
import AsmView.Proofs.Analyzer.Logged
import AsmView.Proofs.Panel.Refill

namespace AsmView

variable {σ α β : Type}

/-- The desk of the analyzer that is logged. -/
def Desk.plain (d : Desk (Logged σ)) : Desk σ :=
  { d with engine := d.engine.engine }

/-- Between two desks so many questions of a sort were put on record. -/
def Desk.Adds (p : Call → Bool) (n : Nat) (c d : Desk (Logged σ)) : Prop :=
  d.engine.count p = c.engine.count p + n

theorem Desk.Adds.trans {p : Call → Bool} {m n : Nat} {b c d : Desk (Logged σ)}
    (h : b.Adds p m c) (h' : c.Adds p n d) : b.Adds p (m + n) d :=
  Eq.trans h' ((congrArg (· + n) h).trans (Nat.add_assoc _ m n))

namespace Handler

/-- A handler over a logged analyzer does what the other one does over the analyzer, and the
questions it adds to the record are all of one sort. -/
def Mirrors (S : Call → Prop) (h' : Handler (Logged σ) α) (h : Handler σ α) : Prop :=
  ∀ d : Desk (Logged σ), h.on d.plain = ((h'.on d).1, (h'.on d).2.plain) ∧
    ∃ asked, (h'.on d).2.engine.calls = d.engine.calls ++ asked ∧ ∀ c ∈ asked, S c.1

section Mirrors

variable {S : Call → Prop}

theorem Mirrors.pure (a : α) : Mirrors (σ := σ) S (pure a) (pure a) :=
  fun _ => ⟨rfl, [], (List.append_nil _).symm, nofun⟩

theorem Mirrors.throw (f : PanelFault) :
    Mirrors (σ := σ) (α := α) S (throw f) (throw f) :=
  fun _ => ⟨rfl, [], (List.append_nil _).symm, nofun⟩

theorem Mirrors.bind {g' : Handler (Logged σ) α} {g : Handler σ α}
    {f' : α → Handler (Logged σ) β} {f : α → Handler σ β} (hg : Mirrors S g' g)
    (hf : ∀ a, Mirrors S (f' a) (f a)) : Mirrors S (g' >>= f') (g >>= f) := by
  intro d
  obtain ⟨same, asked, more, sorted⟩ := hg d
  rw [on_bind, on_bind, same]
  cases h : g'.on d with
  | mk answer t =>
      rw [h] at more
      cases answer with
      | error e => exact ⟨rfl, asked, more, sorted⟩
      | ok a =>
          obtain ⟨same', asked', more', sorted'⟩ := hf a t
          refine ⟨same', asked ++ asked', ?_, ?_⟩
          · dsimp only at more ⊢
            rw [more', more, List.append_assoc]
          · intro c hc
            rcases List.mem_append.mp hc with first | later
            · exact sorted c first
            · exact sorted' c later

/-- A look at the desk shows each of the two its own. -/
theorem Mirrors.get_bind {f' : Desk (Logged σ) → Handler (Logged σ) β}
    {f : Desk σ → Handler σ β} (hf : ∀ d, Mirrors S (f' d) (f d.plain)) :
    Mirrors S (get >>= f') (get >>= f) := by
  intro d
  rw [on_bind, on_bind]
  exact hf d d

theorem Mirrors.ask [Analyzer σ] (q : Question α) (h : S q.call) :
    Mirrors (σ := σ) S (Refill.ask q.query) (Refill.ask q.query) := by
  intro d
  rw [on_ask, on_ask, Logged.ask_query]
  refine ⟨rfl, [(q.call, _)], rfl, ?_⟩
  rintro c (_ | _)
  · exact h
  · contradiction

theorem Mirrors.updateCache (f : FocusFacts → FocusFacts) :
    Mirrors (σ := σ) S (Refill.updateCache f) (Refill.updateCache f) :=
  fun _ => ⟨rfl, [], (List.append_nil _).symm, nofun⟩

theorem Mirrors.page (r : Except TemplateFault α) :
    Mirrors (σ := σ) S (Refill.page r) (Refill.page r) := by
  cases r with
  | ok a => exact .pure a
  | error f => exact .throw (.template f)

/-- Questions of other sorts do not count. -/
theorem Mirrors.adds {h' : Handler (Logged σ) α} {h : Handler σ α} (mirrors : Mirrors S h' h)
    {p : Call → Bool} (other : ∀ c, S c → p c = false) : Leaves (Desk.Adds p 0) h' := by
  intro d
  obtain ⟨-, asked, more, sorted⟩ := mirrors d
  have none : asked.countP (p ·.1) = 0 := by
    rw [List.countP_eq_zero]
    intro c hc
    simp [other c.1 (sorted c hc)]
  unfold Desk.Adds Logged.count
  rw [more, List.countP_append, none]

end Mirrors

/-- A bind relates the desk it finds to the one it leaves by what its two parts do. -/
theorem Leaves.andThen {R S T : Desk σ → Desk σ → Prop} {g : Handler σ α} {f : α → Handler σ β}
    (hg : Leaves R g) (hf : ∀ a, Leaves S (f a)) (stop : ∀ {c d}, R c d → T c d)
    (go : ∀ {b c d}, R b c → S c d → T b d) : Leaves T (g >>= f) := by
  intro d
  have first := hg d
  rw [on_bind]
  cases h : g.on d with
  | mk answer t =>
      rw [h] at first
      cases answer with
      | ok a => exact go first (hf a t)
      | error e => exact stop first

end Handler

namespace Refill

open Handler

/-- What the handler of a panel may ask. -/
def Asks : Panel → Call → Prop
  | .offset, .reposition _ => True
  | .offset, .offsetInfo _ => True
  | .offset, .opcodeDescription _ => True
  | .jumpPreview, .jumpTarget _ => True
  | .jumpPreview, .reposition _ => True
  | .jumpPreview, .disassemble _ => True
  | .function, .reposition _ => True
  | .function, .functionAt _ => True
  | .references, .reposition _ => True
  | .references, .references _ _ => True
  | .references, .disassembleOne _ => True
  | .charts, .reposition _ => True
  | .charts, .references _ _ => True
  | .charts, .complexity _ => True
  | .charts, .blockCount _ => True
  | .charts, .exitCount _ => True
  | .decompiled, .decompile _ => True
  | .miniGraph, .simplifiedGraph _ => True
  | _, _ => False

theorem Asks.panel_of_isTransfer {k : Panel} {c : Call} (h : Asks k c)
    (sort : c.isTransfer = true) : k = .jumpPreview := by
  cases c <;> cases k <;> simp_all [Asks, Call.isTransfer]

theorem Asks.panel_of_isBody {k : Panel} {c : Call} (h : Asks k c) (sort : c.isBody = true) :
    k = .decompiled := by
  cases c <;> cases k <;> simp_all [Asks, Call.isBody]

theorem Asks.panel_of_isGraph {k : Panel} {c : Call} (h : Asks k c) (sort : c.isGraph = true) :
    k = .miniGraph := by
  cases c <;> cases k <;> simp_all [Asks, Call.isGraph]

theorem Asks.panel_of_isReferences {k : Panel} {c : Call} (h : Asks k c)
    (sort : c.isReferences = true) : k = .references ∨ k = .charts := by
  cases c <;> cases k <;> simp_all [Asks, Call.isReferences]

theorem Asks.trigger_of_isHeavy {k : Panel} {c : Call} (h : Asks k c) (sort : c.isHeavy = true) :
    k.trigger = .perFunction := by
  cases c <;> cases k <;> simp_all [Asks, Call.isHeavy, Panel.trigger]

/-! ## Every handler over a logged analyzer -/

section Mirrors

variable [Analyzer σ] {S : Call → Prop}

theorem offset_mirrors (e : FocusEvent) :
    Mirrors (σ := σ) (Asks .offset) (offset e) (offset e) := by
  refine .bind (.ask (.reposition e.address) trivial) fun _ => ?_
  refine .bind (.ask (.offsetInfo e.address) trivial) fun info => ?_
  refine .bind (.ask (.opcodeDescription e.address) trivial) fun description => ?_
  dsimp only
  split <;> exact .pure _

theorem previewFrom_mirrors (place : ∀ a, S (.reposition a))
    (batch : ∀ n, S (.disassemble n)) (target : Address) (count : Nat) (starts : List Address)
    (fallback : Option TargetWindow) :
    Mirrors (σ := σ) S (previewFrom target count starts fallback)
      (previewFrom target count starts fallback) := by
  induction starts generalizing fallback with
  | nil => exact .pure fallback
  | cons start starts ih =>
      refine .bind (.ask (.reposition start) (place start)) fun _ => ?_
      refine .bind (.ask (.disassemble count) (batch count)) fun text => ?_
      split
      · exact ih fallback
      · split
        · exact .pure _
        · exact ih _

/-- What the jump preview does once it knows where the line leads. -/
theorem preview_mirrors (place : ∀ a, S (.reposition a)) (batch : ∀ n, S (.disassemble n))
    (target : Address) (count : Nat) :
    Mirrors (σ := σ) S
      (do
        let starts := windowStarts target (Analyzer.functions (← get).engine)
        pure ((← previewFrom target count starts none).map Content.jumpPreview))
      (do
        let starts := windowStarts target (Analyzer.functions (← get).engine)
        pure ((← previewFrom target count starts none).map Content.jumpPreview)) := by
  refine .get_bind fun d => ?_
  exact .bind (previewFrom_mirrors place batch _ _ _ _) fun window? => .pure _

theorem jumpPreview_mirrors (settings : RefillSettings) (e : FocusEvent) :
    Mirrors (σ := σ) (Asks .jumpPreview) (jumpPreview settings e) (jumpPreview settings e) := by
  refine .bind (.ask (.jumpTarget e.line) trivial) fun target? => ?_
  cases target? with
  | none => exact .pure none
  | some target => exact preview_mirrors (fun _ => trivial) (fun _ => trivial) target _

theorem function_mirrors (e : FocusEvent) :
    Mirrors (σ := σ) (Asks .function) (function e) (function e) := by
  refine .bind (.ask (.reposition e.address) trivial) fun _ => ?_
  refine .bind (.ask (.functionAt e.address) trivial) fun record? => ?_
  cases record? with
  | none => dsimp only; split <;> exact .pure _
  | some r => dsimp only; split <;> exact .pure _

theorem sharedReferences_mirrors (place : ∀ a, S (.reposition a))
    (refer : ∀ a d, S (.references a d)) (a : Address) (direction : Direction) :
    Mirrors (σ := σ) S (sharedReferences a direction) (sharedReferences a direction) := by
  refine .bind (.updateCache _) fun _ => .get_bind fun d => ?_
  rw [show d.plain.cache = d.cache from rfl]
  cases d.cache.references? direction with
  | some edges => exact .pure edges
  | none =>
      refine .bind (.ask (.reposition a) (place a)) fun _ => ?_
      refine .bind (.ask (.references a direction) (refer a direction)) fun edges => ?_
      exact .bind (.updateCache _) fun _ => .pure edges

theorem sharedMetrics_mirrors (a : Address) :
    Mirrors (σ := σ) (Asks .charts) (sharedMetrics a) (sharedMetrics a) := by
  refine .bind (.updateCache _) fun _ => .get_bind fun d => ?_
  rw [show d.plain.cache = d.cache from rfl]
  cases d.cache.metrics? with
  | some m => exact .pure m
  | none =>
      have shared := sharedReferences_mirrors (σ := σ) (S := Asks .charts) (fun _ => trivial)
        (fun _ _ => trivial) a
      refine .bind (shared .outgoing) fun outgoing => .bind (shared .incoming) fun incoming => ?_
      refine .bind (.ask (.reposition a) trivial) fun _ => ?_
      refine .bind (.ask (.complexity a) trivial) fun complexity => ?_
      refine .bind (.ask (.blockCount a) trivial) fun blocks => ?_
      refine .bind (.ask (.exitCount a) trivial) fun exits => ?_
      exact .bind (.updateCache _) fun _ => .pure _

theorem entries_mirrors (look : ∀ a, S (.disassembleOne a)) (direction : Direction)
    (edges : List Reference) :
    Mirrors (σ := σ) S (entries direction edges) (entries direction edges) := by
  induction edges with
  | nil => exact .pure []
  | cons r rs ih =>
      refine .bind (.ask (.disassembleOne r.source) (look r.source)) fun line => ?_
      exact .bind ih fun rest => .pure _

theorem references_mirrors (e : FocusEvent) :
    Mirrors (σ := σ) (Asks .references) (references e) (references e) := by
  have shared := sharedReferences_mirrors (σ := σ) (S := Asks .references) (fun _ => trivial)
    (fun _ _ => trivial) e.address
  have listed := entries_mirrors (σ := σ) (S := Asks .references) fun _ => trivial
  refine .bind (shared .outgoing) fun out => .bind (listed .outgoing out) fun outgoing => ?_
  refine .bind (shared .incoming) fun into => .bind (listed .incoming into) fun incoming => ?_
  split <;> exact .pure _

theorem charts_mirrors (settings : RefillSettings) (e : FocusEvent) :
    Mirrors (σ := σ) (Asks .charts) (charts settings e) (charts settings e) := by
  refine .bind (sharedMetrics_mirrors e.address) fun m => ?_
  split
  · exact .pure none
  · exact .bind (.page _) fun pages => .pure _

theorem decompiled_mirrors (e : FocusEvent) :
    Mirrors (σ := σ) (Asks .decompiled) (decompiled e) (decompiled e) := by
  unfold decompiled
  split
  · exact .pure none
  · refine .bind (.ask (.decompile e.function) trivial) fun text => ?_
    split <;> exact .pure _

theorem miniGraph_mirrors (settings : RefillSettings) (e : FocusEvent) :
    Mirrors (σ := σ) (Asks .miniGraph) (miniGraph settings e) (miniGraph settings e) := by
  unfold miniGraph
  split
  · exact .pure none
  · refine .bind (.ask (.simplifiedGraph e.function) trivial) fun description => ?_
    split
    · exact .pure none
    · exact .bind (.page _) fun page => .pure _

theorem handler_mirrors (settings : RefillSettings) (e : FocusEvent) (k : Panel) :
    Mirrors (σ := σ) (Asks k) (handler settings e k) (handler settings e k) := by
  cases k with
  | offset => exact offset_mirrors e
  | jumpPreview => exact jumpPreview_mirrors settings e
  | function => exact function_mirrors e
  | references => exact references_mirrors e
  | charts => exact charts_mirrors settings e
  | decompiled => exact decompiled_mirrors e
  | miniGraph => exact miniGraph_mirrors settings e

end Mirrors

/-! ## Questions that are put once -/

section Adds

variable {p : Call → Bool} {n : Nat}

theorem adds_pure (a : α) : Leaves (Desk.Adds p 0) (pure a : Handler (Logged σ) α) :=
  .pure (R := Desk.Adds p 0) (fun _ => rfl) a

/-- What follows the questions of a sort puts no more of them. -/
theorem adds_bind {g : Handler (Logged σ) α} {f : α → Handler (Logged σ) β}
    (hg : Leaves (Desk.Adds p n) g) (hf : ∀ a, Leaves (Desk.Adds p 0) (f a)) :
    Leaves (Desk.Adds p n) (g >>= f) :=
  hg.andThen hf id fun first rest => first.trans rest

variable [Analyzer σ]

theorem adds_ask (q : Question α) :
    Leaves (Desk.Adds (σ := σ) p (if p q.call then 1 else 0)) (ask q.query) := by
  intro d
  rw [on_ask, Logged.ask_query]
  show List.countP _ (d.engine.calls ++ [_]) = _
  rw [List.countP_append, List.countP_singleton]
  rfl

variable (settings : RefillSettings) (e : FocusEvent)

/-- The jump preview asks once where the line leads. -/
theorem jumpPreview_adds :
    Leaves (Desk.Adds (σ := σ) Call.isTransfer 1) (handler settings e .jumpPreview) := by
  refine adds_bind (adds_ask (.jumpTarget e.line)) fun target? => ?_
  cases target? with
  | none => exact adds_pure _
  | some target =>
      have shown := preview_mirrors (σ := σ) (S := (·.isTransfer = false)) (fun _ => rfl)
        (fun _ => rfl) target settings.previewLines
      exact shown.adds fun _ => id

/-- The body of a function is asked for once, unless there is no function. -/
theorem decompiled_adds :
    Leaves (Desk.Adds (σ := σ) Call.isBody (if e.function.isEmpty then 0 else 1))
      (handler settings e .decompiled) := by
  show Leaves _ (decompiled e)
  unfold decompiled
  split
  · exact adds_pure none
  · refine adds_bind (adds_ask (.decompile e.function)) fun text => ?_
    split <;> exact adds_pure _

/-- The graph of a function is asked for once, unless there is no function. -/
theorem miniGraph_adds :
    Leaves (Desk.Adds (σ := σ) Call.isGraph (if e.function.isEmpty then 0 else 1))
      (handler settings e .miniGraph) := by
  show Leaves _ (miniGraph settings e)
  unfold miniGraph
  split
  · exact adds_pure none
  · refine adds_bind (adds_ask (.simplifiedGraph e.function)) fun description => ?_
    split
    · exact adds_pure none
    · refine adds_bind ?_ fun page => adds_pure _
      exact (Mirrors.page (σ := σ) (S := (·.isGraph = false)) _).adds fun _ => id

/-! ## Passes over several panels -/

/-- What every handler of a pass does to the desk, the pass does. -/
theorem runPanels_leaves {R : Desk σ → Desk σ → Prop} (refl : ∀ d, R d d)
    (trans : ∀ {b c d}, R b c → R c d → R b d) {ks : List Panel}
    (each : ∀ k ∈ ks, Leaves R (handler settings e k)) (d : Desk σ) :
    R d (runPanels settings e ks d).2 := by
  induction ks generalizing d with
  | nil => exact refl d
  | cons k ks ih =>
      rw [runPanels_cons]
      have first := each k List.mem_cons_self d
      exact trans first (ih (fun j hj => each j (List.mem_cons_of_mem k hj)) _)

/-- Over a logged analyzer a pass reports what it reports over the analyzer. -/
theorem runPanels_plain (ks : List Panel) (d : Desk (Logged σ)) :
    runPanels settings e ks d.plain =
      ((runPanels settings e ks d).1, (runPanels settings e ks d).2.plain) := by
  induction ks generalizing d with
  | nil => rfl
  | cons k ks ih =>
      obtain ⟨same, -⟩ := handler_mirrors settings e k d
      have result : outcome settings e k d.plain = outcome settings e k d := congrArg Prod.fst same
      have desk : deskAfter settings e k d.plain = (deskAfter settings e k d).plain :=
        congrArg Prod.snd same
      rw [runPanels_cons, runPanels_cons]
      dsimp only
      rw [result, desk, ih]

/-- Questions that none of the panels has a use for are not put. -/
theorem runPanels_adds_none {ks : List Panel}
    (other : ∀ k ∈ ks, ∀ c, Asks k c → p c = false) (d : Desk (Logged σ)) :
    d.Adds p 0 (runPanels settings e ks d).2 := by
  refine runPanels_leaves (R := Desk.Adds p 0) settings e (fun _ => rfl) (fun h h' => h.trans h')
    ?_ d
  intro k hk
  exact (handler_mirrors settings e k).adds (other k hk)

/-- Questions that only one panel has a use for are put as often as its handler puts them. -/
theorem runPanels_adds {own : Panel} (only : ∀ k c, Asks k c → p c = true → k = own)
    (adds : Leaves (Desk.Adds (σ := σ) p n) (handler settings e own)) {ks : List Panel}
    (nodup : ks.Nodup) (d : Desk (Logged σ)) :
    d.Adds p (if own ∈ ks then n else 0) (runPanels settings e ks d).2 := by
  have others : ∀ k, k ≠ own → ∀ c, Asks k c → p c = false := by
    intro k other c asks
    cases put : p c with
    | false => rfl
    | true => exact absurd (only k c asks put) other
  induction ks generalizing d with
  | nil => exact rfl
  | cons k ks ih =>
      obtain ⟨absent, nodup⟩ := List.nodup_cons.mp nodup
      by_cases h : k = own
      · -- the panel is not among the others, and these have no use for the question
        subst h
        have rest : ∀ j ∈ ks, ∀ c, Asks j c → p c = false :=
          fun j hj => others j fun same => absent (same ▸ hj)
        rw [runPanels_cons, if_pos List.mem_cons_self]
        exact (adds d).trans (runPanels_adds_none settings e rest _)
      · have first : Leaves (Desk.Adds (σ := σ) p 0) (handler settings e k) :=
          (handler_mirrors settings e k).adds (others k h)
        have rest := (first d).trans (ih nodup _)
        rw [Nat.zero_add] at rest
        rw [runPanels_cons]
        simpa only [List.mem_cons, or_iff_right (Ne.symm h)] using rest

end Adds

end Refill

end AsmView
