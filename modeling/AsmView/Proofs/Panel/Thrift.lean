/-
# References are asked for once

Two handlers of a full pass want the references of the focus, and what one of them was answered
the other finds in the cache.  `Desk.Thrifty` is what makes this work: every answered question
for references was about the address the cache belongs to, and its answer is still there.  Each
handler preserves it (`handler_saves`); only a question for references could break it, and that
is put when the cache has no answer (`references_saves`).
-/
import AsmView.Proofs.Panel.Calls

namespace AsmView

variable {σ α : Type}

/-- No question for references on record was put again once it was answered, and what was
answered is in the cache, which is that of the address. -/
structure Desk.Thrifty (a : Address) (d : Desk (Logged σ)) : Prop where
  unrepeated : Unrepeated d.engine.calls
  remembered : ∀ b k, (.references b k, true) ∈ d.engine.calls →
    b = a ∧ d.cache.address = some a ∧ (d.cache.references? k).isSome

/-- The cache is that of the address and has no references of a direction. -/
def Desk.Lacks (a : Address) (k : Direction) (d : Desk σ) : Prop :=
  d.cache.address = some a ∧ d.cache.references? k = none

/-- A desk on which nothing was asked for twice leads to another one. -/
def Desk.Saves (a : Address) (c d : Desk (Logged σ)) : Prop :=
  c.Thrifty a → d.Thrifty a

theorem Desk.Saves.trans {a : Address} {b c d : Desk (Logged σ)} (h : b.Saves a c)
    (h' : c.Saves a d) : b.Saves a d :=
  h' ∘ h

/-- The cache belongs to the address it was turned to. -/
theorem FocusFacts.address_focusOn (c : FocusFacts) (a : Address) :
    (c.focusOn a).address = some a := by
  unfold focusOn
  split
  · assumption
  · rfl

namespace Desk.Thrifty

variable {a : Address}

theorem of_asked {c d : Desk (Logged σ)} (h : c.Thrifty a) {asked : List (Call × Bool)}
    (more : d.engine.calls = c.engine.calls ++ asked)
    (other : ∀ c ∈ asked, c.1.isReferences = false) (cache : d.cache = c.cache) :
    d.Thrifty a where
  unrepeated := by
    rw [more]
    exact h.unrepeated.append other
  remembered := by
    rw [more, cache]
    intro b k answered
    exact h.remembered b k ((mem_references_append other).mp answered)

/-- Turning to the address forgets nothing that was asked for. -/
theorem focusOn {d : Desk (Logged σ)} (h : d.Thrifty a) :
    Desk.Thrifty a { d with cache := d.cache.focusOn a } where
  unrepeated := h.unrepeated
  remembered := by
    intro b k answered
    obtain ⟨same, here, known⟩ := h.remembered b k answered
    have kept : d.cache.focusOn a = d.cache := if_pos here
    rw [kept]
    exact ⟨same, here, known⟩

end Desk.Thrifty

namespace Refill

open Handler

variable {a : Address}

theorem saves_pure (x : α) : Leaves (Desk.Saves a) (pure x : Handler (Logged σ) α) :=
  .pure (R := Desk.Saves a) (fun _ => id) x

theorem saves_metrics (m : Metrics) :
    Leaves (Desk.Saves (σ := σ) a) (updateCache ({ · with metrics? := some m })) :=
  fun _ thrifty => ⟨thrifty.unrepeated, fun b k answered => thrifty.remembered b k answered⟩

variable [Analyzer σ]

/-- A handler that leaves the cache alone and asks for no references. -/
theorem saves_of_kept {S : Call → Prop} {h' : Handler (Logged σ) α} {h : Handler σ α}
    (kept : Leaves Desk.Kept h') (mirrors : Mirrors S h' h)
    (other : ∀ c, S c → c.isReferences = false) : Leaves (Desk.Saves a) h' := by
  intro d thrifty
  obtain ⟨-, asked, more, sorted⟩ := mirrors d
  exact thrifty.of_asked more (fun c hc => other c.1 (sorted c hc)) (kept d).2

theorem saves_ask (q : Question α) (other : q.call.isReferences = false) :
    Leaves (Desk.Saves (σ := σ) a) (ask q.query) :=
  saves_of_kept (kept_ask q) (.ask (S := (·.isReferences = false)) q other) fun _ => id

/-- References that the cache lacks are asked for, and remembered if there is an answer. -/
theorem references_saves (k : Direction) :
    Leaves (fun c d => c.Lacks a k → Desk.Saves a c d) (do
      let edges ← ask (Analyzer.references a k)
      updateCache (·.setReferences edges k)
      pure edges : Handler (Logged σ) (List Reference)) := by
  rintro d ⟨here, unknown⟩ thrifty
  -- an answer would be in the cache, so there was none yet
  have fresh : ∀ c ∈ d.engine.calls, c.1.isReferences = true → c.2 = true →
      Call.references a k ≠ c.1 := by
    rintro ⟨c, answered⟩ hc - rfl rfl
    have known := (thrifty.remembered a k hc).2.2
    rw [unknown] at known
    exact nomatch known
  have unrepeated : ∀ answered, Unrepeated (d.engine.calls ++ [(.references a k, answered)]) := by
    intro answered
    refine List.pairwise_append.mpr ⟨thrifty.unrepeated, List.pairwise_singleton _ _, ?_⟩
    intro c hc later hlater
    obtain rfl := List.mem_singleton.mp hlater
    exact fresh c hc
  have asked := Logged.ask_query (.references a k) d.engine
  show Desk.Thrifty a ((ask (Question.references a k).query >>= fun edges =>
    updateCache (·.setReferences edges k) >>= fun _ => pure edges : Handler _ _).on d).2
  rw [on_bind, on_ask, asked]
  generalize (Question.references a k).query.ask d.engine.engine = result
  obtain ⟨answer, engine⟩ := result
  cases answer with
  | error f =>
      refine ⟨unrepeated false, fun b j answered => thrifty.remembered b j ?_⟩
      rcases List.mem_append.mp answered with before | now
      · exact before
      · exact nomatch congrArg Prod.snd (List.mem_singleton.mp now)
  | ok edges =>
      refine ⟨unrepeated true, fun b j answered => ?_⟩
      have place : (d.cache.setReferences edges k).address = some a := by
        cases k <;> exact here
      rcases List.mem_append.mp answered with before | now
      · obtain ⟨same, -, known⟩ := thrifty.remembered b j before
        refine ⟨same, place, ?_⟩
        cases k <;> cases j <;> first | rfl | exact known
      · obtain ⟨rfl, rfl⟩ := Call.references.inj (congrArg Prod.fst (List.mem_singleton.mp now))
        refine ⟨rfl, place, ?_⟩
        cases j <;> rfl

theorem sharedReferences_saves (k : Direction) :
    Leaves (Desk.Saves (σ := σ) a) (sharedReferences a k) := by
  intro d thrifty
  unfold sharedReferences
  rw [on_bind, on_updateCache]
  dsimp only
  rw [on_bind, on_get]
  dsimp only
  have here := d.cache.address_focusOn a
  replace thrifty := thrifty.focusOn
  generalize d.cache.focusOn a = cache at here thrifty ⊢
  cases unknown : cache.references? k with
  | some edges => exact thrifty
  | none =>
      have placed : Leaves (fun c d => Desk.Saves a c d ∧ d.cache = c.cache)
          (ask (Question.reposition a).query : Handler (Logged σ) Unit) :=
        fun d => ⟨saves_ask (.reposition a) rfl d, (kept_ask (.reposition a) d).2⟩
      refine placed.andThen (T := fun c d => c.Lacks a k → Desk.Saves a c d)
        (fun _ => references_saves k) (fun h _ => h.1) ?_ _ ⟨here, unknown⟩ thrifty
      rintro b c d ⟨saved, same⟩ rest ⟨here, unknown⟩
      exact saved.trans (rest ⟨same ▸ here, same ▸ unknown⟩)

theorem sharedMetrics_saves : Leaves (Desk.Saves (σ := σ) a) (sharedMetrics a) := by
  refine .bind .trans (fun _ thrifty => thrifty.focusOn) fun _ => ?_
  refine .bind .trans (fun _ => id) fun d => ?_
  cases d.cache.metrics? with
  | some m => exact saves_pure m
  | none =>
      refine .bind .trans (sharedReferences_saves .outgoing) fun outgoing => ?_
      refine .bind .trans (sharedReferences_saves .incoming) fun incoming => ?_
      refine .bind .trans (saves_ask (.reposition a) rfl) fun _ => ?_
      refine .bind .trans (saves_ask (.complexity a) rfl) fun complexity => ?_
      refine .bind .trans (saves_ask (.blockCount a) rfl) fun blocks => ?_
      refine .bind .trans (saves_ask (.exitCount a) rfl) fun exits => ?_
      exact .bind .trans (saves_metrics _) fun _ => saves_pure _

theorem entries_saves (k : Direction) (edges : List Reference) :
    Leaves (Desk.Saves (σ := σ) a) (entries k edges) :=
  saves_of_kept (entries_kept k edges)
    (entries_mirrors (S := (·.isReferences = false)) (fun _ => rfl) k edges) fun _ => id

theorem saves_page (r : Except TemplateFault α) : Leaves (Desk.Saves (σ := σ) a) (page r) :=
  saves_of_kept (kept_page r) (.page (S := (·.isReferences = false)) r) fun _ => id

/-- Panels that have no use for references. -/
theorem Asks.not_isReferences {k : Panel} (h : k ≠ .references) (h' : k ≠ .charts) {c : Call}
    (asks : Asks k c) : c.isReferences = false := by
  cases put : c.isReferences with
  | false => rfl
  | true =>
      rcases asks.panel_of_isReferences put with own | own
      · exact absurd own h
      · exact absurd own h'

/-- No handler asks for references that another one has the answer to. -/
theorem handler_saves (settings : RefillSettings) (e : FocusEvent) (k : Panel) :
    Leaves (Desk.Saves (σ := σ) e.address) (handler settings e k) := by
  cases k with
  | offset =>
      exact saves_of_kept (offset_kept e) (offset_mirrors e)
        fun _ => Asks.not_isReferences (by decide) (by decide)
  | jumpPreview =>
      exact saves_of_kept (jumpPreview_kept settings e) (jumpPreview_mirrors settings e)
        fun _ => Asks.not_isReferences (by decide) (by decide)
  | function =>
      exact saves_of_kept (function_kept e) (function_mirrors e)
        fun _ => Asks.not_isReferences (by decide) (by decide)
  | references =>
      refine .bind .trans (sharedReferences_saves .outgoing) fun out => ?_
      refine .bind .trans (entries_saves .outgoing out) fun outgoing => ?_
      refine .bind .trans (sharedReferences_saves .incoming) fun into => ?_
      refine .bind .trans (entries_saves .incoming into) fun incoming => ?_
      split <;> exact saves_pure _
  | charts =>
      refine .bind .trans sharedMetrics_saves fun m => ?_
      split
      · exact saves_pure none
      · exact .bind .trans (saves_page _) fun pages => saves_pure _
  | decompiled =>
      exact saves_of_kept (decompiled_kept e) (decompiled_mirrors e)
        fun _ => Asks.not_isReferences (by decide) (by decide)
  | miniGraph =>
      exact saves_of_kept (miniGraph_kept settings e) (miniGraph_mirrors settings e)
        fun _ => Asks.not_isReferences (by decide) (by decide)

/-- A pass puts no question for references twice once it was answered. -/
theorem runPanels_saves (settings : RefillSettings) (e : FocusEvent) (ks : List Panel)
    (d : Desk (Logged σ)) : d.Saves e.address (runPanels settings e ks d).2 :=
  runPanels_leaves (R := Desk.Saves e.address) settings e (fun _ => id) .trans
    (fun k _ => handler_saves settings e k) d

end Refill

end AsmView
