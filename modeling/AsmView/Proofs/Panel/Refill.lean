/-
# What a refill leaves behind

Handlers do nothing to the analyzer but ask it, and each answers with a content of its
own panel.  So a refill has exactly one outcome for each panel it concerns, and applying
its report puts the content found, or nothing, into each of them and leaves the others
as they were.
-/
import AsmView.Session
import AsmView.Proofs.Panel.Handler

namespace AsmView

variable {σ : Type} [Analyzer σ]

/-! ## The analyzer is only asked -/

/-- One desk comes out of another by asking the analyzer. -/
def Desk.Onward (c d : Desk σ) : Prop :=
  Analyzer.Asked c.engine d.engine

/-- The same, and the cache is as it was. -/
def Desk.Kept (c d : Desk σ) : Prop :=
  Analyzer.Asked c.engine d.engine ∧ d.cache = c.cache

theorem Desk.Onward.trans {b c d : Desk σ} (h : b.Onward c) (h' : c.Onward d) : b.Onward d :=
  Relation.ReflTransGen.trans h h'

theorem Desk.Kept.trans {b c d : Desk σ} (h : b.Kept c) (h' : c.Kept d) : b.Kept d :=
  ⟨Relation.ReflTransGen.trans h.1 h'.1, h'.2.trans h.2⟩

namespace Refill

open Handler

variable {α : Type}

theorem kept_pure (a : α) : Leaves Desk.Kept (pure a : Handler σ α) :=
  .pure (fun _ => ⟨.refl, rfl⟩) a

theorem kept_ask (q : Question α) : Leaves Desk.Kept (ask q.query : Handler σ α) := by
  intro d
  rw [on_ask]
  exact ⟨.single (.mk q d.engine), rfl⟩

theorem kept_page (r : Except TemplateFault α) : Leaves Desk.Kept (page r : Handler σ α) := by
  cases r with
  | ok a => exact kept_pure a
  | error f => exact fun _ => ⟨.refl, rfl⟩

theorem onward_of_kept {h : Handler σ α} (hk : Leaves Desk.Kept h) : Leaves Desk.Onward h :=
  fun d => (hk d).1

theorem onward_pure (a : α) : Leaves Desk.Onward (pure a : Handler σ α) :=
  onward_of_kept (kept_pure a)

theorem onward_ask (q : Question α) : Leaves Desk.Onward (ask q.query : Handler σ α) :=
  onward_of_kept (kept_ask q)

theorem onward_updateCache (f : FocusFacts → FocusFacts) :
    Leaves Desk.Onward (updateCache f : Handler σ Unit) :=
  fun _ => .refl

theorem offset_kept (e : FocusEvent) : Leaves Desk.Kept (offset e : Handler σ _) := by
  refine .bind .trans (kept_ask (.reposition e.address)) fun _ => ?_
  refine .bind .trans (kept_ask (.offsetInfo e.address)) fun info => ?_
  refine .bind .trans (kept_ask (.opcodeDescription e.address)) fun description => ?_
  dsimp only
  split <;> exact kept_pure _

theorem previewFrom_kept (target : Address) (count : Nat) (starts : List Address)
    (fallback : Option TargetWindow) :
    Leaves Desk.Kept (previewFrom target count starts fallback : Handler σ _) := by
  induction starts generalizing fallback with
  | nil => exact kept_pure fallback
  | cons start starts ih =>
      refine .bind .trans (kept_ask (.reposition start)) fun _ => ?_
      refine .bind .trans (kept_ask (.disassemble count)) fun text => ?_
      split
      · exact ih fallback
      · split
        · exact kept_pure _
        · exact ih _

theorem jumpPreview_kept (settings : RefillSettings) (e : FocusEvent) :
    Leaves Desk.Kept (jumpPreview settings e : Handler σ _) := by
  refine .bind .trans (kept_ask (.jumpTarget e.line)) fun target? => ?_
  cases target? with
  | none => exact kept_pure none
  | some target =>
      refine .bind .trans (fun _ => ⟨.refl, rfl⟩) fun d => ?_
      exact .bind .trans (previewFrom_kept target _ _ none) fun window? => kept_pure _

theorem function_kept (e : FocusEvent) : Leaves Desk.Kept (function e : Handler σ _) := by
  refine .bind .trans (kept_ask (.reposition e.address)) fun _ => ?_
  refine .bind .trans (kept_ask (.functionAt e.address)) fun record? => ?_
  cases record? with
  | none => dsimp only; split <;> exact kept_pure _
  | some r => dsimp only; split <;> exact kept_pure _

theorem entries_kept (direction : Direction) (edges : List Reference) :
    Leaves Desk.Kept (entries direction edges : Handler σ _) := by
  induction edges with
  | nil => exact kept_pure []
  | cons r rs ih =>
      refine .bind .trans (kept_ask (.disassembleOne r.source)) fun line => ?_
      exact .bind .trans ih fun rest => kept_pure _

theorem decompiled_kept (e : FocusEvent) : Leaves Desk.Kept (decompiled e : Handler σ _) := by
  unfold decompiled
  split
  · exact kept_pure none
  · refine .bind .trans (kept_ask (.decompile e.function)) fun text => ?_
    split <;> exact kept_pure _

theorem miniGraph_kept (settings : RefillSettings) (e : FocusEvent) :
    Leaves Desk.Kept (miniGraph settings e : Handler σ _) := by
  unfold miniGraph
  split
  · exact kept_pure none
  · refine .bind .trans (kept_ask (.simplifiedGraph e.function)) fun description => ?_
    split
    · exact kept_pure none
    · exact .bind .trans (kept_page _) fun page => kept_pure _

theorem sharedReferences_onward (a : Address) (direction : Direction) :
    Leaves Desk.Onward (sharedReferences a direction : Handler σ _) := by
  refine .bind .trans (onward_updateCache _) fun _ => ?_
  refine .bind .trans (fun _ => .refl) fun d => ?_
  cases d.cache.references? direction with
  | some edges => exact onward_pure edges
  | none =>
      refine .bind .trans (onward_ask (.reposition a)) fun _ => ?_
      refine .bind .trans (onward_ask (.references a direction)) fun edges => ?_
      exact .bind .trans (onward_updateCache _) fun _ => onward_pure edges

theorem sharedMetrics_onward (a : Address) :
    Leaves Desk.Onward (sharedMetrics a : Handler σ _) := by
  refine .bind .trans (onward_updateCache _) fun _ => ?_
  refine .bind .trans (fun _ => .refl) fun d => ?_
  cases d.cache.metrics? with
  | some m => exact onward_pure m
  | none =>
      refine .bind .trans (sharedReferences_onward a .outgoing) fun outgoing => ?_
      refine .bind .trans (sharedReferences_onward a .incoming) fun incoming => ?_
      refine .bind .trans (onward_ask (.reposition a)) fun _ => ?_
      refine .bind .trans (onward_ask (.complexity a)) fun complexity => ?_
      refine .bind .trans (onward_ask (.blockCount a)) fun blocks => ?_
      refine .bind .trans (onward_ask (.exitCount a)) fun exits => ?_
      exact .bind .trans (onward_updateCache _) fun _ => onward_pure _

theorem references_onward (e : FocusEvent) : Leaves Desk.Onward (references e : Handler σ _) := by
  refine .bind .trans (sharedReferences_onward e.address .outgoing) fun out => ?_
  refine .bind .trans (onward_of_kept (entries_kept .outgoing out)) fun outgoing => ?_
  refine .bind .trans (sharedReferences_onward e.address .incoming) fun into => ?_
  refine .bind .trans (onward_of_kept (entries_kept .incoming into)) fun incoming => ?_
  split <;> exact onward_pure _

theorem charts_onward (settings : RefillSettings) (e : FocusEvent) :
    Leaves Desk.Onward (charts settings e : Handler σ _) := by
  refine .bind .trans (sharedMetrics_onward e.address) fun m => ?_
  split
  · exact onward_pure none
  · exact .bind .trans (onward_of_kept (kept_page _)) fun pages => onward_pure _

theorem handler_onward (settings : RefillSettings) (e : FocusEvent) (k : Panel) :
    Leaves Desk.Onward (handler settings e k : Handler σ _) := by
  cases k with
  | offset => exact onward_of_kept (offset_kept e)
  | jumpPreview => exact onward_of_kept (jumpPreview_kept settings e)
  | function => exact onward_of_kept (function_kept e)
  | references => exact references_onward e
  | charts => exact charts_onward settings e
  | decompiled => exact onward_of_kept (decompiled_kept e)
  | miniGraph => exact onward_of_kept (miniGraph_kept settings e)

/-! ## Each handler fills its own panel -/

/-- An answer that concerns no panel but the given one. -/
def ForPanel (k : Panel) (content? : Option Content) : Prop :=
  ∀ c, content? = some c → c.panel = k

theorem forPanel_none (k : Panel) : ForPanel k none :=
  fun _ h => nomatch h

theorem forPanel_some {k : Panel} {c : Content} (h : c.panel = k) : ForPanel k (some c) := by
  rintro _ ⟨⟩
  exact h

theorem handler_forPanel (settings : RefillSettings) (e : FocusEvent) (k : Panel) :
    Gives (ForPanel k) (handler settings e k : Handler σ _) := by
  cases k with
  | offset =>
      refine .bind fun _ => .bind fun info => .bind fun description => ?_
      dsimp only
      split
      · exact .pure (forPanel_none _)
      · exact .pure (forPanel_some rfl)
  | jumpPreview =>
      refine .bind fun target? => ?_
      cases target? with
      | none => exact .pure (forPanel_none _)
      | some target =>
          refine .bind fun d => .bind fun window? => ?_
          cases window? with
          | none => exact .pure (forPanel_none _)
          | some w => exact .pure (forPanel_some rfl)
  | function =>
      refine .bind fun _ => .bind fun record? => ?_
      dsimp only
      split
      all_goals
        split
        · exact .pure (forPanel_none _)
        · exact .pure (forPanel_some rfl)
  | references =>
      refine .bind fun _ => .bind fun _ => .bind fun _ => .bind fun _ => ?_
      split
      · exact .pure (forPanel_none _)
      · exact .pure (forPanel_some rfl)
  | charts =>
      refine .bind fun m => ?_
      split
      · exact .pure (forPanel_none _)
      · exact .bind fun pages => .pure (forPanel_some rfl)
  | decompiled =>
      show Gives _ (decompiled e)
      unfold decompiled
      split
      · exact .pure (forPanel_none _)
      · refine .bind fun text => ?_
        split
        · exact .pure (forPanel_none _)
        · exact .pure (forPanel_some rfl)
  | miniGraph =>
      show Gives _ (miniGraph settings e)
      unfold miniGraph
      split
      · exact .pure (forPanel_none _)
      · refine .bind fun description => ?_
        split
        · exact .pure (forPanel_none _)
        · exact .bind fun page => .pure (forPanel_some rfl)

/-! ## One outcome for each panel -/

/-- What becomes of a panel whose handler came to an outcome. -/
def updateOf (k : Panel) : Except PanelFault (Option Content) → PanelUpdate
  | .ok (some c) => .fill c
  | .ok none => .clear k
  | .error _ => .clear k

/-- All that a report does to the panels, in the order in which it is applied. -/
def Report.updates (r : Report) : List PanelUpdate :=
  r.writes ++ r.failures.map fun failure => .clear failure.1

/-- What a report puts into a panel; nothing when it clears the panel or when the
panel's handler failed. -/
def Report.content? (r : Report) (k : Panel) : Option Content :=
  (r.writes.find? (·.panel = k)).bind (·.content?)

section Outcome

variable (settings : RefillSettings) (e : FocusEvent)

/-- The outcome of a panel's handler on a desk. -/
abbrev outcome (k : Panel) (d : Desk σ) : Except PanelFault (Option Content) :=
  ((handler settings e k).on d).1

/-- The desk that a panel's handler leaves. -/
abbrev deskAfter (k : Panel) (d : Desk σ) : Desk σ :=
  ((handler settings e k).on d).2

theorem panel_updateOf (k : Panel) (d : Desk σ) :
    (updateOf k (outcome settings e k d)).panel = k := by
  cases h : outcome settings e k d with
  | error f => rfl
  | ok content? =>
      cases content? with
      | none => rfl
      | some c => exact handler_forPanel settings e k d (some c) h c rfl

/-- A pass over several panels: the first handler, and the pass over the rest on the
desk it leaves. -/
theorem runPanels_cons (k : Panel) (ks : List Panel) (d : Desk σ) :
    runPanels settings e (k :: ks) d =
      let rest := runPanels settings e ks (deskAfter settings e k d)
      (match outcome settings e k d with
        | .ok content? =>
          { rest.1 with writes := updateOf k (.ok content?) :: rest.1.writes }
        | .error f => { rest.1 with failures := (k, f) :: rest.1.failures }, rest.2) := by
  simp only [runPanels, outcome, deskAfter, on]
  cases StateT.run (ExceptT.run (handler settings e k)) d with
  | mk result d' =>
      cases result with
      | error f => rfl
      | ok content? => cases content? <;> rfl

theorem mem_updates_cons {k : Panel} {ks : List Panel} {d : Desk σ} {w : PanelUpdate} :
    w ∈ (runPanels settings e (k :: ks) d).1.updates ↔
      w = updateOf k (outcome settings e k d) ∨
        w ∈ (runPanels settings e ks (deskAfter settings e k d)).1.updates := by
  rw [runPanels_cons]
  cases outcome settings e k d with
  | error f => simp [Report.updates, updateOf, or_left_comm]
  | ok content? => simp [Report.updates]

/-- A report says nothing about panels it does not concern. -/
theorem panel_mem_of_mem_updates {ks : List Panel} {d : Desk σ} {w : PanelUpdate}
    (h : w ∈ (runPanels settings e ks d).1.updates) : w.panel ∈ ks := by
  induction ks generalizing d with
  | nil => simp [runPanels, Report.updates] at h
  | cons k ks ih =>
      rcases (mem_updates_cons settings e).mp h with rfl | h
      · exact List.mem_cons.mpr (.inl (panel_updateOf settings e k d))
      · exact List.mem_cons_of_mem k (ih h)

/-- The first panel gets what its handler found, the others what the rest of the pass
finds for them. -/
theorem content?_cons {k : Panel} {ks : List Panel} (hk : k ∉ ks) (d : Desk σ) (j : Panel) :
    (runPanels settings e (k :: ks) d).1.content? j =
      if j = k then (updateOf k (outcome settings e k d)).content?
      else (runPanels settings e ks (deskAfter settings e k d)).1.content? j := by
  have elsewhere : ∀ w ∈ (runPanels settings e ks (deskAfter settings e k d)).1.writes,
      w.panel ≠ k := by
    rintro w hw rfl
    exact hk (panel_mem_of_mem_updates settings e (List.mem_append_left _ hw))
  have own := panel_updateOf settings e k d
  cases h : outcome settings e k d with
  | error f =>
      have hr : (runPanels settings e (k :: ks) d).1.writes =
          (runPanels settings e ks (deskAfter settings e k d)).1.writes := by
        rw [runPanels_cons, h]
      by_cases hj : j = k
      · subst hj
        have hfound : (runPanels settings e (j :: ks) d).1.writes.find? (·.panel = j) = none := by
          rw [hr, List.find?_eq_none]
          simpa using elsewhere
        simp [Report.content?, hfound, updateOf, PanelUpdate.content?]
      · simp [Report.content?, hr, hj]
  | ok content? =>
      have hr : (runPanels settings e (k :: ks) d).1.writes = updateOf k (.ok content?) ::
          (runPanels settings e ks (deskAfter settings e k d)).1.writes := by
        rw [runPanels_cons, h]
      rw [h] at own
      by_cases hj : j = k
      · subst hj
        simp [Report.content?, hr, own]
      · simp [Report.content?, hr, own, hj, Ne.symm hj]

/-- The updates of one panel all carry the content that the report has for it. -/
theorem content?_of_mem_updates {ks : List Panel} (nodup : ks.Nodup) {d : Desk σ}
    {w : PanelUpdate} (h : w ∈ (runPanels settings e ks d).1.updates) :
    w.content? = (runPanels settings e ks d).1.content? w.panel := by
  induction ks generalizing d with
  | nil => simp [runPanels, Report.updates] at h
  | cons k ks ih =>
      obtain ⟨hk, hks⟩ := List.nodup_cons.mp nodup
      rw [content?_cons settings e hk]
      rcases (mem_updates_cons settings e).mp h with rfl | h
      · rw [if_pos (panel_updateOf settings e k d)]
      · have hne : w.panel ≠ k := by
          rintro rfl
          exact hk (panel_mem_of_mem_updates settings e h)
        rw [if_neg hne]
        exact ih hks h

/-- No panel that the pass concerns is left out. -/
theorem exists_mem_updates {ks : List Panel} {k : Panel} (hk : k ∈ ks) (d : Desk σ) :
    ∃ w ∈ (runPanels settings e ks d).1.updates, w.panel = k := by
  induction ks generalizing d with
  | nil => exact nomatch hk
  | cons j ks ih =>
      rcases List.mem_cons.mp hk with rfl | hk
      · exact ⟨_, (mem_updates_cons settings e).mpr (.inl rfl), panel_updateOf settings e k d⟩
      · obtain ⟨w, hw, rfl⟩ := ih hk (deskAfter settings e j d)
        exact ⟨w, (mem_updates_cons settings e).mpr (.inr hw), rfl⟩

end Outcome

end Refill

end AsmView
