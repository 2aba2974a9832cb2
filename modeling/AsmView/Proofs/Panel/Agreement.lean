/-
# References and numbers come from one cache

The panel of references and the panel of charts are filled by two handlers that ask at
different moments, and the analyzer may answer them differently.  They agree all the same,
since both go through the cache of the pass.  What the cache `Holds` for an address is never
replaced while the pass lasts, and numbers are put into it only beside the lists they count
(`Counted`).  `Recorded` is what the cache is left to say about each answer, and
`runPanels_recorded` carries it through a pass over any panels, whichever handlers fail in
it.
-/
import AsmView.Proofs.Panel.Report

namespace AsmView

namespace FocusFacts

/-- The cache has the references of an address in a direction. -/
def Holds (a : Address) (direction : Direction) (edges : List Reference) (c : FocusFacts) : Prop :=
  c.address = some a ∧ c.references? direction = some edges

/-- The numbers count the references that the cache holds for the address. -/
def CountedBy (a : Address) (m : Metrics) (c : FocusFacts) : Prop :=
  ∃ outgoing incoming, c.Holds a .outgoing outgoing ∧ c.Holds a .incoming incoming ∧
    m.outgoing = outgoing.length.toUInt64 ∧ m.incoming = incoming.length.toUInt64

/-- There are as many rows as references that the cache holds for the address. -/
def Listed (a : Address) (rows : ReferenceRows) (c : FocusFacts) : Prop :=
  ∃ outgoing incoming, c.Holds a .outgoing outgoing ∧ c.Holds a .incoming incoming ∧
    outgoing.length = rows.outgoing.length ∧ incoming.length = rows.incoming.length

/-- Numbers in the cache count the references in it. -/
def Counted (c : FocusFacts) : Prop :=
  ∀ m, c.metrics? = some m → ∃ a, c.CountedBy a m

theorem counted_of_unnumbered {c : FocusFacts} (h : c.metrics? = none) : c.Counted := by
  intro m numbered
  rw [h] at numbered
  exact nomatch numbered

/-- Numbers and rows that go back to one cache agree. -/
theorem CountedBy.agrees {a b : Address} {m : Metrics} {rows : ReferenceRows} {c : FocusFacts}
    (counted : c.CountedBy a m) (listed : c.Listed b rows) :
    m.outgoing = rows.outgoing.length.toUInt64 ∧ m.incoming = rows.incoming.length.toUInt64 := by
  obtain ⟨outgoing, incoming, out, into, outCount, inCount⟩ := counted
  obtain ⟨outgoing', incoming', out', into', outLength, inLength⟩ := listed
  obtain rfl : outgoing = outgoing' := Option.some.inj (out.2.symm.trans out'.2)
  obtain rfl : incoming = incoming' := Option.some.inj (into.2.symm.trans into'.2)
  rw [← outLength, ← inLength]
  exact ⟨outCount, inCount⟩

/-- The second cache holds all that the first one does for the address, and what numbers it
has count the references in it. -/
structure Grows (a : Address) (c d : FocusFacts) : Prop where
  counted : d.Counted
  address : c.address = some a → d.address = some a
  held : ∀ {direction edges}, c.Holds a direction edges → d.Holds a direction edges

theorem Counted.focusOn {c : FocusFacts} (h : c.Counted) (a : Address) :
    c.Grows a (c.focusOn a) ∧ (c.focusOn a).address = some a := by
  unfold FocusFacts.focusOn
  split
  · rename_i here
    exact ⟨⟨h, id, id⟩, here⟩
  · rename_i elsewhere
    exact ⟨⟨counted_of_unnumbered rfl, fun _ => rfl, fun held => absurd held.1 elsewhere⟩, rfl⟩

/-- References are put into a cache that has none in their direction, so one without
numbers. -/
theorem Counted.setReferences {c : FocusFacts} (h : c.Counted) {a : Address}
    (address : c.address = some a) {direction : Direction} (missing : c.references? direction = none)
    (edges : List Reference) :
    c.Grows a (c.setReferences edges direction) ∧
      (c.setReferences edges direction).Holds a direction edges := by
  have unnumbered : c.metrics? = none := by
    rw [Option.eq_none_iff_forall_ne_some]
    intro m numbered
    obtain ⟨b, outgoing, incoming, out, into, -⟩ := h m numbered
    cases direction with
    | outgoing => exact nomatch missing.symm.trans out.2
    | incoming => exact nomatch missing.symm.trans into.2
  have kept : (c.setReferences edges direction).metrics? = c.metrics? := by
    cases direction <;> rfl
  have still : (c.setReferences edges direction).address = some a := by
    cases direction <;> exact address
  refine ⟨⟨counted_of_unnumbered (kept.trans unnumbered), fun _ => still,
    fun {other edges'} held => ?_⟩, still, ?_⟩
  · obtain ⟨-, found⟩ := held
    cases direction <;> cases other
    · exact nomatch missing.symm.trans found
    · exact ⟨address, found⟩
    · exact ⟨address, found⟩
    · exact nomatch missing.symm.trans found
  · cases direction <;> rfl

/-- Numbers are put into a cache that holds the references they count. -/
theorem CountedBy.setMetrics {c : FocusFacts} {a : Address} {m : Metrics} (h : c.CountedBy a m) :
    c.Grows a { c with metrics? := some m } ∧
      CountedBy a m { c with metrics? := some m } := by
  have held : ∀ {direction edges}, c.Holds a direction edges →
      Holds a direction edges { c with metrics? := some m } := by
    rintro direction edges ⟨address, found⟩
    cases direction
    · exact ⟨address, found⟩
    · exact ⟨address, found⟩
  obtain ⟨outgoing, incoming, out, into, counts⟩ := h
  have counted : CountedBy a m { c with metrics? := some m } :=
    ⟨outgoing, incoming, held out, held into, counts⟩
  refine ⟨⟨?_, id, held⟩, counted⟩
  rintro n ⟨⟩
  exact ⟨a, counted⟩

/-- A property of caches that holds as long as the pass for the address goes on. -/
structure Lasting (a : Address) (P : FocusFacts → Prop) : Prop where
  counted : ∀ {c}, P c → c.Counted
  grows : ∀ {c d}, P c → c.Grows a d → P d

variable {a : Address} {P Q : FocusFacts → Prop}

theorem lasting_counted (a : Address) : Lasting a Counted :=
  ⟨id, fun _ h => h.counted⟩

theorem Lasting.and (hP : Lasting a P) (hQ : ∀ {c d}, Q c → c.Grows a d → Q d) :
    Lasting a (fun c => P c ∧ Q c) :=
  ⟨fun h => hP.counted h.1, fun h more => ⟨hP.grows h.1 more, hQ h.2 more⟩⟩

theorem CountedBy.grows {m : Metrics} {c d : FocusFacts} (h : c.CountedBy a m)
    (more : c.Grows a d) : d.CountedBy a m := by
  obtain ⟨outgoing, incoming, out, into, counts⟩ := h
  exact ⟨outgoing, incoming, more.held out, more.held into, counts⟩

theorem Listed.grows {rows : ReferenceRows} {c d : FocusFacts} (h : c.Listed a rows)
    (more : c.Grows a d) : d.Listed a rows := by
  obtain ⟨outgoing, incoming, out, into, lengths⟩ := h
  exact ⟨outgoing, incoming, more.held out, more.held into, lengths⟩

end FocusFacts

namespace Refill

open Handler FocusFacts

variable {σ α β : Type} [Analyzer σ] {a : Address} {P : FocusFacts → Prop}

/-! ## What the shared questions leave in the cache -/

/-- A question does not touch the cache, so it is passed over. -/
theorem Meets.bind_kept {g : Handler σ α} {f : α → Handler σ β} {R : β → FocusFacts → Prop}
    (kept : Leaves Desk.Kept g) (hf : ∀ x, Meets P R (f x)) : Meets P R (g >>= f) := by
  intro d hd
  have same := (kept d).2
  rw [on_bind]
  cases h : g.on d with
  | mk answer t =>
      rw [h] at same
      have left : P t.cache := same ▸ hd
      cases answer with
      | ok x => exact hf x t left
      | error f => exact ⟨left, fun _ h => nomatch h⟩

/-- A handler that leaves the cache alone, with nothing said of its answer. -/
theorem meets_of_kept {h : Handler σ α} (kept : Leaves Desk.Kept h) :
    Meets P (fun _ _ => True) h := by
  intro d hd
  rw [(kept d).2]
  exact ⟨hd, fun _ _ => trivial⟩

/-- What can come of asking for the references of an address: they are in the cache, or a
question fails, or the answer is put into the cache. -/
inductive Shared (a : Address) (direction : Direction) (c : FocusFacts) :
    Except PanelFault (List Reference) → FocusFacts → Prop
  | known {edges : List Reference} (h : (c.focusOn a).references? direction = some edges) :
      Shared a direction c (.ok edges) (c.focusOn a)
  | failed (f : PanelFault) : Shared a direction c (.error f) (c.focusOn a)
  | asked (edges : List Reference) (missing : (c.focusOn a).references? direction = none) :
      Shared a direction c (.ok edges) ((c.focusOn a).setReferences edges direction)

theorem shared (a : Address) (direction : Direction) (d : Desk σ) :
    Shared a direction d.cache ((sharedReferences a direction).on d).1
      ((sharedReferences a direction).on d).2.cache := by
  unfold sharedReferences
  simp only [on_bind, on_updateCache, on_get]
  cases found : (d.cache.focusOn a).references? direction with
  | some edges => exact .known found
  | none =>
      simp only [on_bind, on_ask]
      cases (Query.ask (Analyzer.reposition a : Query σ Unit) d.engine).1 with
      | error f => exact .failed _
      | ok u =>
          dsimp only [Except.mapError]
          cases (Query.ask (Analyzer.references a direction : Query σ _) _).1 with
          | error f => exact .failed _
          | ok edges => exact .asked edges found

theorem sharedReferences_meets (lasting : Lasting a P) (direction : Direction) :
    Meets P (fun edges c => c.Holds a direction edges)
      (sharedReferences a direction : Handler σ _) := by
  intro d hd
  have found := shared a direction d
  obtain ⟨focused, here⟩ := (lasting.counted hd).focusOn a
  generalize (sharedReferences a direction).on d = result at found ⊢
  obtain ⟨answer, t⟩ := result
  dsimp only at found ⊢
  generalize t.cache = c at found ⊢
  cases found with
  | known found =>
      refine ⟨lasting.grows hd focused, ?_⟩
      rintro _ ⟨⟩
      exact ⟨here, found⟩
  | failed f => exact ⟨lasting.grows hd focused, fun _ h => nomatch h⟩
  | asked edges missing =>
      obtain ⟨grown, held⟩ := focused.counted.setReferences here missing edges
      refine ⟨lasting.grows (lasting.grows hd focused) grown, ?_⟩
      rintro _ ⟨⟩
      exact held

theorem sharedMetrics_meets (lasting : Lasting a P) :
    Meets P (fun m c => c.CountedBy a m) (sharedMetrics a : Handler σ _) := by
  have focused : Meets P (fun _ c => c.address = some a)
      (updateCache (·.focusOn a) : Handler σ Unit) := by
    intro d hd
    obtain ⟨grown, here⟩ := (lasting.counted hd).focusOn a
    exact ⟨lasting.grows hd grown, fun _ _ => here⟩
  refine .bind focused fun _ d hd => ?_
  have lasting₀ := lasting.and (Q := fun c => c.address = some a) fun h more => more.address h
  rw [on_bind, on_get]
  dsimp only
  cases numbered : d.cache.metrics? with
  | some m =>
      refine ⟨hd, ?_⟩
      rintro _ ⟨⟩
      obtain ⟨b, counted⟩ := lasting.counted hd.1 m numbered
      obtain ⟨_, _, ⟨there, _⟩, _⟩ := id counted
      obtain rfl : a = b := Option.some.inj (hd.2.symm.trans there)
      exact counted
  | none =>
      refine Meets.bind (sharedReferences_meets lasting₀ .outgoing) (fun outgoing => ?_) d hd
      have lasting₁ := lasting₀.and (Q := fun c => c.Holds a .outgoing outgoing)
        fun h more => more.held h
      refine .bind (sharedReferences_meets lasting₁ .incoming) fun incoming => ?_
      have lasting₂ := lasting₁.and (Q := fun c => c.Holds a .incoming incoming)
        fun h more => more.held h
      refine Meets.bind_kept (kept_ask (.reposition a)) fun _ => ?_
      refine Meets.bind_kept (kept_ask (.complexity a)) fun complexity => ?_
      refine Meets.bind_kept (kept_ask (.blockCount a)) fun blocks => ?_
      refine Meets.bind_kept (kept_ask (.exitCount a)) fun exits => ?_
      let m : Metrics :=
        ⟨outgoing.length.toUInt64, incoming.length.toUInt64, complexity, blocks, exits⟩
      intro d hd
      have counted : d.cache.CountedBy a m := ⟨outgoing, incoming, hd.1.2, hd.2, rfl, rfl⟩
      obtain ⟨grown, counted'⟩ := counted.setMetrics
      refine ⟨lasting₂.grows hd grown, ?_⟩
      rintro _ ⟨⟩
      exact counted'

/-! ## What the handlers leave in the cache -/

/-- The rows that a panel of references shows with a content, or without one. -/
def rowsOf : Option Content → ReferenceRows
  | some (.references rows) => rows
  | _ => {}

/-- What the cache says about a panel's answer for the address: how many references there
are to show, and what the numbers count. -/
def Recorded (a : Address) (c : FocusFacts) : Panel → Option Content → Prop
  | .references, content? => c.Listed a (rowsOf content?)
  | .charts, some (.charts charts) => c.CountedBy a charts.metrics
  | _, _ => True

theorem Recorded.grows {c d : FocusFacts} {k : Panel} {content? : Option Content}
    (h : Recorded a c k content?) (more : c.Grows a d) : Recorded a d k content? := by
  unfold Recorded at h ⊢
  split
  · exact h.grows more
  · exact h.grows more
  · trivial

theorem entries_meets (direction : Direction) (edges : List Reference) :
    Meets P (fun rows _ => edges.length = rows.length) (entries direction edges : Handler σ _) := by
  induction edges generalizing P with
  | nil => exact .pure fun _ _ => rfl
  | cons r rs ih =>
      refine Meets.bind_kept (kept_ask (.disassembleOne r.source)) fun line => ?_
      exact .bind ih fun rest => .pure fun _ h => congrArg (· + 1) h.2

theorem references_meets (e : FocusEvent) (lasting : Lasting e.address P) :
    Meets P (fun content? c => c.Listed e.address (rowsOf content?))
      (references e : Handler σ _) := by
  refine .bind (sharedReferences_meets lasting .outgoing) fun out => ?_
  have lasting₁ := lasting.and (Q := fun c => c.Holds e.address .outgoing out)
    fun h more => more.held h
  refine .bind (entries_meets .outgoing out) fun outgoing => ?_
  have lasting₂ := lasting₁.and (Q := fun _ => out.length = outgoing.length) fun h _ => h
  refine .bind (sharedReferences_meets lasting₂ .incoming) fun into => ?_
  refine .bind (entries_meets .incoming into) fun incoming => ?_
  have listed : ∀ c, ((((P c ∧ c.Holds e.address .outgoing out) ∧ out.length = outgoing.length) ∧
      c.Holds e.address .incoming into) ∧ into.length = incoming.length) →
      c.Listed e.address ⟨outgoing, incoming⟩ :=
    fun c ⟨⟨⟨⟨_, held⟩, count⟩, held'⟩, count'⟩ => ⟨out, into, held, held', count, count'⟩
  split
  · rename_i empty
    -- Both lists are empty, so the panel shows as many rows as one that was filled with them.
    have hshown : rowsOf none = ⟨outgoing, incoming⟩ := by
      simp only [Bool.and_eq_true, List.isEmpty_iff] at empty
      rw [empty.1, empty.2]
      rfl
    exact .pure fun c h => hshown ▸ listed c h
  · exact .pure listed

theorem charts_meets (settings : RefillSettings) (e : FocusEvent) (lasting : Lasting e.address P) :
    Meets P (fun content? c => Recorded e.address c .charts content?)
      (charts settings e : Handler σ _) := by
  refine .bind (sharedMetrics_meets lasting) fun m => ?_
  split
  · exact .pure fun _ _ => trivial
  · exact Meets.bind_kept (kept_page _) fun pages => .pure fun _ h => h.2

theorem handler_meets (settings : RefillSettings) (e : FocusEvent) (lasting : Lasting e.address P)
    (k : Panel) :
    Meets P (fun content? c => Recorded e.address c k content?)
      (handler settings e k : Handler σ _) := by
  cases k with
  | offset => exact meets_of_kept (offset_kept e)
  | jumpPreview => exact meets_of_kept (jumpPreview_kept settings e)
  | function => exact meets_of_kept (function_kept e)
  | references => exact references_meets e lasting
  | charts => exact charts_meets settings e lasting
  | decompiled => exact meets_of_kept (decompiled_kept e)
  | miniGraph => exact meets_of_kept (miniGraph_kept settings e)

/-- A pass records every answer, and keeps it recorded to its end. -/
theorem runPanels_recorded (settings : RefillSettings) (e : FocusEvent)
    (lasting : Lasting e.address P) (ks : List Panel) (d : Desk σ) (h : P d.cache) :
    P (runPanels settings e ks d).2.cache ∧
      ∀ k content?, (k, .ok content?) ∈ trace settings e ks d →
        Recorded e.address (runPanels settings e ks d).2.cache k content? := by
  induction ks generalizing d P with
  | nil => exact ⟨h, fun _ _ h => nomatch h⟩
  | cons k ks ih =>
      obtain ⟨left, recorded⟩ := handler_meets settings e lasting k d h
      rw [runPanels_cons]
      dsimp only
      cases first : outcome settings e k d with
      | error f =>
          obtain ⟨kept, later⟩ := ih lasting (deskAfter settings e k d) left
          refine ⟨kept, fun j content? hj => ?_⟩
          rcases List.mem_cons.mp hj with now | hj
          · rw [first] at now
            exact nomatch (Prod.mk.inj now).2
          · exact later j content? hj
      | ok content? =>
          have lasting' := lasting.and (Q := fun c => Recorded e.address c k content?)
            fun h more => h.grows more
          obtain ⟨⟨kept, still⟩, later⟩ :=
            ih lasting' (deskAfter settings e k d) ⟨left, recorded content? first⟩
          refine ⟨kept, fun j other hj => ?_⟩
          rcases List.mem_cons.mp hj with now | hj
          · rw [first] at now
            obtain ⟨rfl, same⟩ := Prod.mk.inj now
            exact Except.ok.inj same ▸ still
          · exact later j other hj

end Refill

end AsmView
