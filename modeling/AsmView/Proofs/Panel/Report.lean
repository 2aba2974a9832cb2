/-
# What a report says

A pass over some panels runs their handlers one after the other, each on the desk that the
one before it left.  `trace` has what the handlers came to, and `Report.ofOutcomes` turns
that into the two lists of a report, so `runPanels_eq` says all there is to say about how a
report comes about.  `Report.Covers` and `Report.Settles` are what whoever applies it may
rely on: every panel of the pass is spoken of exactly once, and it is said what the panel is
to hold.
-/
import Mathlib.Data.List.Nodup
import AsmView.Proofs.Panel.Refill

namespace AsmView.Refill

variable {σ : Type}

/-- What a handler comes to: a content, nothing, or a fault. -/
abbrev Outcome := Except PanelFault (Option Content)

/-- The update that an outcome puts on the list of writes. -/
def write? : Panel × Outcome → Option PanelUpdate
  | (k, .ok content?) => some (updateOf k (.ok content?))
  | (_, .error _) => none

/-- The entry that an outcome puts on the list of failures. -/
def failure? : Panel × Outcome → Option (Panel × PanelFault)
  | (k, .error f) => some (k, f)
  | (_, .ok _) => none

/-- The report of some outcomes, in their order. -/
def Report.ofOutcomes (outcomes : List (Panel × Outcome)) : Report where
  writes := outcomes.filterMap write?
  failures := outcomes.filterMap failure?

/-- The panels that a report has updates for. -/
def Report.written (r : Report) : List Panel :=
  r.writes.map (·.panel)

/-- The panels whose handlers failed. -/
def Report.failed (r : Report) : List Panel :=
  r.failures.map (·.1)

/-- A report has one outcome for each of some panels: an update or a failure, not both, and
in each of its lists the panels stand in their order. -/
structure Report.Covers (r : Report) (ks : List Panel) : Prop where
  once : (r.written ++ r.failed).Perm ks
  apart : r.written.Disjoint r.failed
  written : r.written.Sublist ks
  failed : r.failed.Sublist ks

/-- What a panel is to hold by a report: what it is filled with, and nothing when it is
cleared or its handler failed. -/
inductive Report.Settles (r : Report) (k : Panel) : Option Content → Prop
  | filled {c : Content} (own : c.panel = k) (h : .fill c ∈ r.writes) : Settles r k (some c)
  | cleared (h : .clear k ∈ r.writes) : Settles r k none
  | failed {f : PanelFault} (h : (k, f) ∈ r.failures) : Settles r k none

/-! ## The two lists of a report -/

/-- Outcomes whose contents belong to their panels. -/
def Own (outcomes : List (Panel × Outcome)) : Prop :=
  ∀ k content?, (k, .ok content?) ∈ outcomes → (updateOf k (.ok content?)).panel = k

theorem Own.tail {o : Panel × Outcome} {os : List (Panel × Outcome)} (own : Own (o :: os)) :
    Own os :=
  fun k content? h => own k content? (List.mem_cons_of_mem o h)

theorem written_ofOutcomes {outcomes : List (Panel × Outcome)} (own : Own outcomes) :
    (Report.ofOutcomes outcomes).written = (outcomes.filter (·.2.isOk)).map (·.1) := by
  induction outcomes with
  | nil => rfl
  | cons o os ih =>
      have rest : (os.filterMap write?).map (·.panel) = (os.filter (·.2.isOk)).map (·.1) :=
        ih own.tail
      obtain ⟨k, result⟩ := o
      cases result with
      | error f => exact rest
      | ok content? =>
          have first := own k content? List.mem_cons_self
          show (updateOf k (.ok content?)).panel :: (os.filterMap write?).map (·.panel) =
            k :: (os.filter (·.2.isOk)).map (·.1)
          rw [first, rest]

theorem failed_ofOutcomes (outcomes : List (Panel × Outcome)) :
    (Report.ofOutcomes outcomes).failed = (outcomes.filter (!·.2.isOk)).map (·.1) := by
  induction outcomes with
  | nil => rfl
  | cons o os ih =>
      obtain ⟨k, result⟩ := o
      cases result with
      | error f => exact congrArg (k :: ·) ih
      | ok content? => exact ih

/-- A report of outcomes for distinct panels covers them. -/
theorem covers_ofOutcomes {outcomes : List (Panel × Outcome)} (own : Own outcomes)
    (nodup : (outcomes.map (·.1)).Nodup) :
    (Report.ofOutcomes outcomes).Covers (outcomes.map (·.1)) := by
  have written := written_ofOutcomes own
  have failed := failed_ofOutcomes outcomes
  have once : ((Report.ofOutcomes outcomes).written ++ (Report.ofOutcomes outcomes).failed).Perm
      (outcomes.map (·.1)) := by
    rw [written, failed, ← List.map_append]
    exact (List.filter_append_perm (·.2.isOk) outcomes).map _
  refine ⟨once, ?_, ?_, ?_⟩
  · exact List.disjoint_of_nodup_append (once.nodup_iff.mpr nodup)
  · rw [written]
    exact List.filter_sublist.map _
  · rw [failed]
    exact List.filter_sublist.map _

/-! ## The report of a pass -/

variable [Analyzer σ] (settings : RefillSettings) (e : FocusEvent)

/-- What the handlers of some panels come to, one after the other. -/
def trace : List Panel → Desk σ → List (Panel × Outcome)
  | [], _ => []
  | k :: ks, d => (k, outcome settings e k d) :: trace ks (deskAfter settings e k d)

theorem map_fst_trace (ks : List Panel) (d : Desk σ) :
    (trace settings e ks d).map (·.1) = ks := by
  induction ks generalizing d with
  | nil => rfl
  | cons k ks ih => exact congrArg (k :: ·) (ih _)

theorem own_trace (ks : List Panel) (d : Desk σ) : Own (trace settings e ks d) := by
  intro k content? h
  induction ks generalizing d with
  | nil => exact nomatch h
  | cons j ks ih =>
      rcases List.mem_cons.mp h with first | later
      · obtain ⟨rfl, result⟩ := Prod.mk.inj first
        rw [result]
        exact panel_updateOf settings e k d
      · exact ih _ later

/-- A pass reports what its handlers came to. -/
theorem runPanels_eq (ks : List Panel) (d : Desk σ) :
    (runPanels settings e ks d).1 = .ofOutcomes (trace settings e ks d) := by
  induction ks generalizing d with
  | nil => rfl
  | cons k ks ih =>
      have rest := ih (deskAfter settings e k d)
      rw [runPanels_cons]
      dsimp only
      rw [rest]
      show _ = Report.ofOutcomes ((k, outcome settings e k d) ::
        trace settings e ks (deskAfter settings e k d))
      cases outcome settings e k d with
      | error f => rfl
      | ok content? => rfl

/-- Each write of a pass is what the handler of its panel answered. -/
theorem mem_trace_of_mem_writes {ks : List Panel} {d : Desk σ} {w : PanelUpdate}
    (h : w ∈ (runPanels settings e ks d).1.writes) :
    (w.panel, .ok w.content?) ∈ trace settings e ks d := by
  rw [runPanels_eq] at h
  obtain ⟨⟨k, result⟩, answered, written⟩ := List.mem_filterMap.mp h
  cases result with
  | error f => exact nomatch written
  | ok content? =>
      have own := own_trace settings e ks d k content? answered
      obtain rfl := Option.some.inj written
      rw [own]
      cases content? with
      | none => exact answered
      | some c => exact answered

/-- A pass over distinct panels has one outcome for each of them. -/
theorem runPanels_covers {ks : List Panel} (nodup : ks.Nodup) (d : Desk σ) :
    (runPanels settings e ks d).1.Covers ks := by
  have panels := map_fst_trace settings e ks d
  rw [runPanels_eq]
  have covers := covers_ofOutcomes (own_trace settings e ks d) (by rwa [panels])
  rwa [panels] at covers

/-- A pass settles what each of its panels is to hold. -/
theorem runPanels_settles {ks : List Panel} (nodup : ks.Nodup) {k : Panel} (hk : k ∈ ks)
    (d : Desk σ) :
    (runPanels settings e ks d).1.Settles k ((runPanels settings e ks d).1.content? k) := by
  obtain ⟨w, hw, own⟩ := exists_mem_updates settings e hk d
  have content := content?_of_mem_updates settings e nodup hw
  rw [own] at content
  rw [← content]
  rcases List.mem_append.mp hw with written | failed
  · cases w with
    | fill c => exact .filled own written
    | clear j =>
        obtain rfl : j = k := own
        exact .cleared written
  · obtain ⟨⟨j, f⟩, hf, rfl⟩ := List.mem_map.mp failed
    obtain rfl : j = k := own
    exact .failed hf

end AsmView.Refill
