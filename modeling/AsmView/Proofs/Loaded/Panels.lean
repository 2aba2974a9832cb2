/-
# What the panels of an image hold

Over a loaded image the handlers of the panels are functions of the focus: the image is an
analyzer whose answers are fixed (`fixed`), so neither the current address nor what the cache
remembers changes what they come to, and `found` is what a handler finds.  The panels of a
whole function find the same at any two addresses that the image tells the same of; this is
what lets a session leave them alone while the cursor stays in a function.
-/
import AsmView.Proofs.Loaded
import AsmView.Proofs.Panel.Fixed

namespace AsmView

namespace Loaded

open Handler Refill

variable {α : Type} {l m n : Loaded}

/-! ## Answers of an image -/

/-- Loaded images that differ in their current address answer a still question alike. -/
theorem SameImage.ask_eq (h : m.SameImage n) (q : Question α) (still : q.Still) :
    (q.query.ask m).1 = (q.query.ask n).1 := by
  have covers := h.covers
  obtain ⟨image, slots, cursor, sorted⟩ := m
  obtain ⟨image', slots', cursor', sorted'⟩ := n
  obtain rfl : image' = image := h.image
  obtain rfl : slots' = slots := h.slots
  cases q with
  | disassemble _ => exact nomatch still
  | reposition a =>
      show ((Analyzer.reposition a : Query Loaded Unit).ask _).1 =
        ((Analyzer.reposition a : Query Loaded Unit).ask _).1
      rw [ask_reposition, ask_reposition, covers a]
      split <;> rfl
  | _ => rfl

theorem SameImage.recordOf?_eq (h : l.SameImage m) : m.recordOf? = l.recordOf? := by
  funext f
  simp only [Loaded.recordOf?, sectionOf?, h.image]

theorem SameImage.functions (h : l.SameImage m) : Analyzer.functions m = Analyzer.functions l := by
  show m.image.routines.filterMap m.recordOf? = l.image.routines.filterMap l.recordOf?
  rw [h.recordOf?_eq, h.image]

/-- A batch is cut at the current address. -/
theorem SameImage.ask_disassemble (h : l.SameImage m) (count : Nat) :
    ((Analyzer.disassemble count : Query Loaded String).ask m).1 =
      .ok (String.ofList (batchText ((l.slotsFrom m.cursor).take count))) := by
  rw [Loaded.ask_disassemble, h.slotsFrom]

/-- The image as an analyzer with fixed answers. -/
def fixed (l : Loaded) : FixedAnswers Loaded where
  On := l.SameImage
  place? m := some m.cursor
  answer q := (q.query.ask l).1
  batch count place? := .ok (String.ofList
    (batchText (((place?.map l.slotsFrom).getD []).take count)))
  functions := Analyzer.functions l
  stays_on q m h := h.trans (sameImage_of_asks (.mk q m))
  ask_still q still _ h := (h.ask_eq q still).symm
  ask_batch count _ h := h.ask_disassemble count
  place?_moved a m h placed := by
    have inside : l.covers a = true := by
      by_contra outside
      simp [Question.query, ask_reposition, outside] at placed
    rw [ask_reposition, h.covers, if_pos inside]
  functions_eq _ h := h.functions

/-- The numbers of the function at an address. -/
def metricsAt (l : Loaded) (a : Address) : Metrics where
  outgoing := (l.referencesAt a .outgoing).length.toUInt64
  incoming := (l.referencesAt a .incoming).length.toUInt64
  complexity := l.tally a 1 (·.isConditionalJump)
  blocks := l.tally a 1 (·.isJump)
  exits := l.tally a 0 (·.isExit)

theorem told_reposition {a : Address} (inside : l.covers a = true) :
    l.fixed.told (.reposition a) = .ok () := by
  show (((Analyzer.reposition a : Query Loaded Unit).ask l).1).mapError _ = _
  rw [ask_reposition, if_pos inside]
  rfl

theorem referencesAt_fixed {a : Address} (inside : l.covers a = true) (direction : Direction) :
    l.fixed.referencesAt a direction = .ok (l.referencesAt a direction) := by
  rw [FixedAnswers.referencesAt, told_reposition inside]
  rfl

theorem metricsAt_fixed {a : Address} (inside : l.covers a = true) :
    l.fixed.metricsAt a = .ok (l.metricsAt a) := by
  rw [FixedAnswers.metricsAt, referencesAt_fixed inside, referencesAt_fixed inside,
    told_reposition inside]
  rfl

/-! ## Addresses of one function -/

/-- The image tells the same of two addresses, as far as functions go. -/
structure SameFunction (l : Loaded) (a b : Address) : Prop where
  references : ∀ direction, l.referencesAt a direction = l.referencesAt b direction
  metrics : l.metricsAt a = l.metricsAt b

theorem SameFunction.refl (l : Loaded) (a : Address) : l.SameFunction a a :=
  ⟨fun _ => rfl, rfl⟩

theorem SameFunction.fixed {a b : Address} (same : l.SameFunction a b) (here : l.covers a = true)
    (there : l.covers b = true) : l.fixed.SameFunction a b where
  references direction := by
    rw [referencesAt_fixed here, referencesAt_fixed there, same.references]
  metrics := by
    rw [metricsAt_fixed here, metricsAt_fixed there, same.metrics]

/-! ## What a pass finds -/

section Found

variable (settings : RefillSettings)

/-- What the handler of a panel finds over the image, started afresh; nothing when it
answers with nothing or fails. -/
def found (l : Loaded) (e : FocusEvent) (k : Panel) : Option Content :=
  (updateOf k (outcome settings e k ⟨l, {}⟩)).content?

/-- A pass finds for each panel what its handler finds when it is started afresh. -/
theorem content?_runPanels (e : FocusEvent) {ks : List Panel} (nodup : ks.Nodup) {k : Panel}
    (hk : k ∈ ks) (h : l.SameImage m) :
    (runPanels settings e ks ⟨m, {}⟩).1.content? k = l.found settings e k :=
  FixedAnswers.content?_eq_alone settings e (l.fixed.fresh h) (SameImage.refl l) nodup hk

/-- At two addresses of one function the panels of the function find the same. -/
theorem found_eq_of_sameFunction {e e' : FocusEvent} (here : l.covers e.address)
    (there : l.covers e'.address) (same : l.SameFunction e.address e'.address)
    (name : e.function = e'.function) {k : Panel} (trigger : k.trigger = .perFunction)
    (hk : k ≠ .function) : l.found settings e k = l.found settings e' k := by
  have fresh := l.fixed.fresh (SameImage.refl l)
  have alike := ((same.fixed here there).perFunction_alike name settings trigger hk
    (show l.fixed.Desks ⟨l, {}⟩ ⟨l, {}⟩ from ⟨fresh, fresh⟩)).1
  rw [found, outcome, alike, found]

end Found

end Loaded

end AsmView
