/-
# Places that can be come back to

A text begins with the first instruction from the place asked for on, and it is the address
of that instruction, not the place, which becomes the anchor and is remembered.  `landing` is
where a place leads in this sense, and a place is a `Home` when it leads to itself: asked for
again, it loads, and the text begins there.  Where instructions lie in the image every
landing is a home, so whatever a session has as its anchor is one.  The texts need not be
single lines for this, since the first line of a batch has its address in front.
-/
import AsmView.Proofs.Feed.Step
import AsmView.Proofs.Loaded.Text

namespace AsmView

open Text

/-- What stands in front of the first line feed, but for a carriage return right before it,
is the first line. -/
theorem Text.head?_lines_append {cs : List Char} (h : '\n' ∉ cs) {c : Char} (hfeed : c ≠ '\n')
    (hreturn : c ≠ '\r') {rest : List Char} (ends : '\n' ∈ rest) :
    ∃ more, (lines (cs ++ c :: rest)).head? = some (cs ++ c :: more) := by
  obtain ⟨before, after, rfl, inside⟩ := List.eq_append_cons_of_mem ends
  have single : '\n' ∉ cs ++ c :: before := by
    simp [h, inside, hfeed.symm]
  have cut : cs ++ c :: (before ++ '\n' :: after) = (cs ++ c :: before) ++ '\n' :: after := by
    rw [List.append_assoc, List.cons_append]
  refine ⟨withoutReturn before, ?_⟩
  rw [cut, lines_append_newline single, List.head?_cons, withoutReturn_append_cons cs hreturn]

/-- The first line of a batch has the address of its first slot in front. -/
theorem Loaded.firstLine_batchText (s : Slot) (rest : List Slot) :
    ∃ line more, linesOf (String.ofList (batchText (s :: rest))) = line :: more ∧
      lineAddress? line = some s.address := by
  obtain ⟨cs, line⟩ := lineChars_eq s.instruction
  have text : batchText (s :: rest) =
      s.address.chars ++ ' ' :: (cs ++ '\n' :: furtherText rest) := by
    rw [batchText, line, List.append_assoc, List.cons_append]
    rfl
  have ends : '\n' ∈ cs ++ '\n' :: furtherText rest := by simp
  obtain ⟨more, first⟩ := Text.head?_lines_append s.address.newline_not_mem_chars
    (c := ' ') (by decide) (by decide) ends
  rw [← text] at first
  obtain ⟨others, cut⟩ := List.head?_eq_some_iff.mp first
  refine ⟨String.ofList (s.address.chars ++ ' ' :: more), others.map String.ofList, ?_, ?_⟩
  · rw [linesOf, String.toList_ofList, cut, List.map_cons]
  · rw [lineAddress?, String.toList_ofList]
    exact Address.addressOfChars?_chars _ (by decide) _

/-- A text that is replaced by a batch begins at the first slot of the batch, and where it has
none at the place asked for. -/
theorem Feed.anchorOf_batchText (target : Address) (slots : List Slot) :
    anchorOf target (String.ofList (Loaded.batchText slots)) =
      some ((slots.head?.map (·.address)).getD target) := by
  cases slots with
  | nil => rfl
  | cons s rest =>
      obtain ⟨line, more, cut, address⟩ := Loaded.firstLine_batchText s rest
      have head : (Session.addressedLines (String.ofList (Loaded.batchText (s :: rest)))).head? =
          some line := by
        rw [Session.addressedLines, cut,
          List.dropWhile_cons_of_neg (by rw [address]; exact Bool.false_ne_true)]
        rfl
      rw [anchorOf, head, Option.bind_some, address]
      rfl

namespace Loaded

variable {l : Loaded}

/-- The slots from the first slot of some on are the same, whatever the order of all. -/
theorem slotsFrom_head {a : Address} {s : Slot} {rest : List Slot}
    (cut : l.slotsFrom a = s :: rest) : l.slotsFrom s.address = s :: rest := by
  have passed := List.takeWhile_append_dropWhile (p := fun t : Slot => decide (t.address < a))
    (l := l.slots)
  have first := List.head?_dropWhile_not (fun t : Slot => decide (t.address < a)) l.slots
  rw [← slotsFrom, cut] at passed first
  have above : a ≤ s.address := by
    simpa [Address.lt_iff, Address.le_iff] using first
  have below : ∀ t ∈ l.slots.takeWhile (·.address < a), t.address < s.address := fun t ht =>
    Nat.lt_of_lt_of_le (lt_of_mem_takeWhile ht) above
  rw [slotsFrom, ← passed, List.dropWhile_append_of_pos (by simpa using below)]
  exact List.dropWhile_cons_of_neg (by simp [Address.lt_iff])

/-- Where a text begins that is asked for at a place, with batches of a size. -/
def landing (l : Loaded) (size : Nat) (a : Address) : Address :=
  ((((l.slotsFrom a).take size).head?).map (·.address)).getD a

/-- A place that loads, and where the text begins that is asked for there. -/
structure Home (l : Loaded) (size : Nat) (a : Address) : Prop where
  inside : l.covers a = true
  lands : l.landing size a = a

/-- Where a place leads to a slot, it leads to one that the image has, and to its address. -/
theorem landing_cases (l : Loaded) (size : Nat) (a : Address) :
    (l.landing size a = a ∧ (l.slotsFrom a).take size = []) ∨
      ∃ s rest, l.slotsFrom a = s :: rest ∧ 0 < size ∧ l.landing size a = s.address := by
  cases size with
  | zero => exact .inl ⟨rfl, rfl⟩
  | succ n =>
      cases cut : l.slotsFrom a with
      | nil =>
          refine .inl ⟨?_, rfl⟩
          rw [landing, cut]
          rfl
      | cons s rest =>
          refine .inr ⟨s, rest, rfl, Nat.succ_pos n, ?_⟩
          rw [landing, cut]
          rfl

/-- Where a place leads leads to itself. -/
theorem landing_landing (l : Loaded) (size : Nat) (a : Address) :
    l.landing size (l.landing size a) = l.landing size a := by
  rcases l.landing_cases size a with ⟨here, -⟩ | ⟨s, rest, cut, hline, there⟩
  · rw [here, here]
  · obtain ⟨n, rfl⟩ := Nat.exists_eq_succ_of_ne_zero hline.ne'
    rw [there, landing, slotsFrom_head cut]
    rfl

/-- Whatever loads leads to a home. -/
theorem home_landing (covered : ∀ s ∈ l.slots, l.covers s.address = true) (size : Nat)
    {a : Address} (inside : l.covers a = true) : l.Home size (l.landing size a) := by
  refine ⟨?_, l.landing_landing size a⟩
  rcases l.landing_cases size a with ⟨here, -⟩ | ⟨s, rest, cut, -, there⟩
  · exact here.symm ▸ inside
  · rw [there]
    exact covered s ((l.slotsFrom_suffix a).subset (cut ▸ List.mem_cons_self))

/-- A batch that was given begins where its place leads. -/
theorem anchorOf_answer {m engine : Loaded} (h : l.SameImage m) {a : Address} {size : Nat}
    {batch : String} (answer : (Query.batchAt a size).ask m = (.ok batch, engine)) :
    l.covers a = true ∧ Feed.anchorOf a batch = some (l.landing size a) := by
  rw [ask_batchAt, h.covers, h.slotsFrom] at answer
  split at answer
  · rename_i inside
    obtain ⟨given, -⟩ := Prod.mk.inj answer
    obtain rfl := Except.ok.inj given
    exact ⟨inside, Feed.anchorOf_batchText a _⟩
  · cases (Prod.mk.inj answer).1

end Loaded

namespace Feed

open Loaded

/-- The anchor of the text, if it has one, is a home. -/
structure Homed (l : Loaded) (size : Nat) (f : Feed Loaded) : Prop where
  engine : l.SameImage f.engine
  anchor : ∀ a, f.listing.anchor = some a → l.Home size a

variable {l : Loaded} {size : Nat} {f g : Feed Loaded}

theorem Homed.of_same (h : f.Homed l size) (engine : Analyzer.Asked f.engine g.engine)
    (anchor : g.listing.anchor = f.listing.anchor) : g.Homed l size :=
  ⟨h.engine.trans (sameImage_of_asked engine), fun a ha => h.anchor a (anchor ▸ ha)⟩

theorem Step.homed (step : Step size f g) (h : f.Homed l size)
    (covered : ∀ s ∈ l.slots, l.covers s.address = true) : g.Homed l size := by
  cases step with
  | placed c => exact h.of_same .refl rfl
  | held _ => exact h.of_same .refl rfl
  | shift shift =>
      exact h.of_same shift.asks (shifts_anchor (.single shift)).1
  | @restarted target batch engine answer =>
      have asked := (Query.plain_batchAt _ _).asked answer
      obtain ⟨inside, begins⟩ := anchorOf_answer h.engine answer
      refine ⟨h.engine.trans (sameImage_of_asked asked), fun a ha => ?_⟩
      obtain rfl : l.landing size target = a := Option.some.inj (begins.symm.trans ha)
      exact home_landing covered size inside

theorem Steps.homed (steps : Steps size f g) (h : f.Homed l size)
    (covered : ∀ s ∈ l.slots, l.covers s.address = true) : g.Homed l size := by
  induction steps with
  | refl => exact h
  | tail _ last ih => exact last.homed ih covered

end Feed

end AsmView
