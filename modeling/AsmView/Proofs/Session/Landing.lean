/-
# Going to an instruction

A navigation that loads puts the cursor on the first line of its first batch, and what
follows, passes and the focus, leaves it there.  Over a loaded image this is the line of
the instruction that was asked for, if one stands at the address.
-/
import AsmView.Proofs.Loaded.Seamless
import AsmView.Proofs.Session.Order

namespace AsmView

open Text Loaded

namespace Feed

variable {σ : Type} [Analyzer σ]

/-- The first line of a text stays first. -/
theorem Shift.head? {f g : Feed σ} (step : f.Shift g) {line : String}
    (first : f.listing.lines.head? = some line) : g.listing.lines.head? = some line := by
  cases step with
  | asked _ => exact first
  | scrolled _ => exact first
  | resized _ => exact first
  | passed =>
      rcases f.pass_listing with same | ⟨-, lines, grown⟩
      · rw [same]
        exact first
      · rw [grown]
        show (f.listing.lines ++ lines).head? = some line
        rw [List.head?_append, first]
        rfl

theorem shifts_head? {f g : Feed σ} (steps : Relation.ReflTransGen Shift f g) {line : String}
    (first : f.listing.lines.head? = some line) : g.listing.lines.head? = some line := by
  induction steps with
  | refl => exact first
  | tail _ last ih => exact last.head? ih

theorem shifts_cursorLine? {f g : Feed σ} (steps : Relation.ReflTransGen Shift f g)
    (order : f.InOrder) : g.listing.cursorLine? = f.listing.cursorLine? ∧ g.InOrder := by
  induction steps with
  | refl => exact ⟨rfl, order⟩
  | tail _ last ih => exact ⟨(last.cursorLine?_eq ih.2).trans ih.1, last.inOrder ih.2⟩

end Feed

namespace Session

variable {σ : Type} [Analyzer σ]

/-- A first batch that is put in place at its start has the cursor on its first line. -/
theorem cursorLine?_install {s : Session σ} (silent : s.channels.Silenced)
    (order : s.toFeed.InOrder) {target : Address} {batch line : String}
    (first : (addressedLines batch).head? = some line) (top : Nat) :
    (s.install target batch {} top).listing.cursorLine? = some line := by
  obtain ⟨filled, grow, finish⟩ := install_steps silent target batch {} top
  generalize s.install target batch {} top = t at finish ⊢
  have kept : filled.listing.lines.head? = some line := Feed.shifts_head? grow.shifts first
  have ordered := (Feed.shifts_cursorLine? grow.shifts (order.restart target batch)).2
  have placed : Feed.InOrder { filled.toFeed with listing := filled.listing.setCursor {} } :=
    ⟨ordered.listing.setCursor {}, ordered.idle⟩
  calc t.listing.cursorLine?
      = (filled.listing.setCursor {}).cursorLine? := (Feed.shifts_cursorLine? finish.shifts placed).1
    _ = filled.listing.lines.head? := Listing.cursorLine?_setCursor_start _
    _ = some line := kept

/-- A place whose first batch is given loads, and the cursor stands on its first line. -/
theorem goTo_cursorLine? {s : Session σ} (calm : s.Calm) (order : s.toFeed.InOrder)
    {target : Address} {batch line : String} {engine : σ}
    (answer : (Query.batchAt target s.config.batchSize).ask s.engine = (.ok batch, engine))
    (first : (addressedLines batch).head? = some line) :
    (s.goTo target).listing.cursorLine? = some line := by
  have found := reloaded (s.request target).1
  have listing : (s.goTo target).listing = (s.request target).1.reload.1.listing := by
    unfold goTo
    generalize (s.request target).1.reload = result
    obtain ⟨after, loaded⟩ := result
    dsimp only
    split <;> rfl
  rw [listing]
  generalize (s.request target).1.reload = result at found ⊢
  obtain ⟨after, loaded⟩ := result
  cases found with
  | nowhere none => exact nomatch none
  | @refused target' f _ goal refused =>
      obtain rfl : target = target' := Option.some.inj goal
      exact nomatch (Prod.mk.inj (answer.symm.trans refused)).1
  | @loaded target' batch' engine' place t goal given kept installed =>
      obtain rfl : target = target' := Option.some.inj goal
      obtain ⟨same, -⟩ := Prod.mk.inj (answer.symm.trans given)
      obtain rfl : batch = batch' := Except.ok.inj same
      obtain rfl : place = ({}, 0) := kept
      obtain ⟨_, -, focused⟩ := updateFocus_feed { t with lastNotice? := none }.letGo
      have silent : ((s.request target).1.rewriting engine').channels.Silenced := calm.rest.silenced
      have hshown : (((s.request target).1.rewriting engine').install target batch {}
          0).listing.cursorLine? = some line :=
        cursorLine?_install silent ⟨order.listing, order.idle⟩ first 0
      rw [← installed] at hshown
      exact (congrArg (fun f => f.listing.cursorLine?) focused).trans hshown

/-- Whoever goes to an instruction of the image has its line under the cursor. -/
theorem goTo_instruction {l : Loaded} {s : Session Loaded} (calm : s.Calm)
    (order : s.toFeed.InOrder) (image : l.SameImage s.engine) (ascending : l.Ascending)
    (oneLined : ∀ r ∈ l.slots, r.OneLined) (hline : 1 ≤ s.config.batchSize) {slot : Slot}
    (listed : slot ∈ l.slots) (inside : l.covers slot.address = true) :
    (s.goTo slot.address).listing.cursorLine? = some (shownLine slot.instruction) := by
  obtain ⟨before, after, cut⟩ := List.append_of_mem listed
  obtain ⟨n, size⟩ := Nat.exists_eq_add_of_le' hline
  have batch : (Query.batchAt slot.address s.config.batchSize).ask s.engine =
      (.ok (String.ofList (batchText (slot :: after.take n))),
        { s.engine with cursor := slot.address }) := by
    rw [ask_batchAt, image.covers, if_pos inside, image.slotsFrom, ascending.slotsFrom_address cut,
      size, List.take_succ_cons]
  have single : ∀ r ∈ slot :: after.take n, r.OneLined := by
    intro r hr
    refine oneLined r (cut ▸ List.mem_append_right before ?_)
    rw [← List.take_succ_cons] at hr
    exact List.mem_of_mem_take hr
  have first : (addressedLines (String.ofList (batchText (slot :: after.take n)))).head? =
      some (shownLine slot.instruction) := by
    rw [Feed.addressedLines_batchText single]
    rfl
  exact goTo_cursorLine? calm order batch first

/-- In the small image, going to the call puts the cursor on its line. -/
theorem goTo_call_pair : ∃ i : Instruction, i.address = ⟨0x1000⟩ ∧
    ((Session.new (load .pair) {}).run [.goTo ⟨0x1000⟩]).listing.cursorLine? =
      some (shownLine i) := by
  have distinct : Image.pair.Distinct := by decide
  have oneLined : Image.pair.OneLined := ⟨by decide, by decide, by decide⟩
  have call : ∃ i ∈ Image.pair.instructions, i.address = ⟨0x1000⟩ ∧
      (load .pair).covers i.address = true := by
    decide
  obtain ⟨i, listed, here, inside⟩ := call
  obtain ⟨slot, hslot, rfl⟩ := mem_instructions.mp listed
  refine ⟨slot.instruction, here, ?_⟩
  rw [← here]
  exact goTo_instruction (calm_new (load .pair) {} .builtin) (inOrder_new _ _ _) (.refl _)
    (ascending_load distinct) (fun _ hr => oneLined_load oneLined hr) (by decide) hslot inside

end Session

end AsmView
