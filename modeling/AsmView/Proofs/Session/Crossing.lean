/-
# Crossing into another function

The watch knows a function by its name.  For two functions of an accepted image this decides
what a focus pass does when the cursor goes from the one straight to the other: with names of
their own everything is refilled, and the panels are those of the new function; with one name
in common the pass takes them for the same function, and the panels of the function go on
showing the first.  The check of an image does not keep functions from having a name in
common, as `twins` shows.
-/
import AsmView.Proofs.Loaded.Accepted
import AsmView.Proofs.Session.Calls
import AsmView.Proofs.Session.Reflects

namespace AsmView

open Text Loaded Refill

variable {l m : Loaded} {a : Address} {line : String}

/-! ## Tracking a line of an image -/

theorem ask_ownerAt_image (h : l.SameImage m) (a : Address) :
    ((FocusWatch.ownerAt a).ask m).1 =
      if l.covers a then .ok (l.nameAt a) else .error (.outOfRange a) := by
  split
  · rename_i inside
    exact Session.ask_ownerAt h inside
  · rename_i outside
    rw [FocusWatch.ownerAt, Query.ask_bind, ask_reposition, h.covers, if_neg outside]

theorem FocusWatch.observe_image (t : FocusWatch) (h : l.SameImage m)
    (address : lineAddress? line = some a) :
    (t.observe (some line) m).1 =
      if l.covers a then .ok (t.settle ⟨a, l.nameAt a, line⟩).1 else .error (.outOfRange a) := by
  have owner := ask_ownerAt_image h a
  simp only [observe, address]
  generalize (ownerAt a).ask m = answer at owner ⊢
  obtain ⟨result, engine⟩ := answer
  obtain rfl : result = if l.covers a then .ok (l.nameAt a) else .error (.outOfRange a) := owner
  cases l.covers a <;> rfl

namespace Session

variable {σ : Type} [Analyzer σ]

/-! ## The panels behind a pass -/

/-- The outcome of a focus pass. -/
def finding (s : Session σ) : Except EngineFault FocusFinding :=
  (s.watch.observe s.listing.cursorLine? s.engine).1

/-- A pass that finds the same function leaves its panels alone. -/
theorem content?_of_sameFunction {s : Session σ} {e : FocusEvent}
    (found : s.finding = .ok (.sameFunction e)) {k : Panel} (trigger : k.trigger = .perFunction) :
    s.updateFocus.panels.content? k = s.panels.content? k := by
  have untouched : k ∉ Scope.perAddress.panels := by
    cases k <;> first | decide | exact absurd trigger (by decide)
  unfold finding at found
  unfold updateFocus
  dsimp only
  generalize s.watch.observe s.listing.cursorLine? s.engine = result at found ⊢
  obtain ⟨outcome, watch, engine⟩ := result
  obtain rfl : outcome = .ok (.sameFunction e) := found
  dsimp only [emit]
  split
  all_goals
    rw [content?_refill, if_neg untouched]

/-- A pass that finds another function refills everything. -/
theorem content?_of_functionChanged {s : Session Loaded} (image : l.SameImage s.engine)
    {e : FocusEvent} (found : s.finding = .ok (.functionChanged e)) (k : Panel) :
    s.updateFocus.panels.content? k = l.found s.nextPass.settings e k := by
  have asked := FocusWatch.asked_observe s.watch s.listing.cursorLine? s.engine
  unfold finding at found
  unfold updateFocus
  dsimp only
  generalize s.watch.observe s.listing.cursorLine? s.engine = result at found asked ⊢
  obtain ⟨outcome, watch, engine⟩ := result
  obtain rfl : outcome = .ok (.functionChanged e) := found
  dsimp only [emit]
  rw [content?_refill, if_pos (mem_panels_full k)]
  exact content?_report (s := { s.nextPass with watch }) (image.trans (sameImage_of_asked asked))
    (mem_panels_full k)

/-! ## Two passes in a row -/

/-- After a pass that finds out an owner, the watch has the name of the owner. -/
theorem watch_of_resolved {s : Session Loaded} (image : l.SameImage s.engine)
    (under : s.listing.cursorLine? = some line) (address : lineAddress? line = some a)
    (resolved : s.sighting.name?.isSome = true) :
    s.updateFocus.watch.stale = false ∧ s.updateFocus.watch.focus.function = l.nameAt a := by
  have name : ∀ n, s.sighting.name? = some n → n = l.nameAt a := by
    intro n seen
    rw [sighting, under, Option.bind_some, address] at seen
    dsimp only at seen
    rw [ask_ownerAt_image image] at seen
    cases inside : l.covers a with
    | false =>
        rw [inside] at seen
        cases seen
    | true =>
        rw [inside] at seen
        exact (Option.some.inj seen).symm
  cases focusWork s with
  | none unresolved _ _ _ =>
      rw [unresolved] at resolved
      cases resolved
  | light seen _ _ watch _ _ => exact ⟨by rw [watch], by rw [watch, name _ seen]⟩
  | full seen _ watch _ _ => exact ⟨by rw [watch], by rw [watch, name _ seen]⟩

/-- When a pass on a line of one function found out its owner, and the next pass is on a line
of another function, then the next pass fails if the address does not lie in the image.  If
it does, and the functions have different names, it finds another function and refills all,
and every panel holds what refilling all panels of a new session for that line puts there with
the templates of the pass.  If
they have the same name, it finds the same function, and what the panels of the function show
is what they showed before. -/
theorem updateFocus_crossing {img : Image} (accepted : img.breach? = none) {f g : Routine}
    {x y : Address} (across : img.Across f g x y) {line line' : String}
    (address : lineAddress? line = some x) (address' : lineAddress? line' = some y)
    {s t : Session Loaded} (asked : Analyzer.Asked (load img) s.engine)
    (under : s.listing.cursorLine? = some line) (resolved : s.sighting.name?.isSome = true)
    (asked' : Analyzer.Asked s.engine t.engine) (under' : t.listing.cursorLine? = some line')
    (next : t.watch = s.updateFocus.watch) :
    (¬ (load img).covers y → t.finding = .error (.outOfRange y)) ∧
    ((load img).covers y → f.name ≠ g.name →
      t.finding = .ok (.functionChanged ⟨y, g.name, line'⟩) ∧ t.refillsAll = true ∧
      ∀ k, t.updateFocus.panels.content? k =
        ((Session.new t.engine t.config (.still t.nextPass.settings.templates)).refill
          ⟨y, g.name, line'⟩ .full).panels.content? k) ∧
    ((load img).covers y → f.name = g.name →
      t.finding = .ok (.sameFunction ⟨y, g.name, line'⟩) ∧ t.refillsAll = false ∧
      ∀ k, k.trigger = .perFunction →
        t.updateFocus.panels.content? k = t.panels.content? k) := by
  have image := sameImage_of_asked asked
  have image' := image.trans (sameImage_of_asked asked')
  obtain ⟨owner, owner'⟩ := owners_of_across accepted across
  have name : (load img).nameAt x = f.name := by rw [nameAt, owner]; rfl
  have name' : (load img).nameAt y = g.name := by rw [nameAt, owner']; rfl
  obtain ⟨fresh, function⟩ := watch_of_resolved image under address resolved
  rw [← next] at fresh function
  rw [name] at function
  have found : t.finding = if (load img).covers y
      then .ok (t.watch.settle ⟨y, g.name, line'⟩).1 else .error (.outOfRange y) := by
    rw [finding, under', FocusWatch.observe_image t.watch image' address', name']
  have seen : (load img).covers y → t.sighting.name? = some g.name := by
    intro inside
    rw [sighting, under', Option.bind_some, address']
    dsimp only
    rw [ask_ownerAt_image image', if_pos inside, name']
    rfl
  refine ⟨fun outside => ?_, fun inside different => ?_, fun inside same => ?_⟩
  · rw [found, if_neg outside]
  · have changed : t.finding = .ok (.functionChanged ⟨y, g.name, line'⟩) := by
      rw [found, if_pos inside, FocusWatch.settle]
      simp [fresh, function, different]
    refine ⟨changed, ?_, fun k => ?_⟩
    · refine (refillsAll_iff t).mpr ⟨g.name, seen inside, .inl ?_⟩
      rw [function]
      exact different.symm
    · let anew := Session.new t.engine t.config (.still t.nextPass.settings.templates)
      have same : anew.settings = t.nextPass.settings := by
        simp [anew, settings, Session.new, nextPass]
      have shown : (anew.refill ⟨y, g.name, line'⟩ .full).panels.content? k =
          (load img).found anew.settings ⟨y, g.name, line'⟩ k := by
        rw [content?_refill, if_pos (mem_panels_full k)]
        exact content?_report (s := anew) image' (mem_panels_full k)
      rw [same] at shown
      exact (content?_of_functionChanged image' changed k).trans shown.symm
  · have unchanged : t.finding = .ok (.sameFunction ⟨y, g.name, line'⟩) := by
      rw [found, if_pos inside, FocusWatch.settle]
      simp [fresh, function, same]
    refine ⟨unchanged, ?_, fun k trigger => content?_of_sameFunction unchanged trigger⟩
    rw [Bool.eq_false_iff]
    intro all
    obtain ⟨n, seen', reason⟩ := (refillsAll_iff t).mp all
    obtain rfl : g.name = n := Option.some.inj ((seen inside).symm.trans seen')
    simp [function, same, fresh] at reason

/-- A session over an image that has nothing but one line in view. -/
def facing (engine : Loaded) (line : String) : Session Loaded :=
  { Session.new engine {} with listing := { lines := [line] } }

/-- In the small image, going from the call to the function it calls refills everything. -/
theorem updateFocus_crossing_pair :
    ∃ s t : Session Loaded,
      s = facing (load .pair) "0x00001000  call 0x1010" ∧
      t = { facing (load .pair) "0x00001010  ret" with watch := s.updateFocus.watch } ∧
      t.finding = .ok (.functionChanged ⟨⟨0x1010⟩, "leaf", "0x00001010  ret"⟩) ∧
      t.refillsAll = true := by
  have accepted : Image.pair.breach? = none := by
    rw [Image.breach?, Image.sortedSpans, List.mergeSort_of_pairwise (by decide)]
    decide
  have inside : (load .pair).covers ⟨0x1010⟩ = true := by decide
  have resolved : (facing (load .pair) "0x00001000  call 0x1010").sighting.name?.isSome = true := by
    rw [load_pair]
    decide
  have across : ∃ main leaf, Image.pair.Across main leaf ⟨0x1000⟩ ⟨0x1010⟩ ∧
      main.name = "main" ∧ leaf.name = "leaf" :=
    ⟨_, _, ⟨⟨0, 1, by decide, rfl, rfl⟩, by decide, by decide⟩, rfl, rfl⟩
  obtain ⟨main, leaf, across, name, name'⟩ := across
  have address : lineAddress? "0x00001000  call 0x1010" = some ⟨0x1000⟩ := by decide
  have address' : lineAddress? "0x00001010  ret" = some ⟨0x1010⟩ := by decide
  have crossing := updateFocus_crossing accepted across address address'
    (s := facing (load .pair) "0x00001000  call 0x1010")
    (t := { facing (load .pair) "0x00001010  ret" with
      watch := (facing (load .pair) "0x00001000  call 0x1010").updateFocus.watch })
    .refl rfl resolved .refl rfl rfl
  rw [name, name'] at crossing
  obtain ⟨changed, all, -⟩ := crossing.2.1 inside (by decide)
  exact ⟨_, _, rfl, rfl, changed, all⟩

end Session

/-- An image in which two functions have one name. -/
def Image.twins : Image where
  name := "twins"
  sections := [{ name := ".text", start := ⟨0x1000⟩, size := 0x100 }]
  routines := [
    { name := "twin", instructions := [{ address := ⟨0x1000⟩, bytes := "c3", text := "ret" }] },
    { name := "twin", instructions := [{ address := ⟨0x1010⟩, bytes := "c3", text := "ret" }] }]

theorem sorted_twins : Sorted .twins :=
  ⟨by decide, by decide, by decide, by decide⟩

/-- Two functions of one name pass the check, and crossing from the one into the other is no
change of function. -/
theorem twins_taken_for_one :
    Image.twins.breach? = none ∧
      (∀ i ∈ Image.twins.instructions, (load .twins).covers i.address = true) ∧
      (∀ f ∈ Image.twins.routines, ∀ i ∈ f.instructions, f.stop?.any (i.address < ·) = true) ∧
      (∃ f g, Image.twins.Across f g ⟨0x1000⟩ ⟨0x1010⟩) ∧
      ∃ first, ({} : FocusWatch).observe (some "0x00001000  ret") (load .twins) = first ∧
        first.1 = .ok (.functionChanged ⟨⟨0x1000⟩, "twin", "0x00001000  ret"⟩) ∧
        (first.2.1.observe (some "0x00001010  ret") first.2.2).1 =
          .ok (.sameFunction ⟨⟨0x1010⟩, "twin", "0x00001010  ret"⟩) := by
  have accepted : Image.twins.breach? = none := by
    rw [Image.breach?, Image.sortedSpans, List.mergeSort_of_pairwise (by decide)]
    decide
  refine ⟨accepted, by decide, by decide,
    ⟨_, _, ⟨⟨0, 1, by decide, rfl, rfl⟩, by decide, by decide⟩⟩, ?_⟩
  rw [load_of_sorted sorted_twins]
  exact ⟨_, rfl, by decide, by decide⟩

end AsmView
