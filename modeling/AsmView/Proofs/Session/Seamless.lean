/-
# Paging shows what one batch would show

A session over a loaded image fetches its text a batch at a time, wherever the user goes
and however often a fetch fails.  `run_seamless` compares the text with what the image
gives when it is asked once, at the anchor, for as many instructions as the text has: they
are the same.  It also says where a navigation lands, and how much a pass adds.  The feeds
it speaks of are all that an operation goes through, not only those it ends with.
-/
import AsmView.Proofs.Config
import AsmView.Proofs.Loaded.Seamless
import AsmView.Proofs.Session.Landing

namespace AsmView

open Text Loaded

/-- How many lines of the text have an address. -/
def Listing.instructionCount (l : Listing) : Nat :=
  l.lines.countP isAddressed

/-- The lines of one batch, asked for at an address. -/
def Loaded.oneShot (l : Loaded) (a : Address) (n : Nat) : Except EngineFault (List String) :=
  ((Analyzer.disassemble n : Query Loaded String).ask { l with cursor := a }).1.map linesOf

/-- Where a navigation to an address comes out: at the least address of an instruction
that does not lie below, or with an empty text at the address itself when all lie below. -/
def Listing.LandedAt (l : Listing) (img : Image) (t : Address) : Prop :=
  (∃ i ∈ img.instructions, t ≤ i.address ∧ (∀ j ∈ img.instructions, t ≤ j.address →
    i.address ≤ j.address) ∧ l.anchor = some i.address) ∨
  (∀ i ∈ img.instructions, ¬ t ≤ i.address) ∧ l.anchor = some t ∧ l.lines = []

namespace Loaded

/-- One batch has the lines of as many slots from its address on. -/
theorem oneShot_eq {img : Image} (oneLined : img.OneLined) (a : Address) (n : Nat) :
    (load img).oneShot a n = .ok (batchLines (((load img).slotsFrom a).take n)) := by
  have single : ∀ s ∈ ((load img).slotsFrom a).take n, s.OneLined := fun s hs =>
    oneLined_load oneLined (((load img).slotsFrom_suffix a).subset (List.mem_of_mem_take hs))
  rw [← linesOf_batchText single, oneShot, ask_disassemble]
  rfl

end Loaded

variable {img : Image} {size : Nat} {f : Feed Loaded} {anchor : Address} {shown : List Slot}

theorem Feed.Shows.count {l : Loaded} (shows : f.Shows l anchor shown) :
    f.listing.instructionCount = shown.length := by
  rw [Listing.instructionCount, shows.lines, countP_batchLines]

/-- The text is that of as many slots as it has instructions. -/
theorem Feed.Shows.lines_eq {l : Loaded} (shows : f.Shows l anchor shown) :
    f.listing.lines = batchLines ((l.slotsFrom anchor).take f.listing.instructionCount) := by
  rw [shows.count, ← List.prefix_iff_eq_take.mp shows.placed, shows.lines]

/-- A seamless text is that of its first slots from the anchor on. -/
theorem Feed.Seamless.lines_eq {l : Loaded} {size : Nat} {f : Feed Loaded}
    (h : f.Seamless l size) {a : Address} (anchored : f.listing.anchor = some a) :
    f.listing.lines = batchLines ((l.slotsFrom a).take f.listing.instructionCount) ∧
      f.listing.instructionCount ≤ (l.slotsFrom a).length := by
  rcases h.text with empty | ⟨anchor, shown, shows⟩
  · rw [Listing.instructionCount, empty]
    exact ⟨rfl, Nat.zero_le _⟩
  · obtain rfl : anchor = a := Option.some.inj (shows.anchored.symm.trans anchored)
    exact ⟨shows.lines_eq, shows.count ▸ shows.placed.length_le⟩

/-- The feed of a new session has nothing to show. -/
theorem Session.seamless_new (img : Image) {config : Config} (accepted : config.Accepted)
    (templates : TemplateStore) :
    (Session.new (load img) config templates).toFeed.Seamless (load img) config.batchSize :=
  ⟨.refl _, Nat.max_eq_left accepted.two_le_batchSize, .inl rfl⟩

/-- Where a batch that is given starts the text. -/
theorem landedAt_of_batch (oneLined : img.OneLined) {l : Loaded}
    (engine : (load img).SameImage l) {t : Address} {n : Nat} (hline : 1 ≤ n) {batch : String}
    {m : Loaded} (answer : (Query.batchAt t n).ask l = (.ok batch, m)) {listing : Listing}
    (anchor : listing.anchor = Feed.anchorOf t batch)
    (empty : Session.addressedLines batch = [] → listing.lines = []) : listing.LandedAt img t := by
  obtain ⟨rfl, -⟩ := batch_of_answer answer
  obtain ⟨n, rfl⟩ := Nat.exists_eq_add_of_le' hline
  have single : ∀ s ∈ (l.slotsFrom t).take (n + 1), s.OneLined := fun s hs =>
    oneLined_load oneLined (((load img).slotsFrom_suffix t).subset
      (engine.slotsFrom t ▸ List.mem_of_mem_take hs))
  have lines := Feed.addressedLines_batchText single
  rw [Feed.anchorOf, lines] at anchor
  rw [lines] at empty
  rw [engine.slotsFrom] at anchor empty
  cases cut : (load img).slotsFrom t with
  | nil =>
      rw [cut] at anchor empty
      refine .inr ⟨?_, anchor, empty rfl⟩
      intro i hi
      obtain ⟨s, hs, rfl⟩ := mem_instructions.mp hi
      exact slotsFrom_eq_nil cut s hs
  | cons s rest =>
      obtain ⟨inside, above, least⟩ := head?_slotsFrom cut
      rw [cut, List.take_succ_cons, batchLines, List.head?_cons, Option.bind_some,
        lineAddress?_shownLine] at anchor
      refine .inl ⟨s.instruction, mem_instructions.mpr ⟨s, inside, rfl⟩, above, ?_, anchor⟩
      intro j hj le
      obtain ⟨r, hr, rfl⟩ := mem_instructions.mp hj
      exact least r hr le

/-- A text with a line is what one batch at its anchor gives. -/
theorem Feed.Seamless.oneShot (h : f.Seamless (load img) size) (oneLined : img.OneLined)
    (hline : f.listing.lines ≠ []) {a : Address} (anchored : f.listing.anchor = some a) :
    (load img).oneShot a f.listing.instructionCount = .ok f.listing.lines := by
  rcases h.text with empty | ⟨anchor, shown, shows⟩
  · exact absurd empty hline
  · obtain rfl : anchor = a := Option.some.inj (shows.anchored.symm.trans anchored)
    rw [oneShot_eq oneLined, ← shows.lines_eq]

/-- A pass over a seamless text that appends adds the next instructions, one less than a
batch or as many as there are, and one that finds nothing to add has the whole image
behind the anchor on screen. -/
theorem Feed.Seamless.pass_adds (h : f.Seamless (load img) size) (distinct : img.Distinct)
    (oneLined : img.OneLined) (two : 2 ≤ size) :
    (∀ k, f.pass.1 = .ok (.appended k) → ∃ a, f.listing.anchor = some a ∧
      (load img).oneShot a f.listing.instructionCount = .ok f.listing.lines ∧
      (load img).oneShot a (f.listing.instructionCount +
          min (size - 1) (img.countFrom a - f.listing.instructionCount)) =
        .ok f.pass.2.listing.lines) ∧
    (f.pass.1 = .ok .exhausted → ∃ a, f.listing.anchor = some a ∧
      f.listing.instructionCount = img.countFrom a) := by
  have single : ∀ s ∈ (load img).slots, s.OneLined := fun _ hs => oneLined_load oneLined hs
  rcases h.text with empty | ⟨anchor, shown, shows⟩
  · -- Without a line, a pass does neither.
    obtain ⟨-, adds, ends⟩ := Feed.pass_of_empty empty
    exact ⟨fun k appended => absurd appended (adds k), fun exhausted => absurd exhausted ends⟩
  · have continues := h.pass_continues (ascending_load distinct) single two shows
    have fits := shows.placed.length_le
    rw [length_slotsFrom] at fits
    refine ⟨fun k appended => ⟨anchor, shows.anchored, ?_, ?_⟩,
      fun exhausted => ⟨anchor, shows.anchored, ?_⟩⟩
    · rw [oneShot_eq oneLined, ← shows.lines_eq]
    · have shows' := continues.appended k appended
      have total : shown.length + min (size - 1) (img.countFrom anchor - shown.length) =
          min (shown.length + (size - 1)) (img.countFrom anchor) := by
        omega
      rw [oneShot_eq oneLined, shows'.lines_eq, shows'.count, shows.count, List.length_take,
        length_slotsFrom, total]
    · rw [shows.count, ← length_slotsFrom, ← continues.exhausted exhausted]

namespace Session

/-- Where a navigation over the image lands, if it loads. -/
theorem request_landedAt {s after : Session Loaded}
    (oneLined : img.OneLined) (rest : s.channels.AtRest)
    (engine : (load img).SameImage s.engine) (hline : 1 ≤ s.config.batchSize) {t : Address}
    (loads : (s.request t).1.reload = (after, true)) : after.listing.LandedAt img t := by
  obtain ⟨target, batch, engine', goal, answer, anchor, empty⟩ :=
    reload_anchor (s := (s.request t).1) rest loads
  obtain rfl : t = target := Option.some.inj goal
  exact landedAt_of_batch oneLined engine hline answer anchor empty

/-- For an image whose instructions have addresses of their own and whose texts are single
lines, after any operations: the text is what one batch at the anchor gives for as many
instructions; a navigation that loads lands at the least address that is not below; and
wherever a pass appends, it appends the next instructions, one less than a batch or as
many as there are, and ends only where none are left. -/
theorem run_seamless {img : Image} (distinct : img.Distinct) (oneLined : img.OneLined)
    {config : Config} (accepted : config.Accepted) (templates : TemplateStore)
    (ops : List Operation) :
    (∀ a, ((Session.new (load img) config templates).run ops).listing.lines ≠ [] →
      ((Session.new (load img) config templates).run ops).listing.anchor = some a →
      (load img).oneShot a
          ((Session.new (load img) config templates).run ops).listing.instructionCount =
        .ok ((Session.new (load img) config templates).run ops).listing.lines) ∧
    (∀ t after,
      (((Session.new (load img) config templates).run ops).request t).1.reload = (after, true) →
      after.listing.LandedAt img t) ∧
    ∀ f, Feed.Steps config.batchSize (Session.new (load img) config templates).toFeed f →
      (∀ k, f.pass.1 = .ok (.appended k) → ∃ a, f.listing.anchor = some a ∧
        (load img).oneShot a f.listing.instructionCount = .ok f.listing.lines ∧
        (load img).oneShot a (f.listing.instructionCount +
            min (config.batchSize - 1) (img.countFrom a - f.listing.instructionCount)) =
          .ok f.pass.2.listing.lines) ∧
      (f.pass.1 = .ok .exhausted → ∃ a, f.listing.anchor = some a ∧
        f.listing.instructionCount = img.countFrom a) := by
  have ascending := ascending_load distinct
  have single : ∀ s ∈ (load img).slots, s.OneLined := fun _ hs => oneLined_load oneLined hs
  have two := accepted.two_le_batchSize
  have start := seamless_new img accepted templates
  obtain ⟨calm, settings, -, steps⟩ := run_steps (calm_new (load img) config templates) ops
  generalize (Session.new (load img) config templates).run ops = s at calm settings steps ⊢
  have here := steps.seamless start ascending single two
  refine ⟨fun a hline anchored => here.oneShot oneLined hline anchored, ?_, ?_⟩
  · intro t after loads
    have hline : 1 ≤ s.config.batchSize := by
      rw [settings]
      exact Nat.le_of_succ_le two
    exact request_landedAt oneLined calm.rest here.engine hline loads
  · intro f steps
    have seamless := steps.seamless start ascending single two
    exact seamless.pass_adds distinct oneLined two

end Session

/-- A directory in which no template can be read. -/
def TemplateStore.unreadable : TemplateStore :=
  .directory "t" fun _ _ => .error .notFound

/-- The smallest batches there are. -/
def Config.paired : Config :=
  { batchSize := 2 }

theorem Config.accepted_paired : Config.paired.Accepted :=
  .batchSize (n := 2) .default rfl

namespace Session

/-- In a window of one line, the first batch from the call on ends before the second function.
Scrolled on by a line, a pass goes on across the header of that function, and the text is still
that of one batch. -/
theorem run_seamless_pair : ∃ s t : Session Loaded,
    (Session.new (load .pair) .paired .unreadable).run [.setHeight 1, .goTo ⟨0x1000⟩] = s ∧
    (Session.new (load .pair) .paired .unreadable).run
      [.setHeight 1, .goTo ⟨0x1000⟩, .scrollTo 1] = t ∧
    s.listing.lines.map lineAddress? = [some ⟨0x1000⟩, some ⟨0x1005⟩] ∧
    t.listing.lines.map lineAddress? = [some ⟨0x1000⟩, some ⟨0x1005⟩, none, some ⟨0x1010⟩] ∧
    (load .pair).oneShot ⟨0x1000⟩ 3 = .ok t.listing.lines ∧
    ∃ f : Feed Loaded, f = { s.toFeed with listing := s.listing.setTop 1 } ∧
      f.pass.1 = .ok (.appended 2) ∧
      (load .pair).oneShot ⟨0x1000⟩ 2 = .ok f.listing.lines ∧
      (load .pair).oneShot ⟨0x1000⟩ 3 = .ok f.pass.2.listing.lines := by
  have distinct : Image.pair.Distinct := by decide
  have oneLined : Image.pair.OneLined := ⟨by decide, by decide, by decide⟩
  have all : Image.pair.countFrom ⟨0x1000⟩ = 3 := by decide
  obtain ⟨s, before, lines, anchored, count, appends⟩ : ∃ s : Session Loaded,
      (Session.new (load .pair) .paired .unreadable).run [.setHeight 1, .goTo ⟨0x1000⟩] = s ∧
        s.listing.lines.map lineAddress? = [some ⟨0x1000⟩, some ⟨0x1005⟩] ∧
        s.listing.anchor = some ⟨0x1000⟩ ∧ s.listing.instructionCount = 2 ∧
        ({ s.toFeed with listing := s.listing.setTop 1 } : Feed Loaded).pass.1 =
          .ok (.appended 2) := by
    rw [load_pair]
    exact ⟨_, rfl, by decide +kernel⟩
  obtain ⟨t, behind, lines', anchored', count'⟩ : ∃ t : Session Loaded,
      (Session.new (load .pair) .paired .unreadable).run
          [.setHeight 1, .goTo ⟨0x1000⟩, .scrollTo 1] = t ∧
        t.listing.lines.map lineAddress? = [some ⟨0x1000⟩, some ⟨0x1005⟩, none, some ⟨0x1010⟩] ∧
        t.listing.anchor = some ⟨0x1000⟩ ∧ t.listing.instructionCount = 3 := by
    rw [load_pair]
    exact ⟨_, rfl, by decide +kernel⟩
  obtain ⟨whole, -, passes⟩ := run_seamless distinct oneLined Config.accepted_paired .unreadable
    [.setHeight 1, .goTo ⟨0x1000⟩, .scrollTo 1]
  rw [behind] at whole
  have shown := whole ⟨0x1000⟩ (by rintro none; simp [none] at lines') anchored'
  rw [count'] at shown
  obtain ⟨-, -, -, steps⟩ := run_steps (calm_new (load .pair) .paired .unreadable)
    [.setHeight 1, .goTo ⟨0x1000⟩]
  rw [before] at steps
  obtain ⟨a, here, opened, further⟩ :=
    (passes _ (steps.tail (.shift (.scrolled s.toFeed 1)))).1 2 appends
  obtain rfl : ⟨0x1000⟩ = a := Option.some.inj (anchored.symm.trans here)
  change (load .pair).oneShot _ s.listing.instructionCount = _ at opened
  change (load .pair).oneShot _ (s.listing.instructionCount +
    min (2 - 1) (Image.pair.countFrom ⟨0x1000⟩ - s.listing.instructionCount)) = _ at further
  rw [count] at opened further
  rw [all] at further
  exact ⟨s, t, before, behind, lines, lines', shown, _, rfl, appends, opened, further⟩

end Session

end AsmView
