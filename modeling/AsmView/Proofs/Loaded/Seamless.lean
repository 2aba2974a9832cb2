/-
# A text that grows without seams

The text over a loaded image is put together from batches that overlap in one line.
`Feed.Shows` says what it is: the lines of some slots that stand one behind the other
from the anchor on, as a single batch would have given them.  The invariant behind that
is small.  A pass goes on at the address of the last line, which is the address of the
last slot shown; the slots from there are that slot and what was not shown yet; and the
text behind the first line of a batch is the text of the slots behind its first.  What
was appended last is the text of slots that are shown, so it never reads like what comes
next, and passes end only where the image ends.
-/
import Mathlib.Data.List.Basic
import AsmView.Proofs.Feed.Step
import AsmView.Proofs.Loaded.Text

namespace AsmView

open Text Loaded

namespace Feed

/-- The text is that of the given slots, which stand one behind the other from the
anchor on. -/
structure Shows (l : Loaded) (f : Feed Loaded) (anchor : Address) (shown : List Slot) : Prop where
  anchored : f.listing.anchor = some anchor
  lines : f.listing.lines = batchLines shown
  first : shown.head?.map (·.address) = some anchor
  placed : shown <+: l.slotsFrom anchor
  /-- What was appended last is shown. -/
  remainder : ∀ text, f.pager.remainder? = some text →
    ∃ last, last ≠ [] ∧ last <:+ shown ∧ text = String.ofList (furtherText last)

/-- A feed over an image whose text, if it has one, has no seam. -/
structure Seamless (l : Loaded) (size : Nat) (f : Feed Loaded) : Prop where
  engine : l.SameImage f.engine
  size : f.pager.batchSize = size
  text : f.listing.lines = [] ∨ ∃ anchor shown, f.Shows l anchor shown

variable {l : Loaded} {size : Nat} {f : Feed Loaded} {anchor : Address} {shown : List Slot}

theorem Shows.of_listing (shows : f.Shows l anchor shown) {g : Feed Loaded}
    (listing : g.listing = f.listing) (remainder : g.pager.remainder? = f.pager.remainder?) :
    g.Shows l anchor shown :=
  ⟨listing ▸ shows.anchored, listing ▸ shows.lines, shows.first, shows.placed,
    fun text h => shows.remainder text (remainder ▸ h)⟩

theorem Shows.ne_nil (shows : f.Shows l anchor shown) : shown ≠ [] := by
  rintro rfl
  exact nomatch shows.first

/-- What changes neither text nor anchor nor what was appended last keeps the text
seamless. -/
theorem Seamless.of_same (h : f.Seamless l size) {g : Feed Loaded}
    (engine : Analyzer.Asked f.engine g.engine) (lines : g.listing.lines = f.listing.lines)
    (anchor : g.listing.anchor = f.listing.anchor)
    (batchSize : g.pager.batchSize = f.pager.batchSize)
    (remainder : g.pager.remainder? = f.pager.remainder?) : g.Seamless l size where
  engine := h.engine.trans (sameImage_of_asked engine)
  size := batchSize.trans h.size
  text := by
    rcases h.text with empty | ⟨a, shown, shows⟩
    · exact .inl (lines.trans empty)
    · exact .inr ⟨a, shown, anchor.trans shows.anchored, lines.trans shows.lines, shows.first,
        shows.placed, fun text h => shows.remainder text (remainder.symm.trans h)⟩

/-! ## Where a pass goes on -/

/-- The last line with an address is that of the last slot. -/
theorem Shows.last (shows : f.Shows l anchor shown) :
    ∃ before s, shown = before ++ [s] ∧ f.listing.lastAddress? = some s.address := by
  rcases List.eq_nil_or_concat' shown with rfl | ⟨before, s, rfl⟩
  · exact absurd rfl shows.ne_nil
  · refine ⟨before, s, rfl, ?_⟩
    rw [Listing.lastAddress?, Listing.lastLine?, shows.lines, lastAddress?_batchLines]

/-- A pass goes on at the last slot shown, and finds behind it what was not shown. -/
theorem Shows.goes_on (shows : f.Shows l anchor shown) (ascending : l.Ascending) {a : Address}
    (last : f.listing.lastAddress? = some a) :
    ∃ s further, l.slotsFrom a = s :: further ∧ l.slotsFrom anchor = shown ++ further := by
  obtain ⟨before, s, rfl, here⟩ := shows.last
  obtain rfl : s.address = a := Option.some.inj (here.symm.trans last)
  obtain ⟨further, cut⟩ := shows.placed
  have passed : l.slotsFrom anchor = before ++ s :: further := by
    rw [← cut, List.append_assoc, List.singleton_append]
  exact ⟨s, further, ascending.slotsFrom_of_slotsFrom passed, cut.symm⟩

/-- What a batch adds to a text whose last slot is its first. -/
theorem freshLines_batchText {s : Slot} {further : List Slot}
    (oneLined : ∀ r ∈ s :: further, r.OneLined) :
    freshLines (String.ofList (batchText (s :: further))) = furtherLines further ∧
      remainder (String.ofList (batchText (s :: further))) =
        String.ofList (furtherText further) := by
  have behind := afterFirstLine_batchText oneLined
  rw [List.tail_cons] at behind
  rw [freshLines, remainder, String.toList_ofList, behind]
  exact ⟨lines_furtherText fun r hr => oneLined r (List.mem_cons_of_mem s hr), rfl⟩

/-- Texts of slots that read the same begin with the same slot. -/
theorem address_eq_of_furtherText_eq {r s : Slot} {rs ss : List Slot}
    (oneLined : ∀ x ∈ r :: rs, x.OneLined) (oneLined' : ∀ x ∈ s :: ss, x.OneLined)
    (same : furtherText (r :: rs) = furtherText (s :: ss)) : r.address = s.address := by
  have lines : furtherLines (r :: rs) = furtherLines (s :: ss) := by
    rw [← lines_furtherText oneLined, ← lines_furtherText oneLined', same]
  have first := findSome?_furtherLines r rs
  rw [lines, findSome?_furtherLines] at first
  exact (Option.some.inj first).symm

/-- A batch with something to add is never taken for one that was appended before. -/
theorem Shows.not_stale (shows : f.Shows l anchor shown) (ascending : l.Ascending)
    (oneLined : ∀ r ∈ l.slots, r.OneLined) {s r : Slot} {fresh further : List Slot}
    (cut : l.slotsFrom anchor = shown ++ further) (ahead : r :: fresh <+: further)
    (batch : ∀ x ∈ s :: r :: fresh, x.OneLined) :
    ¬ f.Stale (String.ofList (batchText (s :: r :: fresh))) := by
  have behind := afterFirstLine_batchText batch
  rw [List.tail_cons] at behind
  rintro (blank | before)
  · rw [String.toList_ofList, behind, allBlank_furtherText] at blank
    exact nomatch blank
  · obtain ⟨last, hlast, suffix, text⟩ := shows.remainder _ before
    obtain ⟨q, last, rfl⟩ := List.exists_cons_of_ne_nil hlast
    rw [(freshLines_batchText batch).2] at text
    -- The slot appended last and the slot to come would stand at one address.
    have among : ∀ x ∈ q :: last, x ∈ shown := fun x hx => suffix.subset hx
    have within : ∀ x ∈ shown, x ∈ l.slots := fun x hx =>
      (l.slotsFrom_suffix anchor).subset (cut ▸ List.mem_append_left _ hx)
    have same : r.address = q.address :=
      address_eq_of_furtherText_eq (fun x hx => batch x (List.mem_cons_of_mem s hx))
        (fun x hx => oneLined x (within x (among x hx))) (String.ofList_inj.mp text)
    have ordered : (shown ++ further).Pairwise fun x y => x.address < y.address :=
      cut ▸ List.Pairwise.sublist (l.slotsFrom_suffix anchor).sublist ascending
    have below : q.address < r.address :=
      (List.pairwise_append.mp ordered).2.2 q (among q List.mem_cons_self) r
        (ahead.subset List.mem_cons_self)
    rw [same] at below
    exact Nat.lt_irrefl _ below

/-! ## What steps do to a seamless text -/

/-- The feed with more slots shown at its end. -/
theorem Shows.grown (shows : f.Shows l anchor shown) {further fresh : List Slot} {batch : String}
    {engine : Loaded} (cut : l.slotsFrom anchor = shown ++ further) (ahead : fresh <+: further)
    (hfresh : fresh ≠ []) (lines : freshLines batch = furtherLines fresh)
    (text : Feed.remainder batch = String.ofList (furtherText fresh)) :
    (f.grown engine batch).Shows l anchor (shown ++ fresh) where
  anchored := shows.anchored
  lines := by
    show f.listing.lines ++ freshLines batch = batchLines (shown ++ fresh)
    rw [shows.lines, lines, batchLines_append shows.ne_nil]
  first := by
    rw [List.head?_append_of_ne_nil _ shows.ne_nil]
    exact shows.first
  placed := by
    rw [cut]
    exact (List.prefix_append_right_inj shown).mpr ahead
  remainder := by
    intro r hr
    obtain rfl : Feed.remainder batch = r := Option.some.inj hr
    exact ⟨fresh, hfresh, List.suffix_append shown fresh, text⟩

/-- What one pass over a seamless text does: if it appends, the next slots of the image
are shown, one less than a batch or as many as there are; and it finds nothing to append
only where the image ends. -/
structure Continues (l : Loaded) (size : Nat) (f : Feed Loaded) (anchor : Address)
    (shown : List Slot) (outcome : Except EngineFault PassResult) (g : Feed Loaded) : Prop where
  appended : ∀ k, outcome = .ok (.appended k) →
    g.Shows l anchor ((l.slotsFrom anchor).take (shown.length + (size - 1)))
  exhausted : outcome = .ok .exhausted → shown = l.slotsFrom anchor
  otherwise : (∀ k, outcome ≠ .ok (.appended k)) → g.Shows l anchor shown

theorem Seamless.pass_continues (h : f.Seamless l size) (ascending : l.Ascending)
    (oneLined : ∀ r ∈ l.slots, r.OneLined) (two : 2 ≤ size) (shows : f.Shows l anchor shown) :
    f.Continues l size anchor shown f.pass.1 f.pass.2 := by
  -- The batch of a pass: the last slot shown and the next of those behind it.
  have next : ∀ {a batch engine}, f.listing.lastAddress? = some a →
      (Query.batchAt a f.pager.batchSize).ask f.engine = (.ok batch, engine) →
      ∃ s further, batch = String.ofList (batchText (s :: further.take (size - 1))) ∧
        (∀ r ∈ s :: further.take (size - 1), r.OneLined) ∧
        l.slotsFrom anchor = shown ++ further := by
    intro a batch engine last answer
    obtain ⟨s, further, hfrom, cut⟩ := shows.goes_on ascending last
    obtain ⟨n, rfl⟩ := Nat.exists_eq_add_of_le' two
    have given := (batch_of_answer answer).1
    rw [h.engine.slotsFrom, h.size, hfrom, List.take_succ_cons] at given
    refine ⟨s, further, given, fun r hr => oneLined r ?_, cut⟩
    refine (l.slotsFrom_suffix a).subset (hfrom ▸ ?_)
    rw [← List.take_succ_cons] at hr
    exact List.mem_of_mem_take hr
  have passed := f.passed
  generalize f.pass = result at passed ⊢
  obtain ⟨outcome, g⟩ := result
  cases passed with
  | overflow _ =>
      exact ⟨fun _ e => (nomatch e), fun e => (nomatch e), fun _ => shows.of_listing rfl rfl⟩
  | notNearEnd _ => exact ⟨fun _ e => (nomatch e), fun e => (nomatch e), fun _ => shows⟩
  | noBoundary _ _ =>
      exact ⟨fun _ e => (nomatch e), fun e => (nomatch e), fun _ => shows.of_listing rfl rfl⟩
  | failed _ _ _ =>
      exact ⟨fun _ e => (nomatch e), fun e => (nomatch e), fun _ => shows.of_listing rfl rfl⟩
  | exhausted _ last answer stale =>
      refine ⟨fun _ e => (nomatch e), fun _ => ?_, fun _ => shows.of_listing rfl rfl⟩
      obtain ⟨s, further, rfl, batch, cut⟩ := next last answer
      cases further with
      | nil => rw [cut, List.append_nil]
      | cons r rest =>
          obtain ⟨n, rfl⟩ := Nat.exists_eq_add_of_le' two
          have ahead : r :: rest.take n <+: r :: rest := List.take_prefix (n + 1) (r :: rest)
          exact absurd stale (shows.not_stale ascending oneLined cut ahead batch)
  | appended _ last answer fresh =>
      refine ⟨fun _ _ => ?_, fun e => (nomatch e), fun e => absurd rfl (e _)⟩
      obtain ⟨s, further, rfl, batch, cut⟩ := next last answer
      obtain ⟨lines, text⟩ := freshLines_batchText batch
      have hfresh : further.take (size - 1) ≠ [] := by
        intro none
        refine fresh (.inl ?_)
        rw [String.toList_ofList, afterFirstLine_batchText batch, List.tail_cons, none]
        rfl
      rw [cut, List.take_length_add_append]
      exact shows.grown cut (List.take_prefix _ _) hfresh lines text

/-- A batch has no header above its first line, so all its lines are put in place. -/
theorem addressedLines_batchText {slots : List Slot} (h : ∀ s ∈ slots, s.OneLined) :
    Session.addressedLines (String.ofList (batchText slots)) = batchLines slots := by
  rw [Session.addressedLines, linesOf_batchText h]
  cases slots with
  | nil => rfl
  | cons s rest =>
      refine List.dropWhile_cons_of_neg ?_
      rw [lineAddress?_shownLine]
      exact Bool.false_ne_true

/-- A restart at a place shows the first slots from there on; the anchor is the address of
the first, and the place itself where there is none. -/
theorem restart_shows (f : Feed Loaded) {target : Address} {slots : List Slot}
    (ascending : l.Ascending) (oneLined : ∀ r ∈ slots, r.OneLined)
    (placed : slots <+: l.slotsFrom target) :
    (slots = [] ∧ (f.restart target (String.ofList (batchText slots))).listing.lines = [] ∧
      (f.restart target (String.ofList (batchText slots))).listing.anchor = some target) ∨
    ∃ s rest, slots = s :: rest ∧
      (f.restart target (String.ofList (batchText slots))).Shows l s.address slots := by
  have lines := addressedLines_batchText oneLined
  cases slots with
  | nil =>
      refine .inl ⟨rfl, lines, ?_⟩
      rw [restart_anchor, anchorOf, lines]
      rfl
  | cons s rest =>
      obtain ⟨further, cut⟩ := placed
      have whole : l.slotsFrom target = [] ++ s :: (rest ++ further) := cut.symm
      refine .inr ⟨s, rest, rfl, ?_, ?_, rfl, ?_, ?_⟩
      · rw [restart_anchor, anchorOf, lines, batchLines, List.head?_cons, Option.bind_some,
          lineAddress?_shownLine]
        rfl
      · rw [restart_lines, lines]
      · rw [ascending.slotsFrom_of_slotsFrom whole]
        exact List.prefix_append (s :: rest) further
      · intro text h
        rw [restart_remainder] at h
        cases h

theorem Shift.seamless {g : Feed Loaded} (shift : f.Shift g) (h : f.Seamless l size)
    (ascending : l.Ascending) (oneLined : ∀ r ∈ l.slots, r.OneLined) (two : 2 ≤ size) :
    g.Seamless l size := by
  cases shift with
  | asked asked => exact h.of_same asked rfl rfl rfl rfl
  | passed =>
      obtain ⟨asked, batchSize, -⟩ := f.pass_kept
      refine ⟨h.engine.trans (sameImage_of_asked asked), batchSize.trans h.size, ?_⟩
      rcases h.text with empty | ⟨anchor, shown, shows⟩
      · exact .inl (pass_of_empty empty).1
      · have continues := h.pass_continues ascending oneLined two shows
        by_cases appended : ∃ k, f.pass.1 = .ok (.appended k)
        · obtain ⟨k, appended⟩ := appended
          exact .inr ⟨anchor, _, continues.appended k appended⟩
        · exact .inr ⟨anchor, shown, continues.otherwise fun k e => appended ⟨k, e⟩⟩
  | scrolled top => exact h.of_same .refl rfl rfl rfl rfl
  | resized height => exact h.of_same .refl rfl rfl rfl rfl

theorem Step.seamless {g : Feed Loaded} (step : Step size f g) (h : f.Seamless l size)
    (ascending : l.Ascending) (oneLined : ∀ r ∈ l.slots, r.OneLined) (two : 2 ≤ size) :
    g.Seamless l size := by
  cases step with
  | shift shift => exact shift.seamless h ascending oneLined two
  | placed c => exact h.of_same .refl rfl rfl rfl rfl
  | held _ => exact h.of_same .refl rfl rfl rfl rfl
  | @restarted target batch engine answer =>
      obtain ⟨rfl, moved⟩ := batch_of_answer answer
      rw [h.engine.slotsFrom]
      have single : ∀ r ∈ (l.slotsFrom target).take size, r.OneLined := fun r hr =>
        oneLined r ((l.slotsFrom_suffix target).subset (List.mem_of_mem_take hr))
      refine ⟨h.engine.trans moved, h.size, ?_⟩
      rcases restart_shows { f with engine } ascending single (List.take_prefix _ _) with
        ⟨-, empty, -⟩ | ⟨s, rest, -, shows⟩
      · exact .inl empty
      · exact .inr ⟨_, _, shows⟩

theorem Steps.seamless {g : Feed Loaded} (steps : Steps size f g) (h : f.Seamless l size)
    (ascending : l.Ascending) (oneLined : ∀ r ∈ l.slots, r.OneLined) (two : 2 ≤ size) :
    g.Seamless l size := by
  induction steps with
  | refl => exact h
  | tail _ last ih => exact last.seamless ih ascending oneLined two

end Feed

end AsmView
