/-
# Going back moves

The trail of a session is the places it remembers, oldest first, and behind them its anchor.
Going back moves when no place on the trail stands right behind itself.  A navigation to the
anchor itself is not remembered, so that nothing is put on the trail twice in a row; but what
is compared with the anchor is the place asked for, not the place the text begins at.  A
navigation `Slides` back when it asks for a place before the anchor from which the first
instruction is the one at the anchor, for instance one inside the instruction before it.  Over
a loaded image these navigations alone put a place behind itself: `Tread` has what an
operation can make of the trail, and of its cases only the one that leaves an anchor can.
-/
import Mathlib.Data.List.Chain
import AsmView.Proofs.Config
import AsmView.Proofs.Session.Return

namespace AsmView

open Loaded

namespace Loaded

/-- Where another place than the one that is asked for is shown: at the first instruction from
there on. -/
theorem landing_eq_iff {img : Image} {size : Nat} (hline : 1 ≤ size) {target a : Address}
    (elsewhere : target ≠ a) :
    (load img).landing size target = a ↔
      target < a ∧ (∃ i ∈ img.instructions, i.address = a) ∧
        ∀ i ∈ img.instructions, target ≤ i.address → a ≤ i.address := by
  constructor
  · rintro rfl
    rcases (load img).landing_cases size target with ⟨here, -⟩ | ⟨s, rest, cut, -, there⟩
    · exact absurd here.symm elsewhere
    · rw [there] at elsewhere ⊢
      obtain ⟨listed, above, least⟩ := head?_slotsFrom cut
      refine ⟨?_, ⟨s.instruction, mem_instructions.mpr ⟨s, listed, rfl⟩, rfl⟩, fun i hi le => ?_⟩
      · have apart : target.toNat ≠ s.address.toNat := fun e => elsewhere (Address.toNat_injective e)
        exact Nat.lt_of_le_of_ne above apart
      · obtain ⟨t, ht, rfl⟩ := mem_instructions.mp hi
        exact least t ht le
  · rintro ⟨before, ⟨i, hi, rfl⟩, none⟩
    obtain ⟨s, hs, rfl⟩ := mem_instructions.mp hi
    rcases (load img).landing_cases size target with ⟨-, empty⟩ | ⟨r, rest, cut, -, there⟩
    · rw [List.take_eq_nil_iff] at empty
      rcases empty with zero | nil
      · omega
      · exact absurd (Nat.le_of_lt before) (slotsFrom_eq_nil nil s hs)
    · obtain ⟨listed, above, least⟩ := head?_slotsFrom cut
      have le : r.address.toNat ≤ s.address.toNat := least s hs (Nat.le_of_lt before)
      have ge : s.address.toNat ≤ r.address.toNat :=
        none r.instruction (mem_instructions.mpr ⟨r, listed, rfl⟩) above
      rw [there]
      exact Address.toNat_injective (Nat.le_antisymm le ge)

end Loaded

namespace Session

section Trail

variable {σ : Type}

/-- The places remembered, oldest first, and behind them the anchor. -/
def trail (s : Session σ) : List Address :=
  s.history.reverse ++ s.listing.anchor.toList

theorem Stays.trail {s t : Session σ} (h : s.Stays t) : t.trail = s.trail := by
  rw [Session.trail, h.history, h.anchor]
  rfl

/-- The neighbours on the trail differ when those on the way back do. -/
theorem isChain_trail {s : Session σ} :
    s.trail.IsChain (· ≠ ·) ↔ (s.listing.anchor.toList ++ s.history).IsChain (· ≠ ·) := by
  have back : s.trail = (s.listing.anchor.toList ++ s.history).reverse := by
    rw [trail, List.reverse_append]
    cases s.listing.anchor <;> rfl
  rw [back, List.isChain_reverse]
  constructor
  · exact fun h => h.imp fun _ _ => Ne.symm
  · exact fun h => h.imp fun _ _ => Ne.symm

variable [Analyzer σ]

/-- The operations that go to a place and remember, go back, or look around. -/
def Operation.Roams : Operation → Prop
  | .goToStart | .request _ | .refresh | .showAnew => False
  | _ => True

theorem seeks_or_goBack {s : Session σ} {op : Operation} (roams : op.Roams) {target : Address}
    (going : s.destination? op = some target) : op.Seeks ∨ op = .goBack := by
  cases op with
  | goTo _ => exact .inl trivial
  | goToQuery _ => exact .inl trivial
  | followTransfer => exact .inl trivial
  | followRow _ _ => exact .inl trivial
  | goBack => exact .inr rfl
  | goToStart => exact roams.elim
  | refresh => exact roams.elim
  | showAnew => exact roams.elim
  | _ => exact nomatch going

end Trail

/-! ## What an operation makes of the trail -/

variable {l : Loaded}

/-- What an operation that roams makes of history and anchor. -/
inductive Tread (l : Loaded) (op : Operation) (s t : Session Loaded) : Prop
  | stays (h : s.Stays t)
  | shows {target : Address} (seeks : op.Seeks) (here : ∀ a ∈ s.listing.anchor, a = target)
      (history : t.history = s.history)
      (there : t.listing.anchor = some (l.landing s.config.batchSize target))
  | leaves {target a : Address} (seeks : op.Seeks) (going : s.destination? op = some target)
      (inside : l.covers target = true) (anchor : s.listing.anchor = some a)
      (elsewhere : target ≠ a) (history : t.history = (a :: s.history).take s.config.historyLimit)
      (there : t.listing.anchor = some (l.landing s.config.batchSize target))
  | returns {place : Address} (back : op = .goBack) (history : s.history = place :: t.history)
      (there : t.listing.anchor = some (l.landing s.config.batchSize place))

/-- Where a place loads, going there shows where it leads, and what is remembered depends on
the place. -/
theorem perform_seeks {s : Session Loaded} (calm : s.Calm) (image : l.SameImage s.engine)
    {op : Operation} (seeks : op.Seeks) {target : Address} (going : s.destination? op = some target)
    (loads : ((Query.batchAt target s.config.batchSize).ask (s.analyzerFor op)).1.isOk = true) :
    l.covers target = true ∧
      (s.perform op).listing.anchor = some (l.landing s.config.batchSize target) ∧
      (s.perform op).history =
        match s.listing.anchor.filter (· ≠ target) with
        | some a => (a :: s.history).take s.config.historyLimit
        | none => s.history := by
  obtain ⟨inside, there⟩ := anchor_of_loads calm.rest image going loads
  have history := goTo_history (s := { s with engine := s.analyzerFor op })
    ⟨calm.rest, calm.short⟩ loads
  rw [← perform_of_seeks seeks going] at history
  exact ⟨inside, there, history⟩

theorem perform_tread {s : Session Loaded} (calm : s.Calm) (image : l.SameImage s.engine)
    {op : Operation} (roams : op.Roams) : Tread l op s (s.perform op) := by
  cases going : s.destination? op with
  | none => exact .stays (perform_stays_of_nowhere calm going)
  | some target =>
      cases answer : ((Query.batchAt target s.config.batchSize).ask (s.analyzerFor op)).1 with
      | error f =>
          obtain ⟨-, whole⟩ := perform_whole calm.rest going
          rw [answer] at whole
          exact .stays (Untouched.stays whole)
      | ok batch =>
          have loads : ((Query.batchAt target s.config.batchSize).ask
              (s.analyzerFor op)).1.isOk = true := by
            rw [answer]
            rfl
          rcases seeks_or_goBack roams going with seeks | rfl
          · obtain ⟨inside, there, history⟩ := perform_seeks calm image seeks going loads
            cases anchor : s.listing.anchor with
            | none =>
                rw [anchor] at history
                exact .shows seeks (by rw [anchor]; exact nofun) history there
            | some a =>
                by_cases same : target = a
                · rw [anchor, Option.filter_some, if_neg (by simp [same])] at history
                  refine .shows seeks ?_ history there
                  rw [anchor]
                  rintro _ ⟨⟩
                  exact same.symm
                · rw [anchor, Option.filter_some, if_pos (by simpa using Ne.symm same)] at history
                  exact .leaves seeks going inside anchor same history there
          · obtain ⟨rest, history⟩ := List.head?_eq_some_iff.mp
              (show s.history.head? = some target from going)
            have left : (s.perform .goBack).history = rest := goBack_history calm history loads
            exact .returns rfl (by rw [history, left]) (anchor_of_loads calm.rest image going loads).2

/-- A session over an image whose trail is of places that lead to themselves, and that has left
nothing before it showed something. -/
structure Trailed (l : Loaded) (s : Session Loaded) : Prop where
  calm : s.Calm
  image : l.SameImage s.engine
  lands : ∀ a ∈ s.trail, l.landing s.config.batchSize a = a
  started : s.listing.anchor = none → s.history = []

variable {s t : Session Loaded} {op : Operation}

theorem mem_trail {a : Address} : a ∈ s.trail ↔ a ∈ s.history ∨ s.listing.anchor = some a := by
  simp [trail]

theorem Trailed.tread (h : s.Trailed l) (tread : Tread l op s t) (calm : t.Calm)
    (image : l.SameImage t.engine) (config : t.config = s.config) : t.Trailed l := by
  have old : ∀ a ∈ s.history, l.landing s.config.batchSize a = a := fun a ha =>
    h.lands a (mem_trail.mpr (.inl ha))
  have shown : ∀ {place a : Address},
      t.listing.anchor = some (l.landing s.config.batchSize place) → t.listing.anchor = some a →
      l.landing s.config.batchSize a = a := by
    intro place a there here
    obtain rfl := Option.some.inj (there.symm.trans here)
    exact l.landing_landing _ place
  refine ⟨calm, image, fun a ha => ?_, fun none => ?_⟩
  · rw [config]
    cases tread with
    | stays same => exact h.lands a (same.trail ▸ ha)
    | shows _ _ history there =>
        rcases mem_trail.mp ha with left | here
        · exact old a (history ▸ left)
        · exact shown there here
    | leaves _ _ _ anchor _ history there =>
        rcases mem_trail.mp ha with left | here
        · rw [history] at left
          rcases List.mem_cons.mp (List.mem_of_mem_take left) with rfl | older
          · exact h.lands a (mem_trail.mpr (.inr anchor))
          · exact old a older
        · exact shown there here
    | returns _ history there =>
        rcases mem_trail.mp ha with left | here
        · exact old a (history ▸ List.mem_cons_of_mem _ left)
        · exact shown there here
  · cases tread with
    | stays same => rw [same.history, h.started (same.anchor.symm.trans none)]
    | shows _ _ _ there => exact nomatch none.symm.trans there
    | leaves _ _ _ _ _ _ there => exact nomatch none.symm.trans there
    | returns _ _ there => exact nomatch none.symm.trans there

/-- The trail keeps its neighbours apart, unless an anchor is left and shown again. -/
theorem Trailed.isChain_tread (h : s.Trailed l) (tread : Tread l op s t)
    (chain : s.trail.IsChain (· ≠ ·))
    (moves : ∀ target a, op.Seeks → s.destination? op = some target → l.covers target = true →
      s.listing.anchor = some a → target ≠ a → l.landing s.config.batchSize target ≠ a) :
    t.trail.IsChain (· ≠ ·) := by
  rw [isChain_trail] at chain ⊢
  cases tread with
  | stays same => rwa [same.anchor, same.history]
  | @shows target _ here history there =>
      rw [there, history]
      cases anchor : s.listing.anchor with
      | none =>
          rw [h.started anchor]
          exact List.isChain_singleton _
      | some a =>
          obtain rfl : a = target := here a anchor
          rwa [anchor, ← h.lands a (mem_trail.mpr (.inr anchor))] at chain
  | @leaves target a seeks going inside anchor elsewhere history there =>
      rw [anchor] at chain
      rw [there, history]
      have kept : ((a :: s.history).take s.config.historyLimit).IsChain (· ≠ ·) := chain.take _
      cases limit : s.config.historyLimit with
      | zero => exact List.isChain_singleton _
      | succ n =>
          rw [limit, List.take_succ_cons] at kept
          exact List.isChain_cons_cons.mpr
            ⟨moves target a seeks going inside anchor elsewhere, kept⟩
  | @returns place _ history there =>
      have lands : l.landing s.config.batchSize place = place :=
        h.lands place (mem_trail.mpr (.inl (history ▸ List.mem_cons_self)))
      rw [there, lands]
      rw [history] at chain
      exact chain.right_of_append

/-! ## Sliding back -/

/-- The operation asks for a place before the anchor, from which on the instruction at the
anchor is the first. -/
def Slides (img : Image) (s : Session Loaded) (op : Operation) : Prop :=
  op.Seeks ∧ ∃ target a, s.destination? op = some target ∧ (load img).covers target = true ∧
    s.listing.anchor = some a ∧ target < a ∧ (∃ i ∈ img.instructions, i.address = a) ∧
    ∀ i ∈ img.instructions, target ≤ i.address → a ≤ i.address

variable {img : Image}

theorem Trailed.perform (h : s.Trailed l) (roams : op.Roams) : (s.perform op).Trailed l := by
  obtain ⟨calm, config, -, steps⟩ := perform_keeps h.calm op
  exact h.tread (perform_tread h.calm h.image roams) calm
    (h.image.trans (sameImage_of_asked steps.asks)) config

/-- Only a navigation that slides back puts a place behind itself. -/
theorem Trailed.isChain_perform (h : s.Trailed (load img)) (hline : 1 ≤ s.config.batchSize)
    (roams : op.Roams) (chain : s.trail.IsChain (· ≠ ·)) (firm : ¬ s.Slides img op) :
    (s.perform op).trail.IsChain (· ≠ ·) := by
  refine h.isChain_tread (perform_tread h.calm h.image roams) chain ?_
  intro target a seeks going inside anchor elsewhere lands
  obtain ⟨before, listed, first⟩ := (landing_eq_iff hline elsewhere).mp lands
  exact firm ⟨seeks, target, a, going, inside, anchor, before, listed, first⟩

/-- Sliding back remembers the anchor, and shows it. -/
theorem Trailed.slides (h : s.Trailed (load img)) (hline : 1 ≤ s.config.batchSize)
    (slides : s.Slides img op) : ∃ a, (s.perform op).listing.anchor = some a ∧
      (s.perform op).history = (a :: s.history).take s.config.historyLimit := by
  obtain ⟨seeks, target, a, going, inside, anchor, before, listed, first⟩ := slides
  have elsewhere : target ≠ a := by
    rintro rfl
    exact Nat.lt_irrefl _ before
  have image := h.image.trans (sameImage_of_asked (asked_analyzerFor s op))
  obtain ⟨-, there, history⟩ :=
    perform_seeks h.calm h.image seeks going (image.isOk_batchAt inside _)
  rw [anchor, Option.filter_some, if_pos (by simpa using elsewhere.symm)] at history
  rw [(landing_eq_iff hline elsewhere).mpr ⟨before, listed, first⟩] at there
  exact ⟨a, there, history⟩

/-- Where the anchor was remembered last, going back stays there. -/
theorem Trailed.goBack_stays (h : s.Trailed l) {a : Address} (anchor : s.listing.anchor = some a)
    (newest : s.history.head? = some a) : (s.perform .goBack).listing.anchor = some a := by
  have tread : Tread l .goBack s (s.perform .goBack) := perform_tread h.calm h.image trivial
  cases tread with
  | stays same => exact same.anchor.trans anchor
  | shows seeks _ _ _ => exact seeks.elim
  | leaves seeks _ _ _ _ _ _ => exact seeks.elim
  | returns _ history there =>
      rw [history] at newest
      obtain rfl := Option.some.inj newest
      rw [there, h.lands _ (mem_trail.mpr (.inr anchor))]

/-- Going back to a place in the image shows it, and it was not shown if it did not stand on
the trail twice in a row. -/
theorem Trailed.goBack_moves (h : s.Trailed l) (chain : s.trail.IsChain (· ≠ ·)) {place : Address}
    (newest : s.history.head? = some place) (inside : l.covers place = true) :
    (s.perform .goBack).listing.anchor = some place ∧ s.listing.anchor ≠ some place := by
  obtain ⟨rest, history⟩ := List.head?_eq_some_iff.mp newest
  have lands : l.landing s.config.batchSize place = place :=
    h.lands place (mem_trail.mpr (.inl (history ▸ List.mem_cons_self)))
  have going : s.destination? .goBack = some place := newest
  refine ⟨?_, fun anchor => ?_⟩
  · rw [(anchor_of_loads h.calm.rest h.image going (h.image.isOk_batchAt inside _)).2, lands]
  · rw [isChain_trail, anchor, history] at chain
    exact (List.isChain_cons_cons.mp chain).1 rfl

/-! ## Whole runs -/

/-- Showing the start remembers nothing, and shows where the start leads if it loads. -/
theorem goToStart_lands (h : s.Calm) (image : l.SameImage s.engine) :
    (s.perform .goToStart).history = s.history ∧
      ((s.perform .goToStart).listing.anchor = s.listing.anchor ∨
        ∃ place, (s.perform .goToStart).listing.anchor =
          some (l.landing s.config.batchSize place)) := by
  cases going : s.destination? .goToStart with
  | none =>
      have stays := perform_stays_of_nowhere h going
      exact ⟨stays.history, .inl stays.anchor⟩
  | some target =>
      have start : Analyzer.start? s.engine = some target := going
      have gone : s.perform .goToStart = (s.request target).1.reload.1 := by
        show s.goToStart = _
        rw [goToStart, start]
        rfl
      have history : (s.perform .goToStart).history = s.history :=
        gone ▸ (navigate_moves h target).2.history
      refine ⟨history, ?_⟩
      cases answer : ((Query.batchAt target s.config.batchSize).ask s.engine).1 with
      | error f =>
          obtain ⟨-, whole⟩ := perform_whole h.rest going
          rw [show s.analyzerFor .goToStart = s.engine from rfl, answer] at whole
          exact .inl (Untouched.stays whole).anchor
      | ok batch =>
          have loads : ((Query.batchAt target s.config.batchSize).ask
              (s.analyzerFor .goToStart)).1.isOk = true := by
            rw [show s.analyzerFor .goToStart = s.engine from rfl, answer]
            rfl
          exact .inr ⟨target, (anchor_of_loads h.rest image going loads).2⟩

theorem trailed_start (img : Image) (config : Config) (templates : TemplateStore) :
    ((Session.new (load img) config templates).perform .goToStart).Trailed (load img) ∧
      ((Session.new (load img) config templates).perform .goToStart).trail.IsChain (· ≠ ·) := by
  have calm := calm_new (load img) config templates
  obtain ⟨calm', config', -, steps⟩ := perform_keeps calm .goToStart
  have image := sameImage_of_asked steps.asks
  obtain ⟨history, shows⟩ := goToStart_lands calm (.refl (load img))
  -- Nothing is remembered yet, so the trail is the anchor at most.
  have trail : ((Session.new (load img) config templates).perform .goToStart).trail =
      ((Session.new (load img) config templates).perform .goToStart).listing.anchor.toList := by
    rw [Session.trail, history]
    rfl
  refine ⟨⟨calm', image, fun a ha => ?_, fun _ => history⟩, ?_⟩
  · rw [trail] at ha
    rw [config']
    rcases shows with none | ⟨place, there⟩
    · rw [none] at ha
      exact nomatch ha
    · rw [there] at ha
      obtain rfl := List.mem_singleton.mp ha
      exact (load img).landing_landing _ place
  · rw [trail]
    rcases shows with none | ⟨place, there⟩
    · rw [none]
      exact List.isChain_nil
    · rw [there]
      exact List.isChain_singleton _

theorem Trailed.run (h : s.Trailed (load img)) (hline : 1 ≤ s.config.batchSize)
    {ops : List Operation} (roams : ∀ op ∈ ops, op.Roams) :
    (s.run ops).Trailed (load img) ∧
      (s.trail.IsChain (· ≠ ·) →
        (∀ before op after, ops = before ++ op :: after → ¬ (s.run before).Slides img op) →
        (s.run ops).trail.IsChain (· ≠ ·)) := by
  induction ops generalizing s with
  | nil => exact ⟨h, fun chain _ => chain⟩
  | cons op ops ih =>
      have here := roams op List.mem_cons_self
      have config := (perform_keeps h.calm op).2.1
      obtain ⟨trailed, chained⟩ := ih (h.perform here) (config ▸ hline)
        fun op' hop => roams op' (List.mem_cons_of_mem op hop)
      refine ⟨trailed, fun chain firm => ?_⟩
      refine chained (h.isChain_perform hline here chain (firm [] op ops rfl)) ?_
      rintro before op' after rfl
      exact firm (op :: before) op' after rfl

/-- Over an image, in every run that begins with showing its start and then goes to places, goes
back, follows what is shown, scrolls and moves the cursor: as long as no navigation slides back,
no two neighbours on the trail are the same; where none are, going back to a place that loads
shows that place, which was not shown before; and a navigation that slides back makes the place
remembered last the one that is shown, so that going back stays where it is. -/
theorem run_trail {img : Image} {config : Config} (accepted : config.Accepted)
    (templates : TemplateStore) {ops : List Operation} (roams : ∀ op ∈ ops, op.Roams)
    {start s : Session Loaded}
    (begun : (Session.new (load img) config templates).perform .goToStart = start)
    (reached : start.run ops = s) :
    ((∀ before op after, ops = before ++ op :: after → ¬ (start.run before).Slides img op) →
      s.trail.IsChain (· ≠ ·)) ∧
    (s.trail.IsChain (· ≠ ·) → ∀ place, s.history.head? = some place →
      (load img).covers place = true →
      (s.perform .goBack).listing.anchor = some place ∧ s.listing.anchor ≠ some place) ∧
    ∀ op, s.Slides img op → 1 ≤ config.historyLimit →
      ¬ (s.perform op).trail.IsChain (· ≠ ·) ∧
        ((s.perform op).perform .goBack).listing.anchor = (s.perform op).listing.anchor := by
  obtain ⟨trailed, chain⟩ := trailed_start img config templates
  have settings := (perform_keeps (calm_new (load img) config templates) .goToStart).2.1
  rw [begun] at trailed chain settings
  have hline : 1 ≤ start.config.batchSize := by
    rw [settings]
    exact Nat.le_of_succ_le accepted.two_le_batchSize
  obtain ⟨trailed', chained⟩ := trailed.run hline roams
  have settings' : (start.run ops).config = start.config := (run_steps trailed.calm ops).2.1
  rw [reached] at trailed' chained settings'
  refine ⟨chained chain, fun apart place newest inside => ?_, fun op slides remembers => ?_⟩
  · exact trailed'.goBack_moves apart newest inside
  · have roams' : op.Roams := by
      have seeks := slides.1
      cases op <;> first | exact trivial | exact seeks.elim
    obtain ⟨a, there, history⟩ := trailed'.slides (settings' ▸ hline) slides
    have newest : (s.perform op).history.head? = some a := by
      obtain ⟨n, limit⟩ := Nat.exists_eq_add_of_le' remembers
      rw [history, settings', settings, show (Session.new (load img) config templates).config =
        config from rfl, limit]
      rfl
    refine ⟨fun apart => ?_, ?_⟩
    · obtain ⟨rest, cut⟩ := List.head?_eq_some_iff.mp newest
      rw [isChain_trail, there, cut] at apart
      exact (List.isChain_cons_cons.mp apart).1 rfl
    · rw [(trailed'.perform roams').goBack_stays there newest, there]

/-! ## Through the small image -/

theorem goToStart_pair :
    ((Session.new (load .pair) {}).perform .goToStart).listing.anchor = some ⟨0x1000⟩ ∧
      ((Session.new (load .pair) {}).perform .goToStart).history = [] := by
  have calm := calm_new (load .pair) {} .builtin
  have start : (Session.new (load .pair) {}).destination? .goToStart = some ⟨0x1000⟩ := by
    show startOf? (load .pair).image = _
    rw [load_pair]
    rfl
  have lands : (load .pair).landing (Config.batchSize {}) ⟨0x1000⟩ = ⟨0x1000⟩ := by
    rw [load_pair]
    rfl
  have loads := (SameImage.refl (load .pair)).isOk_batchAt (a := ⟨0x1000⟩) (by decide)
    (Config.batchSize {})
  refine ⟨?_, (goToStart_lands calm (.refl _)).1⟩
  exact (anchor_of_loads calm.rest (.refl _) start loads).2.trans (congrArg some lands)

theorem goTo_pair (h : s.Trailed (load .pair)) (config : s.config = {}) (target : Address)
    {a b : Address} (anchor : s.listing.anchor = some a) (elsewhere : target ≠ a)
    (inside : (load .pair).covers target = true)
    (lands : (load .pair).landing (Config.batchSize {}) target = b) :
    (s.perform (.goTo target)).Trailed (load .pair) ∧ (s.perform (.goTo target)).config = {} ∧
      (s.perform (.goTo target)).listing.anchor = some b ∧
      (s.perform (.goTo target)).history = (a :: s.history).take 64 := by
  have seeks : (Operation.goTo target).Seeks := trivial
  obtain ⟨-, there, history⟩ :=
    perform_seeks h.calm h.image seeks rfl (h.image.isOk_batchAt inside _)
  rw [anchor, Option.filter_some, if_pos (by simpa using elsewhere.symm), config] at history
  rw [config, lands] at there
  exact ⟨h.perform trivial, (perform_keeps h.calm _).2.1.trans config, there, history⟩

/-- Behind the start, the instruction behind the call, and then a place inside the call: the
place behind the call stands on the trail twice, and going back stays there. -/
theorem run_slides_pair :
    ((Session.new (load .pair) {}).run
        [.goToStart, .goTo ⟨0x1005⟩, .goTo ⟨0x1001⟩]).trail =
        [⟨0x1000⟩, ⟨0x1005⟩, ⟨0x1005⟩] ∧
      ((Session.new (load .pair) {}).run
        [.goToStart, .goTo ⟨0x1005⟩, .goTo ⟨0x1001⟩, .goBack]).listing.anchor =
        some ⟨0x1005⟩ := by
  have lands : ∀ a ∈ [⟨0x1001⟩, ⟨0x1005⟩],
      (load .pair).landing (Config.batchSize {}) a = ⟨0x1005⟩ := by
    rw [load_pair]
    decide
  obtain ⟨anchor, history⟩ := goToStart_pair
  have config := (perform_keeps (calm_new (load .pair) {} .builtin) .goToStart).2.1
  obtain ⟨trailed, config, anchor, history'⟩ := goTo_pair (trailed_start .pair {} .builtin).1 config
    ⟨0x1005⟩ anchor (by decide) (by decide) (lands _ (by decide))
  rw [history] at history'
  obtain ⟨trailed, config, anchor, history⟩ := goTo_pair trailed config ⟨0x1001⟩ anchor
    (by decide) (by decide) (lands _ (by decide))
  rw [history'] at history
  have reached : (Session.new (load .pair) {}).run
      [.goToStart, .goTo ⟨0x1005⟩, .goTo ⟨0x1001⟩] =
      (((Session.new (load .pair) {}).perform .goToStart).perform (.goTo ⟨0x1005⟩)).perform
        (.goTo ⟨0x1001⟩) := rfl
  refine ⟨?_, trailed.goBack_stays anchor ?_⟩
  · rw [reached, trail, history, anchor]
    rfl
  · rw [history]
    rfl

/-- In the small image, going from its start to the second function and back moves, and going
to a place inside the call from the instruction behind it slides back. -/
theorem run_trail_pair :
    ∃ start s t, (Session.new (load .pair) {}).perform .goToStart = start ∧
      start.run [.goTo ⟨0x1010⟩] = s ∧ s.trail.IsChain (· ≠ ·) ∧
      (s.perform .goBack).listing.anchor = some ⟨0x1000⟩ ∧
      s.listing.anchor ≠ some ⟨0x1000⟩ ∧
      start.run [.goTo ⟨0x1005⟩] = t ∧ t.Slides .pair (.goTo ⟨0x1001⟩) ∧
      ¬ (t.perform (.goTo ⟨0x1001⟩)).trail.IsChain (· ≠ ·) := by
  have lands : ∀ a ∈ [⟨0x1005⟩, ⟨0x1010⟩],
      (load .pair).landing (Config.batchSize {}) a = a := by
    rw [load_pair]
    decide
  -- Nothing stands behind the second function, so nothing slides back to what does.
  have last : ∀ i ∈ Image.pair.instructions, ¬ (⟨0x1010⟩ : Address) < i.address := by decide
  have roams : ∀ target, ∀ op ∈ [Operation.goTo target], op.Roams := by
    rintro target op hop
    obtain rfl := List.mem_singleton.mp hop
    trivial
  obtain ⟨anchor, history⟩ := goToStart_pair
  have config := (perform_keeps (calm_new (load .pair) {} .builtin) .goToStart).2.1
  have trailed := (trailed_start .pair {} .builtin).1
  obtain ⟨-, -, -, history'⟩ := goTo_pair trailed config ⟨0x1010⟩ anchor (by decide)
    (by decide) (lands _ (by decide))
  rw [history] at history'
  obtain ⟨firm, moves, -⟩ :=
    @run_trail .pair {} .default .builtin _ (roams ⟨0x1010⟩) _ _ rfl rfl
  have apart := firm fun before op after same slides => by
    obtain ⟨-, target, a, going, -, -, above, ⟨i, hi, rfl⟩, -⟩ := slides
    have only : op ∈ [Operation.goTo ⟨0x1010⟩] :=
      same ▸ List.mem_append_right before List.mem_cons_self
    obtain rfl := List.mem_singleton.mp only
    obtain rfl := Option.some.inj going
    exact last i hi above
  have newest : (((Session.new (load .pair) {}).perform .goToStart).run
      [.goTo ⟨0x1010⟩]).history.head? = some ⟨0x1000⟩ := congrArg List.head? history'
  obtain ⟨back, away⟩ := moves apart ⟨0x1000⟩ newest (by decide)
  obtain ⟨-, -, anchor', -⟩ := goTo_pair trailed config ⟨0x1005⟩ anchor (by decide)
    (by decide) (lands _ (by decide))
  have slides : ((((Session.new (load .pair) {}).perform .goToStart).run
      [.goTo ⟨0x1005⟩]).Slides .pair (.goTo ⟨0x1001⟩)) :=
    ⟨trivial, ⟨0x1001⟩, ⟨0x1005⟩, rfl, by decide, anchor', by decide, by decide, by decide⟩
  obtain ⟨-, -, sliding⟩ := @run_trail .pair {} .default .builtin _ (roams ⟨0x1005⟩) _ _ rfl rfl
  obtain ⟨repeats, -⟩ := sliding _ slides (by decide)
  exact ⟨_, _, _, rfl, rfl, apart, back, away, rfl, slides, repeats⟩

end Session

end AsmView
