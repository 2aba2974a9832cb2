/-
# How many batches an operation fetches

An operation that reloads opens a new text with one batch.  All other batches are fetched
by passes, and there are two loops of these: the one behind a scroll notification and the
one behind a new text.  Both end at the cap, whatever the analyzer answers, and a reload
runs only the second: behind its silenced channels a scroll notification is dropped, and so
is a cursor that is moved.  `Feed.Spends` is a budget for what lies between two feeds.  It
adds up along the way, and one line for each function leads to `perform_spends`.
-/
import AsmView.Proofs.Config
import AsmView.Proofs.Session.Regrow

namespace AsmView

variable {σ : Type} [Analyzer σ]

/-! ## Visits to the analyzer -/

/-- What the analyzer is visited for. -/
inductive Errand where
  /-- The first batch of a text. -/
  | opening
  /-- A further batch. -/
  | paging
  /-- All that a focus pass asks. -/
  | focusing
  /-- The question where a line leads. -/
  | following
deriving DecidableEq, Repr

/-- What a visit does to the analyzer.  For a batch it is placed and asked for one. -/
def Errand.Leads (size : Nat) (s t : σ) : Errand → Prop
  | .opening => ∃ a, ((Query.batchAt a size).ask s).2 = t
  | .paging => ∃ a, ((Query.batchAt a size).ask s).2 = t
  | .focusing => ∃ u : Session σ, u.engine = s ∧ u.updateFocus.engine = t
  | .following => ∃ line, ((Session.knownTarget line).ask s).2 = t

/-- What visits, one after the other, do to the analyzer. -/
def Visits (size : Nat) : List Errand → σ → σ → Prop
  | [], s, t => s = t
  | e :: es, s, t => ∃ u, e.Leads size s u ∧ Visits size es u t

theorem Visits.append {size : Nat} {es es' : List Errand} {s t u : σ}
    (h : Visits size es s t) (h' : Visits size es' t u) : Visits size (es ++ es') s u := by
  induction es generalizing s with
  | nil =>
      obtain rfl : s = t := h
      exact h'
  | cons e es ih =>
      obtain ⟨v, leads, rest⟩ := h
      exact ⟨v, leads, ih rest⟩

/-! ## Budgets -/

/-- From one feed to the other, at most so many texts are opened and so many further batches
asked for, and the pager counts no more of these than there were. -/
structure Feed.Spends (openings pages : Nat) (f g : Feed σ) : Prop where
  batchSize : g.pager.batchSize = f.pager.batchSize
  passCap : g.pager.passCap = f.pager.passCap
  visits : ∃ es : List Errand, Visits f.pager.batchSize es f.engine g.engine ∧
    es.count .opening ≤ openings ∧ es.count .paging ≤ pages ∧
    g.pager.fetches ≤ f.pager.fetches + es.count .paging

namespace Feed

variable {f g h : Feed σ} {m n p q : Nat}

theorem Spends.trans (first : f.Spends m p g) (second : g.Spends n q h) :
    f.Spends (m + n) (p + q) h := by
  obtain ⟨es, visits, openings, pages, counted⟩ := first.visits
  obtain ⟨es', visits', openings', pages', counted'⟩ := second.visits
  refine ⟨second.batchSize.trans first.batchSize, second.passCap.trans first.passCap,
    es ++ es', visits.append (first.batchSize ▸ visits'), ?_, ?_, ?_⟩
  · rw [List.count_append]
    omega
  · rw [List.count_append]
    omega
  · rw [List.count_append]
    omega

/-- Where the text stands has no part in it. -/
theorem Spends.of_listing {listing : Listing}
    (spends : Feed.Spends m p { f with listing } g) : f.Spends m p g :=
  ⟨spends.batchSize, spends.passCap, spends.visits⟩

theorem Spends.mono (spends : f.Spends m p g) (hm : m ≤ n) (hp : p ≤ q) : f.Spends n q g := by
  obtain ⟨es, visits, openings, pages, counted⟩ := spends.visits
  exact ⟨spends.batchSize, spends.passCap, es, visits, openings.trans hm, pages.trans hp, counted⟩

/-- Without a visit to the analyzer nothing is spent. -/
theorem spends_nothing (batchSize : g.pager.batchSize = f.pager.batchSize)
    (passCap : g.pager.passCap = f.pager.passCap) (engine : f.engine = g.engine)
    (fetches : g.pager.fetches = f.pager.fetches) : f.Spends m p g :=
  ⟨batchSize, passCap, [], engine, Nat.zero_le _, Nat.zero_le _, Nat.le_of_eq fetches⟩

/-- A visit that leaves the pager alone. -/
theorem spends_visit {e : Errand} {engine : σ} (leads : e.Leads f.pager.batchSize f.engine engine) :
    f.Spends (List.count .opening [e]) (List.count .paging [e]) { f with engine } :=
  ⟨rfl, rfl, [e], ⟨engine, leads, rfl⟩, Nat.le_refl _, Nat.le_refl _, Nat.le_add_right _ _⟩

/-- A pass asks for one batch at most. -/
theorem pass_spends (f : Feed σ) : f.Spends 0 1 f.pass.2 := by
  have passed := f.passed
  generalize f.pass = result at passed ⊢
  obtain ⟨outcome, g⟩ := result
  -- every fetch is one visit, and the pager counts it when it succeeds
  have fetched : ∀ {a : Address} {answer : Except EngineFault String} {engine : σ},
      (Query.batchAt a f.pager.batchSize).ask f.engine = (answer, engine) →
      Visits f.pager.batchSize [.paging] f.engine engine :=
    fun {a _ engine} asked => ⟨engine, ⟨a, congrArg Prod.snd asked⟩, rfl⟩
  cases passed with
  | overflow _ => exact spends_nothing rfl rfl rfl rfl
  | notNearEnd _ => exact spends_nothing rfl rfl rfl rfl
  | noBoundary _ _ => exact spends_nothing rfl rfl rfl rfl
  | failed _ _ answer =>
      exact ⟨rfl, rfl, [.paging], fetched answer, Nat.le_refl _, Nat.le_refl _, Nat.le_succ _⟩
  | exhausted _ _ answer _ =>
      exact ⟨rfl, rfl, [.paging], fetched answer, Nat.le_refl _, Nat.le_refl _, Nat.le_refl _⟩
  | appended _ _ answer _ =>
      exact ⟨rfl, rfl, [.paging], fetched answer, Nat.le_refl _, Nat.le_refl _, Nat.le_refl _⟩

theorem extendFrom_spends (n : Nat) (report : PageReport) (f : Feed σ) :
    f.Spends 0 n (extendFrom n report f).2 := by
  induction n generalizing report f with
  | zero => exact spends_nothing rfl rfl rfl rfl
  | succ n ih =>
      have first := f.pass_spends
      rw [extendFrom]
      generalize f.pass = result at first ⊢
      obtain ⟨outcome, g⟩ := result
      have last : f.Spends 0 (n + 1) g := first.mono (Nat.le_refl _) (Nat.le_add_left 1 n)
      cases outcome with
      | error e => exact last
      | ok r =>
          cases r with
          | appended k => exact (first.trans (ih _ g)).mono (Nat.le_refl _) (Nat.add_comm 1 n).le
          | notNearEnd => exact last
          | overflow => exact last
          | invalidBoundary => exact last
          | exhausted => exact last

/-- Putting the window back asks for nothing. -/
theorem backTo_spends (f : Feed σ) (top : Nat) : f.Spends 0 0 (f.backTo top) :=
  spends_nothing rfl rfl rfl rfl

/-- A row costs what its passes cost. -/
theorem Row.spends {top : Nat} (row : Row top n f g) : f.Spends 0 n g := by
  induction row with
  | spent f => exact spends_nothing rfl rfl rfl rfl
  | @failed n f e _ => exact f.pass_spends.mono (Nat.le_refl _) (Nat.le_add_left 1 n)
  | @ended n f r _ _ =>
      have ended := f.pass_spends.trans (backTo_spends f.pass.2 top)
      exact ended.mono (Nat.le_refl _) (Nat.le_add_left 1 n)
  | @further n f g k _ _ ih =>
      have first := f.pass_spends.trans (backTo_spends f.pass.2 top)
      exact (first.trans ih).mono (Nat.le_refl _) (Nat.add_comm 1 n).le

end Feed

namespace Session

/-! ## Notifications -/

theorem announce_spends (s : Session σ) (text : String) :
    s.toFeed.Spends 0 0 (s.announce text).toFeed := by
  obtain ⟨_, _, h⟩ := announce_eq s text
  rw [h]
  exact Feed.spends_nothing rfl rfl rfl rfl

theorem updateFocus_spends (s : Session σ) : s.toFeed.Spends 0 0 s.updateFocus.toFeed := by
  obtain ⟨engine, -, h⟩ := updateFocus_feed s
  have asked : Errand.focusing.Leads s.pager.batchSize s.engine engine :=
    ⟨s, rfl, congrArg (·.engine) h⟩
  rw [h]
  exact Feed.spends_visit asked

theorem extendText_spends (s : Session σ) :
    s.toFeed.Spends 0 s.pager.passCap s.extendText.toFeed := by
  have fed : s.toFeed.Spends 0 s.pager.passCap s.toFeed.extend.2 := Feed.extendFrom_spends _ _ _
  unfold extendText
  generalize s.toFeed.extend = result at fed ⊢
  obtain ⟨outcome, feed⟩ := result
  cases outcome with
  | ok report => exact fed
  | error f => exact fed.trans (announce_spends { s with toFeed := feed } _)

theorem raise_spends (s : Session σ) (channel : Channel) :
    s.toFeed.Spends 0 s.pager.passCap (s.raise channel).toFeed := by
  unfold raise
  split
  · let told := { s with stats := { s.stats with delivered := s.stats.delivered + 1 } }
    cases channel with
    | scroll => exact extendText_spends told
    | cursor => exact (updateFocus_spends told).mono (Nat.le_refl _) (Nat.zero_le _)
  · exact Feed.spends_nothing rfl rfl rfl rfl

theorem setTop_spends (s : Session σ) (top : Nat) :
    s.toFeed.Spends 0 s.pager.passCap (s.setTop top).toFeed := by
  unfold setTop
  dsimp only
  split
  · exact Feed.spends_nothing rfl rfl rfl rfl
  · exact (raise_spends { s with listing := s.listing.setTop top } .scroll).of_listing

/-- A cursor that is moved is followed by a focus pass, not by pages. -/
theorem setCursor_spends (s : Session σ) (c : Cursor) :
    s.toFeed.Spends 0 0 (s.setCursor c).toFeed := by
  unfold setCursor
  dsimp only
  split
  · exact Feed.spends_nothing rfl rfl rfl rfl
  · let placed : Session σ := { s with listing := s.listing.setCursor c }
    unfold raise
    split
    · exact (updateFocus_spends { placed with
        stats := { s.stats with delivered := s.stats.delivered + 1 } }).of_listing
    · exact Feed.spends_nothing rfl rfl rfl rfl

/-! ## Reloads -/

/-- Behind silenced channels only the row of passes behind the new text asks for anything. -/
theorem install_spends {s : Session σ} (silent : s.channels.Silenced) (target : Address)
    (batch : String) (cursor : Cursor) (top : Nat) :
    s.toFeed.Spends 0 s.config.passCap (s.install target batch cursor top).toFeed := by
  obtain ⟨filled, row, installed⟩ := install_row silent target batch cursor top
  have restarted : s.toFeed.Spends 0 0 (s.toFeed.restart target batch) :=
    Feed.spends_nothing rfl rfl rfl rfl
  have back := Feed.backTo_spends (s.toFeed.restart target batch) top
  have placed : filled.Spends 0 0 { filled with listing := filled.listing.setCursor cursor } :=
    Feed.spends_nothing rfl rfl rfl rfl
  rw [installed]
  exact (((restarted.trans back).trans row.spends).trans placed).mono (Nat.le_refl _) (by omega)

/-- The pager has the settings of the session. -/
structure Tuned (s : Session σ) : Prop where
  batchSize : s.pager.batchSize = s.config.batchSize
  passCap : s.pager.passCap = s.config.passCap

/-- The end of a reload asks for nothing but its focus pass. -/
theorem letGo_spends (s : Session σ) : s.toFeed.Spends 0 0 s.letGo.updateFocus.toFeed := by
  have letGo : s.toFeed.Spends 0 0 s.letGo.toFeed := Feed.spends_nothing rfl rfl rfl rfl
  exact letGo.trans (updateFocus_spends s.letGo)

/-- The question for a first batch. -/
theorem rewriting_spends {s : Session σ} (tuned : s.Tuned) {target : Address}
    {answer : Except EngineFault String} {engine : σ}
    (asked : (Query.batchAt target s.config.batchSize).ask s.engine = (answer, engine)) :
    s.toFeed.Spends 1 0 (s.rewriting engine).toFeed := by
  rw [← tuned.batchSize] at asked
  have leads : Errand.opening.Leads s.pager.batchSize s.engine engine :=
    ⟨target, congrArg Prod.snd asked⟩
  have visit : s.toFeed.Spends 1 0 { s.toFeed with engine } := Feed.spends_visit leads
  have held : Feed.Spends 0 0 { s.toFeed with engine } (s.rewriting engine).toFeed :=
    Feed.spends_nothing rfl rfl rfl rfl
  exact visit.trans held

/-- How many texts are opened by what reloads at a place, if there is one. -/
def openings : Option Address → Nat
  | some _ => 1
  | none => 0

/-- A reload that has somewhere to go opens one text, and pages up to the cap behind it. -/
theorem reload_spends {s : Session σ} (rest : s.channels.AtRest) (tuned : s.Tuned) :
    s.toFeed.Spends (openings s.reloadTarget?) s.config.passCap s.reload.1.toFeed := by
  have found := reloaded s
  generalize s.reload = result at found ⊢
  obtain ⟨after, loaded⟩ := result
  cases found with
  | nowhere _ => exact Feed.spends_nothing rfl rfl rfl rfl
  | @refused target f engine going answer =>
      rw [going]
      have told := announce_spends (s.rewriting engine) (refusal target f)
      have spent := ((rewriting_spends tuned answer).trans told).trans (letGo_spends _)
      exact spent.mono (Nat.le_refl _) (Nat.zero_le _)
  | @loaded target batch engine place t going answer _ installed =>
      rw [going]
      have silent : (s.rewriting engine).channels.Silenced := rest.silenced
      have filled := install_spends silent target batch place.1 place.2
      rw [← installed] at filled
      have spent := ((rewriting_spends tuned answer).trans filled).trans
        (letGo_spends { t with lastNotice? := none })
      exact spent.mono (Nat.le_refl _) (Nat.zero_add _).le

/-! ## Operations -/

theorem navigate_spends {s : Session σ} (rest : s.channels.AtRest) (tuned : s.Tuned)
    (target : Address) :
    s.toFeed.Spends 1 s.config.passCap (s.request target).1.reload.1.toFeed :=
  reload_spends (s := (s.request target).1) rest ⟨tuned.batchSize, tuned.passCap⟩

theorem goTo_spends {s : Session σ} (rest : s.channels.AtRest) (tuned : s.Tuned)
    (target : Address) : s.toFeed.Spends 1 s.config.passCap (s.goTo target).toFeed := by
  have spends := navigate_spends rest tuned target
  unfold goTo
  generalize (s.request target).1.reload = result at spends ⊢
  obtain ⟨after, loaded⟩ := result
  dsimp only
  split <;> exact spends

theorem goToStart_spends {s : Session σ} (rest : s.channels.AtRest) (tuned : s.Tuned) :
    s.toFeed.Spends (openings (s.destination? .goToStart)) s.config.passCap
      s.goToStart.toFeed := by
  unfold goToStart destination?
  dsimp only
  cases Analyzer.start? s.engine with
  | none => exact Feed.spends_nothing rfl rfl rfl rfl
  | some entry => exact navigate_spends rest tuned entry

theorem goToQuery_spends {s : Session σ} (rest : s.channels.AtRest) (tuned : s.Tuned)
    (query : String) :
    s.toFeed.Spends (openings (s.destination? (.goToQuery query))) s.config.passCap
      (s.goToQuery query).1.toFeed := by
  unfold goToQuery destination?
  dsimp only
  cases Destination.resolve? query (Analyzer.functions s.engine) with
  | none => exact Feed.spends_nothing rfl rfl rfl rfl
  | some found => exact goTo_spends rest tuned found.place

theorem followRow_spends {s : Session σ} (rest : s.channels.AtRest) (tuned : s.Tuned)
    (direction : Direction) (index : Nat) :
    s.toFeed.Spends (openings (s.destination? (.followRow direction index))) s.config.passCap
      (s.followRow direction index).1.toFeed := by
  unfold followRow destination?
  dsimp only
  cases s.panels.references?.bind fun lists => (lists.entries direction)[index]? with
  | none => exact Feed.spends_nothing rfl rfl rfl rfl
  | some entry => exact goTo_spends rest tuned entry.address

theorem goBack_spends {s : Session σ} (rest : s.channels.AtRest) (tuned : s.Tuned) :
    s.toFeed.Spends (openings (s.destination? .goBack)) s.config.passCap s.goBack.1.toFeed := by
  unfold goBack destination?
  cases history : s.history with
  | nil => exact Feed.spends_nothing rfl rfl rfl rfl
  | cons place places =>
      have spends := navigate_spends (s := { s with history := places }) rest
        ⟨tuned.batchSize, tuned.passCap⟩ place
      dsimp only
      generalize (({ s with history := places } : Session σ).request place).1.reload = result
        at spends ⊢
      obtain ⟨after, loaded⟩ := result
      cases loaded with
      | true => exact spends
      | false => exact spends

theorem followTransfer_spends {s : Session σ} (rest : s.channels.AtRest) (tuned : s.Tuned) :
    s.toFeed.Spends (openings (s.destination? .followTransfer)) s.config.passCap
      s.followTransfer.1.toFeed := by
  unfold followTransfer destination? transfer?
  cases s.listing.cursorLine? with
  | none => exact Feed.spends_nothing rfl rfl rfl rfl
  | some line =>
      have asked : Errand.following.Leads s.pager.batchSize s.engine
          ((knownTarget line).ask s.engine).2 := ⟨line, rfl⟩
      dsimp only [Feed.ask]
      generalize (knownTarget line).ask s.engine = answer at asked ⊢
      obtain ⟨result, engine⟩ := answer
      have visit : s.toFeed.Spends 0 0 { s.toFeed with engine } := Feed.spends_visit asked
      cases result with
      | error f =>
          exact (visit.trans (announce_spends { s with engine } _)).mono (Nat.le_refl _)
            (Nat.zero_le _)
      | ok target? =>
          cases target? with
          | none => exact visit.mono (Nat.le_refl _) (Nat.zero_le _)
          | some target =>
              have gone := goTo_spends (s := { s with engine }) rest
                ⟨tuned.batchSize, tuned.passCap⟩ target
              exact (visit.trans gone).mono (Nat.le_refl _) (Nat.zero_add _).le

theorem setHeight_spends (s : Session σ) (height : Nat) :
    s.toFeed.Spends 0 s.pager.passCap (s.setHeight height).toFeed := by
  unfold setHeight
  split
  · exact Feed.spends_nothing rfl rfl rfl rfl
  · exact (raise_spends { s with listing := s.listing.setHeight height } .scroll).of_listing

/-- A cursor may be followed by a scroll, and that pages. -/
theorem placeCursor_spends {s : Session σ} (tuned : s.Tuned) (c : Cursor) :
    s.toFeed.Spends 0 s.config.passCap (s.placeCursor c).toFeed := by
  have placed := setCursor_spends s c
  have scrolled : ∀ top,
      s.toFeed.Spends 0 s.config.passCap ((s.setCursor c).setTop top).toFeed := by
    intro top
    have pages := setTop_spends (s.setCursor c) top
    rw [placed.passCap, tuned.passCap] at pages
    exact (placed.trans pages).mono (Nat.le_refl _) (Nat.zero_add _).le
  unfold placeCursor
  dsimp only
  split
  · exact Feed.spends_nothing rfl rfl rfl rfl
  · split
    · exact scrolled _
    · split
      · exact scrolled _
      · exact placed.mono (Nat.le_refl _) (Nat.zero_le _)

/-- Every operation opens one text at most, and only if it reloads; and it pages up to the
cap. -/
theorem perform_spends {s : Session σ} (calm : s.Calm) (tuned : s.Tuned) (op : Operation) :
    s.toFeed.Spends (openings (s.destination? op)) s.config.passCap (s.perform op).toFeed := by
  have rest := calm.rest
  cases op with
  | goToStart => exact goToStart_spends rest tuned
  | request target => exact Feed.spends_nothing rfl rfl rfl rfl
  | goTo target => exact goTo_spends rest tuned target
  | goBack => exact goBack_spends rest tuned
  | goToQuery query =>
      rw [perform]
      exact goToQuery_spends rest tuned query
  | refresh => exact reload_spends rest tuned
  | showAnew =>
      exact reload_spends (s := { s with
        watch := s.watch.markStale, cache := {}, announced := [] }) rest
        ⟨tuned.batchSize, tuned.passCap⟩
  | setHeight height => exact tuned.passCap ▸ setHeight_spends s height
  | scrollTo top => exact tuned.passCap ▸ setTop_spends s top
  | scrollBy delta => exact tuned.passCap ▸ setTop_spends s _
  | placeCursor c => exact placeCursor_spends tuned c
  | stepCursor delta => exact placeCursor_spends tuned _
  | raise channel => exact tuned.passCap ▸ raise_spends s channel
  | followTransfer => exact followTransfer_spends rest tuned
  | followRow direction index => exact followRow_spends rest tuned direction index
  | updateFocus => exact (updateFocus_spends s).mono (Nat.le_refl _) (Nat.zero_le _)
  | takeEvents => exact Feed.spends_nothing rfl rfl rfl rfl

omit [Analyzer σ] in
theorem tuned_new (engine : σ) {config : Config} (accepted : config.Accepted)
    (templates : TemplateStore) : (Session.new engine config templates).Tuned where
  batchSize := Nat.max_eq_left accepted.two_le_batchSize
  passCap := Nat.max_eq_left accepted.one_le_passCap

theorem run_tuned {s : Session σ} (calm : s.Calm) (tuned : s.Tuned) (ops : List Operation) :
    (s.run ops).Tuned := by
  obtain ⟨-, config, -, steps⟩ := run_steps calm ops
  obtain ⟨_, _, _, pager⟩ := steps.pager
  refine ⟨?_, ?_⟩
  · rw [pager, config]
    exact tuned.batchSize
  · rw [pager, config]
    exact tuned.passCap

/-- Paging is bounded and only appends.  After any operations, and whatever the analyzer
answers, an operation asks for at most as many further batches as the cap allows, besides
the first one of the text that it opens if it reloads.  A pass keeps the lines that are
there and the places in them, and adds a line at least exactly when it says so.  The report
of a row of passes counts what they did, and names the cap when all of them appended. -/
theorem run_paging_bounded (engine : σ) {config : Config} (accepted : config.Accepted)
    (templates : TemplateStore) (ops : List Operation) {s : Session σ}
    (reached : (Session.new engine config templates).run ops = s) :
    (∀ op, ∃ es : List Errand,
      Visits config.batchSize es s.engine (s.perform op).engine ∧
        es.count .opening ≤ openings (s.destination? op) ∧
        es.count .paging ≤ config.passCap ∧
        (s.perform op).pager.fetches ≤ s.pager.fetches + es.count .paging) ∧
    (∀ f : Feed σ, f.OnlyAppends f.pass.1 f.pass.2) ∧
    (∀ (f g : Feed σ) (r : PageReport), f.extend = (.ok r, g) →
      r.passes ≤ f.pager.passCap ∧ g.pager.fetches = f.pager.fetches + r.fetches ∧
        g.listing.count = f.listing.count + r.appended ∧
        (r.stop = .passCap ↔ ∀ k < f.pager.passCap, (f.passes k).Appends)) := by
  refine ⟨fun op => ?_, Feed.pass_onlyAppends, fun f g r => Feed.extend_reported⟩
  have new := calm_new engine config templates
  obtain ⟨calm, settings, -⟩ := run_steps new ops
  have tuned := run_tuned new (tuned_new engine accepted templates) ops
  rw [reached] at calm settings tuned
  have same : s.config = config := settings
  obtain ⟨es, visits, opened, paged, counted⟩ := (perform_spends calm tuned op).visits
  rw [tuned.batchSize, same] at visits
  rw [same] at paged
  exact ⟨es, visits, opened, paged, counted⟩

/-- Going to the second function of the small image, with the default settings. -/
theorem run_paging_bounded_pair :
    Config.Accepted {} ∧
    ∃ es : List Errand,
      Visits 200 es ((Session.new (Loaded.load .pair) {}).run [.goToStart]).engine
          (((Session.new (Loaded.load .pair) {}).run [.goToStart]).perform
            (.goTo ⟨0x1010⟩)).engine ∧
        es.count .opening ≤ 1 ∧ es.count .paging ≤ 10 := by
  obtain ⟨es, visits, opened, paged, -⟩ :=
    (run_paging_bounded (Loaded.load .pair) .default .builtin [.goToStart] rfl).1 (.goTo ⟨0x1010⟩)
  exact ⟨.default, es, visits, opened, paged⟩

end Session

end AsmView
