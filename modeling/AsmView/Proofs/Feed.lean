/-
# What a pass can come to

A pass over the feed either sees that the end of the text is not near and does nothing,
or it asks for one batch at the address of the last line; if that cannot even be computed,
the program stops.  `Passed` lists every outcome of `Feed.pass` together with the feed it
leaves, so that nothing later has to open the pass: the text only ever grows at its end, and
only in the case `appended`; in every other case the listing is untouched.  The pager is idle
after each of them if it was idle before, and the scroll channel was held at most for the
length of the fetch.
-/
import AsmView.Feed
import AsmView.Proofs.Analyzer
import AsmView.Proofs.Listing

namespace AsmView

open Text

variable {σ : Type} [Analyzer σ]

/-- A batch of lines from an address on: the analyzer is moved there and asked. -/
def Query.batchAt (a : Address) (count : Nat) : Query σ String := do
  Analyzer.reposition a
  Analyzer.disassemble count

theorem Query.plain_batchAt (a : Address) (count : Nat) :
    (Query.batchAt a count : Query σ String).Plain :=
  (plain_query (.reposition a)).bind fun _ => plain_query (.disassemble count)

/-- The fault of a place that is refused is the fault of the batch. -/
theorem Query.batchAt_ask (a : Address) (count : Nat) (s : σ) :
    (Query.batchAt a count : Query σ String).ask s =
      match (Analyzer.reposition a : Query σ Unit).ask s with
      | (.ok _, t) => (Analyzer.disassemble count).ask t
      | (.error e, t) => (.error e, t) := by
  rw [batchAt, ask_bind]
  cases (Analyzer.reposition a : Query σ Unit).ask s with
  | mk placed t => cases placed <;> rfl

namespace Feed

/-- A fetch in one question. -/
theorem fetch_eq (f : Feed σ) :
    f.fetch = match f.listing.lastAddress? with
      | none => (.ok .invalidBoundary, f)
      | some a =>
        match (Query.batchAt a f.pager.batchSize).ask f.engine with
        | (.error e, engine) => (.error e, { f with engine })
        | (.ok batch, engine) =>
          let (outcome, g) := takeBatch { f with
            engine, pager := { f.pager with fetches := f.pager.fetches + 1 } } batch
          (.ok outcome, g) := by
  unfold fetch
  cases f.listing.lastAddress? with
  | none => rfl
  | some a =>
      simp only [ask, Query.batchAt_ask]
      cases (Analyzer.reposition a : Query σ Unit).ask f.engine with
      | mk placed engine =>
          cases placed with
          | error e => rfl
          | ok u =>
              dsimp only
              cases (Analyzer.disassemble f.pager.batchSize : Query σ String).ask engine with
              | mk answer engine' => cases answer <;> rfl

/-- The lines a batch adds: all behind its first line. -/
def freshLines (batch : String) : List String :=
  (lines (afterFirstLine batch.toList)).map String.ofList

/-- What a batch adds, as one text. -/
def remainder (batch : String) : String :=
  String.ofList (afterFirstLine batch.toList)

/-- The batch has nothing to add: what stands behind its first line is blank, or was
appended just before. -/
def Stale (f : Feed σ) (batch : String) : Prop :=
  allBlank (afterFirstLine batch.toList) = true ∨ f.pager.remainder? = some (remainder batch)

/-- The feed behind a fetch that added nothing. -/
def rested (f : Feed σ) (engine : σ) (fetched : Nat) : Feed σ :=
  { f with
    engine
    channels := (f.channels.holdEach [.scroll]).releaseEach [.scroll]
    pager := { f.pager with phase := .idle, fetches := f.pager.fetches + fetched } }

/-- The feed behind a fetch that added the rest of a batch. -/
def grown (f : Feed σ) (engine : σ) (batch : String) : Feed σ :=
  { f.rested engine 1 with
    listing := f.listing.append (freshLines batch)
    pager := { (f.rested engine 1).pager with remainder? := some (remainder batch) } }

/-- Every outcome of a pass, with the feed it leaves. -/
inductive Passed (f : Feed σ) : Except EngineFault PassResult → Feed σ → Prop
  | overflow (untold : f.pager.endIsNear? f.listing = none) :
      Passed f (.ok .overflow) { f with halted := true }
  | notNearEnd (far : f.pager.endIsNear? f.listing = some false) : Passed f (.ok .notNearEnd) f
  | noBoundary (near : f.pager.endIsNear? f.listing = some true)
      (last : f.listing.lastAddress? = none) :
      Passed f (.ok .invalidBoundary) (f.rested f.engine 0)
  | failed {a : Address} {e : EngineFault} {engine : σ}
      (near : f.pager.endIsNear? f.listing = some true) (last : f.listing.lastAddress? = some a)
      (answer : (Query.batchAt a f.pager.batchSize).ask f.engine = (.error e, engine)) :
      Passed f (.error e) (f.rested engine 0)
  | exhausted {a : Address} {batch : String} {engine : σ}
      (near : f.pager.endIsNear? f.listing = some true) (last : f.listing.lastAddress? = some a)
      (answer : (Query.batchAt a f.pager.batchSize).ask f.engine = (.ok batch, engine))
      (stale : f.Stale batch) : Passed f (.ok .exhausted) (f.rested engine 1)
  | appended {a : Address} {batch : String} {engine : σ}
      (near : f.pager.endIsNear? f.listing = some true) (last : f.listing.lastAddress? = some a)
      (answer : (Query.batchAt a f.pager.batchSize).ask f.engine = (.ok batch, engine))
      (fresh : ¬ f.Stale batch) :
      Passed f (.ok (.appended (freshLines batch).length)) (f.grown engine batch)

theorem passed (f : Feed σ) : f.Passed f.pass.1 f.pass.2 := by
  unfold pass
  cases told : f.pager.endIsNear? f.listing with
  | none => exact .overflow told
  | some near =>
      cases near with
      | false => exact .notNearEnd told
      | true =>
          simp only [fetch_eq]
          cases last : f.listing.lastAddress? with
          | none => exact .noBoundary told last
          | some a =>
              dsimp only
              cases answer : (Query.batchAt a f.pager.batchSize).ask f.engine with
              | mk result engine =>
                  cases result with
                  | error e => exact .failed told last answer
                  | ok batch =>
                      dsimp only [takeBatch]
                      by_cases stale : f.Stale batch
                      · rw [if_pos (by simpa [Stale, remainder] using stale)]
                        exact .exhausted told last answer stale
                      · rw [if_neg (by simpa [Stale, remainder] using stale)]
                        exact .appended told last answer stale

/-- A pass asks the analyzer, and leaves the size of its batches and the anchor of the
text as they are. -/
theorem pass_kept (f : Feed σ) :
    Analyzer.Asked f.engine f.pass.2.engine ∧
      f.pass.2.pager.batchSize = f.pager.batchSize ∧
      f.pass.2.listing.anchor = f.listing.anchor := by
  have passed := f.passed
  generalize f.pass = result at passed ⊢
  obtain ⟨outcome, g⟩ := result
  cases passed with
  | overflow _ => exact ⟨.refl, rfl, rfl⟩
  | notNearEnd _ => exact ⟨.refl, rfl, rfl⟩
  | noBoundary _ _ => exact ⟨.refl, rfl, rfl⟩
  | failed _ _ answer => exact ⟨(Query.plain_batchAt _ _).asked answer, rfl, rfl⟩
  | exhausted _ _ answer _ => exact ⟨(Query.plain_batchAt _ _).asked answer, rfl, rfl⟩
  | appended _ _ answer _ => exact ⟨(Query.plain_batchAt _ _).asked answer, rfl, rfl⟩

/-- A pass leaves the listing as it is, or adds lines behind a text that has some. -/
theorem pass_listing (f : Feed σ) :
    f.pass.2.listing = f.listing ∨
      f.listing.lines ≠ [] ∧ ∃ lines, f.pass.2.listing = f.listing.append lines := by
  have passed := f.passed
  generalize f.pass = result at passed ⊢
  obtain ⟨outcome, g⟩ := result
  cases passed with
  | overflow _ => exact .inl rfl
  | notNearEnd _ => exact .inl rfl
  | noBoundary _ _ => exact .inl rfl
  | failed _ _ _ => exact .inl rfl
  | exhausted _ _ _ _ => exact .inl rfl
  | appended _ last _ _ => exact .inr ⟨Listing.ne_nil_of_lastAddress? last, _, rfl⟩

/-- Without a line there is nothing to go on from: a pass fetches no batch. -/
theorem pass_of_empty {f : Feed σ} (h : f.listing.lines = []) :
    f.pass.2.listing.lines = [] ∧ (∀ k, f.pass.1 ≠ .ok (.appended k)) ∧
      f.pass.1 ≠ .ok .exhausted := by
  have passed := f.passed
  generalize f.pass = result at passed ⊢
  obtain ⟨outcome, g⟩ := result
  cases passed with
  | overflow _ => exact ⟨h, nofun, nofun⟩
  | notNearEnd _ => exact ⟨h, nofun, nofun⟩
  | noBoundary _ _ => exact ⟨h, nofun, nofun⟩
  | failed _ last _ => exact absurd h (Listing.ne_nil_of_lastAddress? last)
  | exhausted _ last _ _ => exact absurd h (Listing.ne_nil_of_lastAddress? last)
  | appended _ last _ _ => exact absurd h (Listing.ne_nil_of_lastAddress? last)

end Feed

end AsmView
