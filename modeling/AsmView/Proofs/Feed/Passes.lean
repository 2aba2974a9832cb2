/-
# What passes add, and what their report says

A pass that appends adds a line at least, since what it appends is not blank; any other
pass leaves the lines as they are.  A row of passes goes on for as long as they append,
and its report counts what they do: `extend_reported` has it that the counts of the report
are those of the pager and of the text, and that the cap is the reason for the end exactly
when every pass that the cap allows has appended.
-/
import Mathlib.Logic.Function.Iterate
import AsmView.Proofs.Feed
import AsmView.Proofs.Text.Lines

namespace AsmView

open Text

theorem Text.lines_ne_nil {cs : List Char} (h : cs ≠ []) : lines cs ≠ [] := by
  unfold lines
  split
  · exact absurd rfl h
  · exact List.cons_ne_nil _ _
  · exact List.cons_ne_nil _ _
  · unfold consFirst
    split <;> exact List.cons_ne_nil _ _

/-- How many lines a pass has added. -/
def PassResult.added : PassResult → Nat
  | .appended k => k
  | _ => 0

/-- How many batches a pass has fetched. -/
def PassResult.fetched : PassResult → Nat
  | .appended _ => 1
  | .exhausted => 1
  | _ => 0

/-- Why a row of passes ends with a pass, if it does. -/
def PassResult.stop? : PassResult → Option PagingEnd
  | .overflow => some .overflow
  | .notNearEnd => some .notNearEnd
  | .appended _ => none
  | .invalidBoundary => some .invalidBoundary
  | .exhausted => some .exhausted

theorem PassResult.stop?_eq_none_iff {r : PassResult} :
    r.stop? = none ↔ ∃ k, r = .appended k := by
  cases r <;> simp [stop?]

theorem PassResult.of_stop? {r : PassResult} {stop : PagingEnd} (h : r.stop? = some stop) :
    r.added = 0 ∧ stop ≠ .passCap := by
  cases r with
  | appended k => exact nomatch h
  | overflow => obtain rfl := Option.some.inj h; exact ⟨rfl, nofun⟩
  | notNearEnd => obtain rfl := Option.some.inj h; exact ⟨rfl, nofun⟩
  | invalidBoundary => obtain rfl := Option.some.inj h; exact ⟨rfl, nofun⟩
  | exhausted => obtain rfl := Option.some.inj h; exact ⟨rfl, nofun⟩

/-- The report after one more pass. -/
def PageReport.next (before : PageReport) (r : PassResult) : PageReport :=
  { before with
    passes := before.passes + 1
    fetches := before.fetches + r.fetched
    appended := before.appended + r.added }

variable {σ : Type}

namespace Feed

theorem length_freshLines_pos {f : Feed σ} {batch : String} (fresh : ¬ f.Stale batch) :
    0 < (freshLines batch).length := by
  have behind : afterFirstLine batch.toList ≠ [] := by
    intro empty
    exact fresh (.inl (by rw [empty]; rfl))
  rw [freshLines, List.length_map]
  exact List.length_pos_iff.mpr (lines_ne_nil behind)

/-- What a pass does to the text: it keeps what is there, and the places in it. -/
structure OnlyAppends (outcome : Except EngineFault PassResult) (f g : Feed σ) : Prop where
  text : f.listing.lines <+: g.listing.lines
  anchor : g.listing.anchor = f.listing.anchor
  cursor : g.listing.cursor = f.listing.cursor
  top : g.listing.top = f.listing.top
  height : g.listing.height = f.listing.height
  added : match outcome with
    | .ok (.appended k) => 0 < k ∧ g.listing.count = f.listing.count + k
    | _ => g.listing.lines = f.listing.lines

variable [Analyzer σ]

theorem pass_onlyAppends (f : Feed σ) : f.OnlyAppends f.pass.1 f.pass.2 := by
  have passed := f.passed
  generalize f.pass = result at passed ⊢
  obtain ⟨outcome, g⟩ := result
  cases passed with
  | appended _ _ _ fresh =>
      refine ⟨List.prefix_append _ _, rfl, rfl, rfl, rfl, length_freshLines_pos fresh, ?_⟩
      exact List.length_append
  | overflow _ => exact ⟨List.prefix_refl _, rfl, rfl, rfl, rfl, rfl⟩
  | notNearEnd _ => exact ⟨List.prefix_refl _, rfl, rfl, rfl, rfl, rfl⟩
  | noBoundary _ _ => exact ⟨List.prefix_refl _, rfl, rfl, rfl, rfl, rfl⟩
  | failed _ _ _ => exact ⟨List.prefix_refl _, rfl, rfl, rfl, rfl, rfl⟩
  | exhausted _ _ _ _ => exact ⟨List.prefix_refl _, rfl, rfl, rfl, rfl, rfl⟩

/-- The pager and the text count what a pass says it did. -/
theorem pass_counts {f : Feed σ} {r : PassResult} (h : f.pass.1 = .ok r) :
    f.pass.2.pager.fetches = f.pager.fetches + r.fetched ∧
      f.pass.2.listing.count = f.listing.count + r.added := by
  have passed := f.passed
  generalize f.pass = result at passed h ⊢
  obtain ⟨outcome, g⟩ := result
  obtain rfl : outcome = .ok r := h
  cases passed with
  | appended _ _ _ _ => exact ⟨rfl, List.length_append⟩
  | overflow _ => exact ⟨rfl, rfl⟩
  | notNearEnd _ => exact ⟨rfl, rfl⟩
  | noBoundary _ _ => exact ⟨rfl, rfl⟩
  | exhausted _ _ _ _ => exact ⟨rfl, rfl⟩

/-! ## Rows of passes -/

/-- A row of passes that gives a report begins with a pass that succeeds; either that ends
the row, or the others follow. -/
theorem extendFrom_succ {n : Nat} {before after : PageReport} {f g : Feed σ}
    (h : extendFrom (n + 1) before f = (.ok after, g)) :
    ∃ r, f.pass.1 = .ok r ∧
      ((r.stop? = none ∧ extendFrom n (before.next r) f.pass.2 = (.ok after, g)) ∨
        ∃ stop, r.stop? = some stop ∧ after = { before.next r with stop } ∧ g = f.pass.2) := by
  rw [extendFrom] at h
  generalize f.pass = result at h ⊢
  obtain ⟨outcome, f'⟩ := result
  cases outcome with
  | error e => exact nomatch (Prod.mk.inj h).1
  | ok r =>
      refine ⟨r, rfl, ?_⟩
      cases r with
      | appended k => exact .inl ⟨rfl, h⟩
      | overflow =>
          obtain ⟨same, rfl⟩ := Prod.mk.inj h
          exact .inr ⟨_, rfl, (Except.ok.inj same).symm, rfl⟩
      | notNearEnd =>
          obtain ⟨same, rfl⟩ := Prod.mk.inj h
          exact .inr ⟨_, rfl, (Except.ok.inj same).symm, rfl⟩
      | invalidBoundary =>
          obtain ⟨same, rfl⟩ := Prod.mk.inj h
          exact .inr ⟨_, rfl, (Except.ok.inj same).symm, rfl⟩
      | exhausted =>
          obtain ⟨same, rfl⟩ := Prod.mk.inj h
          exact .inr ⟨_, rfl, (Except.ok.inj same).symm, rfl⟩

/-- A report, added to another one, counts what has happened between two feeds, in a number
of passes at most. -/
structure Reported (cap : Nat) (before after : PageReport) (f g : Feed σ) : Prop where
  passes : after.passes ≤ before.passes + cap
  fetches : g.pager.fetches + before.fetches = f.pager.fetches + after.fetches
  appended : g.listing.count + before.appended = f.listing.count + after.appended

theorem extendFrom_reported {n : Nat} {before after : PageReport} {f g : Feed σ}
    (h : extendFrom n before f = (.ok after, g)) : Reported n before after f g := by
  induction n generalizing before after f g with
  | zero =>
      obtain ⟨same, rfl⟩ := Prod.mk.inj h
      obtain rfl := Except.ok.inj same
      exact ⟨Nat.le_refl _, rfl, rfl⟩
  | succ n ih =>
      obtain ⟨r, passed, ⟨-, further⟩ | ⟨stop, stops, rfl, left⟩⟩ := extendFrom_succ h
      · obtain ⟨fetched, added⟩ := pass_counts passed
        obtain ⟨passes, fetches, appended⟩ := ih further
        dsimp only [PageReport.next] at passes fetches appended
        exact ⟨by omega, by omega, by omega⟩
      · obtain ⟨fetched, added⟩ := pass_counts passed
        obtain ⟨nothing, -⟩ := PassResult.of_stop? stops
        dsimp only [PageReport.next]
        rw [left]
        refine ⟨?_, ?_, ?_⟩ <;> dsimp only <;> omega

/-- A pass appends. -/
def Appends (f : Feed σ) : Prop :=
  ∃ k, f.pass.1 = .ok (.appended k)

/-- The feed after a number of passes. -/
def passes (n : Nat) (f : Feed σ) : Feed σ :=
  (fun f => f.pass.2)^[n] f

theorem passes_succ (n : Nat) (f : Feed σ) : f.passes (n + 1) = f.pass.2.passes n :=
  Function.iterate_succ_apply _ n f

/-- The cap ends a row of passes exactly when all of them append. -/
theorem extendFrom_stop {n : Nat} {before after : PageReport} {f g : Feed σ}
    (h : extendFrom n before f = (.ok after, g)) (capped : before.stop = .passCap) :
    after.stop = .passCap ↔ ∀ k < n, (f.passes k).Appends := by
  induction n generalizing before after f g with
  | zero =>
      obtain ⟨same, -⟩ := Prod.mk.inj h
      obtain rfl := Except.ok.inj same
      exact ⟨fun _ k before => absurd before (Nat.not_lt_zero k), fun _ => capped⟩
  | succ n ih =>
      rw [Nat.forall_lt_succ_left]
      obtain ⟨r, passed, ⟨goes, further⟩ | ⟨stop, stops, rfl, left⟩⟩ := extendFrom_succ h
      · obtain ⟨k, rfl⟩ := PassResult.stop?_eq_none_iff.mp goes
        simp only [passes_succ, ih further capped]
        exact ⟨fun others => ⟨⟨k, passed⟩, others⟩, And.right⟩
      · refine ⟨fun same => absurd same (PassResult.of_stop? stops).2, fun ⟨first, _⟩ => ?_⟩
        obtain ⟨k, appended⟩ := first
        obtain rfl := Except.ok.inj (passed.symm.trans appended)
        exact nomatch stops

/-- What the report of a row of passes says: at most as many passes as the cap allows, as
many fetches as the pager has counted, and as many lines as the text has grown by; and the
cap is the reason for the end exactly when every pass that it allows has appended. -/
theorem extend_reported {f g : Feed σ} {r : PageReport} (h : f.extend = (.ok r, g)) :
    r.passes ≤ f.pager.passCap ∧ g.pager.fetches = f.pager.fetches + r.fetches ∧
      g.listing.count = f.listing.count + r.appended ∧
      (r.stop = .passCap ↔ ∀ k < f.pager.passCap, (f.passes k).Appends) := by
  have counts := extendFrom_reported h
  have passes := Nat.le_trans counts.passes (Nat.le_of_eq (Nat.zero_add _))
  exact ⟨passes, counts.fetches, counts.appended, extendFrom_stop h rfl⟩

end Feed

end AsmView
