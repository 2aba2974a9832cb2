/-
# What becomes of a request

The board holds one request.  A run tells requests apart by the turns that made them, for
two of them may ask for one place.  A request waits through every turn that does not move
it (`waits_or_moved`), and a request that waits was left by the last turn that moved one
(`waiting_requested`).  From these two, every request meets one fate, and every request
that is handed out, or named as replaced, is one that was made.
-/
import AsmView.Proofs.Board

namespace AsmView.Board

open Json

namespace Outcome

/-- A call has left a request for a place. -/
def Requests (t : Address) : Outcome → Prop
  | .answered (.seek _) (.ok v) => v.member? "address" = some (Tool.ofAddress t)
  | _ => False

/-- A call has left a request, and names the place of the one it replaced. -/
def Replaces (t : Address) : Outcome → Prop
  | .answered (.seek _) (.ok v) => v.member? "replaced" = some (Tool.ofAddress t)
  | _ => False

/-- The view has taken a request for a place. -/
def HandsOut (t : Address) : Outcome → Prop
  | .taken (some u) => u = t
  | _ => False

variable {t : Address} {o : Outcome}

theorem Requests.moves (h : o.Requests t) : o.movesRequest = true := by
  unfold Requests at h
  split at h
  · rfl
  · exact h.elim

theorem Replaces.moves (h : o.Replaces t) : o.movesRequest = true := by
  unfold Replaces at h
  split at h
  · rfl
  · exact h.elim

theorem HandsOut.moves (h : o.HandsOut t) : o.movesRequest = true := by
  unfold HandsOut at h
  split at h
  · rfl
  · exact h.elim

theorem HandsOut.not_replaces {u : Address} (h : o.HandsOut t) : ¬ o.Replaces u := by
  unfold HandsOut at h
  split at h
  · exact id
  · exact h.elim

end Outcome

variable {b b' last : Board} {o : Outcome} {acts : List Action} {outcomes : List Outcome}
  {t t' : Address} {i j k : Nat}

/-! ## One turn -/

namespace Acted

/-- What waits after a turn was left by it, or waited before. -/
theorem requests_or_waits (h : Acted b o b') (waits : b'.pending? = some t) :
    o.Requests t ∨ (o.movesRequest = false ∧ b.pending? = some t) := by
  cases moves : o.movesRequest with
  | false => exact .inr ⟨rfl, h.pending?_eq moves ▸ waits⟩
  | true =>
      cases h with
      | requested _ asks =>
          obtain rfl : _ = t := Option.some.inj waits
          exact .inl asks
      | took => exact nomatch waits
      | read read => exact absurd moves (Outcome.not_moves_of_isRead read _)
      | _ => exact nomatch moves

/-- A turn that leaves a request for a place makes it wait. -/
theorem waits_of_requests (h : Acted b o b') (asks : o.Requests t) : b'.pending? = some t := by
  cases h with
  | requested _ asks' =>
      have same := Option.some.inj (asks'.symm.trans asks)
      exact congrArg some (Tool.ofAddress_injective same)
  | read read => exact absurd asks.moves (Outcome.not_moves_of_isRead read _)
  | _ => exact asks.elim

/-- A turn that moves the waiting request hands it out, or replaces it. -/
theorem handsOut_or_replaces (h : Acted b o b') (waits : b.pending? = some t)
    (moves : o.movesRequest = true) : o.HandsOut t ∨ o.Replaces t := by
  cases h with
  | requested _ _ names => exact .inr (by rw [waits] at names; exact names)
  | took waits' => exact .inl (Option.some.inj (waits'.symm.trans waits))
  | read read => exact absurd moves (Outcome.not_moves_of_isRead read _)
  | _ => exact nomatch moves

/-- What is handed out has waited. -/
theorem waits_of_handsOut (h : Acted b o b') (out : o.HandsOut t) : b.pending? = some t := by
  cases h with
  | took waits => exact waits.trans (congrArg some out)
  | _ => exact out.elim

/-- What is named as replaced has waited. -/
theorem waits_of_replaces (h : Acted b o b') (names : o.Replaces t) : b.pending? = some t := by
  cases h with
  | requested _ _ names' =>
      have same := Option.some.inj (names'.symm.trans names)
      cases waits : b.pending? with
      | none => rw [waits] at same; exact nomatch same
      | some u =>
          rw [waits] at same
          exact congrArg some (Tool.ofAddress_injective same)
  | read read => exact absurd names.moves (Outcome.not_moves_of_isRead read _)
  | _ => exact names.elim

end Acted

/-! ## Runs -/

/-- Something comes of a turn. -/
def Comes (outcomes : List Outcome) (i : Nat) (p : Outcome → Prop) : Prop :=
  ∃ o, outcomes[i]? = some o ∧ p o

/-- Between two turns no request is made and none is handed out. -/
def StillBetween (outcomes : List Outcome) (i j : Nat) : Prop :=
  ∀ k o, i < k → k < j → outcomes[k]? = some o → o.movesRequest = false

theorem StillBetween.of_comes {p : Outcome → Prop} (still : StillBetween outcomes i j)
    (comes : Comes outcomes k p) (moves : ∀ o, p o → o.movesRequest = true) (before : k < j) :
    k ≤ i := by
  obtain ⟨o, there, holds⟩ := comes
  by_contra behind
  have quiet := still k o (Nat.lt_of_not_le behind) before there
  exact Bool.false_ne_true (quiet.symm.trans (moves o holds))

theorem StillBetween.succ (still : StillBetween outcomes i j)
    (next : ∀ o, outcomes[j]? = some o → o.movesRequest = false) :
    StillBetween outcomes i (j + 1) := by
  intro k o behind before there
  rcases Nat.lt_succ_iff_lt_or_eq.mp before with earlier | rfl
  · exact still k o behind earlier there
  · exact next o there

/-- What can become of a request, with the turn at which it does. -/
inductive Fate where
  | handedOut (turn : Nat)
  | replaced (turn : Nat)
  | waits
deriving DecidableEq, Repr

/-- The turn that ends the waiting; the number of turns, when none does. -/
def Fate.stop (turns : Nat) : Fate → Nat
  | .handedOut j => j
  | .replaced j => j
  | .waits => turns

/-- What a fate says of the run. -/
def Fate.Befalls (outcomes : List Outcome) (last : Board) (t : Address) : Fate → Prop
  | .handedOut j => Comes outcomes j (Outcome.HandsOut t)
  | .replaced j => Comes outcomes j (Outcome.Replaces t)
  | .waits => last.pending? = some t

/-- The request of a turn meets a fate: no request is moved until then, and then that
comes. -/
structure Meets (outcomes : List Outcome) (last : Board) (i : Nat) (t : Address)
    (fate : Fate) : Prop where
  later : i < fate.stop outcomes.length
  still : StillBetween outcomes i (fate.stop outcomes.length)
  comes : fate.Befalls outcomes last t

/-- A request waits as long as nothing moves it, and what moves it hands it out or
replaces it. -/
theorem waits_or_moved (asked : Comes (b.log acts) i (Outcome.Requests t)) {n : Nat}
    (behind : i + 1 ≤ n) (bound : n ≤ acts.length) :
    (StillBetween (b.log acts) i n ∧ (b.after (acts.take n)).pending? = some t) ∨
      ∃ j, i < j ∧ StillBetween (b.log acts) i j ∧
        (Comes (b.log acts) j (Outcome.HandsOut t) ∨
          Comes (b.log acts) j (Outcome.Replaces t)) := by
  induction n, behind using Nat.le_induction with
  | base =>
      obtain ⟨o, there, asks⟩ := asked
      refine .inl ⟨fun k o behind before => by omega, ?_⟩
      exact (acted_at there).waits_of_requests asks
  | succ n behind ih =>
      rcases ih (by omega) with ⟨still, waits⟩ | moved
      · have inside : n < (b.log acts).length := by rw [log_length]; omega
        have there := List.getElem?_eq_getElem inside
        have turn := acted_at there
        cases moves : (b.log acts)[n].movesRequest with
        | false =>
            refine .inl ⟨still.succ fun o there' => ?_, ?_⟩
            · obtain rfl := Option.some.inj (there.symm.trans there')
              exact moves
            · rw [turn.pending?_eq moves, waits]
        | true =>
            refine .inr ⟨n, behind, still, ?_⟩
            exact (turn.handsOut_or_replaces waits moves).imp (⟨_, there, ·⟩) (⟨_, there, ·⟩)
      · exact .inr moved

/-- A request that waits after some turns was left by the last one that moved a request. -/
theorem waiting_requested (fresh : b.pending? = none) {n : Nat}
    (waits : (b.after (acts.take n)).pending? = some t) :
    ∃ i, i < n ∧ Comes (b.log acts) i (Outcome.Requests t) ∧ StillBetween (b.log acts) i n := by
  induction n with
  | zero => exact nomatch fresh.symm.trans waits
  | succ n ih =>
      cases there : (b.log acts)[n]? with
      | none =>
          have past : acts.length ≤ n := by
            rw [← log_length b]
            exact List.getElem?_eq_none_iff.mp there
          rw [List.take_of_length_le (Nat.le_succ_of_le past),
            ← List.take_of_length_le past] at waits
          obtain ⟨i, before, asked, still⟩ := ih waits
          refine ⟨i, Nat.lt_succ_of_lt before, asked, still.succ fun o there' => ?_⟩
          exact nomatch there.symm.trans there'
      | some o =>
          rcases (acted_at there).requests_or_waits waits with asks | ⟨quiet, waits⟩
          · refine ⟨n, Nat.lt_succ_self n, ⟨o, there, asks⟩, fun k o behind before => ?_⟩
            omega
          · obtain ⟨i, before, asked, still⟩ := ih waits
            refine ⟨i, Nat.lt_succ_of_lt before, asked, still.succ fun o' there' => ?_⟩
            obtain rfl := Option.some.inj (there.symm.trans there')
            exact quiet

theorem Comes.lt_length {p : Outcome → Prop} (comes : Comes outcomes i p) :
    i < outcomes.length := by
  obtain ⟨o, there, -⟩ := comes
  exact (List.getElem?_eq_some_iff.mp there).1

theorem Comes.not_both (out : Comes outcomes i (Outcome.HandsOut t))
    (names : Comes outcomes i (Outcome.Replaces t')) : False := by
  obtain ⟨o, there, out⟩ := out
  obtain ⟨o', there', names⟩ := names
  obtain rfl := Option.some.inj (there.symm.trans there')
  exact out.not_replaces names

/-- A request that stops waiting inside the run is moved there. -/
theorem Meets.moves {fate : Fate} (h : Meets outcomes last i t fate)
    (inside : fate.stop outcomes.length < outcomes.length) :
    Comes outcomes (fate.stop outcomes.length) (·.movesRequest = true) := by
  cases fate with
  | handedOut j => exact h.comes.imp fun _ ⟨there, out⟩ => ⟨there, out.moves⟩
  | replaced j => exact h.comes.imp fun _ ⟨there, names⟩ => ⟨there, names.moves⟩
  | waits => exact absurd inside (Nat.lt_irrefl _)

theorem Meets.stop_le {fate : Fate} (h : Meets outcomes last i t fate) :
    fate.stop outcomes.length ≤ outcomes.length := by
  cases fate with
  | handedOut j => exact Nat.le_of_lt (Comes.lt_length h.comes)
  | replaced j => exact Nat.le_of_lt (Comes.lt_length h.comes)
  | waits => exact Nat.le_refl _

theorem Meets.stop_le_stop {f g : Fate} (hf : Meets outcomes last i t f)
    (hg : Meets outcomes last i t g) : g.stop outcomes.length ≤ f.stop outcomes.length := by
  by_contra before
  have before := Nat.lt_of_not_le before
  have moved := hf.moves (Nat.lt_of_lt_of_le before hg.stop_le)
  exact absurd (hg.still.of_comes moved (fun _ moves => moves) before) (Nat.not_le_of_lt hf.later)

/-- A request meets one fate at most. -/
theorem Meets.unique {f g : Fate} (hf : Meets outcomes last i t f)
    (hg : Meets outcomes last i t g) : f = g := by
  have same : f.stop outcomes.length = g.stop outcomes.length :=
    Nat.le_antisymm (hg.stop_le_stop hf) (hf.stop_le_stop hg)
  cases f with
  | handedOut j =>
      cases g with
      | handedOut j' => exact congrArg _ same
      | replaced j' =>
          obtain rfl : j = j' := same
          exact (Comes.not_both hf.comes hg.comes).elim
      | waits => exact absurd same (Nat.ne_of_lt (Comes.lt_length hf.comes))
  | replaced j =>
      cases g with
      | handedOut j' =>
          obtain rfl : j = j' := same
          exact (Comes.not_both hg.comes hf.comes).elim
      | replaced j' => exact congrArg _ same
      | waits => exact absurd same (Nat.ne_of_lt (Comes.lt_length hf.comes))
  | waits =>
      cases g with
      | handedOut j' => exact absurd same.symm (Nat.ne_of_lt (Comes.lt_length hg.comes))
      | replaced j' => exact absurd same.symm (Nat.ne_of_lt (Comes.lt_length hg.comes))
      | waits => rfl

/-- Every request meets a fate. -/
theorem exists_meets (asked : Comes (b.log acts) i (Outcome.Requests t)) :
    ∃ fate, Meets (b.log acts) (b.after acts) i t fate := by
  have before : i < acts.length := b.log_length acts ▸ asked.lt_length
  rcases waits_or_moved asked before (Nat.le_refl _) with
    ⟨still, waits⟩ | ⟨j, behind, still, out | names⟩
  · rw [List.take_length] at waits
    refine ⟨.waits, asked.lt_length, ?_, waits⟩
    rw [Fate.stop, log_length]
    exact still
  · exact ⟨.handedOut j, behind, still, out⟩
  · exact ⟨.replaced j, behind, still, names⟩

/-- Before a fate comes, what it comes to has waited. -/
theorem Fate.Befalls.waited {fate : Fate}
    (comes : fate.Befalls (b.log acts) (b.after acts) t) :
    (b.after (acts.take (fate.stop (b.log acts).length))).pending? = some t := by
  cases fate with
  | handedOut j =>
      obtain ⟨o, there, out⟩ := comes
      exact (acted_at there).waits_of_handsOut out
  | replaced j =>
      obtain ⟨o, there, names⟩ := comes
      exact (acted_at there).waits_of_replaces names
  | waits =>
      rw [Fate.stop, log_length, List.take_length]
      exact comes

/-- Whatever is handed out, named as replaced, or waits at the end is one of the requests
that were made: the last one before. -/
theorem existsUnique_meets (fresh : b.pending? = none) {fate : Fate}
    (comes : fate.Befalls (b.log acts) (b.after acts) t) :
    ∃! i, Comes (b.log acts) i (Outcome.Requests t) ∧
      Meets (b.log acts) (b.after acts) i t fate := by
  obtain ⟨i, before, asked, still⟩ := waiting_requested fresh comes.waited
  refine ⟨i, ⟨asked, before, still, comes⟩, fun j ⟨asked', meets⟩ => ?_⟩
  exact Nat.le_antisymm (still.of_comes asked' (fun _ asks => asks.moves) meets.later)
    (meets.still.of_comes asked (fun _ asks => asks.moves) before)

/-- A request that is handed out is so before any later request is. -/
theorem Meets.overtakes_none {i' j' : Nat} (meets : Meets outcomes last i t (.handedOut j))
    (asked' : Comes outcomes i' (Outcome.Requests t'))
    (meets' : Meets outcomes last i' t' (.handedOut j')) (earlier : i < i') : j < j' := by
  have before : j ≤ i' := by
    by_contra inside
    exact absurd (meets.still.of_comes asked' (fun _ asks => asks.moves)
      (Nat.lt_of_not_le inside)) (Nat.not_le_of_lt earlier)
  exact Nat.lt_of_le_of_lt before meets'.later

/-- No request is lost, repeated or overtaken.  A call that resolves leaves a request, and
that meets exactly one fate: one turn hands it out, or the next call that resolves names it
as replaced, or it waits at the end.  A call that does not resolve leaves the board as it
was.  Whatever a fate comes to is exactly one request that was made; and requests are
handed out in the order in which they were made. -/
theorem requests_accounted (acts : List Action) :
    let outcomes := ({} : Board).log acts
    let last := ({} : Board).after acts
    (∀ (i : Nat) (q : String), acts[i]? = some (.call (.seek q)) →
      match Destination.resolve? q (({} : Board).after (acts.take i)).functions with
      | some d => Comes outcomes i (Outcome.Requests d.place) ∧
          ∃! fate, Meets outcomes last i d.place fate
      | none => outcomes[i]? = some (.answered (.seek q) (.error (.unresolvedTarget q))) ∧
          ({} : Board).after (acts.take (i + 1)) = ({} : Board).after (acts.take i)) ∧
    (∀ (fate : Fate) (t : Address), fate.Befalls outcomes last t →
      ∃! i, Comes outcomes i (Outcome.Requests t) ∧ Meets outcomes last i t fate) ∧
    (∀ (i i' j j' : Nat) (t t' : Address),
      Comes outcomes i (Outcome.Requests t) → Meets outcomes last i t (.handedOut j) →
      Comes outcomes i' (Outcome.Requests t') → Meets outcomes last i' t' (.handedOut j') →
      i < i' → j < j') := by
  intro outcomes last
  refine ⟨?_, fun fate t => existsUnique_meets rfl, ?_⟩
  · intro i q called
    have there : outcomes[i]? = _ := log_getElem? _ acts i
    rw [called, Option.map_some] at there
    have left := after_take_succ called ({} : Board)
    split
    · rename_i d found
      obtain ⟨v, turn, asks, -⟩ := act_seek_resolved found
      rw [turn] at there
      have asked : Comes outcomes i (Outcome.Requests d.place) := ⟨_, there, asks⟩
      obtain ⟨fate, meets⟩ := exists_meets asked
      exact ⟨asked, fate, meets, fun _ meets' => meets'.unique meets⟩
    · rename_i unknown
      rw [act_seek_unresolved unknown] at there left
      exact ⟨there, left⟩
  · intro i i' j j' t t' _ meets asked' meets' earlier
    exact meets.overtakes_none asked' meets' earlier

/-- Two requests cross before the view comes round; then one that goes nowhere, and one
that is still waiting. -/
def crossing : List Action := [
  .call (.seek "0x10"), .call (.seek "0x20"), .take, .call (.seek "nowhere"),
  .call (.seek "0x30")]

theorem requests_accounted_crossing :
    let outcomes := ({} : Board).log crossing
    let last := ({} : Board).after crossing
    (∃! fate, Meets outcomes last 0 ⟨0x10⟩ fate) ∧
    (∃! i, Comes outcomes i (Outcome.Requests ⟨0x10⟩) ∧
      Meets outcomes last i ⟨0x10⟩ (.replaced 1)) ∧
    (∃! i, Comes outcomes i (Outcome.Requests ⟨0x20⟩) ∧
      Meets outcomes last i ⟨0x20⟩ (.handedOut 2)) ∧
    ({} : Board).after (crossing.take 4) = ({} : Board).after (crossing.take 3) ∧
    (∃! i, Comes outcomes i (Outcome.Requests ⟨0x30⟩) ∧
      Meets outcomes last i ⟨0x30⟩ .waits) := by
  obtain ⟨called, made, -⟩ := requests_accounted crossing
  exact ⟨(called 0 "0x10" rfl).2, made (.replaced 1) ⟨0x10⟩ ⟨_, rfl, rfl⟩,
    made (.handedOut 2) ⟨0x20⟩ ⟨_, rfl, rfl⟩, (called 3 "nowhere" rfl).2,
    made .waits ⟨0x30⟩ rfl⟩

end AsmView.Board
