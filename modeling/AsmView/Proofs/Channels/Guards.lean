/-
# Guards go in any order

A guard holds its channels from when it is made until it is dropped, whatever guards come and go
meanwhile.  What is kept of the holders of a channel is their number, so it makes no difference
which of them goes first: `Tallied` says that the holds are as many as the guards that name the
channel, and a guard that goes takes off just the ones it put on, however often it names a
channel.  `Turned` says what a move does to the counts of detachments and attachments: they go up
by one for each channel that changes over, and not otherwise.  A move makes no channel change over
twice, not even one that puts a new guard in the place of an old one, for the new one is there
before the old one goes.
-/
import Mathlib.Data.List.Induction
import Mathlib.Data.List.Nodup
import AsmView.Channels.Guards
import AsmView.Proofs.Channels

namespace AsmView

namespace Channels

variable {cs cs' cs'' : Channels} {c d : Channel} {named old held : List Channel}
  {guards guards' : List (List Channel)}

/-! ## Holds -/

theorem holds_setHolds (cs : Channels) (c d : Channel) (n : Nat) :
    (cs.setHolds c n).holds d = if d = c then n else cs.holds d := by
  cases c <;> cases d <;> rfl

theorem holds_hold_eq (cs : Channels) (c d : Channel) :
    (cs.hold c).holds d = if d = c then min (cs.holds c + 1) maxHolds else cs.holds d := by
  unfold hold
  dsimp only
  rw [holds_setHolds]
  split
  · rfl
  · split <;> cases d <;> rfl

/-- As long as the holds are counted, one more is counted. -/
theorem holds_hold (room : cs.holds c < maxHolds) (d : Channel) :
    (cs.hold c).holds d = cs.holds d + if d = c then 1 else 0 := by
  rw [holds_hold_eq]
  split
  · rename_i same
    subst same
    exact Nat.min_eq_left room
  · rfl

theorem holds_letGo (cs : Channels) (c d : Channel) :
    (cs.letGo c).holds d = cs.holds d - if d = c then 1 else 0 := by
  unfold letGo
  split
  · rename_i none
    by_cases same : d = c
    · subst same
      simp [none]
    · simp [same]
  · rename_i one
    show (cs.setHolds c 0).holds d = _
    rw [holds_setHolds]
    by_cases same : d = c
    · subst same
      simp [one]
    · simp [same]
  · rename_i n _ more
    rw [holds_setHolds]
    by_cases same : d = c
    · subst same
      simp [more]
    · simp [same]

theorem holds_foldl_hold (distinct : held.Nodup) (room : ∀ c ∈ held, cs.holds c < maxHolds)
    (d : Channel) :
    (held.foldl hold cs).holds d = cs.holds d + if d ∈ held then 1 else 0 := by
  induction held generalizing cs with
  | nil => simp
  | cons c held ih =>
      obtain ⟨other, distinct⟩ := List.nodup_cons.mp distinct
      have here := holds_hold (room c List.mem_cons_self)
      have room' : ∀ e ∈ held, (cs.hold c).holds e < maxHolds := by
        intro e listed
        have apart : e ≠ c := fun same => other (same ▸ listed)
        rw [here, if_neg apart]
        exact room e (List.mem_cons_of_mem c listed)
      rw [List.foldl_cons, ih distinct room', here]
      by_cases same : d = c
      · subst same
        simp [other]
      · simp [same]

theorem holds_foldr_letGo (distinct : held.Nodup) (cs : Channels) (d : Channel) :
    (held.foldr (fun c cs => cs.letGo c) cs).holds d = cs.holds d - if d ∈ held then 1 else 0 := by
  induction held with
  | nil => simp
  | cons c held ih =>
      obtain ⟨other, distinct⟩ := List.nodup_cons.mp distinct
      rw [List.foldr_cons, holds_letGo, ih distinct]
      by_cases same : d = c
      · subst same
        simp [other]
      · simp [same]

/-! ## The channels of one guard -/

theorem mem_heldBy : c ∈ heldBy named ↔ c ∈ named :=
  List.mem_eraseDups

/-- However often a channel is named, it is held once. -/
theorem nodup_heldBy (named : List Channel) : (heldBy named).Nodup := by
  unfold heldBy
  induction h : named.length using Nat.strongRecOn generalizing named with
  | ind n ih =>
      cases named with
      | nil => simp
      | cons c named =>
          rw [List.eraseDups_cons, List.nodup_cons]
          have fewer : (named.filter fun d => !d == c).length < n := by
            have hleft := List.length_filter_le (fun d => !d == c) named
            rw [List.length_cons] at h
            omega
          exact ⟨by simp [List.mem_eraseDups], ih _ fewer _ rfl⟩

theorem holds_holdEach (room : ∀ c, cs.holds c < maxHolds) (named : List Channel) (d : Channel) :
    (cs.holdEach named).holds d = cs.holds d + if d ∈ named then 1 else 0 := by
  rw [holdEach, holds_foldl_hold (nodup_heldBy named) fun c _ => room c]
  simp only [mem_heldBy]

theorem holds_releaseEach (cs : Channels) (named : List Channel) (d : Channel) :
    (cs.releaseEach named).holds d = cs.holds d - if d ∈ named then 1 else 0 := by
  rw [releaseEach, holds_foldr_letGo (nodup_heldBy named)]
  simp only [mem_heldBy]

/-! ## Guards and holds -/

/-- A channel is held as often as there are guards that name it. -/
def Tallied (cs : Channels) (guards : List (List Channel)) : Prop :=
  ∀ c, cs.holds c = guards.countP (c ∈ ·)

theorem tallied_nothing : ({} : Channels).Tallied [] := by
  intro c
  cases c <;> rfl

theorem Tallied.perm (h : cs.Tallied guards) (same : guards.Perm guards') :
    cs.Tallied guards' := by
  intro c
  rw [h c, same.countP_eq]

/-- Guards that are counted leave room for one more. -/
theorem Tallied.room (h : cs.Tallied guards) (few : guards.length < maxHolds) (c : Channel) :
    cs.holds c < maxHolds := by
  rw [h c]
  exact Nat.lt_of_le_of_lt List.countP_le_length few

theorem Tallied.holdEach (h : cs.Tallied guards) (few : guards.length < maxHolds)
    (named : List Channel) : (cs.holdEach named).Tallied (named :: guards) := by
  intro c
  rw [holds_holdEach (h.room few), h c, List.countP_cons]
  simp only [decide_eq_true_eq]

theorem Tallied.releaseEach (h : cs.Tallied (old :: guards)) :
    (cs.releaseEach old).Tallied guards := by
  intro c
  rw [holds_releaseEach, h c, List.countP_cons]
  simp only [decide_eq_true_eq]
  omega

theorem Tallied.isAttached_iff (h : cs.Tallied guards) :
    cs.isAttached c = true ↔ ∀ named ∈ guards, c ∉ named := by
  rw [Channels.isAttached_iff, h c]
  simp [List.countP_eq_zero]

/-! ## Channels that change over -/

/-- How many channels are attached before and detached after. -/
def lost (before after : Channels) : Nat :=
  Channel.all.countP fun c => before.isAttached c && !after.isAttached c

/-- How many channels are detached. -/
def detachedCount (cs : Channels) : Nat :=
  Channel.all.countP fun c => !cs.isAttached c

/-- Every channel that was detached was counted as such, and every channel that was attached. -/
structure Turned (before after : Channels) : Prop where
  detaches : after.detaches = before.detaches + lost before after
  reattaches : after.reattaches = before.reattaches + lost after before

theorem countP_add_countP {α : Type} {p q r s : α → Bool}
    (h : ∀ a, (p a).toNat + (q a).toNat = (r a).toNat + (s a).toNat) (as : List α) :
    as.countP p + as.countP q = as.countP r + as.countP s := by
  have hnat (b : Bool) : (if b = true then 1 else 0) = b.toNat := by cases b <;> rfl
  induction as with
  | nil => rfl
  | cons a as ih =>
      have here := h a
      simp only [List.countP_cons, hnat]
      omega

/-- Channels that are lost on a way of two steps are lost in one of them, if none changes over
and back. -/
theorem lost_trans
    (once : ∀ c, cs.isAttached c = cs''.isAttached c → cs'.isAttached c = cs.isAttached c) :
    lost cs cs'' = lost cs cs' + lost cs' cs'' := by
  have each : ∀ c, (cs.isAttached c && !cs''.isAttached c).toNat + false.toNat =
      (cs.isAttached c && !cs'.isAttached c).toNat +
        (cs'.isAttached c && !cs''.isAttached c).toNat := by
    intro c
    have back := once c
    revert back
    cases cs.isAttached c <;> cases cs'.isAttached c <;> cases cs''.isAttached c <;> simp
  have sum := countP_add_countP each Channel.all
  rwa [List.countP_false] at sum

theorem Turned.trans (h : Turned cs cs') (h' : Turned cs' cs'')
    (once : ∀ c, cs.isAttached c = cs''.isAttached c → cs'.isAttached c = cs.isAttached c) :
    Turned cs cs'' where
  detaches := by rw [h'.detaches, h.detaches, lost_trans once, Nat.add_assoc]
  reattaches := by
    have once' (c : Channel) (same : cs''.isAttached c = cs.isAttached c) :
        cs'.isAttached c = cs''.isAttached c := (once c same.symm).trans same.symm
    rw [h'.reattaches, h.reattaches, lost_trans once', Nat.add_assoc, Nat.add_comm (lost cs' cs)]

/-- The two counts are as far apart as there are channels that are detached. -/
def Balanced (cs : Channels) : Prop :=
  cs.detaches = cs.reattaches + cs.detachedCount

theorem Turned.balanced (h : Turned cs cs') (balanced : cs.Balanced) : cs'.Balanced := by
  have each (c : Channel) : (!cs'.isAttached c).toNat +
      (cs'.isAttached c && !cs.isAttached c).toNat =
        (!cs.isAttached c).toNat + (cs.isAttached c && !cs'.isAttached c).toNat := by
    cases cs.isAttached c <;> cases cs'.isAttached c <;> rfl
  have sum : cs'.detachedCount + lost cs' cs = cs.detachedCount + lost cs cs' :=
    countP_add_countP each Channel.all
  unfold Balanced at balanced ⊢
  rw [h.detaches, h.reattaches, balanced]
  omega

/-- Where one channel alone can change over, at most that one is lost. -/
theorem lost_eq (alone : ∀ d, d ≠ c → cs'.isAttached d = cs.isAttached d) :
    lost cs cs' = if cs.isAttached c = true ∧ cs'.isAttached c = false then 1 else 0 := by
  cases c with
  | scroll => simp [lost, Channel.all, List.countP_cons, alone .cursor]
  | cursor => simp [lost, Channel.all, List.countP_cons, alone .scroll]

theorem isAttached_hold (cs : Channels) (c d : Channel) :
    (cs.hold c).isAttached d = if d = c then false else cs.isAttached d := by
  unfold isAttached
  rw [holds_hold_eq]
  split
  · have hhold : min (cs.holds c + 1) maxHolds ≠ 0 := by
      have limit : maxHolds ≠ 0 := by decide
      omega
    exact beq_eq_false_iff_ne.mpr hhold
  · rfl

theorem isAttached_letGo (cs : Channels) (c d : Channel) :
    (cs.letGo c).isAttached d = if d = c then decide (cs.holds c ≤ 1) else cs.isAttached d := by
  unfold isAttached
  rw [holds_letGo]
  split
  · rename_i same
    subst same
    rw [beq_eq_decide]
    exact decide_eq_decide.mpr (by omega)
  · rfl

theorem turned_hold (cs : Channels) (c : Channel) : Turned cs (cs.hold c) := by
  have alone (d : Channel) (apart : d ≠ c) : (cs.hold c).isAttached d = cs.isAttached d := by
    rw [isAttached_hold, if_neg apart]
  have detached : (cs.hold c).isAttached c = false := by rw [isAttached_hold, if_pos rfl]
  constructor
  · rw [lost_eq alone, detached]
    unfold hold isAttached
    by_cases none : cs.holds c = 0
    · simp only [none]
      cases c <;> rfl
    · simp only [none, beq_eq_false_iff_ne.mpr none]
      cases c <;> rfl
  · rw [lost_eq fun d apart => (alone d apart).symm, detached]
    unfold hold
    by_cases none : cs.holds c = 0
    · simp only [none]
      cases c <;> rfl
    · simp only [none]
      cases c <;> rfl

theorem turned_letGo (cs : Channels) (c : Channel) : Turned cs (cs.letGo c) := by
  have alone (d : Channel) (apart : d ≠ c) : (cs.letGo c).isAttached d = cs.isAttached d := by
    rw [isAttached_letGo, if_neg apart]
  have here : (cs.letGo c).isAttached c = decide (cs.holds c ≤ 1) := by
    rw [isAttached_letGo, if_pos rfl]
  constructor
  · rw [lost_eq alone, here]
    unfold letGo isAttached
    split
    · rename_i none
      simp [none]
    · rename_i one
      simp only [one]
      cases c <;> rfl
    · rename_i n _ more
      simp only [more]
      cases c <;> simp [setHolds]
  · rw [lost_eq fun d apart => (alone d apart).symm, here]
    unfold letGo isAttached
    split
    · rename_i none
      simp [none]
    · rename_i one
      simp only [one]
      cases c <;> rfl
    · rename_i n several more
      have two : ¬ n + 1 ≤ 1 := by
        intro one
        exact several (by omega)
      simp only [more, two]
      cases c <;> simp [setHolds]

/-- Nothing is attached on the way. -/
def Quiets (before after : Channels) : Prop :=
  ∀ c, after.isAttached c = true → before.isAttached c = true

/-- While nothing is attached, no channel changes over and back. -/
theorem Quiets.once (down : Quiets cs cs') (down' : Quiets cs' cs'') (c : Channel)
    (same : cs.isAttached c = cs''.isAttached c) : cs'.isAttached c = cs.isAttached c := by
  have first := down c
  have second := down' c
  rw [← same] at second
  revert first second
  cases cs.isAttached c <;> cases cs'.isAttached c <;> simp

theorem quiets_hold (cs : Channels) (c : Channel) : Quiets cs (cs.hold c) := by
  intro d attached
  rw [isAttached_hold] at attached
  split at attached
  · exact nomatch attached
  · exact attached

theorem quiets_letGo (cs : Channels) (c : Channel) : Quiets (cs.letGo c) cs := by
  intro d attached
  rw [Channels.isAttached_iff] at attached ⊢
  rw [holds_letGo, attached]
  exact Nat.zero_sub _

theorem Quiets.trans (down : Quiets cs cs') (down' : Quiets cs' cs'') : Quiets cs cs'' :=
  fun c attached => down c (down' c attached)

theorem turned_refl (cs : Channels) : Turned cs cs := by
  have hlost : lost cs cs = 0 := by simp [lost]
  exact ⟨by rw [hlost]; rfl, by rw [hlost]; rfl⟩

theorem turned_holdEach (cs : Channels) (named : List Channel) :
    Turned cs (cs.holdEach named) ∧ Quiets cs (cs.holdEach named) := by
  unfold holdEach
  induction heldBy named generalizing cs with
  | nil => exact ⟨turned_refl cs, fun _ => id⟩
  | cons c held ih =>
      obtain ⟨turned, down⟩ := ih (cs.hold c)
      have first := quiets_hold cs c
      exact ⟨(turned_hold cs c).trans turned (first.once down), first.trans down⟩

theorem turned_releaseEach (cs : Channels) (named : List Channel) :
    Turned cs (cs.releaseEach named) ∧ Quiets (cs.releaseEach named) cs := by
  unfold releaseEach
  induction heldBy named with
  | nil => exact ⟨turned_refl cs, fun _ => id⟩
  | cons c held ih =>
      obtain ⟨turned, up⟩ := ih
      have last := quiets_letGo (held.foldr (fun c cs => cs.letGo c) cs) c
      refine ⟨turned.trans (turned_letGo _ c) ?_, last.trans up⟩
      intro d same
      exact (last.once up d same.symm).trans same.symm

/-- A guard that takes the place of another is there before the other one goes, so a channel that
both name stays held. -/
theorem Tallied.turned_replace (h : cs.Tallied guards) (listed : old ∈ guards)
    (named : List Channel) :
    Turned cs ((cs.holdEach named).releaseEach old) := by
  obtain ⟨turned, down⟩ := turned_holdEach cs named
  obtain ⟨turned', up⟩ := turned_releaseEach (cs.holdEach named) old
  refine turned.trans turned' ?_
  intro c same
  cases attached : cs.isAttached c with
  | false =>
      rw [Bool.eq_false_iff] at attached ⊢
      exact fun after => attached (down c after)
  | true =>
      rw [attached] at same
      have unnamed : c ∉ old := h.isAttached_iff.mp attached old listed
      rw [Channels.isAttached_iff] at attached ⊢
      have after := Channels.isAttached_iff.mp same.symm
      rwa [holds_releaseEach, if_neg unnamed, Nat.sub_zero] at after

end Channels

namespace Guards

open Channels

/-! ## Moves -/

/-- What can be done with guards, but for leaking one. -/
inductive Move where
  | add (name : String) (named : List Channel)
  | drop (name : String)
deriving DecidableEq, Repr

/-- The guard that a move is about. -/
def Move.name : Move → String
  | .add name _ => name
  | .drop name => name

/-- The guards that a move makes: one or none. -/
def Move.made : Move → List (String × List Channel)
  | .add name named => [(name, named)]
  | .drop _ => []

/-- The guards after a move. -/
def act (g : Guards) : Move → Guards
  | .add name named => (g.add name named).1
  | .drop name => (g.drop name).1

/-- The guards after some moves, from the start. -/
def after (moves : List Move) : Guards :=
  moves.foldl act {}

/-- How many guards some moves make. -/
def madeCount (moves : List Move) : Nat :=
  (moves.flatMap Move.made).length

/-- A guard lives: it was made, and no move since was about its name.  A guard that is made under a
name that is taken takes the place of the one before. -/
def Lives (moves : List Move) (name : String) (named : List Channel) : Prop :=
  ∃ before since, moves = before ++ .add name named :: since ∧ ∀ move ∈ since, move.name ≠ name

variable {g : Guards} {moves : List Move} {move : Move} {name : String} {named : List Channel}

theorem after_append (moves : List Move) (move : Move) :
    after (moves ++ [move]) = (after moves).act move := by
  simp [after]

theorem madeCount_append (moves : List Move) (move : Move) :
    madeCount (moves ++ [move]) = madeCount moves + move.made.length := by
  simp [madeCount]

theorem not_lives_nil : ¬ Lives [] name named := by
  rintro ⟨before, since, none, -⟩
  cases before <;> exact nomatch none

theorem lives_append : Lives (moves ++ [move]) name named ↔
    (name, named) ∈ move.made ∨ Lives moves name named ∧ name ≠ move.name := by
  constructor
  · rintro ⟨before, since, whole, untouched⟩
    rcases since.eq_nil_or_concat with rfl | ⟨since, last, rfl⟩
    · obtain ⟨-, here⟩ := List.append_inj' whole rfl
      obtain rfl := List.singleton_inj.mp here
      exact .inl (List.mem_singleton.mpr rfl)
    · rw [List.concat_eq_append, ← List.cons_append, ← List.append_assoc] at whole
      obtain ⟨rfl, here⟩ := List.append_inj' whole rfl
      obtain rfl := List.singleton_inj.mp here
      refine .inr ⟨⟨before, since, rfl, fun m listed => untouched m (by simp [listed])⟩, ?_⟩
      exact (untouched move (by simp)).symm
  · rintro (made | ⟨⟨before, since, rfl, untouched⟩, other⟩)
    · cases move with
      | add =>
          obtain ⟨rfl, rfl⟩ := Prod.mk.inj (List.mem_singleton.mp made)
          exact ⟨moves, [], rfl, nofun⟩
      | drop => exact nomatch made
    · refine ⟨before, since ++ [move], by simp, ?_⟩
      intro m listed
      rcases List.mem_append.mp listed with earlier | last
      · exact untouched m earlier
      · rw [List.mem_singleton.mp last]
        exact other.symm

/-! ## One move -/

theorem filter_of_lookup_none {live : List (String × List Channel)}
    (absent : live.lookup name = none) : live.filter (·.1 ≠ name) = live := by
  rw [List.filter_eq_self]
  intro guard listed
  have other := List.lookup_eq_none_iff.mp absent guard listed
  exact decide_eq_true (bne_iff_ne.mp other).symm

/-- A guard that is found is alive besides those of other names. -/
theorem perm_of_lookup {live : List (String × List Channel)}
    (names : (live.map Prod.fst).Nodup) (found : live.lookup name = some old) :
    (live.map Prod.snd).Perm (old :: (live.filter (·.1 ≠ name)).map Prod.snd) := by
  obtain ⟨before, behind, rfl, apart⟩ := List.lookup_eq_some_iff.mp found
  rw [List.map_append, List.map_cons, List.nodup_middle, List.nodup_cons] at names
  have others : (before ++ (name, old) :: behind).filter (·.1 ≠ name) = before ++ behind := by
    rw [List.filter_append, List.filter_cons_of_neg (by simp), ← List.filter_append,
      List.filter_eq_self]
    intro guard listed
    have other : guard.1 ≠ name := by
      intro same
      have named := List.mem_map_of_mem (f := Prod.fst) listed
      rw [same, List.map_append] at named
      exact names.1 named
    exact decide_eq_true other
  rw [others, List.map_append, List.map_append, List.map_cons]
  exact List.perm_middle

theorem live_drop (g : Guards) (name : String) :
    (g.drop name).1.live = g.live.filter (·.1 ≠ name) := by
  unfold Guards.drop
  split
  · rfl
  · rename_i absent
    exact (filter_of_lookup_none absent).symm

theorem channels_drop (g : Guards) (name : String) :
    (g.drop name).1.channels =
      match g.live.lookup name with
      | some old => g.channels.releaseEach old
      | none => g.channels := by
  unfold Guards.drop
  cases g.live.lookup name <;> rfl

theorem live_act (g : Guards) (move : Move) :
    (g.act move).live = move.made ++ g.live.filter (·.1 ≠ move.name) := by
  cases move with
  | add name named =>
      show (name, named) :: (Guards.drop _ name).1.live = _
      rw [live_drop]
      rfl
  | drop name => exact live_drop g name

/-- The guards that are listed as alive are those that live. -/
theorem mem_live_after : (name, named) ∈ (after moves).live ↔ Lives moves name named := by
  induction moves using List.reverseRecOn with
  | nil => exact iff_of_false nofun not_lives_nil
  | append_singleton moves move ih =>
      rw [after_append, live_act, List.mem_append, List.mem_filter, lives_append, ih]
      simp

/-- No two guards of one name are alive, and a channel is held as often as guards name it. -/
structure Sound (g : Guards) : Prop where
  names : (g.live.map Prod.fst).Nodup
  tallied : g.channels.Tallied (g.live.map Prod.snd)

theorem sound_new : Sound {} :=
  ⟨List.nodup_nil, tallied_nothing⟩

theorem names_act (names : (g.live.map Prod.fst).Nodup) (move : Move) :
    ((g.act move).live.map Prod.fst).Nodup := by
  have others : ((g.live.filter (·.1 ≠ move.name)).map Prod.fst).Nodup :=
    names.sublist (List.filter_sublist.map _)
  rw [live_act]
  cases move with
  | add name named =>
      refine List.nodup_cons.mpr ⟨?_, others⟩
      simp [Move.name]
  | drop name => exact others

/-- Dropping a guard takes it off the tally, whatever guards are counted besides those alive. -/
theorem tallied_drop (besides : List (List Channel)) (names : (g.live.map Prod.fst).Nodup)
    (tallied : g.channels.Tallied (besides ++ g.live.map Prod.snd)) (name : String) :
    (g.drop name).1.channels.Tallied (besides ++ (g.drop name).1.live.map Prod.snd) := by
  rw [channels_drop, live_drop]
  split
  · rename_i old found
    have others := ((perm_of_lookup names found).append_left besides).trans List.perm_middle
    exact (tallied.perm others).releaseEach
  · rename_i absent
    rwa [filter_of_lookup_none absent]

/-- Every move keeps the tally, as long as what it makes can be counted. -/
theorem Sound.act (sound : g.Sound) (room : g.live.length + move.made.length ≤ maxHolds) :
    (g.act move).Sound := by
  refine ⟨names_act sound.names move, ?_⟩
  cases move with
  | add name named =>
      have few : (g.live.map Prod.snd).length < maxHolds := by rwa [List.length_map]
      have hmore : (g.channels.holdEach named).Tallied ([named] ++ g.live.map Prod.snd) :=
        sound.tallied.holdEach few named
      exact tallied_drop (g := { g with channels := g.channels.holdEach named }) [named]
        sound.names hmore name
  | drop name => exact tallied_drop [] sound.names sound.tallied name

/-- Every move counts the channels that change over. -/
theorem Sound.turned_act (sound : g.Sound) (move : Move) :
    Turned g.channels (g.act move).channels := by
  cases move with
  | add name named =>
      show Turned g.channels (Guards.drop { g with channels := _ } name).1.channels
      rw [channels_drop]
      split
      · rename_i old found
        have listed := (perm_of_lookup sound.names found).symm.subset List.mem_cons_self
        exact sound.tallied.turned_replace listed named
      · exact (turned_holdEach _ named).1
  | drop name =>
      show Turned g.channels (g.drop name).1.channels
      rw [channels_drop]
      split
      · exact (turned_releaseEach _ _).1
      · exact turned_refl _

theorem length_live_act (g : Guards) (move : Move) :
    (g.act move).live.length ≤ g.live.length + move.made.length := by
  have fewer := List.length_filter_le (fun guard => decide (guard.1 ≠ move.name)) g.live
  rw [live_act, List.length_append]
  omega

/-! ## All moves -/

theorem length_live_after (moves : List Move) : (after moves).live.length ≤ madeCount moves := by
  induction moves using List.reverseRecOn with
  | nil => exact Nat.le_refl 0
  | append_singleton moves move ih =>
      have step := length_live_act (after moves) move
      rw [after_append, madeCount_append]
      omega

theorem madeCount_mono (before behind : List Move) :
    madeCount before ≤ madeCount (before ++ behind) := by
  simp [madeCount]

/-- Fewer guards than there are numbers to count them with are tallied. -/
theorem sound_after (few : madeCount moves < UInt32.size) : (after moves).Sound := by
  induction moves using List.reverseRecOn with
  | nil => exact sound_new
  | append_singleton moves move ih =>
      rw [madeCount_append] at few
      have alive := length_live_after moves
      have limit : maxHolds + 1 = UInt32.size := rfl
      rw [after_append]
      exact (ih (by omega)).act (by omega)

theorem balanced_after (few : madeCount moves < UInt32.size) : (after moves).channels.Balanced := by
  induction moves using List.reverseRecOn with
  | nil => rfl
  | append_singleton moves move ih =>
      have fewer := Nat.lt_of_le_of_lt (madeCount_mono moves [move]) few
      rw [after_append]
      exact ((sound_after fewer).turned_act move).balanced (ih fewer)

/-- Guards come and go in any order, fewer than there are numbers to count them with.  Then a
channel is attached just if no guard that lives names it; the counts of detachments and attachments
are as far apart as there are channels that are detached; and every move raises each of them by one
for each channel that changes over, and not otherwise. -/
theorem guards_accounted (moves : List Move) (few : madeCount moves < UInt32.size) :
    (∀ c, (after moves).channels.isAttached c = true ↔
      ∀ name named, Lives moves name named → c ∉ named) ∧
    (after moves).channels.Balanced ∧
    ∀ before move behind, moves = before ++ move :: behind →
      Turned (after before).channels (after (before ++ [move])).channels := by
  refine ⟨?_, balanced_after few, ?_⟩
  · intro c
    rw [(sound_after few).tallied.isAttached_iff]
    constructor
    · intro free name named lives
      exact free named (List.mem_map_of_mem (f := Prod.snd) (mem_live_after.mpr lives))
    · intro free named listed
      obtain ⟨⟨name, named⟩, alive, rfl⟩ := List.mem_map.mp listed
      exact free name named (mem_live_after.mp alive)
  · rintro before move behind rfl
    have fewer := Nat.lt_of_le_of_lt (madeCount_mono before (move :: behind)) few
    rw [after_append]
    exact (sound_after fewer).turned_act move

/-- The guard that was made first goes first, and names a channel twice; then one takes the place
of another. -/
def crossing : List Move := [
  .add "outer" [.scroll, .scroll], .add "inner" [.cursor, .scroll], .drop "outer",
  .add "inner" [.cursor]]

/-- The second guard keeps both channels detached when the first is gone, and the third leaves the
scroll channel to be attached. -/
theorem guards_accounted_crossing :
    madeCount crossing < UInt32.size ∧ (after crossing).channels = ⟨0, 1, 2, 1⟩ ∧
    ((after crossing).channels.isAttached .cursor = true ↔
      ∀ name named, Lives crossing name named → .cursor ∉ named) ∧
    (after crossing).channels.Balanced ∧
    Turned (after (crossing.take 2)).channels (after (crossing.take 3)).channels ∧
    Turned (after (crossing.take 3)).channels (after crossing).channels := by
  obtain ⟨attached, balanced, turned⟩ := guards_accounted crossing (by decide)
  exact ⟨by decide, by decide, attached .cursor, balanced, turned (crossing.take 2) _ _ rfl,
    turned (crossing.take 3) _ _ rfl⟩

end Guards

end AsmView
