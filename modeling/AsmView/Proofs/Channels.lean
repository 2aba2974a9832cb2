/-
# Holds come and go in pairs

What the view does with its channels is to take a hold and release it again, one hold
inside another.  `AtRest` is how it finds the channels and leaves them: attached, with
every detachment undone.  `Silenced` is what a rewrite of the text makes of them, one
hold on each channel.  A hold that is taken and released inside leaves either as it
is; silencing channels at rest and releasing them leaves them at rest.
-/
import AsmView.Channels

namespace AsmView.Channels

/-- Both channels are attached, and as many attachments as detachments were made. -/
structure AtRest (cs : Channels) : Prop where
  attached : ∀ c, cs.isAttached c = true
  balanced : cs.detaches = cs.reattaches

/-- Each channel is held once. -/
structure Silenced (cs : Channels) : Prop where
  scroll : cs.scrollHolds = 1
  cursor : cs.cursorHolds = 1

theorem isAttached_iff {cs : Channels} {c : Channel} : cs.isAttached c = true ↔ cs.holds c = 0 := by
  simp [isAttached]

theorem atRest_new : ({} : Channels).AtRest :=
  ⟨fun c => by cases c <;> rfl, rfl⟩

theorem AtRest.holds_eq_zero {cs : Channels} (h : cs.AtRest) (c : Channel) : cs.holds c = 0 :=
  isAttached_iff.mp (h.attached c)

/-- Silenced channels drop whatever is raised. -/
theorem Silenced.not_attached {cs : Channels} (h : cs.Silenced) (c : Channel) :
    cs.isAttached c = false := by
  cases c with
  | scroll => simp [isAttached, holds, h.scroll]
  | cursor => simp [isAttached, holds, h.cursor]

/-! ## A hold on the scroll channel, taken and released -/

/-- A hold inside a hold changes nothing once it is released. -/
theorem Silenced.hold_release_scroll {cs : Channels} (h : cs.Silenced) :
    (cs.holdEach [.scroll]).releaseEach [.scroll] = cs := by
  obtain ⟨s, c, d, r⟩ := cs
  obtain rfl : s = 1 := h.scroll
  rfl

/-- A hold on an attached channel detaches it once and attaches it again once. -/
theorem AtRest.hold_release_scroll {cs : Channels} (h : cs.AtRest) :
    ((cs.holdEach [.scroll]).releaseEach [.scroll]).AtRest := by
  obtain ⟨s, c, d, r⟩ := cs
  obtain rfl : s = 0 := h.holds_eq_zero .scroll
  obtain rfl : c = 0 := h.holds_eq_zero .cursor
  obtain rfl : d = r := h.balanced
  exact ⟨fun k => by cases k <;> rfl, rfl⟩

/-! ## Silencing both channels, and undoing it -/

theorem AtRest.silenced {cs : Channels} (h : cs.AtRest) : (cs.holdEach Channel.all).Silenced := by
  obtain ⟨s, c, d, r⟩ := cs
  obtain rfl : s = 0 := h.holds_eq_zero .scroll
  obtain rfl : c = 0 := h.holds_eq_zero .cursor
  exact ⟨rfl, rfl⟩

theorem AtRest.release_all {cs : Channels} (h : cs.AtRest) :
    ((cs.holdEach Channel.all).releaseEach Channel.all).AtRest := by
  obtain ⟨s, c, d, r⟩ := cs
  obtain rfl : s = 0 := h.holds_eq_zero .scroll
  obtain rfl : c = 0 := h.holds_eq_zero .cursor
  obtain rfl : d = r := h.balanced
  exact ⟨fun k => by cases k <;> rfl, rfl⟩

/-- There is nothing to repair on channels at rest. -/
theorem AtRest.attachAll {cs : Channels} (h : cs.AtRest) : cs.attachAll = cs := by
  simp [Channels.attachAll, Channel.all, attach, h.attached]

end AsmView.Channels
