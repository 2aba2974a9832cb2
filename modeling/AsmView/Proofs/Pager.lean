/-
# When the end is near

The share of the window at which the end counts as near is a floating-point number, rounded
up to lines, and the comparison is made in signed 64-bit arithmetic.  At least one line
counts as near, whatever the share; and as long as neither the lines that count as near nor
those of the text go beyond the signed numbers, the comparison is the one of numbers.  Beyond
them a window has more lines near its end than its settings can stand: the comparison overflows,
or is false.
-/
import Mathlib.Tactic.ByContra
import AsmView.Pager
import AsmView.Proofs.Machine

namespace AsmView.Pager

/-- The last line of a window always counts as near. -/
theorem one_le_nearLines (p : Pager) (height : Nat) : 1 ≤ p.nearLines height := by
  unfold nearLines
  dsimp only
  generalize height.toUInt64.toFloat * p.threshold = share
  split
  · rename_i proper
    have positive : share > 0 := by
      simpa using (Bool.and_eq_true_iff.mp proper).2
    split
    · have hword : 1 ≤ UInt64.size - 1 := by decide
      omega
    · rename_i whole
      by_contra none
      -- A share that is rounded to nothing is less than the share itself.
      have nothing : share.toUInt64 = 0 := UInt64.toNat_inj.mp (by rw [UInt64.toNat_zero]; omega)
      have zero : UInt64.toFloat 0 = 0 := by decide
      rw [nothing, zero] at whole
      exact whole positive
  · exact Nat.le_refl 1

/-- However large the share, the number of lines that count as near fits into a word. -/
theorem nearLines_lt (p : Pager) (height : Nat) : p.nearLines height < UInt64.size := by
  have hword : 1 < UInt64.size := by decide
  unfold nearLines
  dsimp only
  generalize height.toUInt64.toFloat * p.threshold = share
  split
  · split
    · omega
    · exact UInt64.toNat_lt_size share.toUInt64
  · exact hword

open Machine

/-- The comparison comes to nothing where the difference lies above the signed numbers, since the
lines were cast to a negative number.  It is the one of numbers where they were not, and when they
go further still, the difference is one again that no scroll position exceeds. -/
theorem isWithin?_eq {n : Nat} {l : Listing} (word : n < UInt64.size)
    (short : l.count < signedEnd) (inside : l.top ≤ l.maxTop) :
    isWithin? n l =
      if n < signedEnd then some (decide (l.maxTop < l.top + n))
      else if n ≤ signedEnd + l.maxTop then none
      else some false := by
  have last : l.maxTop ≤ l.count := Nat.sub_le _ _
  have size := two_mul_signedEnd
  rw [isWithin?, toSigned_of_lt (n := l.maxTop) (by omega),
    toSigned_of_lt (n := l.top) (by omega)]
  split
  · rename_i signed
    rw [toSigned_of_lt signed, signed?_of_fits (by omega) (by omega)]
    exact congrArg some (decide_eq_decide.mpr (by omega))
  · rename_i unsigned
    rw [toSigned_of_ge (Nat.not_lt.mp unsigned)]
    split
    · rw [signed?_of_ge (by omega)]
      rfl
    · rw [signed?_of_fits (by omega) (by omega)]
      exact congrArg some (decide_eq_false (by omega))

theorem endIsNear?_eq {p : Pager} {l : Listing} (short : l.count < signedEnd)
    (inside : l.top ≤ l.maxTop) :
    p.endIsNear? l =
      if p.nearLines l.height < signedEnd then
        some (decide (l.maxTop < l.top + p.nearLines l.height))
      else if p.nearLines l.height ≤ signedEnd + l.maxTop then none
      else some false :=
  isWithin?_eq (p.nearLines_lt l.height) short inside

/-- As long as they are signed numbers, the end is near when the window stands less than so many
lines before its last position. -/
theorem endIsNear?_of_few {p : Pager} {l : Listing} (short : l.count < signedEnd)
    (inside : l.top ≤ l.maxTop) (few : p.nearLines l.height < signedEnd) :
    p.endIsNear? l = some (decide (l.maxTop < l.top + p.nearLines l.height)) := by
  rw [endIsNear?_eq short inside, if_pos few]

/-- Where the end is not near, there are that many lines below the window. -/
theorem far_below {p : Pager} {l : Listing} (short : l.count < signedEnd)
    (inside : l.top ≤ l.maxTop) (few : p.nearLines l.height < signedEnd)
    (far : p.endIsNear? l ≠ some true) : l.top + p.nearLines l.height ≤ l.maxTop := by
  rw [endIsNear?_of_few short inside few] at far
  by_contra near
  exact far (congrArg some (decide_eq_true (Nat.not_le.mp near)))

/-- Whether the end is near is told exactly just if the lines that count as near are a signed
number.  If they are not, the program stops unless they go beyond the last position by more than
the signed numbers have room for; and then the end is near, and told not to be.  So of a text that
fits into its window, whose end is always near, it is told for signed numbers only. -/
theorem endIsNear?_exact_iff {p : Pager} {l : Listing} (short : l.count < signedEnd)
    (inside : l.top ≤ l.maxTop) :
    (p.endIsNear? l = some (decide (l.maxTop < l.top + p.nearLines l.height)) ↔
      p.nearLines l.height < signedEnd) ∧
    (p.endIsNear? l = none ↔
      signedEnd ≤ p.nearLines l.height ∧ p.nearLines l.height ≤ signedEnd + l.maxTop) ∧
    (signedEnd + l.maxTop < p.nearLines l.height →
      p.endIsNear? l = some false ∧ l.maxTop < l.top + p.nearLines l.height) ∧
    (l.count ≤ l.height → l.maxTop < l.top + p.nearLines l.height ∧
      (p.endIsNear? l = some true ↔ p.nearLines l.height < signedEnd)) := by
  have told := p.endIsNear?_eq short inside
  have hline := p.one_le_nearLines l.height
  rcases Nat.lt_or_ge (p.nearLines l.height) signedEnd with few | many
  · rw [if_pos few] at told
    refine ⟨iff_of_true told few, iff_of_false ?_ (by omega), by omega, fun fits => ?_⟩
    · rw [told]
      exact Option.some_ne_none _
    · have whole : l.maxTop = 0 := Nat.sub_eq_zero_of_le fits
      have near : l.maxTop < l.top + p.nearLines l.height := by omega
      exact ⟨near, iff_of_true (told.trans (congrArg some (decide_eq_true near))) few⟩
  · rw [if_neg (Nat.not_lt.mpr many)] at told
    have near : p.nearLines l.height > signedEnd + l.maxTop →
        l.maxTop < l.top + p.nearLines l.height := by omega
    have untold : p.endIsNear? l ≠ some true := by
      rw [told]
      split <;> simp
    refine ⟨iff_of_false ?_ (Nat.not_lt.mpr many), ?_, fun further => ⟨?_, near further⟩,
      fun fits => ⟨?_, iff_of_false untold (Nat.not_lt.mpr many)⟩⟩
    · rw [told]
      split
      · exact nofun
      · simp only [Option.some.injEq, Bool.false_eq, decide_eq_false_iff_not]
        omega
    · rw [told]
      split
      · exact iff_of_true rfl ⟨many, by assumption⟩
      · exact iff_of_false nofun fun ⟨_, reaches⟩ => absurd reaches (by assumption)
    · rw [told, if_neg (by omega)]
    · have whole : l.maxTop = 0 := Nat.sub_eq_zero_of_le fits
      omega

theorem endIsNear?_exact_iff_half :
    let p := Pager.new 200 10 0.5
    let l : Listing := { lines := ["", "", ""], top := 1, height := 2 }
    l.count < signedEnd ∧ l.top ≤ l.maxTop ∧ p.nearLines l.height < signedEnd ∧
      p.endIsNear? l = some true := by
  intro p l
  have few : p.nearLines l.height < signedEnd := by decide +kernel
  have told := (endIsNear?_exact_iff (p := p) (l := l) (by decide) (by decide)).1.mpr few
  exact ⟨by decide, by decide, few, told.trans (by decide +kernel)⟩

/-- The single line of a text stands in the largest window.  Its end is near; told with the whole
window as the share it is not, and with half of it the program stops. -/
theorem endIsNear?_lost :
    let l : Listing := { lines := ["0x00001000  90  nop"], height := UInt64.size - 1 }
    l.count < signedEnd ∧ l.top ≤ l.maxTop ∧ l.count ≤ l.height ∧
      (Pager.new 200 10 1).endIsNear? l = some false ∧
      (Pager.new 200 10 0.5).endIsNear? l = none := by
  decide +kernel

end AsmView.Pager
