/-
# Names stand for functions

Whether the cursor stayed in its function is decided by the function's name.  In an
image whose functions have names, and each a name of its own, this is the right
question: addresses whose owners have the same name have the same owner, so all that the
image tells of the one function it tells of the other.  Addresses that no function owns
have the empty name in common, and their panels are empty.
-/
import Mathlib.Data.List.Nodup
import AsmView.Image.Check
import AsmView.Proofs.Loaded.Panels

namespace AsmView

open Text Refill Handler

namespace Loaded

/-- The name of the function that owns an address; empty when none does. -/
def nameAt (l : Loaded) (a : Address) : String :=
  ((l.ownerOf? a).map (·.name)).getD ""

/-- Every function has a name, and no two have the same. -/
structure WellNamed (l : Loaded) : Prop where
  named : ∀ f ∈ l.image.routines, f.name ≠ ""
  distinct : (l.image.routines.map (·.name)).Nodup

theorem wellNamed_load {img : Image} (accepted : img.breach? = none)
    (distinct : (img.routines.map (·.name)).Nodup) : (load img).WellNamed where
  named := by
    intro f hf
    obtain ⟨g, hg, rfl⟩ := mem_sortRoutines hf
    have none : img.routines.findSome? Image.routineBreach? = none :=
      (Option.or_eq_none_iff.mp accepted).1
    have lawful := List.findSome?_eq_none_iff.mp none g hg
    intro empty
    have blank : isBlankText g.name = true := by
      rw [show g.name = "" from empty]
      decide
    rw [Image.routineBreach?, if_pos blank] at lawful
    exact nomatch lawful
  distinct := by
    have names : ((img.routines.map sortRoutine).map (·.name)).Nodup := by
      rw [List.map_map]
      exact distinct
    have kept : (((img.routines.map sortRoutine).filter (!·.instructions.isEmpty)).map
        (·.name)).Nodup := names.sublist (List.filter_sublist.map _)
    exact ((List.mergeSort_perm _ _).map _).nodup_iff.mpr kept

variable {l : Loaded} {a b : Address}

theorem mem_of_ownerOf? {f : Routine} (h : l.ownerOf? a = some f) : f ∈ l.image.routines :=
  List.mem_of_find?_eq_some h

/-- An address without a name has no owner. -/
theorem WellNamed.ownerOf?_eq_none (h : l.WellNamed) (unowned : l.nameAt a = "") :
    l.ownerOf? a = none := by
  cases ha : l.ownerOf? a with
  | none => rfl
  | some f =>
      rw [nameAt, ha] at unowned
      exact absurd unowned (h.named f (mem_of_ownerOf? ha))

/-- Owners of the same name are the same. -/
theorem WellNamed.ownerOf?_eq (h : l.WellNamed) (same : l.nameAt a = l.nameAt b) :
    l.ownerOf? a = l.ownerOf? b := by
  cases ha : l.ownerOf? a with
  | none =>
      have unnamed : l.nameAt a = "" := by
        rw [nameAt, ha]
        rfl
      exact (h.ownerOf?_eq_none (same.symm.trans unnamed)).symm
  | some f =>
      cases hb : l.ownerOf? b with
      | none =>
          have unnamed : l.nameAt b = "" := by
            rw [nameAt, hb]
            rfl
          exact absurd (h.ownerOf?_eq_none (same.trans unnamed)) (by simp [ha])
      | some g =>
          rw [nameAt, nameAt, ha, hb] at same
          exact congrArg some (List.inj_on_of_nodup_map h.distinct (mem_of_ownerOf? ha)
            (mem_of_ownerOf? hb) same)

/-- The place of the first hit in a list. -/
theorem findIdx?_of_find? {α : Type} {xs : List α} {p : α → Bool} {x : α}
    (h : xs.find? p = some x) : ∃ i, xs.findIdx? p = some i ∧ xs[i]? = some x := by
  obtain ⟨hit, i, hi, rfl, before⟩ := List.find?_eq_some_iff_getElem.mp h
  refine ⟨i, List.findIdx?_eq_some_iff_getElem.mpr ⟨hi, hit, ?_⟩, List.getElem?_eq_getElem hi⟩
  intro j hj
  simpa using before j hj

/-- Addresses of one owner have it at the same place. -/
theorem WellNamed.findIdx?_eq (h : l.WellNamed) (same : l.ownerOf? a = l.ownerOf? b) :
    l.image.routines.findIdx? (·.contains a) = l.image.routines.findIdx? (·.contains b) := by
  cases ha : l.ownerOf? a with
  | none =>
      have hb := same ▸ ha
      rw [List.findIdx?_eq_none_iff.mpr (by simpa using List.find?_eq_none.mp ha),
        List.findIdx?_eq_none_iff.mpr (by simpa using List.find?_eq_none.mp hb)]
  | some f =>
      obtain ⟨i, hi, hat⟩ := findIdx?_of_find? ha
      obtain ⟨j, hj, hat'⟩ := findIdx?_of_find? (same ▸ ha)
      have apart : l.image.routines.Nodup := h.distinct.of_map
      obtain ⟨hlt, -⟩ := List.getElem?_eq_some_iff.mp hat
      have equal : i = j := (List.getElem?_inj hlt apart).mp (hat.trans hat'.symm)
      rw [hi, hj, equal]

/-- Of addresses whose owners have the same name the image tells the same. -/
theorem WellNamed.sameFunction (h : l.WellNamed) (same : l.nameAt a = l.nameAt b) :
    l.SameFunction a b := by
  have owner := h.ownerOf?_eq same
  have references : ∀ direction, l.referencesAt a direction = l.referencesAt b direction := by
    intro direction
    simp only [referencesAt, h.findIdx?_eq owner, owner]
  refine ⟨references, ?_⟩
  simp only [metricsAt, references, tally, owner]

/-- Where no function owns the address, the panels of the function are empty. -/
theorem WellNamed.found_eq_none (h : l.WellNamed) (settings : RefillSettings) {line : String}
    (unowned : l.nameAt a = "") (inside : l.covers a) {k : Panel}
    (trigger : k.trigger = .perFunction) (hk : k ≠ .function) :
    l.found settings ⟨a, "", line⟩ k = none := by
  have owner := h.ownerOf?_eq_none unowned
  have hedges : ∀ direction, l.referencesAt a direction = [] := by
    intro direction
    rw [referencesAt, owner]
    split <;> simp_all
  have metrics : l.metricsAt a = {} := by
    simp [metricsAt, hedges, tally, owner]
  have fresh := l.fixed.fresh (SameImage.refl l)
  suffices empty : outcome settings ⟨a, "", line⟩ k ⟨l, {}⟩ = .ok none by
    rw [found, empty]
    rfl
  cases k with
  | offset => exact absurd trigger (by decide)
  | jumpPreview => exact absurd trigger (by decide)
  | function => exact absurd rfl hk
  | decompiled => rfl
  | miniGraph => rfl
  | references =>
      have shared : ∀ direction, l.fixed.Finds (sharedReferences a direction) (.ok []) := by
        intro direction
        have finds := l.fixed.sharedReferences_finds a direction
        rwa [referencesAt_fixed inside, hedges] at finds
      have rows : ∀ direction edges, (Except.ok [] : Except PanelFault _) = .ok edges →
          l.fixed.Finds (entries direction edges) (.ok []) := by
        rintro direction _ ⟨⟩
        exact .pure []
      have hfound : l.fixed.Finds (Refill.references ⟨a, "", line⟩) (.ok none) := by
        refine .bind (k := fun _ => .ok none) (shared .outgoing) fun out h₁ => ?_
        refine .bind (k := fun _ => .ok none) (rows .outgoing out h₁) fun outgoing h₂ => ?_
        refine .bind (k := fun _ => .ok none) (shared .incoming) fun into h₃ => ?_
        refine .bind (k := fun _ => .ok none) (rows .incoming into h₃) fun incoming h₄ => ?_
        obtain rfl := Except.ok.inj h₂
        obtain rfl := Except.ok.inj h₄
        exact .pure none
      exact (hfound ⟨l, {}⟩ fresh).1
  | charts =>
      have numbers := l.fixed.sharedMetrics_finds a
      rw [metricsAt_fixed inside, metrics] at numbers
      have hfound : l.fixed.Finds (charts settings ⟨a, "", line⟩) (.ok none) := by
        refine .bind (k := fun _ => .ok none) numbers fun m h => ?_
        obtain rfl := Except.ok.inj h
        exact .pure none
      exact (hfound ⟨l, {}⟩ fresh).1

end Loaded

end AsmView
