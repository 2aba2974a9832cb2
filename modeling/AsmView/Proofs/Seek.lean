/-
# The ladder of a seek

What a query stands for is found on a ladder: an address behind `0x`, a function of that very
name, one whose name holds the query, one whose name is like it, and bare hexadecimal digits.
`Ladder` is the ladder as rules, each of which says why no rule above it applies, and
`resolve?_eq_iff` says that a query is resolved to what the rules give and to nothing else.

On three of the rungs one record is picked among several, and each picks in its own way: the
first of all, the first of the least, the last of the greatest.  `Picked` covers the three by
what it takes to be preferred to a record further down the list.
-/
import AsmView.Proofs.Address
import AsmView.Proofs.Seek.Likeness

namespace AsmView

open Text

/-! ## Texts -/

namespace Text

/-- No character is without a lower case. -/
theorem lowerOf_ne_nil (c : Char) : lowerOf c ≠ [] := by
  have several : ∀ entry ∈ lowerSeveral, entry.2 ≠ [] := by decide
  unfold lowerOf
  split
  · exact List.cons_ne_nil _ _
  · split
    · rename_i cs image
      obtain ⟨codes, found, rfl⟩ := Option.map_eq_some_iff.mp image
      obtain ⟨before, after, whole, -⟩ := List.lookup_eq_some_iff.mp found
      have listed : (c.toNat, codes) ∈ lowerSeveral := by
        rw [whole]
        exact List.mem_append_right before List.mem_cons_self
      simpa using several _ listed
    · exact List.cons_ne_nil _ _

theorem lowercase_ne_nil {cs : List Char} (h : cs ≠ []) : lowercase cs ≠ [] := by
  cases cs with
  | nil => exact absurd rfl h
  | cons c cs =>
      rw [lowercase, lowerFrom]
      refine List.append_ne_nil_of_left_ne_nil ?_ _
      split
      · exact List.cons_ne_nil _ _
      · exact lowerOf_ne_nil c

end Text

namespace Destination

variable {α β : Type} {p : α → Prop} {prefers : α → α → Prop} {xs : List α} {x r s : α}

/-! ## Picking one of several -/

/-- Of the elements with a property one is picked: it is preferred to all that stand behind it,
and none that stands in front of it is preferred to it. -/
def Picked (p : α → Prop) (prefers : α → α → Prop) (xs : List α) (r : α) : Prop :=
  ∃ front behind, xs = front ++ r :: behind ∧ p r ∧
    (∀ s ∈ front, p s → ¬ prefers s r) ∧ ∀ s ∈ behind, p s → prefers r s

/-- The first element with the property. -/
abbrev First (p : α → Prop) : List α → α → Prop :=
  Picked p fun _ _ => True

/-- The first of the elements with the property whose key is least. -/
abbrev FirstLeast (p : α → Prop) (key : α → Nat) : List α → α → Prop :=
  Picked p fun r s => key r ≤ key s

/-- The last of the elements with the property whose key is greatest. -/
abbrev LastGreatest (p : α → Prop) (key : α → ℚ) : List α → α → Prop :=
  Picked p fun r s => key s < key r

theorem Picked.mem (h : Picked p prefers xs r) : r ∈ xs := by
  obtain ⟨front, behind, rfl, -⟩ := h
  exact List.mem_append_right front List.mem_cons_self

theorem Picked.has (h : Picked p prefers xs r) : p r := by
  obtain ⟨-, -, -, has, -⟩ := h
  exact has

theorem not_picked_nil : ¬ Picked p prefers [] r := by
  rintro ⟨front, behind, whole, -⟩
  simp at whole

/-- Either the first element is picked, or another that the first is not preferred to. -/
theorem picked_cons_iff : Picked p prefers (x :: xs) r ↔
    (r = x ∧ p x ∧ ∀ s ∈ xs, p s → prefers x s) ∨
      (Picked p prefers xs r ∧ (p x → ¬ prefers x r)) := by
  constructor
  · rintro ⟨front, behind, whole, has, before, after⟩
    cases front with
    | nil =>
        obtain ⟨rfl, rfl⟩ := List.cons.inj whole
        exact .inl ⟨rfl, has, after⟩
    | cons y front =>
        obtain ⟨rfl, rfl⟩ := List.cons.inj whole
        refine .inr ⟨⟨front, behind, rfl, has, ?_, after⟩, before x List.mem_cons_self⟩
        intro s hs
        exact before s (List.mem_cons_of_mem x hs)
  · rintro (⟨rfl, has, after⟩ | ⟨⟨front, behind, rfl, has, before, after⟩, first⟩)
    · exact ⟨[], xs, rfl, has, (fun s hs => nomatch hs), after⟩
    · refine ⟨x :: front, behind, rfl, has, ?_, after⟩
      intro s hs
      rcases List.mem_cons.mp hs with rfl | hs
      · exact first
      · exact before s hs

/-- Elements without the property do not matter. -/
theorem picked_filter_iff {q : α → Bool} :
    Picked (fun _ => True) prefers (xs.filter q) r ↔ Picked (q · = true) prefers xs r := by
  induction xs with
  | nil => exact Iff.rfl.trans (iff_of_false not_picked_nil not_picked_nil)
  | cons x xs ih =>
      cases has : q x with
      | true =>
          rw [List.filter_cons_of_pos has, picked_cons_iff, picked_cons_iff, ih]
          simp [has]
      | false =>
          rw [List.filter_cons_of_neg (by simp [has]), picked_cons_iff, ih]
          simp [has]

/-- Picks from the end of the list to its front, with a test for what is preferred. -/
def pick (prefers : α → α → Bool) : List α → Option α
  | [] => none
  | x :: xs =>
    match pick prefers xs with
    | some s => if prefers x s then some x else some s
    | none => some x

theorem pick_eq_none_iff {prefers : α → α → Bool} : pick prefers xs = none ↔ xs = [] := by
  cases xs with
  | nil => exact Iff.rfl.trans (iff_of_true rfl rfl)
  | cons x xs =>
      rw [pick]
      cases pick prefers xs with
      | none => simp
      | some s =>
          dsimp only
          split <;> simp

theorem pick_eq_some_iff {prefers : α → α → Bool}
    (trans : ∀ x s t, prefers x s = true → prefers s t = true → prefers x t = true)
    (past : ∀ x s t, prefers x s = true → ¬ prefers t s = true → prefers x t = true) :
    pick prefers xs = some r ↔ Picked (fun _ => True) (prefers · · = true) xs r := by
  induction xs generalizing r with
  | nil => exact iff_of_false (fun h => nomatch h) not_picked_nil
  | cons x xs ih =>
      rw [picked_cons_iff, pick]
      cases found : pick prefers xs with
      | none =>
          obtain rfl := pick_eq_none_iff.mp found
          simpa [not_picked_nil] using eq_comm
      | some s =>
          have best := ih.mp found
          have unique : Picked (fun _ => True) (prefers · · = true) xs r → r = s := by
            intro h
            exact Option.some.inj ((ih.mpr h).symm.trans found)
          -- what is picked behind `x` stands for all the others there
          have beats : prefers x s = true → ∀ t ∈ xs, prefers x t = true := by
            intro better t ht
            obtain ⟨front, behind, rfl, -, before, after⟩ := best
            rcases List.mem_append.mp ht with earlier | later
            · exact past x s t better (before t earlier trivial)
            · rcases List.mem_cons.mp later with rfl | later
              · exact better
              · exact trans x s t better (after t later trivial)
          dsimp only
          split
          · rename_i better
            constructor
            · rintro ⟨⟩
              exact .inl ⟨rfl, trivial, fun t ht _ => beats better t ht⟩
            · rintro (⟨rfl, -⟩ | ⟨other, first⟩)
              · rfl
              · obtain rfl := unique other
                exact absurd better (first trivial)
          · rename_i worse
            constructor
            · rintro ⟨⟩
              exact .inr ⟨best, fun _ => worse⟩
            · rintro (⟨rfl, -, all⟩ | ⟨other, -⟩)
              · exact absurd (all s best.mem trivial) worse
              · rw [unique other]

/-! ## The three choices of a name -/

variable {q : String} {functions : List KnownFunction} {f : KnownFunction}
  {d : Option Destination}

/-- The name of the function holds the query, whatever the case. -/
def Holds (q : String) (f : KnownFunction) : Prop :=
  lowercase q.toList <:+: lowercase f.name.toList

/-- How alike the query and the name of the function are, whatever the case. -/
noncomputable def similarity (q : String) (f : KnownFunction) : ℚ :=
  ratio (lowercase q.toList) (lowercase f.name.toList)

/-- The same as a fraction. -/
def grade (q : String) (f : KnownFunction) : Nat × Nat :=
  likeness (lowercase q.toList) (lowercase f.name.toList)

/-- The records whose name holds the query. -/
def holding (q : String) (functions : List KnownFunction) : List KnownFunction :=
  functions.filter fun f => occursIn (lowercase q.toList) (lowercase f.name.toList)

/-- The records whose name is like the query, with their grades. -/
def alike (q : String) (functions : List KnownFunction) : List (KnownFunction × (Nat × Nat)) :=
  (functions.map fun f => (f, grade q f)).filter fun (_, grade) => likenessLe (1, 2) grade

/-- What a name is found by, one choice after another. -/
theorem byName?_eq (q : String) (functions : List KnownFunction) :
    byName? q functions = ((functions.find? (·.name = q)).or
      ((shortestName? (holding q functions)).or
        ((mostAlike? (alike q functions)).map (·.1)))).map ofRecord :=
  rfl

theorem find?_eq_some_iff :
    functions.find? (·.name = q) = some f ↔ First (·.name = q) functions f := by
  rw [List.find?_eq_some_iff_append]
  constructor
  · rintro ⟨has, front, behind, whole, before⟩
    refine ⟨front, behind, whole, of_decide_eq_true has, ?_, fun _ _ _ => trivial⟩
    intro s hs same
    simpa [same] using before s hs
  · rintro ⟨front, behind, whole, has, before, -⟩
    refine ⟨decide_eq_true has, front, behind, whole, ?_⟩
    intro s hs
    simpa using fun same => before s hs same trivial

theorem shortestName?_eq_pick (fs : List KnownFunction) :
    shortestName? fs = pick (fun f g => f.name.utf8ByteSize ≤ g.name.utf8ByteSize) fs := by
  induction fs with
  | nil => rfl
  | cons f fs ih =>
      rw [shortestName?, pick, ih]
      cases pick (fun f g => f.name.utf8ByteSize ≤ g.name.utf8ByteSize) fs with
      | none => rfl
      | some g => exact if_congr decide_eq_true_iff.symm rfl rfl

theorem mostAlike?_map (grade : KnownFunction → Nat × Nat) (fs : List KnownFunction) :
    (mostAlike? (fs.map fun f => (f, grade f))) =
      (pick (fun f g => !likenessLe (grade f) (grade g)) fs).map fun f => (f, grade f) := by
  induction fs with
  | nil => rfl
  | cons f fs ih =>
      rw [List.map_cons, mostAlike?, pick, ih]
      cases pick (fun f g => !likenessLe (grade f) (grade g)) fs with
      | none => rfl
      | some g =>
          cases worse : likenessLe (grade f) (grade g) <;> simp [worse]

theorem shortestName?_eq_some_iff :
    shortestName? (holding q functions) = some f ↔
      FirstLeast (Holds q) (·.name.utf8ByteSize) functions f := by
  rw [holding, shortestName?_eq_pick, pick_eq_some_iff, picked_filter_iff]
  · simp only [occursIn, cutAt?_isSome_iff, decide_eq_true_eq]
    exact Iff.rfl
  · simp only [decide_eq_true_eq]
    intro f g h le le'
    exact Nat.le_trans le le'
  · simp only [decide_eq_true_eq]
    intro f g h le lt
    omega

theorem shortestName?_eq_none_iff :
    shortestName? (holding q functions) = none ↔ ∀ f ∈ functions, ¬ Holds q f := by
  rw [holding, shortestName?_eq_pick, pick_eq_none_iff, List.filter_eq_nil_iff]
  simp only [occursIn, cutAt?_isSome_iff]
  exact Iff.rfl

theorem mostAlike?_eq_pick (q : String) (functions : List KnownFunction) :
    (mostAlike? (alike q functions)).map (·.1) =
      pick (fun f g => !likenessLe (grade q f) (grade q g))
        (functions.filter fun f => likenessLe (1, 2) (grade q f)) := by
  rw [alike, List.filter_map, mostAlike?_map, Option.map_map]
  exact Option.map_id'

theorem grade_pos (q : String) (f : KnownFunction) : 0 < (grade q f).2 :=
  likeness_snd_pos _ _

section Similar

variable (hne : q ≠ "")
include hne

theorem value_grade (f : KnownFunction) :
    value (grade q f) = similarity q f := by
  have hletter : lowercase q.toList ≠ [] := by
    refine lowercase_ne_nil ?_
    simpa using hne
  exact value_likeness hletter

theorem half_le_grade_iff (f : KnownFunction) :
    likenessLe (1, 2) (grade q f) = true ↔ 1 / 2 ≤ similarity q f := by
  rw [likenessLe_iff Nat.two_pos (grade_pos q f), value_grade hne]
  norm_num [value]

theorem grade_lt_iff (f g : KnownFunction) :
    (!likenessLe (grade q f) (grade q g)) = true ↔ similarity q g < similarity q f := by
  rw [Bool.not_eq_true', ← Bool.not_eq_true,
    likenessLe_iff (grade_pos q f) (grade_pos q g), value_grade hne,
    value_grade hne, not_le]

theorem mostAlike?_eq_some_iff :
    (mostAlike? (alike q functions)).map (·.1) = some f ↔
      LastGreatest (1 / 2 ≤ similarity q ·) (similarity q) functions f := by
  rw [mostAlike?_eq_pick, pick_eq_some_iff, picked_filter_iff]
  · simp only [half_le_grade_iff hne, grade_lt_iff hne]
  · simp only [grade_lt_iff hne]
    intro f g h lt lt'
    exact lt'.trans lt
  · simp only [grade_lt_iff hne]
    intro f g h lt le
    exact (not_lt.mp le).trans_lt lt

theorem mostAlike?_eq_none_iff :
    (mostAlike? (alike q functions)).map (·.1) = none ↔
      ∀ f ∈ functions, ¬ 1 / 2 ≤ similarity q f := by
  rw [mostAlike?_eq_pick, pick_eq_none_iff, List.filter_eq_nil_iff]
  simp only [half_le_grade_iff hne]

end Similar

/-! ## The rungs -/

/-- The query is a marker with characters behind it. -/
def Marked (q : String) (digits : List Char) : Prop :=
  q.toList = '0' :: 'x' :: digits ∨ q.toList = '0' :: 'X' :: digits

/-- The query is neither empty nor marked. -/
structure Typed (q : String) : Prop where
  ne_empty : q ≠ ""
  unmarked : ∀ digits, ¬ Marked q digits

/-- What is read from digits: the address they denote, if there is one. -/
inductive Read (digits : List Char) : Option Destination → Prop
  | address {a : Address} (denotes : Address.Denotes digits a) : Read digits (some (.address a))
  | nothing (undenoted : ∀ a, ¬ Address.Denotes digits a) : Read digits none

/-- What a trimmed query stands for, by the first rule that applies. -/
inductive Ladder (functions : List KnownFunction) (q : String) : Option Destination → Prop
  | empty (blank : q = "") : Ladder functions q none
  | marked {digits : List Char} {d : Option Destination} (marked : Marked q digits)
      (read : Read digits d) : Ladder functions q d
  | named {f : KnownFunction} (typed : Typed q) (first : First (·.name = q) functions f) :
      Ladder functions q (some (.function f.name f.entry))
  | held {f : KnownFunction} (typed : Typed q) (unnamed : ∀ g ∈ functions, g.name ≠ q)
      (shortest : FirstLeast (Holds q) (·.name.utf8ByteSize) functions f) :
      Ladder functions q (some (.function f.name f.entry))
  | alike {f : KnownFunction} (typed : Typed q) (unnamed : ∀ g ∈ functions, g.name ≠ q)
      (unheld : ∀ g ∈ functions, ¬ Holds q g)
      (most : LastGreatest (1 / 2 ≤ similarity q ·) (similarity q) functions f) :
      Ladder functions q (some (.function f.name f.entry))
  | bare {d : Option Destination} (typed : Typed q) (unnamed : ∀ g ∈ functions, g.name ≠ q)
      (unheld : ∀ g ∈ functions, ¬ Holds q g)
      (unlike : ∀ g ∈ functions, ¬ 1 / 2 ≤ similarity q g) (read : Read q.toList d) :
      Ladder functions q d

theorem isMarked_iff {cs : List Char} : isMarked cs = true ↔
    ∃ digits, cs = '0' :: 'x' :: digits ∨ cs = '0' :: 'X' :: digits := by
  constructor
  · intro marked
    unfold isMarked at marked
    split at marked
    · exact ⟨_, .inl rfl⟩
    · exact ⟨_, .inr rfl⟩
    · exact nomatch marked
  · rintro ⟨digits, rfl | rfl⟩
    · rfl
    · rfl

theorem dropMarker_of_not_isMarked {cs : List Char} (h : ¬ isMarked cs = true) :
    Address.dropMarker cs = cs := by
  unfold Address.dropMarker
  split
  · exact absurd rfl h
  · exact absurd rfl h
  · rfl

theorem Typed.not_isMarked (typed : Typed q) : ¬ isMarked q.toList = true := by
  intro marked
  obtain ⟨digits, marked⟩ := isMarked_iff.mp marked
  exact typed.unmarked digits marked

theorem Marked.dropMarker {digits : List Char} (marked : Marked q digits) :
    Address.dropMarker q.toList = digits := by
  rcases marked with text | text
  · rw [text]
    rfl
  · rw [text]
    rfl

theorem read_ofAddressText? (q : String) :
    Read (Address.dropMarker (trimBlanks q.toList)) (ofAddressText? q) := by
  rw [ofAddressText?]
  cases parsed : Address.parse q with
  | ok a => exact .address (Address.parse_eq_ok_iff.mp parsed)
  | error fault =>
      refine .nothing ?_
      intro a denotes
      exact nomatch parsed.symm.trans (Address.parse_eq_ok_iff.mpr denotes)

theorem Read.unique {digits : List Char} {d d' : Option Destination} (h : Read digits d)
    (h' : Read digits d') : d = d' := by
  cases h with
  | address denotes =>
      cases h' with
      | address denotes' =>
          have same := Address.toNat_injective (denotes.value.symm.trans denotes'.value)
          rw [same]
      | nothing undenoted => exact absurd denotes (undenoted _)
  | nothing undenoted =>
      cases h' with
      | address denotes => exact absurd denotes (undenoted _)
      | nothing _ => rfl

/-- The rungs of a query that is neither empty nor marked. -/
theorem Typed.ladder (typed : Typed q) (read : Read q.toList d) :
    Ladder functions q ((byName? q functions).or d) := by
  rw [byName?_eq]
  cases named : functions.find? (·.name = q) with
  | some f => exact .named typed (find?_eq_some_iff.mp named)
  | none =>
      have unnamed : ∀ g ∈ functions, g.name ≠ q := by
        simpa using List.find?_eq_none.mp named
      rw [Option.none_or]
      cases held : shortestName? (holding q functions) with
      | some f => exact .held typed unnamed (shortestName?_eq_some_iff.mp held)
      | none =>
          have unheld := shortestName?_eq_none_iff.mp held
          rw [Option.none_or]
          cases most : (mostAlike? (alike q functions)).map (·.1) with
          | some f =>
              exact .alike typed unnamed unheld
                ((mostAlike?_eq_some_iff typed.ne_empty).mp most)
          | none =>
              rw [Option.map_none, Option.none_or]
              exact .bare typed unnamed unheld
                ((mostAlike?_eq_none_iff typed.ne_empty).mp most) read

theorem query_cases (q : String) : q = "" ∨ (∃ digits, Marked q digits) ∨ Typed q := by
  by_cases blank : q = ""
  · exact .inl blank
  · by_cases marked : ∃ digits, Marked q digits
    · exact .inr (.inl marked)
    · exact .inr (.inr ⟨blank, not_exists.mp marked⟩)

theorem Marked.isMarked {digits : List Char} (marked : Marked q digits) :
    isMarked q.toList = true :=
  isMarked_iff.mpr ⟨digits, marked⟩

theorem Marked.isEmpty_eq_false {digits : List Char} (marked : Marked q digits) :
    q.isEmpty = false := by
  refine Bool.eq_false_iff.mpr fun blank => ?_
  rw [String.isEmpty_iff.mp blank] at marked
  rcases marked with text | text
  · exact nomatch text
  · exact nomatch text

section Resolve

variable {query : String}

theorem resolve?_empty (blank : trim query = "") : resolve? query functions = none := by
  rw [resolve?, blank]
  rfl

theorem resolve?_marked {digits : List Char} (marked : Marked (trim query) digits) :
    resolve? query functions = ofAddressText? (trim query) := by
  rw [resolve?, marked.isEmpty_eq_false, marked.isMarked]
  rfl

theorem resolve?_typed (typed : Typed (trim query)) :
    resolve? query functions =
      (byName? (trim query) functions).or (ofAddressText? (trim query)) := by
  have hne : (trim query).isEmpty = false :=
    Bool.eq_false_iff.mpr fun blank => typed.ne_empty (String.isEmpty_iff.mp blank)
  rw [resolve?, hne, Bool.eq_false_iff.mpr typed.not_isMarked]
  rfl

/-- What is read from a trimmed query. -/
theorem read_trim (query : String) :
    Read (Address.dropMarker (trim query).toList) (ofAddressText? (trim query)) := by
  have read := read_ofAddressText? (trim query)
  rwa [toList_trim, trimBlanks_trimBlanks, ← toList_trim] at read

theorem Typed.read_trim (typed : Typed (trim query)) :
    Read (trim query).toList (ofAddressText? (trim query)) := by
  have read := Destination.read_trim query
  rwa [dropMarker_of_not_isMarked typed.not_isMarked] at read

theorem Marked.read_trim {digits : List Char} (marked : Marked (trim query) digits) :
    Read digits (ofAddressText? (trim query)) := by
  have read := Destination.read_trim query
  rwa [marked.dropMarker] at read

/-- Whatever the query, a rung of the ladder leads to what it is resolved to. -/
theorem ladder_resolve? (query : String) (functions : List KnownFunction) :
    Ladder functions (trim query) (resolve? query functions) := by
  rcases query_cases (trim query) with blank | ⟨digits, marked⟩ | typed
  · rw [resolve?_empty blank]
    exact .empty blank
  · rw [resolve?_marked marked]
    exact .marked marked marked.read_trim
  · rw [resolve?_typed typed]
    exact typed.ladder typed.read_trim

/-- Whatever a rung of the ladder leads to is what the query is resolved to. -/
theorem Ladder.resolves (h : Ladder functions (trim query) d) : resolve? query functions = d := by
  cases h with
  | empty blank => exact resolve?_empty blank
  | marked marked read =>
      rw [resolve?_marked marked]
      exact marked.read_trim.unique read
  | named typed first =>
      rw [resolve?_typed typed, byName?_eq, find?_eq_some_iff.mpr first]
      rfl
  | held typed unnamed shortest =>
      have unnamed : functions.find? (·.name = trim query) = none := by
        simpa using unnamed
      rw [resolve?_typed typed, byName?_eq, unnamed, shortestName?_eq_some_iff.mpr shortest]
      rfl
  | alike typed unnamed unheld most =>
      have unnamed : functions.find? (·.name = trim query) = none := by
        simpa using unnamed
      rw [resolve?_typed typed, byName?_eq, unnamed, shortestName?_eq_none_iff.mpr unheld,
        (mostAlike?_eq_some_iff typed.ne_empty).mpr most]
      rfl
  | bare typed unnamed unheld unlike read =>
      have unnamed : functions.find? (·.name = trim query) = none := by
        simpa using unnamed
      rw [resolve?_typed typed, byName?_eq, unnamed, shortestName?_eq_none_iff.mpr unheld,
        (mostAlike?_eq_none_iff typed.ne_empty).mpr unlike, Option.none_or, Option.none_or,
        Option.map_none, Option.none_or]
      exact typed.read_trim.unique read

theorem resolve?_eq_iff : resolve? query functions = d ↔ Ladder functions (trim query) d := by
  constructor
  · rintro rfl
    exact ladder_resolve? query functions
  · exact Ladder.resolves

/-- A function that the ladder leads to is one of the records. -/
theorem Ladder.mem {name : String} {entry : Address}
    (h : Ladder functions q (some (.function name entry))) :
    ∃ f ∈ functions, f.name = name ∧ f.entry = entry := by
  cases h with
  | marked _ read => exact nomatch read
  | named _ first => exact ⟨_, first.mem, rfl, rfl⟩
  | held _ _ shortest => exact ⟨_, shortest.mem, rfl, rfl⟩
  | alike _ _ _ most => exact ⟨_, most.mem, rfl, rfl⟩
  | bare _ _ _ _ read => exact nomatch read

/-- A marked query never stands for a function. -/
theorem Marked.resolve?_ne {digits : List Char} (marked : Marked (trim query) digits)
    (name : String) (entry : Address) :
    resolve? query functions ≠ some (.function name entry) := by
  intro resolved
  have read := marked.read_trim
  have same := (resolve?_marked marked).symm.trans resolved
  rw [same] at read
  exact nomatch read

/-- A record whose name no other has is found by its name. -/
theorem resolve?_name (hf : f ∈ functions) (own : ∀ g ∈ functions, g.name = f.name → g = f)
    (trimmed : trim f.name = f.name) (typed : Typed f.name) :
    resolve? f.name functions = some (.function f.name f.entry) := by
  refine resolve?_eq_iff.mpr ?_
  rw [trimmed]
  cases found : functions.find? (·.name = f.name) with
  | none =>
      have missing := List.find?_eq_none.mp found f hf
      exact absurd (decide_eq_true rfl) missing
  | some g =>
      have first := find?_eq_some_iff.mp found
      obtain rfl := own g first.mem first.has
      exact .named typed first

end Resolve

/-- A query is resolved to what the ladder leads to, and to nothing else.  It is never resolved
to a function behind a marker, and a function it is resolved to is one of the records; and a
record whose name no other has is reached by that name, if it can be typed. -/
theorem resolve?_ladder (functions : List KnownFunction) :
    (∀ query d, resolve? query functions = d ↔ Ladder functions (trim query) d) ∧
    (∀ query digits, Marked (trim query) digits → ∀ name entry,
      resolve? query functions ≠ some (.function name entry)) ∧
    (∀ query name entry, resolve? query functions = some (.function name entry) →
      ∃ f ∈ functions, f.name = name ∧ f.entry = entry) ∧
    (∀ f ∈ functions, (∀ g ∈ functions, g.name = f.name → g = f) → trim f.name = f.name →
      Typed f.name → resolve? f.name functions = some (.function f.name f.entry)) := by
  refine ⟨fun query d => resolve?_eq_iff, ?_, ?_, ?_⟩
  · intro query digits marked name entry
    exact marked.resolve?_ne name entry
  · intro query name entry resolved
    exact (resolve?_eq_iff.mp resolved).mem
  · intro f hf own trimmed typed
    exact resolve?_name hf own trimmed typed

/-- Two functions, of which one has a name that is also a number. -/
def adders : List KnownFunction :=
  [⟨"add_all", ⟨0x1100⟩, 0x40, none⟩, ⟨"add", ⟨0x1300⟩, 0x10, none⟩]

theorem resolve?_ladder_adders :
    Typed "add" ∧ resolve? "add" adders = some (.function "add" ⟨0x1300⟩) ∧
      Marked (trim " 0xadd") "add".toList ∧
      resolve? " 0xadd" adders ≠ some (.function "add" ⟨0x1300⟩) := by
  have typed : Typed "add" := by
    refine ⟨by decide, ?_⟩
    rintro digits (text | text)
    · exact absurd text (by simp)
    · exact absurd text (by simp)
  have marked : Marked (trim " 0xadd") "add".toList := .inl (by decide)
  exact ⟨typed,
    (resolve?_ladder adders).2.2.2 ⟨"add", ⟨0x1300⟩, 0x10, none⟩ (by decide) (by decide)
      (by decide) typed,
    marked, (resolve?_ladder adders).2.1 _ _ marked _ _⟩

end Destination

end AsmView
