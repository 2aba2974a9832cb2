/-
# The graph of a function is its control flow

A graph is made from the instructions of a function in two rounds.  The first collects the
addresses where a block begins, from three sources: the entry, whatever stands behind a jump
or an exit, and the targets of jumps inside the function.  The second goes through the
instructions again and writes down what leads from block to block, by conditions of its own:
a jump leads to its target, and an instruction that goes on leads to the next one if a block
begins there.

`FlowGraph.FlowOf` says of a graph what it has to do with a function, without the two rounds:
an address is held by the greatest node at or below it, and the edges are exactly what
`FlowGraph.Leads` allows.  The second condition of the second round is the one that needs an
argument.  That a block begins at the next instruction is the same as that this instruction
is not held by the block of the one in front of it, since no node lies between the two
(`mem_blockStarts_iff_not_holds`).

The graph is given as text, and the text tells the graph: `FlowGraph.text_injective`.
-/
import AsmView.Proofs.Loaded.Accepted

namespace AsmView

open Text

/-! ## What a control-flow graph is -/

namespace Routine

/-- The instruction is a jump to a place in the function. -/
structure JumpsTo (f : Routine) (i : Instruction) (t : Address) : Prop where
  jump : i.isJump = true
  target : i.target = some t
  inside : f.contains t = true

/-- One instruction of the function stands right behind another. -/
def Successive (f : Routine) (i j : Instruction) : Prop :=
  [i, j] <:+: f.instructions

end Routine

/-- A graph of blocks: the addresses where they begin, and what leads from a block to the
beginning of another. -/
structure FlowGraph where
  nodes : List Address
  edges : List (Address × Address)

namespace FlowGraph

/-- The block that begins at `n` holds the address: `n` is the greatest node at or below
it. -/
structure Holds (g : FlowGraph) (n a : Address) : Prop where
  node : n ∈ g.nodes
  below : n ≤ a
  greatest : ∀ m ∈ g.nodes, m ≤ a → m ≤ n

/-- How control gets from the block that begins at `n` to an address: by a jump of the block,
or from an instruction of the block that is neither an exit nor `jmp` to the next one, when
the block does not hold that. -/
inductive Leads (f : Routine) (g : FlowGraph) (n : Address) : Address → Prop
  | jump {i : Instruction} {t : Address} (listed : i ∈ f.instructions)
      (here : g.Holds n i.address) (jumps : f.JumpsTo i t) : Leads f g n t
  | fall {i j : Instruction} (next : f.Successive i j) (here : g.Holds n i.address)
      (stays : i.isExit = false) (conditional : i.mnemonic ≠ "jmp")
      (leaves : ¬ g.Holds n j.address) : Leads f g n j.address

/-- The graph is the control flow of the function. -/
structure FlowOf (g : FlowGraph) (f : Routine) : Prop where
  ascending : g.nodes.Pairwise (· < ·)
  entry : ∃ a ∈ g.nodes, f.start? = some a
  placed : ∀ n ∈ g.nodes, ∃ i ∈ f.instructions, i.address = n
  assigned : ∀ i ∈ f.instructions, ∃! n, g.Holds n i.address
  /-- A jump or an exit is the last instruction of its block. -/
  closes : ∀ i ∈ f.instructions, (i.isJump = true ∨ i.isExit = true) →
    ∀ n, g.Holds n i.address → ∀ j ∈ f.instructions, g.Holds n j.address → j.address ≤ i.address
  edges : ∀ m n, (m, n) ∈ g.edges ↔ Leads f g m n
  declared : ∀ m n, (m, n) ∈ g.edges → m ∈ g.nodes ∧ n ∈ g.nodes

/-- No two blocks hold one address. -/
theorem Holds.unique {g : FlowGraph} {m n a : Address} (h : g.Holds m a) (h' : g.Holds n a) :
    m = n :=
  Address.toNat_injective (Nat.le_antisymm (h'.greatest m h.node h.below)
    (h.greatest n h'.node h'.below))

/-! ## The text of a graph -/

/-- The line that declares a node. -/
def nodeLine (a : Address) : String :=
  s!"  \"{a}\";\n"

/-- The line of an edge. -/
def edgeLine (e : Address × Address) : String :=
  s!"  \"{e.1}\" -> \"{e.2}\";\n"

/-- The graph as text, under a name. -/
def text (name : String) (g : FlowGraph) : String :=
  s!"digraph \"{name}\" \x7b\n" ++ String.join (g.nodes.map nodeLine) ++
    String.join (g.edges.map edgeLine) ++ "\x7d"

theorem toList_nodeLine (a : Address) :
    (nodeLine a).toList = [' ', ' ', '"'] ++ a.chars ++ '"' :: [';', '\n'] := by
  simp [nodeLine, toString, Address.text]

theorem toList_edgeLine (e : Address × Address) :
    (edgeLine e).toList =
      [' ', ' ', '"'] ++ e.1.chars ++ '"' :: ([' ', '-', '>', ' ', '"'] ++ e.2.chars ++
        '"' :: [';', '\n']) := by
  simp [edgeLine, toString, Address.text]

end FlowGraph

namespace Address

theorem quote_not_mem_chars (a : Address) : '"' ∉ a.chars := by
  intro h
  rcases List.mem_cons.mp h with zero | h
  · exact absurd zero (by decide)
  · rcases List.mem_cons.mp h with marker | h
    · exact absurd marker (by decide)
    · obtain ⟨d, hd, quote⟩ := mem_hexPadded h
      have digit := (digitChar_hex hd).1
      rw [← quote] at digit
      exact absurd digit (by decide)

theorem chars_injective {a b : Address} (h : a.chars = b.chars) : a = b := by
  have same : addressInWord? a.chars = addressInWord? b.chars := congrArg _ h
  rw [addressInWord?_chars, addressInWord?_chars] at same
  exact Option.some.inj same

end Address

namespace Text

/-- Texts in front of a mark that is in neither of them are told apart from what follows. -/
theorem append_mark_inj {m : Char} {xs ys : List Char} (hx : m ∉ xs) (hy : m ∉ ys)
    {cs ds : List Char} (h : xs ++ m :: cs = ys ++ m :: ds) : xs = ys ∧ cs = ds := by
  induction xs generalizing ys with
  | nil =>
      cases ys with
      | nil => exact ⟨rfl, (List.cons.inj h).2⟩
      | cons y ys => exact absurd (List.cons.inj h).1 (List.ne_of_not_mem_cons hy)
  | cons x xs ih =>
      cases ys with
      | nil => exact absurd (List.cons.inj h).1.symm (List.ne_of_not_mem_cons hx)
      | cons y ys =>
          obtain ⟨rfl, rest⟩ := List.cons.inj h
          obtain ⟨rfl, same⟩ := ih (List.not_mem_of_not_mem_cons hx)
            (List.not_mem_of_not_mem_cons hy) rest
          exact ⟨rfl, same⟩

end Text

namespace FlowGraph

/-- A quoted address is told apart from what follows. -/
theorem quoted_inj {a b : Address} {cs ds : List Char}
    (h : a.chars ++ '"' :: cs = b.chars ++ '"' :: ds) : a = b ∧ cs = ds := by
  obtain ⟨same, rest⟩ := append_mark_inj a.quote_not_mem_chars b.quote_not_mem_chars h
  exact ⟨Address.chars_injective same, rest⟩

/-- The characters of the lines of edges, and the brace behind them. -/
def edgeChars (es : List (Address × Address)) : List Char :=
  es.flatMap (fun e => (edgeLine e).toList) ++ ['\x7d']

/-- The characters of the lines of nodes, and what stands behind them. -/
def nodeChars (as : List Address) (rest : List Char) : List Char :=
  as.flatMap (fun a => (nodeLine a).toList) ++ rest

theorem edgeChars_cons (e : Address × Address) (es : List (Address × Address)) :
    edgeChars (e :: es) =
      ' ' :: ' ' :: '"' :: (e.1.chars ++ '"' :: ' ' :: '-' :: '>' :: ' ' :: '"' ::
        (e.2.chars ++ '"' :: ';' :: '\n' :: edgeChars es)) := by
  simp [edgeChars, toList_edgeLine]

theorem nodeChars_cons (a : Address) (as : List Address) (rest : List Char) :
    nodeChars (a :: as) rest =
      ' ' :: ' ' :: '"' :: (a.chars ++ '"' :: ';' :: '\n' :: nodeChars as rest) := by
  simp [nodeChars, toList_nodeLine]

theorem edgeChars_injective {es fs : List (Address × Address)}
    (h : edgeChars es = edgeChars fs) : es = fs := by
  induction es generalizing fs with
  | nil =>
      cases fs with
      | nil => rfl
      | cons f fs =>
          rw [edgeChars_cons] at h
          exact absurd (List.cons.inj h).1 (by decide)
  | cons e es ih =>
      cases fs with
      | nil =>
          rw [edgeChars_cons] at h
          exact absurd (List.cons.inj h).1 (by decide)
      | cons f fs =>
          rw [edgeChars_cons, edgeChars_cons] at h
          simp only [List.cons.injEq, true_and] at h
          obtain ⟨first, h⟩ := quoted_inj h
          simp only [List.cons.injEq, true_and] at h
          obtain ⟨second, h⟩ := quoted_inj h
          simp only [List.cons.injEq, true_and] at h
          rw [Prod.ext first second, ih h]

/-- The line of a node goes on with a semicolon where that of an edge has a blank. -/
theorem edgeChars_ne_nodeChars (a : Address) (as : List Address) (rest : List Char)
    (es : List (Address × Address)) : edgeChars es ≠ nodeChars (a :: as) rest := by
  intro h
  rw [nodeChars_cons] at h
  cases es with
  | nil => exact absurd (List.cons.inj h).1 (by decide)
  | cons e es =>
      rw [edgeChars_cons] at h
      simp only [List.cons.injEq, true_and] at h
      obtain ⟨-, h⟩ := quoted_inj h
      exact absurd (List.cons.inj h).1 (by decide)

theorem nodeChars_injective {as bs : List Address} {es fs : List (Address × Address)}
    (h : nodeChars as (edgeChars es) = nodeChars bs (edgeChars fs)) : as = bs ∧ es = fs := by
  induction as generalizing bs with
  | nil =>
      cases bs with
      | nil => exact ⟨rfl, edgeChars_injective h⟩
      | cons b bs => exact absurd h (edgeChars_ne_nodeChars b bs _ es)
  | cons a as ih =>
      cases bs with
      | nil => exact absurd h.symm (edgeChars_ne_nodeChars a as _ fs)
      | cons b bs =>
          rw [nodeChars_cons, nodeChars_cons] at h
          simp only [List.cons.injEq, true_and] at h
          obtain ⟨first, h⟩ := quoted_inj h
          simp only [List.cons.injEq, true_and] at h
          obtain ⟨others, edges⟩ := ih h
          exact ⟨by rw [first, others], edges⟩

/-- Under one name, a text is that of one graph only. -/
theorem text_injective {name : String} {g h : FlowGraph} (same : g.text name = h.text name) :
    g = h := by
  have split : ∀ k : FlowGraph, (k.text name).toList =
      (s!"digraph \"{name}\" \x7b\n").toList ++ nodeChars k.nodes (edgeChars k.edges) := by
    intro k
    simp [text, nodeChars, edgeChars, List.flatMap_map, List.append_assoc]
  have chars := congrArg String.toList same
  rw [split, split] at chars
  obtain ⟨nodes, edges⟩ := nodeChars_injective (List.append_cancel_left chars)
  obtain ⟨_, _⟩ := g
  obtain ⟨_, _⟩ := h
  exact congrArg₂ FlowGraph.mk nodes edges

end FlowGraph

/-! ## The nodes -/

namespace Routine

variable {f : Routine}

theorem mem_insertAddress {a b : Address} {s : List Address} :
    b ∈ insertAddress a s ↔ b = a ∨ b ∈ s := by
  induction s with
  | nil => simp [insertAddress]
  | cons c cs ih =>
      simp only [insertAddress]
      split
      · simp
      · split
        · simp only [List.mem_cons, ih, or_left_comm]
        · rename_i above below
          have same : a = c := Address.toNat_injective
            (Nat.le_antisymm (Nat.le_of_not_lt below) (Nat.le_of_not_lt above))
          simp [same]

theorem pairwise_insertAddress {a : Address} {s : List Address} (sorted : s.Pairwise (· < ·)) :
    (insertAddress a s).Pairwise (· < ·) := by
  induction s with
  | nil => simp [insertAddress]
  | cons c cs ih =>
      obtain ⟨first, rest⟩ := List.pairwise_cons.mp sorted
      simp only [insertAddress]
      split
      · rename_i below
        refine List.pairwise_cons.mpr ⟨?_, sorted⟩
        intro b hb
        rcases List.mem_cons.mp hb with rfl | later
        · exact below
        · exact Nat.lt_trans below (first b later)
      · split
        · rename_i above
          refine List.pairwise_cons.mpr ⟨?_, ih rest⟩
          intro b hb
          rcases mem_insertAddress.mp hb with rfl | later
          · exact above
          · exact first b later
        · exact sorted

theorem mem_foldl_insertAddress {as s : List Address} {b : Address} :
    b ∈ as.foldl (fun s a => insertAddress a s) s ↔ b ∈ as ∨ b ∈ s := by
  induction as generalizing s with
  | nil => simp
  | cons a as ih =>
      rw [List.foldl_cons, ih, mem_insertAddress, List.mem_cons, or_left_comm, or_assoc]

theorem pairwise_foldl_insertAddress (as : List Address) {s : List Address}
    (sorted : s.Pairwise (· < ·)) :
    (as.foldl (fun s a => insertAddress a s) s).Pairwise (· < ·) := by
  induction as generalizing s with
  | nil => exact sorted
  | cons a as ih => exact ih (pairwise_insertAddress sorted)

theorem pairwise_blockStarts (f : Routine) : f.blockStarts.Pairwise (· < ·) :=
  pairwise_foldl_insertAddress _ .nil

theorem innerTarget?_eq_some {i : Instruction} {t : Address} :
    f.innerTarget? i = some t ↔ f.JumpsTo i t := by
  unfold innerTarget?
  constructor
  · intro h
    split at h
    · rename_i jump
      obtain ⟨target, inside⟩ := Option.filter_eq_some_iff.mp h
      exact ⟨jump, target, inside⟩
    · exact nomatch h
  · rintro ⟨jump, target, inside⟩
    rw [if_pos jump]
    exact Option.filter_eq_some_iff.mpr ⟨target, inside⟩

/-- Of two instructions one behind the other in a list, either the first stands in front, or
both stand in the rest. -/
theorem pair_infix_cons {i j k : Instruction} {is : List Instruction} :
    [i, j] <:+: k :: is ↔ (i = k ∧ is.head? = some j) ∨ [i, j] <:+: is := by
  rw [List.infix_cons_iff, List.cons_prefix_cons]
  cases is with
  | nil => simp
  | cons l is => simp [eq_comm]

/-- Where a block begins because of some instructions: behind a jump or an exit, and where a
jump leads to. -/
theorem mem_blockStartsFrom {is : List Instruction} {a : Address} :
    a ∈ f.blockStartsFrom is ↔
      (∃ i j, [i, j] <:+: is ∧ (i.isJump = true ∨ i.isExit = true) ∧ j.address = a) ∨
        ∃ i ∈ is, f.JumpsTo i a := by
  induction is with
  | nil => simp [blockStartsFrom]
  | cons k is ih =>
      have behind : a ∈ (if k.isJump || k.isExit then is.head?.toList.map (·.address) else []) ↔
          ∃ j, is.head? = some j ∧ (k.isJump = true ∨ k.isExit = true) ∧ j.address = a := by
        simp only [List.mem_ite_nil_right, Bool.or_eq_true, List.mem_map, Option.mem_toList,
          ← and_assoc, and_comm (a := k.isJump = true ∨ k.isExit = true), exists_and_right]
      simp only [blockStartsFrom, List.mem_append, ih, behind, Option.mem_toList,
        innerTarget?_eq_some, pair_infix_cons, List.mem_cons]
      constructor
      · rintro ((⟨j, head, leaves, place⟩ | jumps) | ⟨i, j, later, leaves, place⟩ | ⟨i, hi, jumps⟩)
        · exact .inl ⟨k, j, .inl ⟨rfl, head⟩, leaves, place⟩
        · exact .inr ⟨k, .inl rfl, jumps⟩
        · exact .inl ⟨i, j, .inr later, leaves, place⟩
        · exact .inr ⟨i, .inr hi, jumps⟩
      · rintro (⟨i, j, ⟨rfl, head⟩ | later, leaves, place⟩ | ⟨i, rfl | hi, jumps⟩)
        · exact .inl (.inl ⟨j, head, leaves, place⟩)
        · exact .inr (.inl ⟨i, j, later, leaves, place⟩)
        · exact .inl (.inr jumps)
        · exact .inr (.inr ⟨i, hi, jumps⟩)

/-- The three sources of nodes. -/
theorem mem_blockStarts {a : Address} :
    a ∈ f.blockStarts ↔ f.start? = some a ∨
      (∃ i j, f.Successive i j ∧ (i.isJump = true ∨ i.isExit = true) ∧ j.address = a) ∨
        ∃ i ∈ f.instructions, f.JumpsTo i a := by
  rw [blockStarts, mem_foldl_insertAddress, List.mem_append, mem_blockStartsFrom,
    Option.mem_toList]
  simp only [List.not_mem_nil, or_false]
  rfl

/-! ## The edges -/

/-- The edges that begin at one instruction, with what stands behind it. -/
def edgesAt (f : Routine) (starts : List Address) (i : Instruction)
    (next? : Option Instruction) : List (Address × Address) :=
  match blockOf? starts i.address with
  | none => []
  | some block =>
    (f.innerTarget? i).toList.map (block, ·) ++
      match next? with
      | some next =>
        if fallsThrough i && starts.contains next.address then [(block, next.address)] else []
      | none => []

theorem edgesFrom_cons (starts : List Address) (i : Instruction) (is : List Instruction) :
    f.edgesFrom starts (i :: is) = f.edgesAt starts i is.head? ++ f.edgesFrom starts is :=
  rfl

theorem mem_edgesAt {starts : List Address} {i : Instruction} {next? : Option Instruction}
    {m n : Address} :
    (m, n) ∈ f.edgesAt starts i next? ↔ blockOf? starts i.address = some m ∧
      (f.JumpsTo i n ∨ ∃ j, next? = some j ∧ fallsThrough i = true ∧ j.address ∈ starts ∧
        j.address = n) := by
  unfold edgesAt
  cases blockOf? starts i.address with
  | none => simp
  | some block =>
      cases next? with
      | none => simp [innerTarget?_eq_some, and_comm]
      | some next =>
          simp only [List.mem_append, List.mem_map, Option.mem_toList, innerTarget?_eq_some,
            List.mem_ite_nil_right, List.mem_singleton, Bool.and_eq_true, List.contains_iff_mem,
            Prod.mk.injEq, Option.some.injEq]
          constructor
          · rintro (⟨t, jumps, rfl, rfl⟩ | ⟨⟨falls, begins⟩, rfl, rfl⟩)
            · exact ⟨rfl, .inl jumps⟩
            · exact ⟨rfl, .inr ⟨next, rfl, falls, begins, rfl⟩⟩
          · rintro ⟨rfl, jumps | ⟨_, rfl, falls, begins, rfl⟩⟩
            · exact .inl ⟨n, jumps, rfl, rfl⟩
            · exact .inr ⟨⟨falls, begins⟩, rfl, rfl⟩

/-- What leads from block to block because of some instructions. -/
theorem mem_edgesFrom {starts : List Address} {is : List Instruction} {m n : Address} :
    (m, n) ∈ f.edgesFrom starts is ↔
      (∃ i ∈ is, blockOf? starts i.address = some m ∧ f.JumpsTo i n) ∨
        ∃ i j, [i, j] <:+: is ∧ blockOf? starts i.address = some m ∧ fallsThrough i = true ∧
          j.address ∈ starts ∧ j.address = n := by
  induction is with
  | nil => simp [edgesFrom]
  | cons k is ih =>
      simp only [edgesFrom_cons, List.mem_append, ih, mem_edgesAt, pair_infix_cons, List.mem_cons]
      constructor
      · rintro (⟨here, jumps | ⟨j, head, falls⟩⟩ | ⟨i, hi, jumps⟩ | ⟨i, j, later, falls⟩)
        · exact .inl ⟨k, .inl rfl, here, jumps⟩
        · exact .inr ⟨k, j, .inl ⟨rfl, head⟩, here, falls⟩
        · exact .inl ⟨i, .inr hi, jumps⟩
        · exact .inr ⟨i, j, .inr later, falls⟩
      · rintro (⟨i, rfl | hi, here, jumps⟩ | ⟨i, j, ⟨rfl, head⟩ | later, here, falls⟩)
        · exact .inl ⟨here, .inl jumps⟩
        · exact .inr (.inl ⟨i, hi, here, jumps⟩)
        · exact .inl ⟨here, .inr ⟨j, head, falls⟩⟩
        · exact .inr (.inr ⟨i, j, later, here, falls⟩)

/-- The graph that is made from the instructions. -/
def flowGraph (f : Routine) : FlowGraph :=
  ⟨f.blockStarts, f.blockEdges⟩

theorem graphText_eq (f : Routine) : f.graphText = f.flowGraph.text f.name :=
  rfl

/-- The block of an address is the one that holds it. -/
theorem blockOf?_eq_some_iff {g : FlowGraph} (sorted : g.nodes.Pairwise (· < ·))
    {n a : Address} : blockOf? g.nodes a = some n ↔ g.Holds n a := by
  have below : (g.nodes.filter (· ≤ a)).Pairwise (· < ·) := sorted.filter _
  have listed : ∀ m, m ∈ g.nodes.filter (· ≤ a) ↔ m ∈ g.nodes ∧ m ≤ a := by simp
  unfold blockOf?
  generalize g.nodes.filter (· ≤ a) = nodes at below listed
  constructor
  · intro last
    obtain ⟨before, rfl⟩ := List.getLast?_eq_some_iff.mp last
    obtain ⟨node, le⟩ := (listed n).mp (by simp)
    refine ⟨node, le, ?_⟩
    intro m hm hle
    rcases List.mem_append.mp ((listed m).mpr ⟨hm, hle⟩) with earlier | here
    · exact Nat.le_of_lt ((List.pairwise_append.mp below).2.2 m earlier n List.mem_cons_self)
    · exact (List.mem_singleton.mp here) ▸ Nat.le_refl _
  · intro holds
    have inside : n ∈ nodes := (listed n).mpr ⟨holds.node, holds.below⟩
    cases tail : nodes.getLast? with
    | none => exact absurd (List.getLast?_eq_none_iff.mp tail) (List.ne_nil_of_mem inside)
    | some last =>
        obtain ⟨before, rfl⟩ := List.getLast?_eq_some_iff.mp tail
        rcases List.mem_append.mp inside with earlier | here
        · have above := (List.pairwise_append.mp below).2.2 n earlier last List.mem_cons_self
          obtain ⟨node, le⟩ := (listed last).mp (by simp)
          exact absurd (holds.greatest last node le) (Nat.not_le.mpr above)
        · rw [List.mem_singleton.mp here]

/-! ## Instructions one behind the other -/

/-- The next instruction stands behind the one in front of it, and none stands between. -/
theorem Ordered.successive (ordered : f.Ordered) {i j : Instruction} (next : f.Successive i j) :
    i ∈ f.instructions ∧ j ∈ f.instructions ∧ i.address < j.address ∧
      ∀ k ∈ f.instructions, k.address < j.address → k.address ≤ i.address := by
  have ascending := ordered.ascending
  obtain ⟨before, after, cut⟩ := next
  rw [← cut] at ascending ⊢
  obtain ⟨front, -, behind⟩ := List.pairwise_append.mp ascending
  obtain ⟨-, pair, cross⟩ := List.pairwise_append.mp front
  have lt : i.address < j.address := (List.pairwise_cons.mp pair).1 j List.mem_cons_self
  refine ⟨by simp, by simp, lt, ?_⟩
  intro k hk less
  simp only [List.mem_append, List.mem_cons, List.not_mem_nil, or_false] at hk
  rcases hk with (earlier | rfl | rfl) | later
  · exact Nat.le_of_lt (cross k earlier i List.mem_cons_self)
  · exact Nat.le_refl _
  · exact absurd less (Nat.lt_irrefl _)
  · exact absurd (Nat.lt_trans less (behind j (by simp) k later)) (Nat.lt_irrefl _)

/-- Behind an instruction that is not the last there is a next one, at or below all later
ones. -/
theorem Ordered.next_of_lt (ordered : f.Ordered) {i k : Instruction} (hi : i ∈ f.instructions)
    (hk : k ∈ f.instructions) (lt : i.address < k.address) :
    ∃ j, f.Successive i j ∧ j.address ≤ k.address := by
  obtain ⟨before, after, cut⟩ := List.append_of_mem hi
  have ascending := ordered.ascending
  rw [cut] at ascending hk
  obtain ⟨-, tail, cross⟩ := List.pairwise_append.mp ascending
  have later : k ∈ after := by
    rcases List.mem_append.mp hk with earlier | here
    · exact absurd (Nat.lt_trans lt (cross k earlier i List.mem_cons_self)) (Nat.lt_irrefl _)
    · rcases List.mem_cons.mp here with rfl | later
      · exact absurd lt (Nat.lt_irrefl _)
      · exact later
  cases after with
  | nil => exact nomatch later
  | cons j rest =>
      refine ⟨j, ⟨before, rest, by simp [cut]⟩, ?_⟩
      rcases List.mem_cons.mp later with rfl | further
      · exact Nat.le_refl _
      · have sorted := (List.pairwise_cons.mp tail).2
        exact Nat.le_of_lt ((List.pairwise_cons.mp sorted).1 k further)

/-! ## The graph is the control flow -/

/-- Jumps inside the function lead to instructions. -/
def Lands (f : Routine) : Prop :=
  ∀ i ∈ f.instructions, ∀ t, f.JumpsTo i t → ∃ j ∈ f.instructions, j.address = t

/-- A block begins at the address of an instruction. -/
theorem placed_of_mem_blockStarts (lands : f.Lands) {n : Address} (hn : n ∈ f.blockStarts) :
    ∃ i ∈ f.instructions, i.address = n := by
  rcases mem_blockStarts.mp hn with entry | ⟨i, j, next, -, place⟩ | ⟨i, hi, jumps⟩
  · obtain ⟨first, head, place⟩ := Option.map_eq_some_iff.mp entry
    exact ⟨first, List.mem_of_head? head, place⟩
  · exact ⟨j, next.subset (by simp), place⟩
  · exact lands i hi n jumps

/-- A block begins at the next instruction exactly when the block of the one in front of it
does not hold it. -/
theorem mem_blockStarts_iff_not_holds (ordered : f.Ordered) (lands : f.Lands)
    {i j : Instruction} (next : f.Successive i j) {n : Address}
    (here : f.flowGraph.Holds n i.address) :
    j.address ∈ f.blockStarts ↔ ¬ f.flowGraph.Holds n j.address := by
  obtain ⟨-, -, lt, between⟩ := ordered.successive next
  constructor
  · intro begins holds
    have le : j.address ≤ n := holds.greatest _ begins (Nat.le_refl _)
    exact absurd (Nat.le_trans le here.below) (Nat.not_le.mpr lt)
  · intro other
    by_contra inside
    refine other ⟨here.node, Nat.le_of_lt (Nat.lt_of_le_of_lt here.below lt), ?_⟩
    intro m hm le
    -- no node lies between the two instructions, and none at the second
    obtain ⟨k, hk, rfl⟩ := placed_of_mem_blockStarts lands hm
    have ne : k.address.toNat ≠ j.address.toNat := fun same =>
      inside (Address.toNat_injective same ▸ hm)
    exact here.greatest _ hm (between k hk (Nat.lt_of_le_of_ne le ne))

/-- Every instruction is held by a block, since none stands in front of the entry. -/
theorem exists_holds (ordered : f.Ordered) {i : Instruction} (hi : i ∈ f.instructions) :
    ∃ n, f.flowGraph.Holds n i.address := by
  obtain ⟨first, head⟩ := exists_first (List.ne_nil_of_mem hi)
  have begins : first.address ∈ f.blockStarts := mem_blockStarts.mpr (.inl (start?_eq head))
  have le : first.address ≤ i.address := ordered.first_le head hi
  cases block : blockOf? f.blockStarts i.address with
  | some n => exact ⟨n, (blockOf?_eq_some_iff f.pairwise_blockStarts).mp block⟩
  | none =>
      have hbelow := List.getLast?_eq_none_iff.mp block
      exact absurd le (by simpa using List.filter_eq_nil_iff.mp hbelow _ begins)

/-- The edges are what the instructions lead to. -/
theorem mem_edges_flowGraph (ordered : f.Ordered) (lands : f.Lands) {m n : Address} :
    (m, n) ∈ f.flowGraph.edges ↔ FlowGraph.Leads f f.flowGraph m n := by
  have block : ∀ {a m : Address}, blockOf? f.blockStarts a = some m ↔ f.flowGraph.Holds m a :=
    blockOf?_eq_some_iff (g := f.flowGraph) f.pairwise_blockStarts
  show (m, n) ∈ f.edgesFrom f.blockStarts f.instructions ↔ _
  rw [mem_edgesFrom]
  constructor
  · rintro (⟨i, hi, here, jumps⟩ | ⟨i, j, next, here, goes_on, begins, rfl⟩)
    · exact .jump hi (block.mp here) jumps
    · simp only [fallsThrough, Bool.and_eq_true, Bool.not_eq_true', decide_eq_true_eq] at goes_on
      exact .fall next (block.mp here) goes_on.1 goes_on.2
        ((mem_blockStarts_iff_not_holds ordered lands next (block.mp here)).mp begins)
  · intro leads
    cases leads with
    | jump listed here jumps => exact .inl ⟨_, listed, block.mpr here, jumps⟩
    | @fall i j next here stays conditional leaves =>
        refine .inr ⟨i, j, next, block.mpr here, ?_, ?_, rfl⟩
        · simp [fallsThrough, stays, conditional]
        · exact (mem_blockStarts_iff_not_holds ordered lands next here).mpr leaves

theorem flowOf_flowGraph (ordered : f.Ordered) (ended : f.stop?.isSome = true)
    (lands : f.Lands) : f.flowGraph.FlowOf f where
  ascending := f.pairwise_blockStarts
  entry := by
    obtain ⟨first, head⟩ := exists_first (ends_of_stop? ended).1
    have start := start?_eq head
    exact ⟨first.address, mem_blockStarts.mpr (.inl start), start⟩
  placed n hn := placed_of_mem_blockStarts lands hn
  assigned i hi := by
    obtain ⟨n, holds⟩ := exists_holds ordered hi
    exact ⟨n, holds, fun m other => other.unique holds⟩
  closes := by
    intro i hi leaves n here j hj there
    by_contra behind
    obtain ⟨k, next, le⟩ := ordered.next_of_lt hi hj (Nat.not_le.mp behind)
    have begins : k.address ∈ f.blockStarts :=
      mem_blockStarts.mpr (.inr (.inl ⟨i, k, next, leaves, rfl⟩))
    have above := (ordered.successive next).2.2.1
    exact absurd (Nat.le_trans (there.greatest _ begins le) here.below) (Nat.not_le.mpr above)
  edges m n := mem_edges_flowGraph ordered lands
  declared m n edge := by
    cases (mem_edges_flowGraph ordered lands).mp edge with
    | jump listed here jumps =>
        exact ⟨here.node, mem_blockStarts.mpr (.inr (.inr ⟨_, listed, jumps⟩))⟩
    | fall next here _ _ leaves =>
        exact ⟨here.node, (mem_blockStarts_iff_not_holds ordered lands next here).mpr leaves⟩

/-- The text that is made from an ordered function with an end, whose jumps inside lead to
instructions, is that of one graph only, and this graph is the control flow of the
function. -/
theorem graphText_isFlow (ordered : f.Ordered) (ended : f.stop?.isSome = true)
    (lands : f.Lands) :
    ∃ g : FlowGraph, (∀ h : FlowGraph, f.graphText = h.text f.name ↔ h = g) ∧ g.FlowOf f := by
  refine ⟨f.flowGraph, ?_, flowOf_flowGraph ordered ended lands⟩
  intro h
  rw [graphText_eq]
  constructor
  · intro same
    exact (FlowGraph.text_injective same).symm
  · rintro rfl
    rfl

/-- A function that jumps over an exit. -/
def fork : Routine where
  name := "fork"
  instructions := [
    { address := ⟨0x1000⟩, bytes := "7501", text := "jne 0x1003", target := some ⟨0x1003⟩ },
    { address := ⟨0x1002⟩, bytes := "c3", text := "ret" },
    { address := ⟨0x1003⟩, bytes := "c3", text := "ret" }]

/-- Its graph has a block for each instruction, and both ways out of the first. -/
theorem graphText_isFlow_fork :
    fork.Ordered ∧ fork.stop?.isSome = true ∧ fork.Lands ∧
      ∃ g : FlowGraph, fork.graphText = g.text "fork" ∧ g.FlowOf fork ∧
        g.nodes = [⟨0x1000⟩, ⟨0x1002⟩, ⟨0x1003⟩] ∧
        g.edges = [(⟨0x1000⟩, ⟨0x1003⟩), (⟨0x1000⟩, ⟨0x1002⟩)] := by
  have ordered : fork.Ordered := by
    unfold Ordered
    decide
  have ended : fork.stop?.isSome = true := by decide
  have lands : fork.Lands := by
    rintro i hi t ⟨jump, target, -⟩
    simp only [fork, List.mem_cons, List.not_mem_nil, or_false] at hi
    rcases hi with rfl | rfl | rfl
    · exact ⟨_, List.mem_of_getElem? (i := 2) rfl, Option.some.inj target⟩
    · exact nomatch target
    · exact nomatch target
  obtain ⟨g, only, flow⟩ := graphText_isFlow ordered ended lands
  obtain rfl : fork.flowGraph = g := (only _).mp (graphText_eq fork)
  exact ⟨ordered, ended, lands, _, graphText_eq fork, flow, by decide, by decide⟩

end Routine

end AsmView
