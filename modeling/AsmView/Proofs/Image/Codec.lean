/-
# An image is read back from its text

Every part of an image has its written form and its reader, and the reader finds the part
in the form.  Members that were left out come back as absent, and all others as what they
were, so the text of an image denotes that image and no other.
-/
import Mathlib.Data.List.Forall2
import AsmView.Image.Codec
import AsmView.Proofs.Json.Reader

namespace AsmView

open Json Json.Reader

/-- A written address is read back, whatever depth is left. -/
theorem Address.decodes (a : Address) (depth : Nat) : Decodes (Address.read depth) (.text a.text) a := by
  intro level blanks rest blank delimited
  rw [Value.chars_text]
  have text : Takes (loose (depth + 1))
      (blanks ++ '"' :: (a.text.toList.flatMap escapedChar ++ '"' :: rest)) rest (.text a.text) := by
    rw [loose]
    refine .bind (takes_peekValue blank rfl _) ?_
    exact .bind (takes_advance _ _) (.bind (takes_stringRest a.text rest) (.pure _ _))
  refine .bind text ?_
  dsimp only
  rw [a.parse_text]
  exact .pure a rest

theorem Section.decodes (s : Section) : Decodes Section.read s.encode s := by
  have fills : Fills Section.shape.members {}
      [("name", .text s.name), ("start", .text s.start.text), ("size", .count s.size.toNat),
        ("perms", .text s.perms)]
      ⟨some s.name, some s.start, some s.size, some s.perms⟩ := by
    refine .member rfl rfl ((decodes_string s.name).map _) ?_
    refine .member rfl rfl ((s.start.decodes 124).map _) ?_
    refine .member rfl rfl ((decodes_count64 s.size).map _) ?_
    refine .member rfl rfl ((decodes_string s.perms).map _) ?_
    exact .nothing _
  exact fills.decodes rfl

/-- A member that may be left out fills the draft with what it holds, or leaves it absent.
The draft is given by what it has of the member. -/
theorem fills_optional {α δ : Type} {members : List (Member δ)} {m : Member δ} {key : String}
    {encode : α → Value} {f : Option (Option α) → δ}
    (known : members.find? (·.name = key) = some m) (unset : m.isSet (f none) = false)
    (read : ∀ a, Decodes (m.read (f none)) (encode a) (f (some (some a)))) (a? : Option α) :
    Fills members (f none) (optionalMember key encode a?) (f (a?.map some)) := by
  cases a? with
  | none => exact .nothing _
  | some a => exact .member known unset (read a) (.nothing _)

theorem join_map_some {α : Type} (a? : Option α) : (a?.map some).join = a? := by
  cases a? <;> rfl

theorem Instruction.decodes (i : Instruction) : Decodes Instruction.read i.encode i := by
  let d (target? : Option (Option Address)) (comment? description? : Option (Option String)) :
      Instruction.Draft :=
    ⟨some i.address, some i.bytes, some i.text, target?, comment?, description?⟩
  have required : Fills Instruction.shape.members {}
      [("address", .text i.address.text), ("bytes", .text i.bytes), ("text", .text i.text)]
      (d none none none) := by
    refine .member rfl rfl ((i.address.decodes 122).map _) ?_
    refine .member rfl rfl ((decodes_string i.bytes).map _) ?_
    refine .member rfl rfl ((decodes_string i.text).map _) ?_
    exact .nothing _
  have target : Fills Instruction.shape.members (d none none none)
      (optionalMember "target" (fun a : Address => .text a.text) i.target)
      (d (i.target.map some) none none) :=
    fills_optional (f := fun t => d t none none) rfl rfl
      (fun a => (a.decodes 122).nullable.map _) i.target
  have comment : Fills Instruction.shape.members (d (i.target.map some) none none)
      (optionalMember "comment" .text i.comment)
      (d (i.target.map some) (i.comment.map some) none) :=
    fills_optional (f := fun c => d (i.target.map some) c none) rfl rfl
      (fun c => (decodes_string c).nullable.map _) i.comment
  have description : Fills Instruction.shape.members
      (d (i.target.map some) (i.comment.map some) none)
      (optionalMember "description" .text i.description)
      (d (i.target.map some) (i.comment.map some) (i.description.map some)) :=
    fills_optional (f := fun c => d (i.target.map some) (i.comment.map some) c) rfl rfl
      (fun c => (decodes_string c).nullable.map _) i.description
  have finish : Instruction.shape.finish
      (d (i.target.map some) (i.comment.map some) (i.description.map some)) = .ok i := by
    simp [Instruction.shape, d, join_map_some]
  exact (((required.append target).append comment).append description).decodes finish

/-- The list of the parts that a reader finds in their forms. -/
theorem decodes_list_map {α : Type} {r : Reader α} {encode : α → Value}
    (h : ∀ a, Decodes r (encode a) a) (as : List α) :
    Decodes (list r) (.list (as.map encode)) as :=
  decodes_list (List.forall₂_map_left_iff.mpr (List.forall₂_same.mpr fun a _ => h a))

theorem Routine.decodes (f : Routine) : Decodes Routine.read f.encode f := by
  have fills : Fills Routine.shape.members {}
      [("name", .text f.name), ("decompiled", .text f.decompiled), ("graph", .text f.graph),
        ("instructions", .list (f.instructions.map Instruction.encode))]
      ⟨some f.name, some f.decompiled, some f.graph, some f.instructions⟩ := by
    refine .member rfl rfl ((decodes_string f.name).map _) ?_
    refine .member rfl rfl ((decodes_string f.decompiled).map _) ?_
    refine .member rfl rfl ((decodes_string f.graph).map _) ?_
    refine .member rfl rfl ((decodes_list_map Instruction.decodes f.instructions).map _) ?_
    exact .nothing _
  exact fills.decodes rfl

namespace Image

theorem decodes (img : Image) : Decodes Image.read img.encode img := by
  have name : Fills shape.members {} [("name", .text img.name)] ⟨some img.name, none, none, none⟩ :=
    .member rfl rfl ((decodes_string img.name).map _) (.nothing _)
  have entry : Fills shape.members ⟨some img.name, none, none, none⟩
      (optionalMember "entry" (fun a : Address => .text a.text) img.entry)
      ⟨some img.name, img.entry.map some, none, none⟩ :=
    fills_optional (f := fun e => (⟨some img.name, e, none, none⟩ : Draft)) rfl rfl
      (fun a => (a.decodes 126).nullable.map _) img.entry
  have lists : Fills shape.members ⟨some img.name, img.entry.map some, none, none⟩
      [("sections", .list (img.sections.map Section.encode)),
        ("functions", .list (img.routines.map Routine.encode))]
      ⟨some img.name, img.entry.map some, some img.sections, some img.routines⟩ := by
    refine .member rfl rfl ((decodes_list_map Section.decodes img.sections).map _) ?_
    exact .member rfl rfl ((decodes_list_map Routine.decodes img.routines).map _) (.nothing _)
  have finish : shape.finish
      ⟨some img.name, img.entry.map some, some img.sections, some img.routines⟩ = .ok img := by
    simp [shape, join_map_some]
  exact ((name.append entry).append lists).decodes finish

/-- The text of an image denotes it. -/
theorem parse_fileText (img : Image) : parse img.fileText = .ok img := by
  have holds : img.fileText.toList = img.encode.chars 0 ++ ['\n'] := by
    simp [fileText, Value.pretty]
  exact run_of_decodes img.decodes holds (blank_lineBreak 0) (.newline [])

end Image

end AsmView
