import TreePattern.Proofs.Document.Order

/-!
# What a builder builds

Any list of steps builds something: steps may leave where no element is open, and may stop before
every element is left. `Forest.ofSteps` is the forest such a list stands for, read off the steps
alone. A builder is never told how its steps go on, so it cannot know that forest; it patches one
link at a time. At the end its document is the layout of the forest all the same.

* `Forest.exists_spelled_levels`: the forests that steps stand for, level by level, have the same
  steps again, up to elements that are not left.
* `Forest.ofSteps_steps_append`, `Forest.ofSteps_leave`, `Forest.ofSteps_enter_steps`: a forest that
  is built first comes first, to leave where nothing is open does nothing, and an element that is
  not left is closed at the end.
* `Document.ofSteps_eq_layout`: a builder lays out the forest of its steps.
* `Document.ofSteps_in_document_order`: the nodes, their links and the walk along the links.
-/

namespace TreePattern

open Document (Step Builder)

/-! ### The forest of a list of steps -/

namespace Forest

/-- One forest, and another behind it. -/
def append : Forest → Forest → Forest
  | nil, G => G
  | text s rest, G => text s (rest.append G)
  | element name inner rest, G => element name inner (rest.append G)

/-- What steps stand for, level by level: the forest on the level where the steps begin, and the
forest that follows each time they leave for the next level out. -/
def levels : List Step → Forest × List Forest
  | [] => (nil, [])
  | .text s :: steps =>
    match levels steps with
    | (rest, outer) => (text s rest, outer)
  | .leave :: steps =>
    match levels steps with
    | (rest, outer) => (nil, rest :: outer)
  | .enter name :: steps =>
    match levels steps with
    | (inner, []) => (element name inner nil, [])
    | (inner, rest :: outer) => (element name inner rest, outer)

/-- The forest that steps stand for. There is no level outside the top level, so what follows once
they leave it is on the top level again. -/
def ofSteps (steps : List Step) : Forest :=
  match levels steps with
  | (first, outer) => (first :: outer).foldr append nil

@[simp] theorem append_nil : ∀ F : Forest, F.append nil = F
  | nil => rfl
  | text s rest => congrArg (text s) rest.append_nil
  | element name inner rest => congrArg (element name inner) rest.append_nil

theorem append_assoc : ∀ F G H : Forest, (F.append G).append H = F.append (G.append H)
  | nil, _, _ => rfl
  | text s rest, G, H => congrArg (text s) (rest.append_assoc G H)
  | element name inner rest, G, H => congrArg (element name inner) (rest.append_assoc G H)

@[simp] theorem steps_append : ∀ F G : Forest, (F.append G).steps = F.steps ++ G.steps
  | nil, _ => rfl
  | text s rest, G => congrArg (Step.text s :: ·) (rest.steps_append G)
  | element name inner rest, G => by
    rw [append, steps, steps, rest.steps_append, List.cons_append, List.append_assoc,
      List.cons_append]

/-- The forest on the first level begins with any forest that is built first. -/
theorem levels_append : ∀ (F : Forest) (steps : List Step),
    levels (F.steps ++ steps) = (F.append (levels steps).1, (levels steps).2)
  | nil, _ => rfl
  | text s rest, later => by
    rw [steps, List.cons_append, levels, rest.levels_append]
    rfl
  | element name inner rest, later => by
    rw [steps, List.cons_append, List.append_assoc, List.cons_append, levels,
      inner.levels_append, levels, rest.levels_append]
    exact congrArg (fun I => (element name I _, _)) inner.append_nil

/-- A forest that is built first comes first. -/
theorem ofSteps_steps_append (F : Forest) (steps : List Step) :
    ofSteps (F.steps ++ steps) = F.append (ofSteps steps) := by
  rw [ofSteps, levels_append]
  exact append_assoc _ _ _

/-- To leave where no element is open does nothing. -/
theorem ofSteps_leave (steps : List Step) : ofSteps (.leave :: steps) = ofSteps steps := rfl

/-- An element that is not left is closed at the end. -/
theorem ofSteps_enter_steps (name : String) (F : Forest) :
    ofSteps (.enter name :: F.steps) = element name F nil := by
  rw [ofSteps, levels, ← List.append_nil F.steps, levels_append]
  exact congrArg (element name · nil) F.append_nil

example :
    ofSteps [.leave, .enter "ul", .text "one", .leave, .leave, .enter "p", .text "two"] =
      element "ul" (text "one" nil) (element "p" (text "two" nil) nil) := rfl

/-- The steps of forests level by level. -/
def spelled : Forest × List Forest → List Step
  | (first, outer) => first.steps ++ outer.flatMap fun F => .leave :: F.steps

/-- The forests that steps stand for have the same steps, but leave every element at the end. -/
theorem exists_spelled_levels : ∀ steps : List Step,
    ∃ k, spelled (levels steps) = steps ++ List.replicate k .leave
  | [] => ⟨0, rfl⟩
  | .text s :: steps => by
    obtain ⟨k, hk⟩ := exists_spelled_levels steps
    exact ⟨k, congrArg (Step.text s :: ·) hk⟩
  | .leave :: steps => by
    obtain ⟨k, hk⟩ := exists_spelled_levels steps
    exact ⟨k, congrArg (Step.leave :: ·) hk⟩
  | .enter name :: later => by
    obtain ⟨k, hk⟩ := exists_spelled_levels later
    rcases hl : levels later with ⟨inner, _ | ⟨rest, outer⟩⟩
    · -- the element is not left by these steps, so it is one more to leave at the end
      have inside : inner.steps = later ++ List.replicate k .leave := by
        rw [hl] at hk
        simpa [spelled] using hk
      refine ⟨k + 1, ?_⟩
      simp [levels, hl, spelled, steps, inside, List.replicate_succ']
    · have inside : inner.steps ++ .leave :: (rest.steps ++ outer.flatMap fun F => .leave :: F.steps)
          = later ++ List.replicate k .leave := by
        rw [hl] at hk
        simpa [spelled] using hk
      refine ⟨k, ?_⟩
      simp [levels, hl, spelled, steps, inside]

end Forest

/-! ### What a builder makes of the steps -/

namespace Document

namespace Builder

/-- Leaving adds no node. -/
@[simp] theorem document_leave (b : Builder) : b.leave.document = b.document := by
  unfold leave
  split <;> rfl

/-- Leaving does nothing where no element is open. -/
theorem leave_of_pending_eq_nil {b : Builder} (h : b.pending = []) : b.leave = b := by
  unfold leave
  rw [h]

/-- The elements that are still open at the end need not be left. -/
theorem document_run_replicate_leave (k : Nat) :
    ∀ b : Builder, (b.run (List.replicate k .leave)).document = b.document := by
  induction k with
  | zero =>
    intro b
    rfl
  | succ k ih =>
    intro b
    exact (ih b.leave).trans b.document_leave

/-- Where no element is open, the forests behind steps that leave go on from one another. -/
theorem run_flatMap_leave (outer : List Forest) :
    ∀ {b : Builder}, b.pending = [] →
      b.run (outer.flatMap fun F => .leave :: F.steps) =
        b.run (outer.foldr Forest.append .nil).steps := by
  induction outer with
  | nil =>
    intro b _
    rfl
  | cons F outer ih =>
    intro b h
    have closed : (b.run F.steps).pending = [] := (F.run_steps b).pending.trans h
    have left : b.run (.leave :: F.steps) = b.run F.steps :=
      congrArg (run · F.steps) (leave_of_pending_eq_nil h)
    rw [List.flatMap_cons, List.foldr_cons, Forest.steps_append, Forest.run_append,
      Forest.run_append, left]
    exact ih closed

end Builder

/-- A builder lays out the forest of its steps. -/
theorem ofSteps_eq_layout (steps : List Step) : ofSteps steps = (Forest.ofSteps steps).layout := by
  obtain ⟨k, hk⟩ := Forest.exists_spelled_levels steps
  rcases hl : Forest.levels steps with ⟨first, outer⟩
  have top : (Builder.new.run first.steps).pending = [] := (first.run_steps .new).pending
  have run : Builder.new.run (steps ++ List.replicate k .leave) =
      Builder.new.run (Forest.ofSteps steps).steps := by
    rw [← hk, Forest.ofSteps, hl]
    change Builder.new.run (first.steps ++ _) = Builder.new.run (first.append _).steps
    rw [Forest.run_append, Builder.run_flatMap_leave outer top, Forest.steps_append,
      Forest.run_append]
  calc ofSteps steps
      = (Builder.new.run (steps ++ List.replicate k .leave)).document := by
        rw [Forest.run_append, Builder.document_run_replicate_leave]
        rfl
    _ = ofSteps (Forest.ofSteps steps).steps := by
        rw [run]
        rfl
    _ = (Forest.ofSteps steps).layout := ofSteps_steps _

/-- A builder lays out the forest of its steps in document order, whatever the steps are. There is
one line for each node; the first child of an element with content comes right behind it, the next
sibling of a node comes right behind what is inside the node, and the forest begins with the first
line. Every link leads to a line, and the walk along the links meets every node once, in order. -/
theorem ofSteps_in_document_order (steps : List Step) :
    (ofSteps steps).size = (Forest.ofSteps steps).preorder.length ∧
    (∀ (i : Nat) s rest, (Forest.ofSteps steps).preorder[i]? = some (.text s rest) →
      (ofSteps steps).entries[i]? =
        some ⟨.text s, none, if rest = .nil then none else some (i + 1)⟩) ∧
    (∀ (i : Nat) name inner rest,
      (Forest.ofSteps steps).preorder[i]? = some (.element name inner rest) →
      (ofSteps steps).entries[i]? =
        some ⟨.element name, if inner = .nil then none else some (i + 1),
          if rest = .nil then none else some (i + 1 + inner.size)⟩) ∧
    (ofSteps steps).root = (if Forest.ofSteps steps = .nil then none else some 0) ∧
    (∀ (i : Nat) e j, (ofSteps steps).entries[i]? = some e → e.child = some j ∨ e.next = some j →
      j < (ofSteps steps).size) ∧
    (ofSteps steps).tree.visit (ofSteps steps).rootNode = (ofSteps steps).nodes := by
  rw [ofSteps_eq_layout]
  refine ⟨?_, ?_, ?_, ?_, ?_, visit_layout _⟩
  · rw [size_layout, Forest.length_preorder]
  · intro i s rest h
    rw [Forest.getElem?_layout h, Forest.entries, List.head?_cons, Forest.link_eq_ite]
  · intro i name inner rest h
    rw [Forest.getElem?_layout h, Forest.entries, List.head?_cons, Forest.link_eq_ite,
      Forest.link_eq_ite]
  · exact Forest.link_eq_ite _ 0
  · intro i e j he hj
    exact ((Forest.ofSteps steps).layout.forward i e j he hj).2

end Document

end TreePattern
