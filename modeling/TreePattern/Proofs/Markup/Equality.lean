import TreePattern.Proofs.Document.Building
import TreePattern.Proofs.Markup.Page

/-!
# Equal documents

Documents are compared line by line, numbers and links included. For documents that come of reading
or building this says no more than a walk along the links can see: each of them is the layout of the
forest it stands for (`Document.Made.layout_forest`), so there are no lines that the walk does not
meet and no two ways to keep one forest. How a document was made leaves no trace in it.

* `Document.Made.beq_iff_forest_eq`: documents that were made are equal exactly if they stand for
  the same forest.
* `Document.ofSteps_leave_between`: to leave where no element is open, or at the end, makes no
  difference.
* `Document.made_beq_iff`: all of this, with the comparison line by line.
-/

namespace TreePattern

namespace Document

/-- The documents that can be made: from markup, from the markup of a body, or step by step. -/
inductive Made : Document → Prop where
  /-- Read from markup. -/
  | ofMarkup {m : String} {d : Document} (h : ofMarkup m = .ok d) : Made d
  /-- Read from the markup of a body. -/
  | ofBodyMarkup {m : String} {d : Document} (h : ofBodyMarkup m = .ok d) : Made d
  /-- Built by a list of steps. -/
  | ofSteps (steps : List Step) : Made (ofSteps steps)

variable {a b d : Document}

/-- A document that was made is the layout of a forest. -/
theorem Made.exists_eq_layout (h : d.Made) : ∃ F : Forest, d = F.layout := by
  cases h with
  | ofMarkup h =>
    obtain ⟨F, -, rfl⟩ := exists_spells_of_ofMarkup h
    exact ⟨F.visible, rfl⟩
  | @ofBodyMarkup m d h =>
    rw [ofBodyMarkup_eq_map] at h
    cases hm : Document.ofMarkup m with
    | error e =>
      rw [hm] at h
      cases h
    | ok body =>
      rw [hm] at h
      cases h
      obtain ⟨F, -, rfl⟩ := exists_spells_of_ofMarkup hm
      refine ⟨.element "html" (.element "body" F.visible .nil) .nil, ?_⟩
      rw [Forest.layout_element, Forest.layout_element]
  | ofSteps steps => exact ⟨_, ofSteps_eq_layout steps⟩

/-- It is the layout of the forest that is read off it. -/
theorem Made.layout_forest (h : d.Made) : d.forest.layout = d := by
  obtain ⟨F, rfl⟩ := h.exists_eq_layout
  rw [forest_layout]

/-- Documents that were made are equal exactly if they stand for the same forest. -/
theorem Made.beq_iff_forest_eq (ha : a.Made) (hb : b.Made) :
    (a == b) = true ↔ a.forest = b.forest := by
  rw [beq_iff_eq]
  constructor
  · exact congrArg forest
  · intro h
    rw [← ha.layout_forest, h, hb.layout_forest]

/-- Documents are equal exactly if their tables are the same and begin with the same node. -/
theorem beq_iff_entries_eq : (a == b) = true ↔ a.entries = b.entries ∧ a.root = b.root := by
  rw [beq_iff_eq]
  constructor
  · rintro rfl
    exact ⟨rfl, rfl⟩
  · rintro ⟨entries, root⟩
    exact ext_entries entries root

/-- To leave where no element is open, or at the end, makes no difference. -/
theorem ofSteps_leave_between (F : Forest) (steps : List Step) (k : Nat) :
    ofSteps (F.steps ++ .leave :: steps ++ List.replicate k .leave) =
      ofSteps (F.steps ++ steps) := by
  have closed : ofSteps (F.steps ++ .leave :: steps ++ List.replicate k .leave) =
      ofSteps (F.steps ++ .leave :: steps) := by
    rw [ofSteps, Forest.run_append]
    exact Builder.document_run_replicate_leave k _
  rw [closed, ofSteps_eq_layout, ofSteps_eq_layout, Forest.ofSteps_steps_append,
    Forest.ofSteps_steps_append, Forest.ofSteps_leave]

/-- Documents that were read or built are compared by their tables, and this comes to the same as
comparing the forests that a walk along their links meets. So it does not show how a document was
made: it equals the one built by the steps of its forest, and steps that leave more often than
elements are open, or not at the end, build the same. -/
theorem made_beq_iff (ha : a.Made) (hb : b.Made) :
    ((a == b) = true ↔ a.entries = b.entries ∧ a.root = b.root) ∧
    ((a == b) = true ↔ a.forest = b.forest) ∧
    (a == ofSteps a.forest.steps) = true ∧
    ∀ (F : Forest) (steps : List Step) (k : Nat),
      (ofSteps (F.steps ++ .leave :: steps ++ List.replicate k .leave) ==
        ofSteps (F.steps ++ steps)) = true := by
  refine ⟨beq_iff_entries_eq, ha.beq_iff_forest_eq hb, ?_, ?_⟩
  · rw [beq_iff_eq, ofSteps_steps, ha.layout_forest]
  · intro F steps k
    rw [beq_iff_eq]
    exact ofSteps_leave_between F steps k

/-- A paragraph that is read and one that is built, with an element left that is not open and one
that is open not left. A paragraph with the text behind it is another document. -/
theorem made_beq_iff_paragraph :
    ∃ d, ofMarkup "<p>x</p>" = .ok d ∧
      (d == ofSteps [.leave, .enter "p", .text "x"]) = true ∧
      (d == ofSteps [.enter "p", .leave, .text "x"]) = false := by
  have same := made_beq_iff (.ofMarkup ofMarkup_paragraph)
    (.ofSteps [.leave, .enter "p", .text "x"])
  have other := made_beq_iff (.ofMarkup ofMarkup_paragraph)
    (.ofSteps [.enter "p", .leave, .text "x"])
  refine ⟨_, ofMarkup_paragraph, same.2.1.2 ?_, Bool.eq_false_iff.2 fun h => ?_⟩
  · rw [forest_layout, ofSteps_eq_layout, forest_layout]
    rfl
  · have h := other.2.1.1 h
    rw [forest_layout, ofSteps_eq_layout, forest_layout] at h
    cases h

end Document

end TreePattern
