import TreePattern.Document.Basic

/-!
# Building documents

A document is built in document order by opening elements, adding texts and closing elements. All
that has to be remembered is the place where the next node goes, and for each open element the
place to go on from once it is closed. Closing with nothing open does nothing, and elements still
open at the end are closed there.

* `Document.append`: a new node is numbered last, and one link is set to lead to it.
* `Document.Builder.run`: the builder after a list of steps.
-/

namespace TreePattern

namespace Document

/-- A place in a document where a node can be put. -/
inductive Place where
  /-- As the first top-level node. -/
  | first
  /-- As the first child of an element. -/
  | below (parent : Nat)
  /-- As the next sibling of a node. -/
  | after (sibling : Nat)
  deriving DecidableEq

/-- The table in which the link that belongs to a place leads to `target`. -/
def relink (entries : Array Entry) (place : Place) (target : Nat) : Array Entry :=
  match place with
  | .first => entries
  | .below parent => entries.modify parent fun e => { e with child := some target }
  | .after sibling => entries.modify sibling fun e => { e with next := some target }

@[simp] theorem size_relink (entries : Array Entry) (place : Place) (target : Nat) :
    (relink entries place target).size = entries.size := by
  cases place <;> simp [relink]

/-- Every link of a relinked table is an old one or leads to the target. -/
theorem link_of_relink {entries : Array Entry} {place : Place} {target i j : Nat} {e : Entry}
    (he : (relink entries place target)[i]? = some e) (hj : e.child = some j ∨ e.next = some j) :
    i < entries.size ∧
      (j = target ∨ ∃ e', entries[i]? = some e' ∧ (e'.child = some j ∨ e'.next = some j)) := by
  have hi : i < entries.size := by
    have := (Array.getElem?_eq_some_iff.1 he).1
    simpa using this
  refine ⟨hi, ?_⟩
  cases place with
  | first => exact .inr ⟨e, he, hj⟩
  | below p =>
    simp only [relink, Array.getElem?_modify] at he
    split at he
    · obtain ⟨e', he', rfl⟩ := Option.map_eq_some_iff.1 he
      rcases hj with hj | hj
      · exact .inl (Option.some.inj hj).symm
      · exact .inr ⟨e', he', .inr hj⟩
    · exact .inr ⟨e, he, hj⟩
  | after p =>
    simp only [relink, Array.getElem?_modify] at he
    split at he
    · obtain ⟨e', he', rfl⟩ := Option.map_eq_some_iff.1 he
      rcases hj with hj | hj
      · exact .inr ⟨e', he', .inl hj⟩
      · exact .inl (Option.some.inj hj).symm
    · exact .inr ⟨e, he, hj⟩

/-- Puts a new node at a place; its number is the number of nodes there were. -/
def append (d : Document) (place : Place) (content : Content) : Document where
  entries := (relink d.entries place d.entries.size).push ⟨content, none, none⟩
  root := match place with
    | .first => some d.entries.size
    | _ => d.root
  forward := by
    intro i e j he hj
    rw [Array.getElem?_push] at he
    split at he
    · simp only [Option.some.injEq] at he
      subst he
      simp at hj
    · obtain ⟨hi, hj⟩ := link_of_relink he hj
      simp only [Array.size_push, size_relink]
      rcases hj with rfl | ⟨e', he', hj⟩
      · exact ⟨hi, Nat.lt_succ_self _⟩
      · have := d.forward i e' j he' hj
        exact ⟨this.1, Nat.lt_succ_of_lt this.2⟩
  root_lt := by
    intro j hj
    simp only [Array.size_push, size_relink]
    cases place with
    | first => simp only [Option.some.injEq] at hj; omega
    | below _ => exact Nat.lt_succ_of_lt (d.root_lt j hj)
    | after _ => exact Nat.lt_succ_of_lt (d.root_lt j hj)

/-- A document under construction. -/
structure Builder where
  /-- The nodes so far. -/
  document : Document
  /-- Where the next node goes. -/
  place : Place
  /-- Where to go on once the open elements are closed, the innermost element first. -/
  pending : List Place

/-- One step of building a document. -/
inductive Step where
  /-- Starts an element; what follows goes into it. -/
  | enter (name : String)
  /-- Adds a text. -/
  | text (text : String)
  /-- Ends the innermost open element. -/
  | leave
  deriving DecidableEq

namespace Builder

/-- Nothing built yet. -/
def new : Builder := ⟨.empty, .first, []⟩

instance : Inhabited Builder := ⟨new⟩

/-- Adds an element and makes it the parent of what follows. -/
def enter (b : Builder) (name : String) : Builder :=
  let id := b.document.size
  ⟨b.document.append b.place (.element name), .below id, .after id :: b.pending⟩

/-- Adds a text. -/
def text (b : Builder) (text : String) : Builder :=
  let id := b.document.size
  ⟨b.document.append b.place (.text text), .after id, b.pending⟩

/-- Closes the innermost open element; with nothing open it does nothing. -/
def leave (b : Builder) : Builder :=
  match b.pending with
  | [] => b
  | place :: pending => ⟨b.document, place, pending⟩

/-- Ends the construction; elements still open end here. -/
def finish (b : Builder) : Document := b.document

/-- Does one step. -/
def step (b : Builder) : Step → Builder
  | .enter name => b.enter name
  | .text s => b.text s
  | .leave => b.leave

/-- Does a list of steps in order. -/
def run (b : Builder) (steps : List Step) : Builder := steps.foldl step b

end Builder

/-- The document that a list of steps builds. -/
def ofSteps (steps : List Step) : Document := (Builder.new.run steps).finish

end Document

end TreePattern
