import TreePattern.Proofs.Document.Building
import TreePattern.Proofs.Markup.Page

/-!
# Joining markup

Markup can be cut where a tag begins and no element is open, and the parts be read apart. Reading
the first part leaves no name to be closed and no text that could go on, so the second part is read
as it would be alone, only onto a builder that has the first document on it. Of that document a
single line still changes: its last top-level node gets a next sibling (`Document.followedBy`).

* `Forest.layout_append`: laying out one forest behind another puts the second layout behind the
  first.
* `Document.readMarkup_append`: behind the markup of a forest, markup is read as it is alone, and an
  error is as much further on.
* `Document.ofMarkup_append`: what this means for documents and for errors.
-/

namespace TreePattern

/-- The same error in markup that has this many more bytes in front. -/
def MarkupError.further (k : Nat) : MarkupError → MarkupError
  | unreadable offset => unreadable (k + offset)

/-! ### One document behind another -/

namespace Document

/-- The last top-level node. -/
def lastTop (d : Document) : Option d.Node := (d.tree.siblings d.rootNode).getLast?

/-- The table in which `target` is the next sibling of the last top-level node, if there is one. -/
def linkLast (d : Document) (target : Option Nat) : Array Entry :=
  match d.lastTop with
  | none => d.entries
  | some n => d.entries.modify n fun line => { line with next := target }

theorem size_linkLast (d : Document) (target : Option Nat) : (d.linkLast target).size = d.size := by
  unfold linkLast
  split
  · rfl
  · exact Array.size_modify

/-- Every link of the table is an old one or leads to the target. -/
theorem link_of_linkLast {d : Document} {target : Option Nat} {i j : Nat} {line : Entry}
    (hl : (d.linkLast target)[i]? = some line) (hj : line.child = some j ∨ line.next = some j) :
    target = some j ∨
      ∃ old, d.entries[i]? = some old ∧ (old.child = some j ∨ old.next = some j) := by
  unfold linkLast at hl
  split at hl
  · exact .inr ⟨line, hl, hj⟩
  · rw [Array.getElem?_modify] at hl
    split at hl
    · obtain ⟨old, hold, rfl⟩ := Option.map_eq_some_iff.1 hl
      rcases hj with hj | hj
      · exact .inr ⟨old, hold, .inl hj⟩
      · exact .inl hj
    · exact .inr ⟨line, hl, hj⟩

/-- The document with the nodes of `e` behind those of `d`, with shifted numbers and links; the last
top-level node of `d` is followed by the first of `e`. -/
def followedBy (d e : Document) : Document where
  entries := d.linkLast (e.root.map (· + d.size)) ++ e.entries.map (Entry.shift d.size)
  root := d.root.or (e.root.map (· + d.size))
  forward := by
    intro i line j hl hj
    rw [Array.size_append, size_linkLast, Array.size_map]
    rw [Array.getElem?_append, size_linkLast] at hl
    split at hl
    · rename_i hi
      rcases link_of_linkLast hl hj with target | ⟨old, hold, hj⟩
      · obtain ⟨r, hr, rfl⟩ := Option.map_eq_some_iff.1 target
        have := e.root_lt r hr
        omega
      · have := d.forward i old j hold hj
        have : d.size = d.entries.size := rfl
        omega
    · rw [Array.getElem?_map] at hl
      obtain ⟨old, hold, rfl⟩ := Option.map_eq_some_iff.1 hl
      obtain ⟨k, rfl, hk⟩ := Entry.link_of_shift hj
      have := e.forward _ old k hold hk
      omega
  root_lt := by
    intro j hj
    rw [Array.size_append, size_linkLast, Array.size_map]
    rcases Option.or_eq_some_iff.1 hj with hj | ⟨-, hj⟩
    · exact Nat.lt_add_right _ (d.root_lt j hj)
    · obtain ⟨r, hr, rfl⟩ := Option.map_eq_some_iff.1 hj
      have := e.root_lt r hr
      omega

end Document

/-! ### One forest behind another -/

namespace Forest

open Document (Entry)

/-- The number of the last top-level node, where nodes are numbered from zero. -/
def lastTop : Forest → Option Nat
  | nil => none
  | text _ rest => some ((rest.lastTop.map (· + 1)).getD 0)
  | element _ inner rest => some ((rest.lastTop.map (· + (1 + inner.size))).getD 0)

/-- The lines in which `target` is the next sibling of one of them, if one is named. -/
def setNext (target : Option Nat) (lines : List Entry) : Option Nat → List Entry
  | none => lines
  | some i => lines.modify i fun line => { line with next := target }

@[simp] theorem setNext_zero (target : Option Nat) (line : Entry) (lines : List Entry) :
    setNext target (line :: lines) (some 0) = { line with next := target } :: lines := rfl

@[simp] theorem setNext_succ (target : Option Nat) (line : Entry) (lines : List Entry) (i : Nat) :
    setNext target (line :: lines) (some (i + 1)) = line :: setNext target lines (some i) := rfl

/-- Lines in front of a numbered one move it further back. -/
theorem setNext_add (target : Option Nat) (front lines : List Entry) (i : Nat) :
    setNext target (front ++ lines) (some (i + front.length)) =
      front ++ setNext target lines (some i) := by
  induction front with
  | nil => rfl
  | cons line front ih =>
    rw [List.cons_append, List.length_cons, ← Nat.add_assoc, setNext_succ, ih, List.cons_append]

/-- A forest with a last top-level node begins where it began with others behind it. -/
theorem link_append_of_lastTop {F : Forest} {i : Nat} (h : F.lastTop = some i) (G : Forest)
    (start : Nat) : (F.append G).link start = F.link start := by
  cases F with
  | nil => cases h
  | text | element => rfl

/-- Only the empty forest has no last top-level node. -/
theorem eq_nil_of_lastTop {F : Forest} (h : F.lastTop = none) : F = nil := by
  cases F with
  | nil => rfl
  | text | element => cases h

/-- The last top-level node of a forest is followed by the first node of the forest put behind it,
whose lines come behind all others. -/
theorem entries_append : ∀ (F G : Forest) (start : Nat),
    (F.append G).entries start =
      setNext (G.link (start + F.size)) (F.entries start) F.lastTop ++ G.entries (start + F.size)
  | nil, _, _ => rfl
  | text s rest, G, start => by
    have behind := rest.entries_append G (start + 1)
    have place : start + (text s rest).size = start + 1 + rest.size := by
      rw [size]
      omega
    rw [append, entries, behind, entries, place, lastTop]
    cases hl : rest.lastTop with
    | none =>
      obtain rfl := eq_nil_of_lastTop hl
      rfl
    | some i =>
      rw [link_append_of_lastTop hl]
      rfl
  | element name inner rest, G, start => by
    have behind := rest.entries_append G (start + 1 + inner.size)
    have place : start + (element name inner rest).size = start + 1 + inner.size + rest.size := by
      rw [size]
      omega
    rw [append, entries, behind, entries, place, lastTop]
    cases hl : rest.lastTop with
    | none =>
      obtain rfl := eq_nil_of_lastTop hl
      simp [append, entries, setNext, size]
    | some i =>
      have moved := setNext_add (G.link (start + 1 + inner.size + rest.size))
        (inner.entries (start + 1)) (rest.entries (start + 1 + inner.size)) i
      rw [length_entries] at moved
      rw [link_append_of_lastTop hl, Option.map_some, Option.getD_some, Nat.add_comm 1,
        ← Nat.add_assoc, setNext_succ, moved, List.cons_append, List.append_assoc]

end Forest

namespace Document

variable {d : Document}

/-- The last of a node and those behind it, where the others are numbered from further on. -/
theorem getLast?_cons_of_behind {n : d.Node} {nodes : List d.Node} {last : Option Nat} {k : Nat}
    (h : nodes.getLast?.map Fin.val = last.map (n.val + k + ·)) :
    (n :: nodes).getLast?.map Fin.val = some (n.val + (last.map (· + k)).getD 0) := by
  rw [List.getLast?_cons]
  cases last with
  | none =>
    rw [Option.map_eq_none_iff.1 h]
    rfl
  | some i =>
    obtain ⟨m, hm, hi⟩ := Option.map_eq_some_iff.1 h
    rw [hm, Option.getD_some, Option.map_some, Option.map_some, Option.getD_some, hi]
    exact congrArg some (show n.val + k + i = n.val + (i + k) by omega)

/-- The last sibling on the level of a forest that a table holds. -/
theorem Holds.getLast?_siblings : ∀ {F : Forest} {start : Nat}, d.Holds start F →
    (d.tree.siblings (d.begin start F)).getLast?.map Fin.val = F.lastTop.map (start + ·)
  | .nil, _, _ => rfl
  | .text s rest, _, h => by
    obtain ⟨n, rfl, begins, -, -, next, behind⟩ := h.text
    rw [begins, Tree.siblings_some, next]
    exact getLast?_cons_of_behind behind.getLast?_siblings
  | .element name inner rest, _, h => by
    obtain ⟨n, rfl, begins, -, -, -, next, behind⟩ := h.element
    rw [begins, Tree.siblings_some, next]
    rw [Nat.add_assoc] at behind ⊢
    exact getLast?_cons_of_behind behind.getLast?_siblings

/-- The last top-level node of a layout is that of the forest. -/
theorem lastTop_layout (F : Forest) : F.layout.lastTop.map Fin.val = F.lastTop := by
  have last := (holds_layout F).getLast?_siblings
  simp only [Nat.zero_add, Option.map_id'] at last
  exact last

/-- The lines of a table with the last top-level node linked to another. -/
theorem toList_linkLast (d : Document) (target : Option Nat) :
    (d.linkLast target).toList =
      Forest.setNext target d.entries.toList (d.lastTop.map Fin.val) := by
  unfold linkLast
  cases d.lastTop with
  | none => rfl
  | some n => exact Array.toList_modify

/-- Laying out one forest behind another puts the second layout behind the first. -/
theorem layout_append (F G : Forest) : (F.append G).layout = F.layout.followedBy G.layout := by
  have shifted : G.layout.root.map (· + F.layout.size) = G.link F.size := by
    have moved := G.link_add F.size 0
    rw [Nat.zero_add] at moved
    rw [size_layout, moved]
    rfl
  have lines := G.entries_add F.size 0
  rw [Nat.zero_add] at lines
  refine ext_entries (Array.ext' ?_) ?_
  · change (F.append G).entries 0 = (F.layout.linkLast _ ++ _).toList
    rw [Array.toList_append, toList_linkLast, lastTop_layout, shifted, Forest.entries_append,
      Nat.zero_add, Array.toList_map, lines, size_layout]
    rfl
  · change (F.append G).link 0 = (F.link 0).or _
    rw [shifted]
    cases F with
    | nil => rfl
    | text | element => rfl

/-! ### Reading joined markup -/

open Token (EndsText IsName)

variable {a b : String} {F : Forest}

/-- Reading never fails beyond the markup. -/
theorem byteLength_le_of_readOnto {m : String} {rest : List Char} {opened : List String}
    {builder : Builder} (h : readOnto m.toList opened builder = .error rest) :
    byteLength rest ≤ m.utf8ByteSize := by
  obtain ⟨w, -, -, hm, -⟩ := exists_splits_of_readOnto h
  have same : m = String.ofList w ++ String.ofList rest := by
    rw [← String.ofList_append, ← hm, String.ofList_toList]
  rw [same, String.utf8ByteSize_append, byteLength]
  exact Nat.le_add_left _ _

/-- Behind the markup of a forest, markup is read as it is alone, onto the builder with the forest
planted, and an error is as much further on. -/
theorem readMarkup_append (ha : Forest.Spells a.toList F) (hb : EndsText b.toList)
    (builder : Builder) :
    readMarkup (a ++ b) builder =
      (readMarkup b (builder.plant F)).mapError (MarkupError.further a.utf8ByteSize) := by
  have read := readOnto_append ha hb [] builder
  unfold readMarkup
  rw [String.toList_append, read]
  cases hr : readOnto b.toList [] (builder.plant F) with
  | ok b' => rfl
  | error rest =>
    have := byteLength_le_of_readOnto hr
    refine congrArg (fun o => Except.error (MarkupError.unreadable o)) ?_
    rw [String.utf8ByteSize_append]
    omega

/-- Planting one forest behind another on nothing lays out the second behind the first. -/
theorem finish_plant_plant_new (F G : Forest) :
    ((Builder.new.plant F).plant G).finish = F.visible.layout.followedBy G.visible.layout := by
  rw [Builder.plant, Builder.plant, ← Forest.run_append, ← Forest.steps_append, ← layout_append]
  exact ofSteps_steps _

/-- Markup that can be read is read by itself when a tag or nothing stands behind it. If what stands
behind can be read as well, its nodes come behind, all numbers and links shifted by the number of
nodes in front; of these only the last top-level node changes, whose next sibling is the first node
behind, and if there are none the document begins with what is behind. If what stands behind goes
wrong, it does so at the same byte, counted from further on. -/
theorem ofMarkup_append {d : Document} (ha : ofMarkup a = .ok d)
    (hb : b = "" ∨ b.toList.head? = some '<') :
    (∀ e, ofMarkup b = .ok e → ofMarkup (a ++ b) = .ok (d.followedBy e)) ∧
    ∀ o, ofMarkup b = .error (.unreadable o) →
      ofMarkup (a ++ b) = .error (.unreadable (a.utf8ByteSize + o)) := by
  have ends : EndsText b.toList := by
    rcases hb with rfl | hb
    · exact Token.endsText_nil
    · intro c hc
      rw [hb] at hc
      exact (Option.some.inj hc).symm
  obtain ⟨F, hF, rfl⟩ := exists_spells_of_ofMarkup ha
  have joined := readMarkup_append hF ends .new
  constructor
  · intro e he
    obtain ⟨G, hG, rfl⟩ := exists_spells_of_ofMarkup he
    rw [readMarkup_eq_ok_iff.2 ⟨G, hG, rfl⟩] at joined
    rw [ofMarkup, joined]
    exact congrArg Except.ok (finish_plant_plant_new F G)
  · intro o ho
    -- the error is the same whatever is on the builder
    rw [readMarkup_eq_error_iff.2 (ofMarkup_eq_error_iff.1 ho)] at joined
    rw [ofMarkup, joined]
    rfl

/-- An element behind another becomes its next sibling; a closing tag there has nothing to close. -/
theorem ofMarkup_append_behind_paragraph :
    ∃ d e, ofMarkup "<p>x</p>" = .ok d ∧ ofMarkup "<q/>" = .ok e ∧
      ofMarkup ("<p>x</p>" ++ "<q/>") = .ok (d.followedBy e) ∧
      (d.followedBy e).entries.toList =
        [⟨.element "p", some 1, some 2⟩, ⟨.text "x", none, none⟩, ⟨.element "q", none, none⟩] ∧
      ofMarkup "</p>" = .error (.unreadable 0) ∧
      ofMarkup ("<p>x</p>" ++ "</p>") = .error (.unreadable 8) := by
  have p : IsName "p".toList := ⟨by decide, by simp [Token.isNameChar]⟩
  have q : IsName "q".toList := ⟨by decide, by simp [Token.isNameChar]⟩
  have single : Token.Spells ('<' :: ("q".toList ++ [] ++ ['/', '>'])) (.single "q") :=
    .single q (by simp [Token.IsBlanks])
  have behind := ofMarkup_of_spells (m := "<q/>") (.single single .nil)
  have offends : Offends [] (("</" ++ "p" ++ ">").toList ++ []) :=
    .wrongStop (Token.spells_stopTag p) (by simp)
  have failed : ofMarkup "</p>" = .error (.unreadable 0) :=
    ofMarkup_eq_error_iff.2 ⟨"", "</p>", [], rfl, rfl, ⟨[], .nil, rfl⟩, .inr offends⟩
  have joined := ofMarkup_append (b := "<q/>") ofMarkup_paragraph (.inr rfl)
  have stopped := ofMarkup_append (b := "</p>") ofMarkup_paragraph (.inr rfl)
  refine ⟨_, _, ofMarkup_paragraph, behind, joined.1 _ behind, ?_, failed, stopped.2 0 failed⟩
  rw [← layout_append]
  rfl

end Document

end TreePattern
