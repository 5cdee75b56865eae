import TreePattern.Document.Builder
import TreePattern.Proofs.Match.Nesting

/-!
# Comparing tags with a tree, slot by slot

A pattern made of tags alone says nothing but names and shape, so matching it can be described
without any walk. Lay the pattern over the tree: every slot of the pattern comes to lie beside a
position of the tree. In document order these slots are a list, `Tree.slots`, and each of them
agrees or does not, by itself. The matcher hands outcomes up through every enclosing tag, but what
it answers is what the first slot says that does not agree.

* `Tree.firstDisagreement_tag`: below an element of its name, a tag is compared first with the
  children and then with the siblings.
* `ComesTo.of_onlyTags`: a pattern of tags comes to what its first disagreement says, if any.
* `Matcher.run_compares_slots`: what this means for runs.
-/

namespace TreePattern

/-- All constructs of the pattern are tags, those of the nested patterns and of the continuations
too. -/
inductive Pattern.OnlyTags : Pattern → Prop where
  | absent : OnlyTags .absent
  | tag {name : String} {child next : Pattern} (hc : OnlyTags child) (hn : OnlyTags next) :
      OnlyTags (.node (.tag name) child next)

/-- A slot of a pattern, and the position of the tree that lies beside it. -/
structure Slot (ν : Type) where
  /-- What the pattern has there. -/
  pattern : Pattern
  /-- The node that the tree has there, if any. -/
  position : Option ν

section slots

variable {ν : Type} (t : Tree ν)

namespace Slot

/-- Whether both sides agree: nothing on either, or a tag on the one and an element of its name on
the other. -/
def agrees : Slot ν → Bool
  | ⟨.absent, none⟩ => true
  | ⟨.node (.tag name) _ _, some n⟩ => t.tag n == some name
  | _ => false

/-- What a comparison comes to when this is the first slot that does not agree: a node over which
the pattern has nothing is left over, and otherwise there is no match. -/
def verdict : Slot ν → Verdict ν
  | ⟨.absent, some n⟩ => .leftover n
  | _ => .noMatch

/-- A slot that does not agree is no fit. -/
theorem isMatch_verdict (slot : Slot ν) : slot.verdict.isMatch = false := by
  unfold verdict
  split <;> rfl

/-- Where a slot does not agree, the answer is no fit. -/
theorem replay_verdict_ne (slot : Slot ν) (p : Pattern) (chain : Chain) {value : Option String}
    {c : Chain} : slot.verdict.replay p chain ≠ .ok (.matched value, c) := by
  unfold verdict
  split <;> nofun

theorem verdict_of_pattern_ne {slot : Slot ν} (h : slot.pattern ≠ .absent) :
    slot.verdict = .noMatch := by
  obtain ⟨_ | _, position⟩ := slot
  · exact absurd rfl h
  · rfl

end Slot

namespace Tree

/-- The slots of a pattern beside the positions of the tree, in document order: a node of the
pattern, then what lies in its slot for a nested pattern, then what lies in that for a continuation.
Where the tree has no node it has none below or behind it either. -/
def slots : Pattern → Option ν → List (Slot ν)
  | .absent, position => [⟨.absent, position⟩]
  | .node construct child next, position =>
    ⟨.node construct child next, position⟩ ::
      (slots child (position.bind t.child) ++ slots next (position.bind t.next))

/-- The first slot that does not agree. -/
def firstDisagreement (p : Pattern) (position : Option ν) : Option (Slot ν) :=
  (t.slots p position).find? fun slot => !slot.agrees t

variable {t} {p child next : Pattern} {position : Option ν} {name : String}

theorem firstDisagreement_eq_none :
    t.firstDisagreement p position = none ↔ ∀ slot ∈ t.slots p position, slot.agrees t = true := by
  unfold firstDisagreement
  simp

/-- The first slot that does not agree stands behind slots that do. -/
theorem firstDisagreement_of_split {before after : List (Slot ν)} {slot : Slot ν}
    (h : t.slots p position = before ++ slot :: after)
    (hb : ∀ s ∈ before, s.agrees t = true) (hs : slot.agrees t = false) :
    t.firstDisagreement p position = some slot := by
  unfold firstDisagreement
  rw [h, List.find?_append, List.find?_eq_none.2 (by simpa using hb)]
  simp [hs]

/-- A tag does not agree where there is no element of its name. -/
theorem firstDisagreement_tag_other (ht : ∀ n, position = some n → t.tag n ≠ some name) :
    t.firstDisagreement (.node (.tag name) child next) position =
      some ⟨.node (.tag name) child next, position⟩ := by
  unfold firstDisagreement slots
  apply List.find?_cons_of_pos
  cases position with
  | none => rfl
  | some n => simp [Slot.agrees, ht n rfl]

/-- Below an element of its name, a tag is compared first with the children and then with the
siblings. -/
theorem firstDisagreement_tag {n : ν} (ht : t.tag n = some name) :
    t.firstDisagreement (.node (.tag name) child next) (some n) =
      (t.firstDisagreement child (t.child n)).or (t.firstDisagreement next (t.next n)) := by
  have here : (⟨.node (.tag name) child next, some n⟩ : Slot ν).agrees t = true := by
    simp [Slot.agrees, ht]
  unfold firstDisagreement
  rw [slots, List.find?_cons_of_neg (by simp [here]), List.find?_append]
  rfl

end Tree

/-! ### The verdict on a pattern of tags -/

/-- What comparing a pattern with the tree comes to: a fit if all slots agree, and otherwise what
the first one says that does not. -/
def Tree.comparison (p : Pattern) (position : Option ν) : Verdict ν :=
  match t.firstDisagreement p position with
  | none => .matched none []
  | some slot => slot.verdict

variable {t} {limit depth : Nat} {p : Pattern} {position : Option ν}

/-- A pattern of tags comes to what its comparison with the tree comes to. -/
theorem ComesTo.of_onlyTags (hp : p.OnlyTags) (hd : depth + p.nesting ≤ limit) :
    ComesTo t limit p position depth (t.comparison p position) := by
  induction hp generalizing position depth with
  | absent =>
    have hd : depth ≤ limit := hd
    cases position with
    | none => exact .atEnd hd
    | some n => exact .atNode hd
  | @tag name child next _ _ ihc ihn =>
    simp only [Pattern.nesting] at hd
    have here : depth ≤ limit := by omega
    by_cases hother : ∀ n, position = some n → t.tag n ≠ some name
    · unfold Tree.comparison
      rw [Tree.firstDisagreement_tag_other hother]
      exact .tagOther here hother
    · obtain ⟨n, rfl, ht⟩ : ∃ n, position = some n ∧ t.tag n = some name := by
        simpa using hother
      have inside : ComesTo t limit child (t.child n) (depth + 1)
          (t.comparison child (t.child n)) := ihc (by omega)
      have behind : ComesTo t limit next (t.next n) depth (t.comparison next (t.next n)) :=
        ihn (by omega)
      unfold Tree.comparison at inside behind ⊢
      rw [Tree.firstDisagreement_tag ht]
      cases hc : t.firstDisagreement child (t.child n) with
      | some slot =>
        rw [hc] at inside
        exact .tagChild here ht inside slot.isMatch_verdict
      | none =>
        rw [hc] at inside
        rw [Option.none_or]
        cases hn : t.firstDisagreement next (t.next n) with
        | some slot =>
          rw [hn] at behind
          exact .tagNext here ht inside behind slot.isMatch_verdict
        | none =>
          rw [hn] at behind
          exact .tagFits here ht inside behind

/-- Tags push no frames. -/
theorem Pattern.OnlyTags.pushes_eq_zero (hp : p.OnlyTags) : p.pushes = 0 := by
  induction hp with
  | absent => rfl
  | tag _ _ ihc _ => exact ihc

end slots

/-! ### Runs -/

namespace Matcher

variable {ν : Type} {m : Matcher} {t : Tree ν} {p : Pattern} {position : Option ν} {chain : Chain}

/-- A matcher that allows for the nesting of a pattern of tags compares it with the tree slot by
slot. If all slots agree, and only then, the pattern fits, with no text and no capture. If one does
not, the first such slot decides: a node is left over if the pattern has nothing there, and if it
has a tag there is no match. -/
theorem run_compares_slots (hp : p.OnlyTags) (hd : p.nesting ≤ m.maxDepth) :
    ((∃ value c, m.run t p position chain = .ok (.matched value, c)) ↔
      ∀ slot ∈ t.slots p position, slot.agrees t = true) ∧
    ((∀ slot ∈ t.slots p position, slot.agrees t = true) →
      m.run t p position chain = .ok (.matched none, chain)) ∧
    ∀ before slot after, t.slots p position = before ++ slot :: after →
      (∀ s ∈ before, s.agrees t = true) → slot.agrees t = false →
      (∀ n, slot.pattern = .absent → slot.position = some n →
        m.run t p position chain = .ok (.leftover n, chain)) ∧
      (slot.pattern ≠ .absent → m.run t p position chain = .ok (.noMatch, chain)) := by
  have compared : ComesTo t m.maxDepth p position 0 (t.comparison p position) :=
    .of_onlyTags hp (by omega)
  have run_eq : m.run t p position chain = (t.comparison p position).replay p chain :=
    compared.walk_eq chain
  unfold Tree.comparison at run_eq
  have fits : (∀ slot ∈ t.slots p position, slot.agrees t = true) →
      m.run t p position chain = .ok (.matched none, chain) := by
    intro h
    rw [run_eq, Tree.firstDisagreement_eq_none.2 h]
    dsimp only [Verdict.replay]
    rw [hp.pushes_eq_zero]
    rfl
  refine ⟨⟨?_, fun h => ⟨none, chain, fits h⟩⟩, fits, ?_⟩
  · rintro ⟨value, c, h⟩
    apply Tree.firstDisagreement_eq_none.1
    cases hf : t.firstDisagreement p position with
    | none => rfl
    | some slot =>
      rw [run_eq, hf] at h
      exact absurd h (slot.replay_verdict_ne p chain)
  · intro before slot after split hb hs
    rw [run_eq, Tree.firstDisagreement_of_split split hb hs]
    constructor
    · obtain ⟨pattern, position⟩ := slot
      rintro n rfl rfl
      rfl
    · intro h
      dsimp only
      rw [Slot.verdict_of_pattern_ne h]
      rfl

/-- The pattern has one item in the list where the document has two. -/
theorem run_compares_slots_second_item :
    let d := Document.ofSteps [.enter "ul", .enter "li", .leave, .enter "li"]
    let item := Pattern.node (.tag "li") .absent .absent
    let p := Pattern.node (.tag "ul") item .absent
    p.OnlyTags ∧ p.nesting ≤ (Matcher.mk 2).maxDepth ∧
      ∃ n, n.val = 2 ∧ (Matcher.mk 2).run d.tree p d.rootNode .new = .ok (.leftover n, .new) := by
  intro d item p
  have hp : p.OnlyTags := .tag (.tag .absent .absent) .absent
  have hd : p.nesting ≤ (Matcher.mk 2).maxDepth := by decide
  have split : d.tree.slots p d.rootNode =
      [⟨p, d.rootNode⟩, ⟨item, d.node? 1⟩, ⟨.absent, none⟩] ++
        ⟨.absent, d.node? 2⟩ :: [⟨.absent, none⟩] := rfl
  have first : ∀ n, Pattern.absent = .absent → d.node? 2 = some n →
      (Matcher.mk 2).run d.tree p d.rootNode .new = .ok (.leftover n, .new) :=
    ((run_compares_slots hp hd).2.2 _ _ _ split (by simp [Slot.agrees]; decide) rfl).1
  exact ⟨hp, hd, ⟨2, by decide⟩, rfl, first _ rfl rfl⟩

end Matcher

end TreePattern
