import TreePattern.Document.Builder
import TreePattern.Proofs.Match.Erasure
import TreePattern.Proofs.Match.Origins
import TreePattern.Proofs.Match.Siblings

/-!
# The first accepted text

A pattern that leads down to a construct for single text nodes, through any number of other
constructs but no tag, hands on a text when it fits. The constructs on the way search for
themselves: one that skips tries what is nested in it from place to place, where another search may
begin at each of them. All this comes down to one look along the siblings, which stops at the first
text that is accepted. Without any skipping only the node at the position is looked at.

* `Pattern.firstText`: the text that is found, by this one look.
* `exists_comesTo_firstText`: a pattern comes to the text that is found, or does not match.
* `Matcher.run_finds_first_text`: what this means for runs; other patterns never hand on a text.
-/

namespace TreePattern

/-- The text of a node, if it is a text node and its text is accepted. -/
def Tree.acceptedText {ν : Type} (t : Tree ν) (accepts : String → Bool) (n : ν) : Option String :=
  (t.shownText n).filter accepts

namespace Construct

/-- Whether a construct skips. -/
def isSkipUntil : Construct → Bool
  | skipUntil => true
  | _ => false

theorem isSkipUntil_iff {construct : Construct} :
    construct.isSkipUntil = true ↔ construct = skipUntil := by
  cases construct <;> simp [isSkipUntil]

-- expressions cannot be compared, so constructs cannot either
instance (constructs : List Construct) : Decidable (skipUntil ∈ constructs) :=
  decidable_of_iff (constructs.any isSkipUntil = true) (by simp [isSkipUntil_iff])

end Construct

namespace Pattern

/-! ### One look along the siblings -/

/-- The constructs on the way down through nested patterns, as far as they are applied to the place
where the pattern is tried. A tag and a construct for single text nodes end the way. -/
def wrappers : Pattern → List Construct
  | absent => []
  | node (.text _) _ _ => []
  | node (.regex _) _ _ => []
  | node (.tag _) _ _ => []
  | node .skipUntil child _ => .skipUntil :: child.wrappers
  | node .repetition child _ => .repetition :: child.wrappers
  | node .scope child _ => .scope :: child.wrappers
  | node (.bind name) child _ => .bind name :: child.wrappers

/-- A limit that allows for the steps on the way down allows for those that are left one level
deeper. -/
theorem allows_wrapped {construct : Construct} {child next : Pattern} {depth limit : Nat}
    (h : (node construct child next).wrappers = construct :: child.wrappers)
    (hd : depth + (node construct child next).wrappers.length ≤ limit) :
    depth + 1 + child.wrappers.length ≤ limit := by
  rw [h, List.length_cons] at hd
  omega

variable {ν : Type} {t : Tree ν} {accepts : String → Bool} {child next : Pattern}
  {position : Option ν} {text : String} {n : ν}

/-- The nodes that a text is looked for at: with skipping on the way down the node at the position
and all siblings behind it, and otherwise the node at the position alone. -/
def candidates (p : Pattern) (t : Tree ν) (position : Option ν) : List ν :=
  if .skipUntil ∈ p.wrappers then t.siblings position else position.toList

/-- The first text among these nodes that is accepted. -/
def firstText (p : Pattern) (t : Tree ν) (accepts : String → Bool) (position : Option ν) :
    Option String :=
  (p.candidates t position).findSome? (t.acceptedText accepts)

/-- A pattern that leads down to a text is not empty. -/
theorem isAbsent_of_leaf? {p : Pattern} {leaf : Construct} (h : p.leaf? = some leaf) :
    p.isAbsent = false := by
  cases p with
  | absent => cases h
  | node => rfl

theorem mem_siblings_of_mem_candidates {p : Pattern} (h : n ∈ p.candidates t position) :
    n ∈ t.siblings position := by
  unfold candidates at h
  split at h
  · exact h
  · obtain rfl := Option.mem_toList.1 h
    rw [Tree.siblings_some]
    exact List.mem_cons_self

/-- A construct for single text nodes looks at the node at the position alone. -/
theorem firstText_of_accepts? {construct : Construct} {accepts' : String → Bool}
    (h : construct.accepts? = some accepts') :
    (node construct child next).firstText t accepts position =
      position.bind (t.acceptedText accepts) := by
  cases construct with
  | text | regex => cases position <;> simp [firstText, candidates, wrappers]
  | _ => cases h

/-- A construct that does not skip looks where the pattern nested in it does. -/
theorem firstText_wrapped {construct : Construct} (hc : construct ≠ .skipUntil)
    (h : (node construct child next).wrappers = construct :: child.wrappers) :
    (node construct child next).firstText t accepts position =
      child.firstText t accepts position := by
  simp [firstText, candidates, h, hc.symm]

/-- Skipping looks along the siblings. -/
theorem firstText_skipUntil : (node .skipUntil child next).firstText t accepts position =
    (t.siblings position).findSome? (t.acceptedText accepts) := by
  rw [firstText, candidates, if_pos]
  exact List.mem_cons_self

/-- Where a look along the siblings finds a text, what is skipped to find it does so too: there is a
first place among them where it finds a text, and this is the same text. -/
theorem exists_place_of_firstText
    (h : (node .skipUntil child next).firstText t accepts position = some text) :
    ∃ before after, t.siblings position = before ++ after ∧
      child.firstText t accepts after.head? = some text ∧
      ∀ n ∈ before, child.firstText t accepts (some n) = none := by
  rw [firstText_skipUntil] at h
  by_cases skips : .skipUntil ∈ child.wrappers
  · -- a search that begins at the first place already goes along all siblings
    refine ⟨[], t.siblings position, rfl, ?_, List.forall_mem_nil _⟩
    rw [Tree.head?_siblings, firstText, candidates, if_pos skips, h]
  · obtain ⟨before, n, after, hs, found, passed⟩ := List.findSome?_eq_some_iff.1 h
    refine ⟨before, n :: after, hs, ?_, fun k hk => ?_⟩
    · simp [firstText, candidates, skips, found]
    · simp [firstText, candidates, skips, passed k hk]

/-- Where a look along the siblings finds no text, what is skipped to find one finds none at any
place. -/
theorem firstText_head?_eq_none {before after : List ν}
    (h : (node .skipUntil child next).firstText t accepts position = none)
    (hs : t.siblings position = before ++ after) :
    child.firstText t accepts after.head? = none := by
  rw [firstText_skipUntil, List.findSome?_eq_none_iff] at h
  refine List.findSome?_eq_none_iff.2 fun n hn => h n ?_
  have among := mem_siblings_of_mem_candidates hn
  rw [Tree.siblings_head? hs] at among
  rw [hs]
  exact List.mem_append_right _ among

end Pattern

/-! ### What a search for a text comes to -/

/-- How a search for a text ends. -/
def Outcome.ofText? {ν : Type} : Option String → Outcome ν
  | some text => .matched (some text)
  | none => .noMatch

section searches

variable {ν : Type} {t : Tree ν} {limit : Nat} {v : Verdict ν} {found : Option String}

theorem Verdict.isFailure_of_outcome_eq_ofText? (h : v.outcome = .ok (.ofText? found)) :
    v.isFailure = found.isNone := by
  cases found <;> cases v <;> first | rfl | cases h

theorem Verdict.tail?_of_outcome_eq_ofText? (h : v.outcome = .ok (.ofText? found)) :
    v.tail? = none := by
  cases found <;> cases v <;> first | rfl | cases h

/-- A construct for single text nodes comes to the text of the node at the position, if this is
accepted. -/
theorem exists_comesTo_leaf_text {construct : Construct} {accepts : String → Bool}
    {child next : Pattern} {depth : Nat} (hd : depth ≤ limit)
    (ha : construct.accepts? = some accepts) (position : Option ν) :
    ∃ v, ComesTo t limit (.node construct child next) position depth v ∧
      v.outcome = .ok (.ofText? (position.bind (t.acceptedText accepts))) := by
  cases hf : position.bind (t.acceptedText accepts) with
  | some text =>
    obtain ⟨n, rfl, hn⟩ := Option.bind_eq_some_iff.1 hf
    obtain ⟨shown, accepted⟩ := Option.filter_eq_some_iff.1 hn
    exact ⟨_, .leafFits hd ha shown accepted, rfl⟩
  | none =>
    refine ⟨_, .leafFails hd ha fun n text hn shown => ?_, rfl⟩
    subst hn
    have := Option.filter_eq_none_iff.1 hf text shown
    exact Bool.eq_false_iff.2 this

/-- A pattern that leads down to a construct for single text nodes comes to the first accepted text
that there is, or does not match. -/
theorem exists_comesTo_firstText {leaf : Construct} {accepts : String → Bool}
    (ha : leaf.accepts? = some accepts) {p : Pattern} (hl : p.leaf? = some leaf) {depth : Nat}
    (hd : depth + p.wrappers.length ≤ limit) (position : Option ν) :
    ∃ v, ComesTo t limit p position depth v ∧
      v.outcome = .ok (.ofText? (p.firstText t accepts position)) := by
  induction p generalizing position depth with
  | absent => cases hl
  | node construct child next ih _ =>
    have here : depth ≤ limit := Nat.le_of_add_right_le hd
    have wrapped (hc : construct ≠ .skipUntil)
        (h : (Pattern.node construct child next).wrappers = construct :: child.wrappers) :
        (Pattern.node construct child next).firstText t accepts position =
          child.firstText t accepts position := Pattern.firstText_wrapped hc h
    cases construct with
    | text | regex =>
      cases hl
      rw [Pattern.firstText_of_accepts? ha]
      exact exists_comesTo_leaf_text here ha position
    | tag => cases hl
    | skipUntil =>
      have inner := ih hl (Pattern.allows_wrapped rfl hd)
      cases hf : (Pattern.node .skipUntil child next).firstText t accepts position with
      | some text =>
        obtain ⟨before, after, hs, first, passed⟩ := Pattern.exists_place_of_firstText hf
        obtain ⟨v, hv, ho⟩ := inner after.head?
        rw [first] at ho
        have earlier : ∀ n ∈ before, FailsAt t limit child (some n) (depth + 1) := by
          intro n hn
          obtain ⟨w, hw, ho⟩ := inner (some n)
          rw [passed n hn] at ho
          exact ⟨w, hw, Verdict.isFailure_of_outcome_eq_ofText? ho⟩
        have stopped := Verdict.isFailure_of_outcome_eq_ofText? ho
        exact ⟨v, .skipUntil_stop here hs earlier hv stopped, ho⟩
      | none =>
        refine ⟨.noMatch, .skipUntil_exhausted here fun before after hs => ?_, rfl⟩
        obtain ⟨w, hw, ho⟩ := inner after.head?
        rw [Pattern.firstText_head?_eq_none hf hs] at ho
        exact ⟨w, hw, Verdict.isFailure_of_outcome_eq_ofText? ho⟩
    | repetition =>
      obtain ⟨v, hv, ho⟩ := ih hl (Pattern.allows_wrapped rfl hd) position
      have stopped := Verdict.tail?_of_outcome_eq_ofText? ho
      rw [wrapped nofun rfl]
      exact ⟨v, .repeatStop here (Pattern.isAbsent_of_leaf? hl) hv stopped, ho⟩
    | scope =>
      obtain ⟨v, hv, ho⟩ := ih hl (Pattern.allows_wrapped rfl hd) position
      rw [wrapped nofun rfl]
      exact ⟨v, .scope here (Pattern.isAbsent_of_leaf? hl) hv, ho⟩
    | bind name =>
      obtain ⟨v, hv, ho⟩ := ih hl (Pattern.allows_wrapped rfl hd) position
      rw [wrapped nofun rfl]
      refine ⟨v.capture name, .bind here (Pattern.isAbsent_of_leaf? hl) hv, ?_⟩
      rw [Verdict.outcome_capture, ho]

end searches

/-! ### Runs -/

namespace Matcher

variable {ν : Type}

/-- A pattern that leads down to a construct for single text nodes finds the first text that this
accepts: among the node at the position and all siblings behind it if there is skipping on the way
down, and otherwise at the node at the position alone. It fits if there is such a text, which is
then handed on, and does not match otherwise, if the limit allows for the steps on the way. All
other patterns never hand on a text. -/
theorem run_finds_first_text (m : Matcher) (t : Tree ν) (p : Pattern) (position : Option ν)
    (chain : Chain) :
    (∀ leaf accepts, p.leaf? = some leaf → leaf.accepts? = some accepts →
      p.wrappers.length ≤ m.maxDepth →
      match p.firstText t accepts position with
      | some text => ∃ c, m.run t p position chain = .ok (.matched (some text), c)
      | none => m.run t p position chain = .ok (.noMatch, chain)) ∧
    (p.leaf? = none →
      ∀ value c, m.run t p position chain = .ok (.matched value, c) → value = none) := by
  constructor
  · intro leaf accepts hl ha hd
    have allowed : 0 + p.wrappers.length ≤ m.maxDepth := by omega
    obtain ⟨v, hv, ho⟩ := exists_comesTo_firstText (t := t) ha hl allowed position
    have run_eq : m.run t p position chain = v.replay p chain := hv.walk_eq chain
    cases hf : p.firstText t accepts position with
    | some text =>
      rw [hf] at ho
      obtain ⟨captures, rfl⟩ := Verdict.exists_captures_of_outcome ho
      exact ⟨_, run_eq⟩
    | none =>
      rw [hf] at ho
      cases v with
      | noMatch => exact run_eq
      | error | leftover | matched => cases ho
  · intro hl value c h
    obtain ⟨v, hv, run_eq⟩ := m.exists_run_eq_replay t p position
    rw [run_eq] at h
    cases v with
    | error | noMatch | leftover => cases h
    | matched value' captures =>
      cases h
      have hands_on := (hv.declared rfl).1
      rw [← Pattern.isSome_leaf?, hl] at hands_on
      exact Option.not_isSome_iff_eq_none.1 (Bool.eq_false_iff.1 hands_on)

/-- Two searches, one nested in the other, and constructs around both pass by the first text and the
element behind it. Without the searches only the first text is looked at. -/
theorem run_finds_first_text_second_text :
    let d := Document.ofSteps [.text "a", .enter "em", .text "b", .leave, .text "b"]
    let alone := Pattern.node (.bind "x") (.node (.text "b") .absent .absent) .absent
    let search (p : Pattern) := Pattern.node .skipUntil p .absent
    let p := Pattern.node .repetition (.node .scope (search (search alone)) .absent) .absent
    p.leaf? = some (.text "b") ∧ p.wrappers.length ≤ (Matcher.mk 5).maxDepth ∧
      (∃ c, (Matcher.mk 5).run d.tree p d.rootNode .new = .ok (.matched (some "b"), c)) ∧
      (Matcher.mk 5).run d.tree alone d.rootNode .new = .ok (.noMatch, .new) := by
  intro d alone search p
  have hl : p.leaf? = some (.text "b") := rfl
  have hd : p.wrappers.length ≤ (Matcher.mk 5).maxDepth := by decide
  have hd' : alone.wrappers.length ≤ (Matcher.mk 5).maxDepth := by decide
  have nodes : d.tree.siblings d.rootNode = [⟨0, by decide⟩, ⟨1, by decide⟩, ⟨3, by decide⟩] := by
    refine Tree.siblings_some.trans (congrArg _ ?_)
    refine Tree.siblings_some.trans (congrArg _ ?_)
    exact Tree.siblings_some
  have first : p.firstText d.tree (· == "b") d.rootNode = some "b" := by
    rw [Pattern.firstText, Pattern.candidates, if_pos (by decide), nodes]
    rfl
  have found := (run_finds_first_text (.mk 5) d.tree p d.rootNode .new).1 _ _ hl rfl hd
  rw [first] at found
  have missed := (run_finds_first_text (.mk 5) d.tree alone d.rootNode .new).1 _ _ rfl rfl hd'
  exact ⟨hl, hd, found, missed⟩

end Matcher

end TreePattern
