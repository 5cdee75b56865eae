import Mathlib.Logic.Relation
import TreePattern.Proofs.Match.Consulted
import TreePattern.Proofs.Match.Variables

/-!
# Where captured texts come from

A text is read at one node and may go a long way. Searches hand it on, every binding on the way up
records it, a tag forgets it but keeps what was recorded, and chains are merged. So a capture that
is left at the end has a place in the pattern and a place in the tree: a binding of its name, a
construct for single text nodes below this, and a text node on or beyond the position whose text the
construct accepts (`Tree.Captures`). Attempts that failed leave nothing that could come from
elsewhere.

* `Pattern.leaf?`: the construct whose text a pattern hands on, read off the pattern alone.
* `Pattern.mem_vars_iff`: the declared variables are those that have a place in the pattern.
* `ComesTo.origins`: the text that a fit hands on has such a place, and so have all its captures.
* `Matcher.origin_of_get?`: what this means for the innermost frame after a run.
-/

namespace TreePattern

/-! ### Places in the tree -/

namespace Tree

variable {ν : Type} {t : Tree ν} {position : Option ν} {m n : ν}

/-- The node is at the position, or reached from there by following links. -/
def Reaches (t : Tree ν) (position : Option ν) (n : ν) : Prop :=
  ∃ m, position = some m ∧ Relation.ReflTransGen t.Link m n

theorem reaches_self : t.Reaches (some n) n :=
  ⟨n, rfl, .refl⟩

theorem Reaches.of_child (h : t.Reaches (t.child m) n) : t.Reaches (some m) n := by
  obtain ⟨k, hk, path⟩ := h
  exact ⟨m, rfl, .head (.inl hk) path⟩

theorem Reaches.of_next (h : t.Reaches (t.next m) n) : t.Reaches (some m) n := by
  obtain ⟨k, hk, path⟩ := h
  exact ⟨m, rfl, .head (.inr hk) path⟩

/-- What is reached from a node that lies ahead is reached. -/
theorem Reaches.of_ahead (h : t.Reaches (some m) n) (hm : t.Ahead position m) :
    t.Reaches position n := by
  obtain ⟨_, ⟨⟩, path⟩ := h
  obtain ⟨k, rfl, before⟩ := hm
  exact ⟨k, rfl, (Relation.transGen_swap.1 before).to_reflTransGen.trans path⟩

/-- A node shows a text if it is a text node with this text. -/
theorem shownText_eq_some_iff {text : String} :
    t.shownText n = some text ↔ t.isText n = true ∧ t.text n = some text := by
  unfold shownText
  split <;> simp [*]

end Tree

/-! ### Places in the pattern -/

namespace Pattern

/-- The construct whose text a pattern hands on: the way down through nested patterns leads to this
construct for single text nodes, and meets no tag. -/
def leaf? : Pattern → Option Construct
  | absent => none
  | node (.text literal) _ _ => some (.text literal)
  | node (.regex e) _ _ => some (.regex e)
  | node (.tag _) _ _ => none
  | node .skipUntil child _ => child.leaf?
  | node .repetition child _ => child.leaf?
  | node .scope child _ => child.leaf?
  | node (.bind _) child _ => child.leaf?

/-- A pattern hands on a text if there is a construct to take it from. -/
theorem isSome_leaf? : ∀ p : Pattern, p.leaf?.isSome = p.handsOnText
  | absent => rfl
  | node (.text _) _ _ => rfl
  | node (.regex _) _ _ => rfl
  | node (.tag _) _ _ => rfl
  | node .skipUntil child _ => isSome_leaf? child
  | node .repetition child _ => isSome_leaf? child
  | node .scope child _ => isSome_leaf? child
  | node (.bind _) child _ => isSome_leaf? child

/-- A pattern declares a variable exactly if a binding of the name is looked at and what is nested
in it leads down to a construct for single text nodes. -/
theorem mem_vars_iff (x : String) : ∀ p : Pattern, x ∈ p.vars ↔
    ∃ child next leaf, p.Consults (node (.bind x) child next) ∧ child.leaf? = some leaf
  | absent => by simp [vars, consults_absent_iff]
  | node construct child next => by
    have inner := mem_vars_iff x child
    have rest := mem_vars_iff x next
    cases construct with
    | text | regex => simp [vars, consults_node_iff, Construct.accepts?]
    | tag =>
      simp only [vars, List.mem_append, inner, rest, consults_node_iff]
      simp [Construct.accepts?, or_and_right, exists_or]
    | skipUntil | repetition | scope =>
      simp [vars, inner, consults_node_iff, Construct.accepts?]
    | bind name =>
      simp only [vars, List.mem_append, inner, consults_node_iff]
      rw [← isSome_leaf?]
      -- the binding itself is a place if there is a text to bind
      cases hl : child.leaf? with
      | none => simp [Construct.accepts?, or_and_right, exists_or, hl]
      | some leaf =>
        simp only [Option.isSome_some, if_true, List.mem_singleton, node.injEq,
          Construct.bind.injEq, Construct.accepts?]
        grind

theorem leaf?_of_accepts? {construct : Construct} {accepts : String → Bool} {child next : Pattern}
    (h : construct.accepts? = some accepts) :
    (node construct child next).leaf? = some construct := by
  cases construct with
  | text | regex => rfl
  | _ => cases h

end Pattern

/-- Accepting a text is to be that text or to be an expression that occurs in it. -/
theorem Construct.accepts_eq_true_iff {leaf : Construct} {text : String} :
    (∃ accepts, leaf.accepts? = some accepts ∧ accepts text = true) ↔
      leaf = .text text ∨ ∃ e, leaf = .regex e ∧ e.accepts text = true := by
  constructor
  · rintro ⟨accepts, ha, hs⟩
    cases leaf with
    | text literal =>
      cases ha
      exact .inl (congrArg Construct.text (eq_of_beq hs).symm)
    | regex e =>
      cases ha
      exact .inr ⟨e, rfl, hs⟩
    | _ => cases ha
  · rintro (rfl | ⟨e, rfl, hs⟩)
    · exact ⟨_, rfl, beq_self_eq_true text⟩
    · exact ⟨_, rfl, hs⟩

section origins

variable {ν : Type} {t : Tree ν} {limit : Nat} {p q : Pattern} {position position' : Option ν}
  {depth : Nat} {v : Verdict ν} {name text : String}

/-- A text that a pattern can hand on from a position: it is the text of a text node at the position
or beyond, and the construct that the pattern leads down to accepts it. -/
def Tree.HandsOn (t : Tree ν) (p : Pattern) (position : Option ν) (text : String) : Prop :=
  ∃ leaf accepts n, p.leaf? = some leaf ∧ leaf.accepts? = some accepts ∧ accepts text = true ∧
    t.Reaches position n ∧ t.shownText n = some text

/-- A name and a text that a pattern can capture from a position: a binding of the name is looked at
in the pattern, and what is nested in it can hand on the text. -/
def Tree.Captures (t : Tree ν) (p : Pattern) (position : Option ν) (name text : String) : Prop :=
  ∃ child next, p.Consults (.node (.bind name) child next) ∧ t.HandsOn child position text

/-- What can be handed on from further on can be handed on. -/
theorem Tree.HandsOn.of_reaches (h : t.HandsOn p position' text)
    (hr : ∀ n, t.Reaches position' n → t.Reaches position n) : t.HandsOn p position text := by
  obtain ⟨leaf, accepts, n, hl, ha, hs, hn, ht⟩ := h
  exact ⟨leaf, accepts, n, hl, ha, hs, hr n hn, ht⟩

/-- What can be captured from further on can be captured. -/
theorem Tree.Captures.of_reaches (h : t.Captures p position' name text)
    (hr : ∀ n, t.Reaches position' n → t.Reaches position n) :
    t.Captures p position name text := by
  obtain ⟨child, next, hp, handed⟩ := h
  exact ⟨child, next, hp, handed.of_reaches hr⟩

/-- What can be captured in a slot that is looked at can be captured. -/
theorem Tree.Captures.of_consults (h : t.Captures q position name text) (hq : p.Consults q) :
    t.Captures p position name text := by
  obtain ⟨child, next, hp, handed⟩ := h
  exact ⟨child, next, hq.trans hp, handed⟩

open Pattern (Consults)

/-- The text that a fit hands on, and every name and text it captures, have a place in the pattern
and in the tree. The induction is on the rules; each takes texts from one slot that is looked at,
and from no node before the position. -/
theorem ComesTo.origins {value : Option String} {captures : List (String × String)}
    (h : ComesTo t limit p position depth v) (hv : v = .matched value captures) :
    (∀ text, value = some text → t.HandsOn p position text) ∧
      ∀ name text, (name, text) ∈ captures → t.Captures p position name text := by
  induction h generalizing value captures with
  | tooDeep | atNode | missing | leafFails | skipEnd | tagOther => cases hv
  | atEnd =>
    cases hv
    exact ⟨nofun, nofun⟩
  | leafFits _ hc hn ha =>
    cases hv
    refine ⟨?_, nofun⟩
    rintro text ⟨⟩
    exact ⟨_, _, _, Pattern.leaf?_of_accepts? hc, hc, ha, Tree.reaches_self, hn⟩
  | skipStop _ _ _ ih | repeatStop _ _ _ _ ih | scope _ _ _ ih =>
    obtain ⟨handed, captured⟩ := ih hv
    exact ⟨handed,
      fun name text hm => (captured name text hm).of_consults (Consults.root.child rfl)⟩
  | skipOn _ _ _ _ _ ih =>
    obtain ⟨handed, captured⟩ := ih hv
    exact ⟨fun text hs => (handed text hs).of_reaches fun _ => .of_next,
      fun name text hm => (captured name text hm).of_reaches fun _ => .of_next⟩
  | repeatOn _ hc hi _ _ ih =>
    obtain ⟨handed, captured⟩ := ih hv
    have further := hi.ahead hc
    exact ⟨fun text hs => (handed text hs).of_reaches fun _ hn => hn.of_ahead further,
      fun name text hm => (captured name text hm).of_reaches fun _ hn => hn.of_ahead further⟩
  | tagChild _ _ _ hm => simp [hv] at hm
  | tagNext _ _ _ _ hm => simp [hv] at hm
  | tagFits _ _ _ _ ihi ihr =>
    cases hv
    refine ⟨nofun, fun name text hm => ?_⟩
    rcases List.mem_append.1 hm with hm | hm
    · have inside := (ihi rfl).2 name text hm
      exact (inside.of_consults (Consults.root.child rfl)).of_reaches fun _ => .of_child
    · have behind := (ihr rfl).2 name text hm
      exact (behind.of_consults Consults.root.next).of_reaches fun _ => .of_next
  | @bind _ child next _ _ v _ _ _ ih =>
    rcases v with e | _ | k | ⟨_ | text, inner⟩
    case error | noMatch | leftover => cases hv
    case matched.none =>
      cases hv
      obtain ⟨handed, captured⟩ := ih rfl
      exact ⟨nofun,
        fun name text hm => (captured name text hm).of_consults (Consults.root.child rfl)⟩
    case matched.some =>
      cases hv
      obtain ⟨handed, captured⟩ := ih rfl
      refine ⟨handed, fun name' text' hm => ?_⟩
      rcases List.mem_append.1 hm with hm | hm
      · exact (captured name' text' hm).of_consults (Consults.root.child rfl)
      · cases List.mem_singleton.1 hm
        exact ⟨child, next, .root, handed text rfl⟩

end origins

/-! ### Runs -/

/-- A text that is found after captures were written is one of them or was there before. -/
theorem Frame.mem_or_get?_of_get?_overlay {name text : String} :
    ∀ {captures : List (String × String)} {f : Frame},
      (f.overlay captures).get? name = some text →
        (name, text) ∈ captures ∨ f.get? name = some text
  | [], _, h => .inr h
  | (x, v) :: captures, f, h => by
    rw [overlay_cons] at h
    rcases mem_or_get?_of_get?_overlay h with later | found
    · exact .inl (List.mem_cons_of_mem _ later)
    · rw [get?_set] at found
      by_cases hx : name = x
      · rw [if_pos hx] at found
        cases hx
        cases found
        exact .inl List.mem_cons_self
      · rw [if_neg hx] at found
        exact .inr found

namespace Matcher

/-- Every text in the frame that a fit leaves innermost has an origin. Where the pattern pushes no
frame, it may have been there at the beginning. Otherwise a binding of its name is looked at, the
pattern nested in the binding leads down to a literal or an expression, and the text is that of a
text node on or beyond the position and is the literal, or has an occurrence of the expression. -/
theorem origin_of_get? {ν : Type} {m : Matcher} {t : Tree ν} {p : Pattern} {position : Option ν}
    {chain c : Chain} {value : Option String} {name text : String}
    (h : m.run t p position chain = .ok (.matched value, c))
    (hx : c.innermost.get? name = some text) :
    p.pushes = 0 ∧ chain.innermost.get? name = some text ∨
      ∃ child next leaf n, p.Consults (.node (.bind name) child next) ∧ child.leaf? = some leaf ∧
        (leaf = .text text ∨ ∃ e, leaf = .regex e ∧ e.accepts text = true) ∧
        t.Reaches position n ∧ t.isText n = true ∧ t.text n = some text := by
  obtain ⟨v, hv, run_eq⟩ := m.exists_run_eq_replay t p position
  rw [run_eq chain] at h
  cases v with
  | error | noMatch | leftover => cases h
  | matched value captures =>
    cases h
    rw [Chain.innermost_record, Chain.innermost_pushed] at hx
    rcases Frame.mem_or_get?_of_get?_overlay hx with captured | kept
    · obtain ⟨child, next, hp, leaf, accepts, n, hl, ha, hs, hn, ht⟩ :=
        (hv.origins rfl).2 name text captured
      obtain ⟨is_text, shown⟩ := Tree.shownText_eq_some_iff.1 ht
      exact .inr ⟨child, next, leaf, n, hp, hl,
        Construct.accepts_eq_true_iff.1 ⟨accepts, ha, hs⟩, hn, is_text, shown⟩
    · by_cases hp : p.pushes = 0
      · rw [if_pos hp] at kept
        exact .inl ⟨hp, kept⟩
      · rw [if_neg hp, Frame.get?_empty] at kept
        cases kept

/-- The first item is passed over. The text is captured in the second one, beside what was in the
frame before. -/
theorem origin_of_get?_second_item :
    let d := Document.ofSteps [.enter "li", .text "a", .leave, .enter "li", .text "b"]
    let captured := Pattern.node (.bind "x") (.node (.text "b") .absent .absent) .absent
    let p := Pattern.node .skipUntil (.node (.tag "li") captured .absent) .absent
    let chain := Chain.new.set "kept" "a"
    ∃ c, standard.run d.tree p d.rootNode chain = .ok (.matched none, c) ∧
      c.innermost.get? "x" = some "b" ∧ c.innermost.get? "kept" = some "a" ∧
      ∃ child next leaf n, p.Consults (.node (.bind "x") child next) ∧ child.leaf? = some leaf ∧
        (leaf = .text "b" ∨ ∃ e, leaf = .regex e ∧ e.accepts "b" = true) ∧
        d.tree.Reaches d.rootNode n ∧ d.tree.isText n = true ∧ d.tree.text n = some "b" := by
  intro d captured p chain
  have first : ComesTo d.tree standard.maxDepth (.node (.tag "li") captured .absent) d.rootNode 1
      .noMatch :=
    .tagChild (by decide) rfl (.bind (v := .noMatch) (by decide) rfl
      (.leafFails (by decide) rfl (by rintro n text ⟨⟩ ⟨⟩; rfl))) rfl
  have second : ComesTo d.tree standard.maxDepth (.node (.tag "li") captured .absent) (d.node? 2) 1
      (.matched none ([("x", "b")] ++ [])) :=
    .tagFits (by decide) rfl (.bind (by decide) rfl (.leafFits (by decide) rfl rfl rfl))
      (.atEnd (by decide))
  have fits : ComesTo d.tree standard.maxDepth p d.rootNode 0
      (.matched none ([("x", "b")] ++ [])) :=
    .skipOn (by decide) first rfl (.skipStop (by decide) second rfl)
  have h : standard.run d.tree p d.rootNode chain = .ok (.matched none, chain.set "x" "b") :=
    fits.walk_eq chain
  have found : (chain.set "x" "b").innermost.get? "x" = some "b" := rfl
  refine ⟨_, h, found, rfl, ?_⟩
  obtain ⟨-, kept⟩ | origin := origin_of_get? h found
  · cases kept
  · exact origin

end Matcher

end TreePattern
