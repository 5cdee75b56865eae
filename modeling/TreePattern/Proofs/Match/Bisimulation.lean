import TreePattern.Document.Builder
import TreePattern.Proofs.Match.Replay

/-!
# Matching sees only what nodes answer

A matcher holds nodes and asks them for their tag, their text, their first child and their next
sibling. It never compares nodes, so it cannot know whether two of them are the same. If the nodes
of two trees are related so that related nodes answer alike (`Tree.Bisimulation`), the two searches
go hand in hand: they take as many turns, start again at related nodes and capture the same texts.

* `Tree.unfolding`: the tree of all ways to walk through a tree, where no node is shared.
* `ComesTo.exists_alike`: whatever a pattern comes to in the one tree, it comes to alike in the
  other.
* `Matcher.run_alike`: runs that begin at related nodes answer alike. So a tree with shared nodes is
  matched as its unfolding, and the text of a node that is no text node is never seen.
-/

namespace TreePattern

/-! ### Trees that answer alike -/

namespace Tree

variable {ν ν' : Type} {t : Tree ν} {t' : Tree ν'} {R : ν → ν' → Prop}

/-- A relation between the nodes of two trees under which related nodes answer alike. The text is
only asked of text nodes, so it need not agree elsewhere. -/
structure Bisimulation (t : Tree ν) (t' : Tree ν') (R : ν → ν' → Prop) : Prop where
  tag : ∀ {n n'}, R n n' → t.tag n = t'.tag n'
  isText : ∀ {n n'}, R n n' → t.isText n = t'.isText n'
  text : ∀ {n n'}, R n n' → t.isText n = true → t.text n = t'.text n'
  child : ∀ {n n'}, R n n' → Option.Rel R (t.child n) (t'.child n')
  next : ∀ {n n'}, R n n' → Option.Rel R (t.next n) (t'.next n')

/-- Related nodes show the same text to a pattern. -/
theorem Bisimulation.shownText (b : Bisimulation t t' R) {n : ν} {n' : ν'} (h : R n n') :
    t.shownText n = t'.shownText n' := by
  unfold Tree.shownText
  rw [← b.isText h]
  by_cases ht : t.isText n = true
  · rw [if_pos ht, if_pos ht, b.text h ht]
  · rw [if_neg ht, if_neg ht]

/-- Nodes are related to what a map makes of them if the map keeps their answers. -/
theorem Bisimulation.of_map {f : ν → ν'} (tag : ∀ n, t'.tag (f n) = t.tag n)
    (isText : ∀ n, t'.isText (f n) = t.isText n)
    (text : ∀ n, t.isText n = true → t'.text (f n) = t.text n)
    (child : ∀ n, t'.child (f n) = (t.child n).map f)
    (next : ∀ n, t'.next (f n) = (t.next n).map f) : Bisimulation t t' fun n n' => f n = n' := by
  have linked : ∀ link : Option ν, Option.Rel (fun n n' => f n = n') link (link.map f) := by
    intro link
    cases link with
    | none => exact .none
    | some n => exact .some rfl
  constructor
  · rintro n _ rfl
    exact (tag n).symm
  · rintro n _ rfl
    exact (isText n).symm
  · rintro n _ rfl ht
    exact (text n ht).symm
  · rintro n _ rfl
    rw [child]
    exact linked (t.child n)
  · rintro n _ rfl
    rw [next]
    exact linked (t.next n)

/-- At related positions there is a node in the one tree if there is one in the other. -/
theorem exists_of_rel_some {position : Option ν} {position' : Option ν'} {n' : ν'}
    (h : Option.Rel R position position') (hn : position' = some n') :
    ∃ n, position = some n ∧ R n n' := by
  subst hn
  cases h with
  | some hR => exact ⟨_, rfl, hR⟩

/-! ### Unfolding -/

/-- How a walk goes on from a node. -/
inductive Turn where
  /-- To the first child. -/
  | inside
  /-- To the next sibling. -/
  | behind
  deriving DecidableEq

/-- A node as it is met on a walk. -/
@[ext]
structure Occurrence (ν : Type) where
  /-- The nodes passed before, the latest first, each with the turn that was taken there. -/
  trail : List (Turn × ν)
  /-- The node. -/
  node : ν

namespace Occurrence

/-- A node where a walk begins. -/
def start (n : ν) : Occurrence ν := ⟨[], n⟩

/-- The walk goes on to another node. -/
def step (o : Occurrence ν) (turn : Turn) (n : ν) : Occurrence ν := ⟨(turn, o.node) :: o.trail, n⟩

end Occurrence

/-- The unfolding of a tree: its nodes are those of the tree, but once for every way to walk there.
-/
def unfolding (t : Tree ν) : Tree (Occurrence ν) where
  tag o := t.tag o.node
  isText o := t.isText o.node
  text o := t.text o.node
  child o := (t.child o.node).map (o.step .inside)
  next o := (t.next o.node).map (o.step .behind)
  finite := by
    refine Subrelation.wf (fun {b a} h => ?_) (InvImage.wf Occurrence.node t.finite)
    rcases h with h | h
    · obtain ⟨n, hn, rfl⟩ := Option.map_eq_some_iff.1 h
      exact .inl hn
    · obtain ⟨n, hn, rfl⟩ := Option.map_eq_some_iff.1 h
      exact .inr hn

/-- No node of the tree is linked to from two places: not from two nodes, and not both as a child
and as a sibling. -/
structure Unshared (t : Tree ν) : Prop where
  eq_of_link : ∀ {a b c}, t.Link a c → t.Link b c → a = b
  not_both : ∀ {a b c}, t.child a = some c → t.next b ≠ some c

/-- A link of the unfolding is a step of a walk. -/
theorem exists_step_of_link {o o' : Occurrence ν} (h : t.unfolding.Link o o') :
    ∃ turn n, o' = o.step turn n := by
  rcases h with h | h
  · obtain ⟨n, -, rfl⟩ := Option.map_eq_some_iff.1 h
    exact ⟨.inside, n, rfl⟩
  · obtain ⟨n, -, rfl⟩ := Option.map_eq_some_iff.1 h
    exact ⟨.behind, n, rfl⟩

/-- In the unfolding no node is shared: the way to a node tells where it came from. -/
theorem unshared_unfolding (t : Tree ν) : t.unfolding.Unshared where
  eq_of_link := by
    intro a b c ha hb
    obtain ⟨turn, n, rfl⟩ := exists_step_of_link ha
    obtain ⟨turn', n', same⟩ := exists_step_of_link hb
    simp only [Occurrence.step, Occurrence.mk.injEq, List.cons.injEq, Prod.mk.injEq] at same
    obtain ⟨⟨⟨-, node⟩, trail⟩, -⟩ := same
    exact Occurrence.ext trail node
  not_both := by
    intro a b c ha hb
    obtain ⟨n, -, rfl⟩ := Option.map_eq_some_iff.1 ha
    obtain ⟨n', -, same⟩ := Option.map_eq_some_iff.1 hb
    simp [Occurrence.step] at same

/-- The occurrences of a node in the unfolding answer as the node does. -/
theorem bisimulation_unfolding (t : Tree ν) : Bisimulation t.unfolding t fun o n => o.node = n := by
  have linked : ∀ (o : Occurrence ν) (turn : Turn) (link : Option ν),
      link = (link.map (o.step turn)).map Occurrence.node := by
    intro o turn link
    rw [Option.map_map]
    exact Option.map_id'.symm
  apply Bisimulation.of_map
  · intro o
    rfl
  · intro o
    rfl
  · intro o _
    rfl
  · intro o
    exact linked o .inside (t.child o.node)
  · intro o
    exact linked o .behind (t.next o.node)

/-- A tree where nodes that are no text nodes have other texts answers alike. -/
theorem bisimulation_withText (t : Tree ν) {text : ν → Option String}
    (h : ∀ n, t.isText n = true → text n = t.text n) :
    Bisimulation { t with text := text } t Eq := by
  apply Bisimulation.of_map (f := id)
  · intro n
    rfl
  · intro n
    rfl
  · intro n ht
    exact (h n ht).symm
  · intro n
    exact Option.map_id'.symm
  · intro n
    exact Option.map_id'.symm

end Tree

/-! ### Answers that are alike -/

section alike

variable {ν ν' : Type} (R : ν → ν' → Prop)

/-- Outcomes of one kind, with the same text if there is one and with related nodes left over. -/
inductive Outcome.Alike : Outcome ν → Outcome ν' → Prop where
  | matched (value : Option String) : Alike (.matched value) (.matched value)
  | leftover {k : ν} {k' : ν'} (h : R k k') : Alike (.leftover k) (.leftover k')
  | noMatch : Alike .noMatch .noMatch

/-- The same error, or outcomes that are alike with the same chain. -/
inductive Answer.Alike : Answer ν → Answer ν' → Prop where
  | error (e : MatchError) : Alike (.error e) (.error e)
  | ok {o : Outcome ν} {o' : Outcome ν'} (h : o.Alike R o') (c : Chain) :
      Alike (.ok (o, c)) (.ok (o', c))

/-- Verdicts of one kind, that agree in all but the node left over, and there the nodes are
related. -/
inductive Verdict.Alike : Verdict ν → Verdict ν' → Prop where
  | error (e : MatchError) : Alike (.error e) (.error e)
  | noMatch : Alike .noMatch .noMatch
  | leftover {k : ν} {k' : ν'} (h : R k k') : Alike (.leftover k) (.leftover k')
  | matched (value : Option String) (captures : List (String × String)) :
      Alike (.matched value captures) (.matched value captures)

variable {R}

/-- Answers that are alike in the same nodes are the same. -/
theorem Answer.Alike.eq {a b : Answer ν} (h : Answer.Alike Eq a b) : a = b := by
  cases h with
  | error e => rfl
  | ok h c =>
    cases h with
    | matched value => rfl
    | leftover hk => rw [hk]
    | noMatch => rfl

namespace Verdict.Alike

variable {v : Verdict ν} {v' : Verdict ν'}

theorem isMatch_eq (h : v.Alike R v') : v'.isMatch = v.isMatch := by
  cases h <;> rfl

theorem isFailure_eq (h : v.Alike R v') : v'.isFailure = v.isFailure := by
  cases h <;> rfl

theorem tail?_eq_none (h : v.Alike R v') (hv : v.tail? = none) : v'.tail? = none := by
  cases h with
  | leftover => cases hv
  | error | noMatch | matched => rfl

/-- Capturing keeps verdicts alike. -/
theorem capture (h : v.Alike R v') (name : String) :
    (v.capture name).Alike R (v'.capture name) := by
  cases h with
  | error e => exact .error e
  | noMatch => exact .noMatch
  | leftover hk => exact .leftover hk
  | matched value captures =>
    cases value with
    | none => exact .matched none captures
    | some text => exact .matched (some text) (captures ++ [(name, text)])

/-- Verdicts that are alike are replayed alike. -/
theorem replay (h : v.Alike R v') (p : Pattern) (chain : Chain) :
    Answer.Alike R (v.replay p chain) (v'.replay p chain) := by
  cases h with
  | error e => exact .error e
  | noMatch => exact .ok .noMatch chain
  | leftover hk => exact .ok (.leftover hk) chain
  | matched value captures => exact .ok (.matched value) _

end Verdict.Alike

/-! ### Two searches hand in hand -/

variable {t : Tree ν} {t' : Tree ν'} {limit : Nat} {p : Pattern} {position : Option ν}
  {position' : Option ν'} {depth : Nat} {v : Verdict ν}

/-- Whatever a pattern comes to at a position, it comes to alike at a related position of a tree
that answers alike. The induction is on the rules; each is matched by the same rule in the other
tree. -/
theorem ComesTo.exists_alike (b : Tree.Bisimulation t t' R)
    (h : ComesTo t limit p position depth v) (hp : Option.Rel R position position') :
    ∃ v', ComesTo t' limit p position' depth v' ∧ v.Alike R v' := by
  induction h generalizing position' with
  | tooDeep h => exact ⟨_, .tooDeep h, .error _⟩
  | atEnd h =>
    cases hp
    exact ⟨_, .atEnd h, .matched none []⟩
  | atNode h =>
    cases hp with
    | some hR => exact ⟨_, .atNode h, .leftover hR⟩
  | missing h hc => exact ⟨_, .missing h hc, .error _⟩
  | leafFits h hc hn ha =>
    cases hp with
    | some hR =>
      rw [b.shownText hR] at hn
      exact ⟨_, .leafFits h hc hn ha, .matched _ []⟩
  | leafFails h hc ha =>
    refine ⟨_, .leafFails h hc fun n' text hn' ht => ?_, .noMatch⟩
    obtain ⟨n, hn, hR⟩ := Tree.exists_of_rel_some hp hn'
    rw [← b.shownText hR] at ht
    exact ha n text hn ht
  | skipStop h _ hf ih =>
    obtain ⟨v', hi, alike⟩ := ih hp
    exact ⟨v', .skipStop h hi (alike.isFailure_eq.trans hf), alike⟩
  | skipOn h _ hf _ ihi ihr =>
    obtain ⟨v', hi, alike⟩ := ihi hp
    cases hp with
    | some hR =>
      obtain ⟨w', hr, alike'⟩ := ihr (b.next hR)
      exact ⟨w', .skipOn h hi (alike.isFailure_eq.trans hf) hr, alike'⟩
  | skipEnd h _ hf ih =>
    obtain ⟨v', hi, alike⟩ := ih hp
    cases hp
    exact ⟨_, .skipEnd h hi (alike.isFailure_eq.trans hf), .noMatch⟩
  | repeatStop h hc _ hk ih =>
    obtain ⟨v', hi, alike⟩ := ih hp
    exact ⟨v', .repeatStop h hc hi (alike.tail?_eq_none hk), alike⟩
  | repeatOn h hc _ _ ihi ihr =>
    obtain ⟨_, hi, alike⟩ := ihi hp
    cases alike with
    | leftover hR =>
      obtain ⟨w', hr, alike'⟩ := ihr (.some hR)
      exact ⟨w', .repeatOn h hc hi hr, alike'⟩
  | tagOther h ht =>
    refine ⟨_, .tagOther h fun n' hn' => ?_, .noMatch⟩
    obtain ⟨n, hn, hR⟩ := Tree.exists_of_rel_some hp hn'
    rw [← b.tag hR]
    exact ht n hn
  | tagChild h ht _ hv ih =>
    cases hp with
    | some hR =>
      obtain ⟨v', hi, alike⟩ := ih (b.child hR)
      rw [b.tag hR] at ht
      exact ⟨v', .tagChild h ht hi (alike.isMatch_eq.trans hv), alike⟩
  | tagNext h ht _ _ hv ihi ihr =>
    cases hp with
    | some hR =>
      obtain ⟨_, hi, alike⟩ := ihi (b.child hR)
      obtain ⟨v', hr, alike'⟩ := ihr (b.next hR)
      rw [b.tag hR] at ht
      cases alike
      exact ⟨v', .tagNext h ht hi hr (alike'.isMatch_eq.trans hv), alike'⟩
  | tagFits h ht _ _ ihi ihr =>
    cases hp with
    | some hR =>
      obtain ⟨_, hi, alike⟩ := ihi (b.child hR)
      obtain ⟨_, hr, alike'⟩ := ihr (b.next hR)
      rw [b.tag hR] at ht
      cases alike
      cases alike'
      exact ⟨_, .tagFits h ht hi hr, .matched none _⟩
  | scope h hc _ ih =>
    obtain ⟨v', hi, alike⟩ := ih hp
    exact ⟨v', .scope h hc hi, alike⟩
  | bind h hc _ ih =>
    obtain ⟨v', hi, alike⟩ := ih hp
    exact ⟨_, .bind h hc hi, alike.capture _⟩

end alike

/-! ### Runs -/

namespace Matcher

/-- Runs from related positions of trees that answer alike answer alike. -/
theorem alike_of_bisimulation {ν ν' : Type} {t : Tree ν} {t' : Tree ν'} {R : ν → ν' → Prop}
    (b : Tree.Bisimulation t t' R) {position : Option ν} {position' : Option ν'}
    (hp : Option.Rel R position position') (m : Matcher) (p : Pattern) (chain : Chain) :
    Answer.Alike R (m.run t p position chain) (m.run t' p position' chain) := by
  obtain ⟨v, hv, run_eq⟩ := m.exists_run_eq_replay t p position
  obtain ⟨v', hv', alike⟩ := hv.exists_alike b hp
  have run_eq' : m.run t' p position' chain = v'.replay p chain := hv'.walk_eq chain
  rw [run_eq chain, run_eq']
  exact alike.replay p chain

/-- Matching sees only what nodes answer. Where the nodes of two trees are related so that they
answer alike, runs from related positions give the same error, or outcomes of one kind with the same
text, the same chain and related nodes left over. In particular a tree is matched as its unfolding,
in which no node is shared, and it does not matter which texts nodes have that are no text nodes. -/
theorem run_alike (m : Matcher) (p : Pattern) (chain : Chain) :
    (∀ {ν ν' : Type} (t : Tree ν) (t' : Tree ν') (R : ν → ν' → Prop) (position : Option ν)
        (position' : Option ν'), Tree.Bisimulation t t' R → Option.Rel R position position' →
      Answer.Alike R (m.run t p position chain) (m.run t' p position' chain)) ∧
    (∀ {ν : Type} (t : Tree ν) (position : Option ν), t.unfolding.Unshared ∧
      Answer.Alike (fun o n => o.node = n)
        (m.run t.unfolding p (position.map Tree.Occurrence.start) chain)
        (m.run t p position chain)) ∧
    ∀ {ν : Type} (t : Tree ν) (text : ν → Option String) (position : Option ν),
      (∀ n, t.isText n = true → text n = t.text n) →
      m.run { t with text := text } p position chain = m.run t p position chain := by
  refine ⟨?_, ?_, ?_⟩
  · intro ν ν' t t' R position position' b hp
    exact alike_of_bisimulation b hp m p chain
  · intro ν t position
    refine ⟨t.unshared_unfolding, alike_of_bisimulation t.bisimulation_unfolding ?_ m p chain⟩
    cases position with
    | none => exact .none
    | some n => exact .some rfl
  · intro ν t text position h
    refine (alike_of_bisimulation (t.bisimulation_withText h) ?_ m p chain).eq
    cases position with
    | none => exact .none
    | some n => exact .some rfl

/-- The last item of a list is matched as if it stood alone. -/
theorem run_alike_last_item :
    let alone := Document.ofSteps [.enter "li", .text "a"]
    let listed := Document.ofSteps [.enter "li", .text "a", .leave, .enter "li", .text "a"]
    let later (n : alone.Node) : listed.Node := ⟨n.val + 2, Nat.add_lt_add_right n.isLt 2⟩
    let R (n : alone.Node) (n' : listed.Node) : Prop := later n = n'
    let p := Pattern.node .repetition (.node (.tag "li")
      (.node (.bind "x") (.node (.text "a") .absent .absent) .absent) .absent) .absent
    Tree.Bisimulation alone.tree listed.tree R ∧
      Option.Rel R alone.rootNode (listed.node? 2) ∧
      Answer.Alike R (standard.run alone.tree p alone.rootNode .new)
        (standard.run listed.tree p (listed.node? 2) .new) := by
  intro alone listed later R p
  have b : Tree.Bisimulation alone.tree listed.tree R := by
    apply Tree.Bisimulation.of_map <;> decide
  have first : Option.Rel R alone.rootNode (listed.node? 2) := .some rfl
  exact ⟨b, first, (run_alike standard p .new).1 _ _ _ _ _ b first⟩

end Matcher

end TreePattern
