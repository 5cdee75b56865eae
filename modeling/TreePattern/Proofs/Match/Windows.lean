import Mathlib.Data.List.Forall2
import Mathlib.Data.Nat.Find
import TreePattern.Document.Builder
import TreePattern.Proofs.Match.Consulted
import TreePattern.Proofs.Match.Sequences

/-!
# Searching for windows

Skipping over a sequence of tags looks for consecutive siblings that the tags fit one by one: a
window. The empty pattern at the end of the sequence accepts a window only where no sibling is left
behind it, so the search comes down to the last siblings. If the sequence ends in skipping over
nothing, which fits everywhere, any window will do, and the leftmost one is found. A window that is
rejected never stops the search, whatever it was rejected for, as long as what is nested in the tags
can err with nothing.

* `FailsAt.chained`: tags fail at a place if every window that begins there is rejected.
* `exists_isLeftmost`: where there is a window, there is a leftmost one.
* `ComesTo.search_last`, `ComesTo.search_leftmost`: which window is found, and
  `ComesTo.search_not_last`, `ComesTo.search_not_anywhere`: where none is.
* `Matcher.run_finds_windows`: what this means for runs.
-/

namespace TreePattern

/-- Skipping to a sequence of tags with a pattern behind the last of them. -/
def Pattern.search (items : List TagPattern) (rest : Pattern) : Pattern :=
  node .skipUntil (chained items rest) absent

section windows

variable {ν : Type} {t : Tree ν} {limit depth : Nat} {items : List TagPattern} {rest : Pattern}
  {position : Option ν} {before window after : List ν} {captures : List (String × String)}

/-! ### Places where tags fail -/

/-- Tags fail at a place if what stands behind them fails behind every window that begins there.
Where they fit along no siblings, what is nested in them may be the reason, but it errs with
nothing. -/
theorem FailsAt.chained (complete : ∀ item ∈ items, item.child.Complete)
    (hd : depth + (Pattern.chained items rest).nesting ≤ limit)
    (h : ∀ window after captures, t.siblings position = window ++ after →
      FitsAlong t limit depth items window captures → FailsAt t limit rest after.head? depth) :
    FailsAt t limit (.chained items rest) position depth := by
  have here : depth ≤ limit := Nat.le_of_add_right_le hd
  by_cases fit : ∃ window after captures, t.siblings position = window ++ after ∧
      FitsAlong t limit depth items window captures
  · obtain ⟨window, after, captures, hs, hf⟩ := fit
    obtain ⟨v, hv, failed⟩ := h window after captures hs hf
    refine ⟨v, hf.comesTo_of_failed here hs hv ?_, failed⟩
    cases v <;> first | rfl | cases failed
  · have unfit : ∀ window after captures, t.siblings position = window ++ after →
        ¬ FitsAlong t limit depth items window captures :=
      fun window after captures hs hf => fit ⟨window, after, captures, hs, hf⟩
    obtain ⟨v, hv, rfl | ⟨hm, item, hitem, n, -, -, hi⟩⟩ :=
      exists_comesTo_of_not_fitsAlong rest here unfit
    · exact ⟨_, hv, rfl⟩
    · have below := Pattern.allows_items hd item hitem
      refine ⟨v, hv, ?_⟩
      cases v with
      | error e => exact absurd (hi.errsWith rfl) ((complete item hitem).not_errsWith below)
      | matched => cases hm
      | noMatch | leftover => rfl

/-! ### The leftmost window -/

/-- A window stands behind some of the nodes, is fit, and no other that is fit begins farther to the
left. -/
structure IsLeftmost (fit : List ν → Prop) (nodes before window : List ν) : Prop where
  /-- The window stands behind some of the nodes. -/
  stands : before ++ window <+: nodes
  /-- It is fit. -/
  fits : fit window
  /-- No other begins before it does. -/
  first : ∀ before' window', before' ++ window' <+: nodes → fit window' →
    before.length ≤ before'.length

/-- Where there is a window that is fit, there is a leftmost one. -/
theorem exists_isLeftmost {fit : List ν → Prop} {nodes : List ν}
    (h : ∃ window, window <:+: nodes ∧ fit window) :
    ∃ before window, IsLeftmost fit nodes before window := by
  classical
  have begins : ∃ k before window, before.length = k ∧ before ++ window <+: nodes ∧ fit window := by
    obtain ⟨window, ⟨before, after, h⟩, hf⟩ := h
    exact ⟨_, before, window, rfl, ⟨after, h⟩, hf⟩
  obtain ⟨before, window, hk, hp, hf⟩ := Nat.find_spec begins
  refine ⟨before, window, hp, hf, fun before' window' hp' hf' => ?_⟩
  rw [hk]
  exact Nat.find_min' begins ⟨before', window', rfl, hp', hf'⟩

/-! ### The search -/

/-- The search stops at a window behind which the end of the sequence fits, if the sequence fails at
all earlier places. -/
theorem ComesTo.search_window (hd : depth + 1 ≤ limit)
    (hs : t.siblings position = before ++ (window ++ after))
    (earlier : ∀ n ∈ before, FailsAt t limit (.chained items rest) (some n) (depth + 1))
    (hf : FitsAlong t limit (depth + 1) items window captures)
    (hr : ComesTo t limit rest after.head? (depth + 1) (.matched none [])) :
    ComesTo t limit (.search items rest) position depth (.matched none captures) := by
  have found := hf.comesTo_of_matched hd (Tree.siblings_head? hs) hr
  rw [List.append_nil] at found
  exact .skipUntil_stop (Nat.le_of_succ_le hd) hs earlier found rfl

/-- With nothing behind the tags, the search finds the window of the last siblings. -/
theorem ComesTo.search_last (complete : ∀ item ∈ items, item.child.Complete)
    (hd : depth + 1 + (Pattern.chained items .absent).nesting ≤ limit)
    (hs : t.siblings position = before ++ window)
    (hf : FitsAlong t limit (depth + 1) items window captures) :
    ComesTo t limit (.search items .absent) position depth (.matched none captures) := by
  have here : depth + 1 ≤ limit := Nat.le_of_add_right_le hd
  rw [← List.append_nil window] at hs
  refine .search_window here hs (fun n hn => .chained complete hd ?_) hf (.atEnd here)
  intro window' after' captures' hs' hf'
  obtain ⟨passed, left, -, behind⟩ := Tree.exists_siblings_of_mem hs hn
  -- a window that begins earlier has the same length, so it ends earlier
  cases after' with
  | cons k after' => exact .absent here
  | nil =>
    have lengths := congrArg List.length (behind.symm.trans hs')
    simp only [List.length_append, List.length_cons, List.append_nil] at lengths
    rw [hf.length_eq, hf'.length_eq] at lengths
    omega

/-- With nothing behind the tags, the search fails if they do not fit along the last siblings. -/
theorem ComesTo.search_not_last (complete : ∀ item ∈ items, item.child.Complete)
    (hd : depth + 1 + (Pattern.chained items .absent).nesting ≤ limit)
    (unfit : ∀ window captures, window <:+ t.siblings position →
      ¬ FitsAlong t limit (depth + 1) items window captures) :
    ComesTo t limit (.search items .absent) position depth .noMatch := by
  refine .skipUntil_exhausted (by omega) fun before here hs => .chained complete hd ?_
  intro window after captures hw hf
  rw [Tree.siblings_head? hs] at hw
  cases after with
  | cons n after => exact .absent (by omega)
  | nil =>
    rw [List.append_nil] at hw
    subst hw
    exact absurd hf (unfit here captures ⟨before, hs.symm⟩)

/-- If anything may follow, the search finds the leftmost window. -/
theorem ComesTo.search_leftmost {fit : List ν → Prop}
    (complete : ∀ item ∈ items, item.child.Complete)
    (hd : depth + 1 + (Pattern.chained items (.ofConstruct .skipUntil)).nesting ≤ limit)
    (hfit : ∀ window captures, FitsAlong t limit (depth + 1) items window captures → fit window)
    (hl : IsLeftmost fit (t.siblings position) before window)
    (hf : FitsAlong t limit (depth + 1) items window captures) :
    ComesTo t limit (.search items (.ofConstruct .skipUntil)) position depth
      (.matched none captures) := by
  have here : depth + 1 ≤ limit := Nat.le_of_add_right_le hd
  obtain ⟨after, hs⟩ := hl.stands
  rw [List.append_assoc] at hs
  refine .search_window here hs.symm (fun n hn => .chained complete hd ?_) hf (.skipUntil_absent ?_)
  · intro window' after' captures' hs' hf'
    obtain ⟨passed, left, rfl, behind⟩ := Tree.exists_siblings_of_mem hs.symm hn
    -- a window that begins earlier would be farther left
    have earlier : passed ++ window' <+: t.siblings position := by
      rw [← hs, List.append_assoc]
      exact (List.prefix_append_right_inj passed).2 ⟨after', hs'.symm.trans behind⟩
    have farther := hl.first passed window' earlier (hfit window' captures' hf')
    rw [List.length_append, List.length_cons] at farther
    omega
  · have behind : (Pattern.ofConstruct .skipUntil).nesting ≤
        (Pattern.chained items (.ofConstruct .skipUntil)).nesting := Pattern.nesting_le_chained
    have one : (Pattern.ofConstruct .skipUntil).nesting = 1 := rfl
    omega

/-- If anything may follow, the search fails if there is no window at all. -/
theorem ComesTo.search_not_anywhere (complete : ∀ item ∈ items, item.child.Complete)
    (hd : depth + 1 + (Pattern.chained items rest).nesting ≤ limit)
    (unfit : ∀ window captures, window <:+: t.siblings position →
      ¬ FitsAlong t limit (depth + 1) items window captures) :
    ComesTo t limit (.search items rest) position depth .noMatch := by
  refine .skipUntil_exhausted (by omega) fun before here hs => .chained complete hd ?_
  intro window after captures hw hf
  rw [Tree.siblings_head? hs] at hw
  refine absurd hf (unfit window captures ⟨before, after, ?_⟩)
  rw [hs, hw, List.append_assoc]

end windows

/-! ### Runs -/

/-- What is captured on a new chain, in frames pushed onto it, comes onto any chain by merging. -/
theorem Chain.merge_record_new (c : Chain) (n : Nat) (captures : List (String × String)) :
    c.merge ((new.pushed n).record captures) = c.record captures := by
  have base : (new.pushed n).innermost = ∅ := by
    rw [innermost_pushed]
    exact ite_self _
  rw [merge, innermost_record, Frame.merge_overlay, base, Frame.merge_empty]
  rfl

namespace Matcher

variable {ν : Type} {m : Matcher} {t : Tree ν} {items : List TagPattern} {window : List ν}
  {position : Option ν} {trial : Chain}

/-- An item fits a node if this is an element of its name and what is nested in the item, tried by
itself from some chain, fits the children. -/
def Fits (m : Matcher) (t : Tree ν) (trial : Chain) (item : TagPattern) (n : ν) : Prop :=
  t.tag n = some item.name ∧
    ∃ value c, m.run t item.child (t.child n) trial = .ok (.matched value, c)

/-- What the run of what is nested in an item, at the children of a node, leaves of a new chain. -/
def captured (m : Matcher) (t : Tree ν) (item : TagPattern) (n : ν) : Chain :=
  match m.run t item.child (t.child n) .new with
  | .ok (_, c) => c
  | .error _ => .new

/-- Whether an item fits a node does not depend on the chain from which its nested pattern is tried,
nor on the depth. -/
theorem fits_iff {item : TagPattern} {n : ν} {depth : Nat}
    (hd : depth + item.child.nesting ≤ m.maxDepth) :
    m.Fits t trial item n ↔ t.tag n = some item.name ∧ ∃ value captures,
      ComesTo t m.maxDepth item.child (t.child n) depth (.matched value captures) := by
  refine and_congr_right fun _ => ⟨?_, ?_⟩
  · rintro ⟨value, c, h⟩
    obtain ⟨v, hv, run_eq⟩ := m.exists_run_eq_replay t item.child (t.child n)
    rw [run_eq] at h
    cases v with
    | error | noMatch | leftover => cases h
    | matched value captures => exact ⟨value, captures, hv.of_allowed (by omega) hd⟩
  · rintro ⟨value, captures, h⟩
    have alone : ComesTo t m.maxDepth item.child (t.child n) 0 (.matched value captures) :=
      h.of_allowed hd (by omega)
    exact ⟨value, _, alone.walk_eq trial⟩

/-- Items fit along nodes if they fit one by one. -/
theorem forall₂_fits_iff {depth : Nat}
    (hd : ∀ item ∈ items, depth + 1 + item.child.nesting ≤ m.maxDepth) :
    List.Forall₂ (m.Fits t trial) items window ↔
      ∃ captures, FitsAlong t m.maxDepth depth items window captures := by
  constructor
  · intro h
    induction h with
    | nil => exact ⟨[], .nil⟩
    | cons first _ ih =>
      obtain ⟨ht, value, captures, hi⟩ := (fits_iff (hd _ List.mem_cons_self)).1 first
      obtain ⟨later, others⟩ := ih fun item h => hd item (List.mem_cons_of_mem _ h)
      exact ⟨captures ++ later, .cons ht hi others⟩
  · rintro ⟨captures, h⟩
    induction h with
    | nil => exact .nil
    | cons ht hi _ ih =>
      refine .cons ?_ (ih fun item h => hd item (List.mem_cons_of_mem _ h))
      exact (fits_iff (hd _ List.mem_cons_self)).2 ⟨ht, _, _, hi⟩

/-- Recording the captures of a window is laying over the chain, one after the other, what the items
leave of a new one. -/
theorem record_eq_foldl_merge {depth : Nat} {captures : List (String × String)} (c : Chain)
    (hd : ∀ item ∈ items, depth + 1 + item.child.nesting ≤ m.maxDepth)
    (h : FitsAlong t m.maxDepth depth items window captures) :
    c.record captures = (List.zipWith (m.captured t) items window).foldl .merge c := by
  induction h generalizing c with
  | nil => rfl
  | @cons item n _ _ value captures later _ hi _ ih =>
    have allowed := hd item List.mem_cons_self
    have alone : m.run t item.child (t.child n) .new = _ :=
      (hi.of_allowed allowed (by omega)).walk_eq .new
    have first : c.merge (m.captured t item n) = c.record captures := by
      rw [captured, alone]
      exact c.merge_record_new item.child.pushes captures
    rw [Chain.record_append, ih _ fun item h => hd item (List.mem_cons_of_mem _ h),
      List.zipWith_cons_cons, List.foldl_cons, first]

/-- The answer to a pattern that has found a window: its frames are pushed, and what the items leave
of a new chain, each at its node, is laid over the chain one after the other. -/
def answerAlong (m : Matcher) (t : Tree ν) (items : List TagPattern) (window : List ν) (p : Pattern)
    (chain : Chain) : Answer ν :=
  .ok (.matched none,
    (List.zipWith (m.captured t) items window).foldl .merge (chain.pushed p.pushes))

/-- What a search comes to along a window is what it answers. -/
theorem run_eq_answerAlong {p : Pattern} {captures : List (String × String)}
    (hd : ∀ item ∈ items, 1 + 1 + item.child.nesting ≤ m.maxDepth)
    (h : ComesTo t m.maxDepth p position 0 (.matched none captures))
    (hf : FitsAlong t m.maxDepth 1 items window captures) (chain : Chain) :
    m.run t p position chain = m.answerAlong t items window p chain := by
  rw [answerAlong, ← record_eq_foldl_merge _ hd hf]
  exact h.walk_eq chain

/-- The search with nothing behind the tags looks at the last siblings. -/
theorem run_search_last (complete : ∀ item ∈ items, item.child.Complete)
    (hd : (Pattern.search items .absent).nesting ≤ m.maxDepth) (position : Option ν)
    (chain : Chain) :
    (∀ window, window <:+ t.siblings position → List.Forall₂ (m.Fits t trial) items window →
      m.run t (.search items .absent) position chain =
        m.answerAlong t items window (.search items .absent) chain) ∧
    ((¬ ∃ window, window <:+ t.siblings position ∧ List.Forall₂ (m.Fits t trial) items window) →
      m.run t (.search items .absent) position chain = .ok (.noMatch, chain)) := by
  have below := Pattern.allows_items hd
  constructor
  · rintro window ⟨before, hs⟩ fits
    obtain ⟨captures, hf⟩ := (forall₂_fits_iff below).1 fits
    exact run_eq_answerAlong below (.search_last complete hd hs.symm hf) hf chain
  · intro none_fits
    have h : ComesTo t m.maxDepth (.search items .absent) position 0 .noMatch := by
      refine .search_not_last complete hd fun window captures hs hf => none_fits ?_
      exact ⟨window, hs, (forall₂_fits_iff below).2 ⟨captures, hf⟩⟩
    exact h.walk_eq chain

/-- The search with skipping behind the tags looks for the leftmost window. -/
theorem run_search_leftmost (complete : ∀ item ∈ items, item.child.Complete)
    (hd : (Pattern.search items (.ofConstruct .skipUntil)).nesting ≤ m.maxDepth)
    (position : Option ν) (chain : Chain) :
    (∀ before window, IsLeftmost (List.Forall₂ (m.Fits t trial) items) (t.siblings position) before
        window →
      m.run t (.search items (.ofConstruct .skipUntil)) position chain =
        m.answerAlong t items window (.search items (.ofConstruct .skipUntil)) chain) ∧
    ((¬ ∃ window, window <:+: t.siblings position ∧ List.Forall₂ (m.Fits t trial) items window) →
      m.run t (.search items (.ofConstruct .skipUntil)) position chain =
        .ok (.noMatch, chain)) := by
  have below := Pattern.allows_items hd
  have fits_of_along : ∀ window captures, FitsAlong t m.maxDepth 1 items window captures →
      List.Forall₂ (m.Fits t trial) items window :=
    fun window captures hf => (forall₂_fits_iff below).2 ⟨captures, hf⟩
  constructor
  · intro before window leftmost
    obtain ⟨captures, hf⟩ := (forall₂_fits_iff below).1 leftmost.fits
    have found := ComesTo.search_leftmost complete hd fits_of_along leftmost hf
    exact run_eq_answerAlong below found hf chain
  · intro none_fits
    have h : ComesTo t m.maxDepth (.search items (.ofConstruct .skipUntil)) position 0
        .noMatch := by
      refine .search_not_anywhere complete hd fun window captures hs hf => none_fits ?_
      exact ⟨window, hs, fits_of_along window captures hf⟩
    exact h.walk_eq chain

/-- Skipping over a sequence of tags finds the last siblings, if the tags fit them one by one, and
skipping over such a sequence that ends in skipping over nothing finds the leftmost window of
siblings that the tags fit. Whether they fit may be tried from any chain. What is left on the chain
is what each tag captures by itself along the window. Where there is no such window there is no
match, whatever is nested in the tags as long as no nested pattern is missing. -/
theorem run_finds_windows {m : Matcher} {t : Tree ν} {items : List TagPattern}
    (complete : ∀ item ∈ items, item.child.Complete) (position : Option ν)
    (chain trial : Chain) :
    let tags := items.map TagPattern.pattern
    let atEnd := Pattern.node .skipUntil (.sequence tags) .absent
    let anywhere := Pattern.node .skipUntil (.sequence (tags ++ [.ofConstruct .skipUntil])) .absent
    let nodes := t.siblings position
    let fit := List.Forall₂ (m.Fits t trial) items
    let found (p : Pattern) (window : List ν) :=
      m.run t p position chain = m.answerAlong t items window p chain
    let matched (p : Pattern) := ∃ value c, m.run t p position chain = .ok (.matched value, c)
    let missed (p : Pattern) := m.run t p position chain = .ok (.noMatch, chain)
    (atEnd.nesting ≤ m.maxDepth →
      (matched atEnd ↔ ∃ window, window <:+ nodes ∧ fit window) ∧
      (∀ window, window <:+ nodes → fit window → found atEnd window) ∧
      ((¬ ∃ window, window <:+ nodes ∧ fit window) → missed atEnd)) ∧
    (anywhere.nesting ≤ m.maxDepth →
      (matched anywhere ↔ ∃ window, window <:+: nodes ∧ fit window) ∧
      ((∃ window, window <:+: nodes ∧ fit window) →
        ∃ before window, IsLeftmost fit nodes before window ∧ found anywhere window) ∧
      ((¬ ∃ window, window <:+: nodes ∧ fit window) → missed anywhere)) := by
  intro tags atEnd anywhere nodes fit found matched missed
  have at_end : atEnd = .search items .absent :=
    congrArg (Pattern.node .skipUntil · .absent) (Pattern.sequence_map_pattern items)
  have any_place : anywhere = .search items (.ofConstruct .skipUntil) :=
    congrArg (Pattern.node .skipUntil · .absent) (Pattern.sequence_append items _)
  constructor
  · intro hd
    rw [at_end] at hd
    obtain ⟨fits, fails⟩ := run_search_last complete hd position chain
    rw [← at_end] at fits fails
    refine ⟨exists_matched_iff ?_ fails, fits, fails⟩
    rintro ⟨window, hs, hf⟩
    exact ⟨none, _, fits window hs hf⟩
  · intro hd
    rw [any_place] at hd
    obtain ⟨leftmost_fits, fails⟩ := run_search_leftmost complete hd position chain
    rw [← any_place] at leftmost_fits fails
    have fits : (∃ window, window <:+: nodes ∧ fit window) →
        ∃ before window, IsLeftmost fit nodes before window ∧ found anywhere window := by
      intro some_fits
      obtain ⟨before, window, leftmost⟩ := exists_isLeftmost some_fits
      exact ⟨before, window, leftmost, leftmost_fits before window leftmost⟩
    refine ⟨exists_matched_iff ?_ fails, fits, fails⟩
    intro some_fits
    obtain ⟨before, window, -, h⟩ := fits some_fits
    exact ⟨none, _, h⟩

/-- The first term has another text in it, so the window begins at the second one. -/
theorem run_finds_windows_second_term :
    let d := Document.ofSteps
      [.enter "dt", .text "a", .leave, .enter "dd", .leave, .enter "dt", .text "b", .leave,
        .enter "dd"]
    let captured := Pattern.node (.bind "x") (.node (.text "b") .absent .absent) .absent
    let items := [⟨"dt", captured, .absent⟩, TagPattern.ofName "dd"]
    let tags := items.map TagPattern.pattern
    let atEnd := Pattern.node .skipUntil (.sequence tags) .absent
    let anywhere := Pattern.node .skipUntil (.sequence (tags ++ [.ofConstruct .skipUntil])) .absent
    (∀ item ∈ items, item.child.Complete) ∧ anywhere.nesting ≤ (Matcher.mk 3).maxDepth ∧
      (Matcher.mk 3).run d.tree atEnd d.rootNode .new =
        .ok (.matched none, Chain.new.set "x" "b") ∧
      ∃ value c, (Matcher.mk 3).run d.tree anywhere d.rootNode .new = .ok (.matched value, c) := by
  intro d captured items tags atEnd anywhere
  have complete : ∀ item ∈ items, item.child.Complete := by decide
  have hd : anywhere.nesting ≤ (Matcher.mk 3).maxDepth := by decide
  have nodes : d.tree.siblings d.rootNode =
      [⟨0, by decide⟩, ⟨2, by decide⟩] ++ [⟨3, by decide⟩, ⟨5, by decide⟩] := by
    refine Tree.siblings_some.trans (congrArg _ ?_)
    refine Tree.siblings_some.trans (congrArg _ ?_)
    refine Tree.siblings_some.trans (congrArg _ ?_)
    exact Tree.siblings_some
  have fit : List.Forall₂ ((Matcher.mk 3).Fits d.tree .new) items
      [⟨3, by decide⟩, ⟨5, by decide⟩] := .cons ⟨rfl, _, _, rfl⟩ (.cons ⟨rfl, _, _, rfl⟩ .nil)
  obtain ⟨atEnd_found, anywhere_found⟩ :=
    run_finds_windows (m := Matcher.mk 3) complete d.rootNode .new .new
  refine ⟨complete, hd, ?_, (anywhere_found hd).1.2 ⟨_, ?_, fit⟩⟩
  · exact (atEnd_found (by decide)).2.1 _ ⟨_, nodes.symm⟩ fit
  · exact List.IsSuffix.isInfix ⟨_, nodes.symm⟩

end Matcher

end TreePattern
