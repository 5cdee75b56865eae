import TreePattern.Proofs.Match.Replay

/-!
# The limit on nesting

A matcher gives up when patterns nest deeper than its limit. The check is made whenever a pattern is
looked at, in the middle of searches too, which otherwise take a failure as a reason to go on. Here
it is shown that the limit only ever cuts off: for every pattern and position there is a depth down
to which matching looks, and matchers that allow this depth all answer alike, while the others all
report their limit. Continuations are no deeper than what they continue, so a sequence reaches as
deep as its deepest item.

* `Pattern.nesting`: how deep a pattern nests; this can be read off without a tree.
* `ComesTo.of_allowed`: how deep a pattern stands makes no difference where its nesting is allowed.
* `ComesTo.raised`: one level deeper it comes to the same if the limit is greater by one.
* `Settles`: a verdict that all limits from some depth on agree on, and the smaller ones cut off.
* `exists_settles`: every pattern has one at every position.
* `Matcher.exists_depth_threshold`: what this means for runs.
-/

namespace TreePattern

namespace Pattern

/-- How many levels of nested patterns there are. An empty nested pattern counts as a level, since it
is looked at; constructs for single text nodes look at nothing below them, and only tags look at
their continuation. -/
def nesting : Pattern → Nat
  | absent => 0
  | node (.text _) _ _ => 0
  | node (.regex _) _ _ => 0
  | node (.tag _) child next => max (1 + child.nesting) next.nesting
  | node .skipUntil child _ => 1 + child.nesting
  | node .repetition child _ => 1 + child.nesting
  | node .scope child _ => 1 + child.nesting
  | node (.bind _) child _ => 1 + child.nesting

/-- What is nested in a construct that looks at it is a level below. -/
theorem nesting_child_lt {construct : Construct} {child next : Pattern}
    (h : construct.accepts? = none) : child.nesting < (node construct child next).nesting := by
  cases construct with
  | text | regex => cases h
  | tag name =>
    simp only [nesting]
    omega
  | _ => exact Nat.lt_one_add_iff.2 (Nat.le_refl _)

/-- A continuation of a tag is no level below. -/
theorem nesting_next_le {name : String} {child next : Pattern} :
    next.nesting ≤ (node (.tag name) child next).nesting :=
  Nat.le_max_right ..

/-- A limit that allows for a construct allows for what is nested in it, a level below. -/
theorem allows_child {construct : Construct} {child next : Pattern} {depth limit : Nat}
    (h : depth + (node construct child next).nesting ≤ limit) (hc : construct.accepts? = none) :
    depth + 1 + child.nesting ≤ limit := by
  have below : child.nesting < (node construct child next).nesting := nesting_child_lt hc
  omega

/-- A limit that allows for a tag allows for its continuation, on the same level. -/
theorem allows_next {name : String} {child next : Pattern} {depth limit : Nat}
    (h : depth + (node (.tag name) child next).nesting ≤ limit) : depth + next.nesting ≤ limit :=
  Nat.le_trans (Nat.add_le_add_left nesting_next_le depth) h

/-- With another continuation a pattern nests no deeper than it did or than the continuation. -/
theorem nesting_withNext_le (p q : Pattern) : (p.withNext q).nesting ≤ max p.nesting q.nesting := by
  cases p with
  | absent => exact Nat.zero_le _
  | node construct child next =>
    cases construct with
    | tag name =>
      simp only [withNext, nesting]
      omega
    | _ => exact Nat.le_max_left ..

/-- A sequence nests as deep as its items do, however long it is. -/
theorem nesting_sequence_le {ps : List Pattern} {bound : Nat} (h : ∀ p ∈ ps, p.nesting ≤ bound) :
    (sequence ps).nesting ≤ bound := by
  induction ps with
  | nil => exact Nat.zero_le _
  | cons p ps ih =>
    have first := h p List.mem_cons_self
    have later := ih fun q hq => h q (List.mem_cons_of_mem _ hq)
    rw [sequence_cons]
    exact Nat.le_trans (nesting_withNext_le p _) (Nat.max_le.2 ⟨first, later⟩)

end Pattern

open Pattern in
/-- Where the limit allows for the nesting of a pattern, it makes no difference how deep the pattern
stands and what the limit is. -/
theorem ComesTo.of_allowed {ν : Type} {t : Tree ν} {limit limit' : Nat} {p : Pattern}
    {position : Option ν} {depth depth' : Nat} {v : Verdict ν}
    (h : ComesTo t limit p position depth v) (hd : depth + p.nesting ≤ limit)
    (hd' : depth' + p.nesting ≤ limit') : ComesTo t limit' p position depth' v := by
  have here {depth' : Nat} {q : Pattern} (h : depth' + q.nesting ≤ limit') : depth' ≤ limit' :=
    Nat.le_of_add_right_le h
  induction h generalizing depth' with
  | tooDeep h => omega
  | atEnd => exact .atEnd (here hd')
  | atNode => exact .atNode (here hd')
  | missing _ hc => exact .missing (here hd') hc
  | leafFits _ hc hn ha => exact .leafFits (here hd') hc hn ha
  | leafFails _ hc ha => exact .leafFails (here hd') hc ha
  | skipStop _ _ hv ih =>
    exact .skipStop (here hd') (ih (allows_child hd rfl) (allows_child hd' rfl)) hv
  | skipOn _ _ hv _ ihi ihr =>
    have tried := ihi (allows_child hd rfl) (allows_child hd' rfl)
    exact .skipOn (here hd') tried hv (ihr hd hd')
  | skipEnd _ _ hv ih =>
    exact .skipEnd (here hd') (ih (allows_child hd rfl) (allows_child hd' rfl)) hv
  | repeatStop _ hc _ hv ih =>
    exact .repeatStop (here hd') hc (ih (allows_child hd rfl) (allows_child hd' rfl)) hv
  | repeatOn _ hc _ _ ihi ihr =>
    have tried := ihi (allows_child hd rfl) (allows_child hd' rfl)
    exact .repeatOn (here hd') hc tried (ihr hd hd')
  | tagOther _ ht => exact .tagOther (here hd') ht
  | tagChild _ ht _ hv ih =>
    exact .tagChild (here hd') ht (ih (allows_child hd rfl) (allows_child hd' rfl)) hv
  | tagNext _ ht _ _ hv ihi ihr =>
    have inside := ihi (allows_child hd rfl) (allows_child hd' rfl)
    exact .tagNext (here hd') ht inside (ihr (allows_next hd) (allows_next hd')) hv
  | tagFits _ ht _ _ ihi ihr =>
    have inside := ihi (allows_child hd rfl) (allows_child hd' rfl)
    exact .tagFits (here hd') ht inside (ihr (allows_next hd) (allows_next hd'))
  | scope _ hc _ ih => exact .scope (here hd') hc (ih (allows_child hd rfl) (allows_child hd' rfl))
  | bind _ hc _ ih => exact .bind (here hd') hc (ih (allows_child hd rfl) (allows_child hd' rfl))

/-! ### Raising the limit -/

/-- The error as it reads where the limit is greater by one. -/
def MatchError.raised : MatchError → MatchError
  | missingInner kind => missingInner kind
  | depthLimitExceeded limit => depthLimitExceeded (limit + 1)

namespace Verdict

variable {ν : Type} (v : Verdict ν)

/-- The verdict as it reads where the limit is greater by one. -/
def raised : Verdict ν → Verdict ν
  | error e => error e.raised
  | v => v

@[simp] theorem isMatch_raised : v.raised.isMatch = v.isMatch := by
  cases v <;> rfl

@[simp] theorem isFailure_raised : v.raised.isFailure = v.isFailure := by
  cases v <;> rfl

@[simp] theorem tail?_raised : v.raised.tail? = v.tail? := by
  cases v <;> rfl

@[simp] theorem raised_capture (name : String) :
    (v.capture name).raised = v.raised.capture name := by
  rcases v with e | _ | k | ⟨_ | value, captures⟩ <;> rfl

end Verdict

/-- A pattern that stands one level deeper comes to the same, if the limit is greater by one. Only
the limit that an error reports is another. -/
theorem ComesTo.raised {ν : Type} {t : Tree ν} {limit : Nat} {p : Pattern} {position : Option ν}
    {depth : Nat} {v : Verdict ν} (h : ComesTo t limit p position depth v) :
    ComesTo t (limit + 1) p position (depth + 1) v.raised := by
  induction h with
  | tooDeep h => exact .tooDeep (Nat.succ_lt_succ h)
  | atEnd h => exact .atEnd (Nat.succ_le_succ h)
  | atNode h => exact .atNode (Nat.succ_le_succ h)
  | missing h hc => exact .missing (Nat.succ_le_succ h) hc
  | leafFits h hc hn ha => exact .leafFits (Nat.succ_le_succ h) hc hn ha
  | leafFails h hc ha => exact .leafFails (Nat.succ_le_succ h) hc ha
  | skipStop h _ hv ih => exact .skipStop (Nat.succ_le_succ h) ih (by simp [hv])
  | skipOn h _ hv _ ihi ihr => exact .skipOn (Nat.succ_le_succ h) ihi (by simp [hv]) ihr
  | skipEnd h _ hv ih => exact .skipEnd (Nat.succ_le_succ h) ih (by simp [hv])
  | repeatStop h hc _ hv ih => exact .repeatStop (Nat.succ_le_succ h) hc ih (by simp [hv])
  | repeatOn h hc _ _ ihi ihr => exact .repeatOn (Nat.succ_le_succ h) hc ihi ihr
  | tagOther h ht => exact .tagOther (Nat.succ_le_succ h) ht
  | tagChild h ht _ hv ih => exact .tagChild (Nat.succ_le_succ h) ht ih (by simp [hv])
  | tagNext h ht _ _ hv ihi ihr => exact .tagNext (Nat.succ_le_succ h) ht ihi ihr (by simp [hv])
  | tagFits h ht _ _ ihi ihr => exact .tagFits (Nat.succ_le_succ h) ht ihi ihr
  | scope h hc _ ih => exact .scope (Nat.succ_le_succ h) hc ih
  | bind h hc _ ih =>
    rw [Verdict.raised_capture]
    exact .bind (Nat.succ_le_succ h) hc ih

/-! ### Verdicts that settle -/

section settles

variable {ν : Type} {t : Tree ν} {p child next : Pattern} {position : Option ν}
  {depth k : Nat} {v : Verdict ν}

/-- The verdict on a pattern at a position settles at a depth: all limits from there on agree on it,
and all below cut matching off. -/
structure Settles (t : Tree ν) (p : Pattern) (position : Option ν) (depth k : Nat)
    (v : Verdict ν) : Prop where
  /-- Matching begins at its own depth. -/
  depth_le : depth ≤ k
  /-- It looks no deeper than the pattern nests. -/
  le_nesting : k ≤ depth + p.nesting
  /-- A limit that allows the depth leads to the verdict. -/
  comesTo : ∀ limit, k ≤ limit → ComesTo t limit p position depth v
  /-- A limit that does not allow it is reported. -/
  cutOff : ∀ limit, limit < k →
    ComesTo t limit p position depth (.error (.depthLimitExceeded limit))
  /-- The verdict itself reports no limit. -/
  ne_cutOff : ∀ limit, v ≠ .error (.depthLimitExceeded limit)

/-- A verdict that looks at nothing below settles at once. -/
theorem Settles.at_once (hv : ∀ limit, v ≠ .error (.depthLimitExceeded limit))
    (above : ∀ limit, depth ≤ limit → ComesTo t limit p position depth v) :
    Settles t p position depth depth v :=
  ⟨Nat.le_refl _, Nat.le_add_right .., above, fun _ h => .tooDeep h, hv⟩

/-- A verdict that rests on a nested pattern settles where that does. -/
theorem Settles.of_inner {position' : Option ν} {w : Verdict ν}
    (hi : Settles t child position' (depth + 1) k v) (hn : 1 + child.nesting ≤ p.nesting)
    (hw : ∀ limit, w ≠ .error (.depthLimitExceeded limit))
    (above : ∀ limit, depth ≤ limit → ComesTo t limit child position' (depth + 1) v →
      ComesTo t limit p position depth w)
    (below : ∀ limit, depth ≤ limit →
      ComesTo t limit child position' (depth + 1) (.error (.depthLimitExceeded limit)) →
      ComesTo t limit p position depth (.error (.depthLimitExceeded limit))) :
    Settles t p position depth k w := by
  have := hi.depth_le
  have := hi.le_nesting
  refine ⟨by omega, by omega, fun limit hk => ?_, fun limit hk => ?_, hw⟩
  · exact above limit (by omega) (hi.comesTo limit hk)
  · rcases Nat.lt_or_ge limit depth with hl | hl
    · exact .tooDeep hl
    · exact below limit hl (hi.cutOff limit hk)

/-- A verdict that rests on a nested pattern and then on something else of the same level settles
where both have settled. -/
theorem Settles.of_inner_of_rest {q : Pattern} {position' position'' : Option ν} {k' : Nat}
    {w w' : Verdict ν} (hi : Settles t child position' (depth + 1) k v)
    (hr : Settles t q position'' depth k' w) (hn : 1 + child.nesting ≤ p.nesting)
    (hq : q.nesting ≤ p.nesting) (hw : ∀ limit, w' ≠ .error (.depthLimitExceeded limit))
    (above : ∀ limit, depth ≤ limit → ComesTo t limit child position' (depth + 1) v →
      ComesTo t limit q position'' depth w → ComesTo t limit p position depth w')
    (below : ∀ limit, depth ≤ limit →
      ComesTo t limit child position' (depth + 1) (.error (.depthLimitExceeded limit)) →
      ComesTo t limit p position depth (.error (.depthLimitExceeded limit)))
    (behind : ∀ limit, depth ≤ limit → ComesTo t limit child position' (depth + 1) v →
      ComesTo t limit q position'' depth (.error (.depthLimitExceeded limit)) →
      ComesTo t limit p position depth (.error (.depthLimitExceeded limit))) :
    Settles t p position depth (max k k') w' := by
  have := hi.depth_le
  have := hi.le_nesting
  have := hr.le_nesting
  refine ⟨by omega, by omega, fun limit hk => ?_, fun limit hk => ?_, hw⟩
  · exact above limit (by omega) (hi.comesTo limit (by omega)) (hr.comesTo limit (by omega))
  · rcases Nat.lt_or_ge limit depth with hl | hl
    · exact .tooDeep hl
    · rcases Nat.lt_or_ge limit k with hlt | hge
      · exact below limit hl (hi.cutOff limit hlt)
      · exact behind limit hl (hi.comesTo limit hge) (hr.cutOff limit (by omega))

/-! ### Every pattern settles -/

/-- Skipping settles when its nested pattern does at every position. To be cut off is no failure, so
the search does not go on from there. -/
theorem exists_settles_skipUntil
    (inner : ∀ position, ∃ k v, Settles t child position (depth + 1) k v) :
    ∀ position, ∃ k v, Settles t (.node .skipUntil child next) position depth k v := by
  have stop : ∀ {position : Option ν} {k v}, Settles t child position (depth + 1) k v →
      v.isFailure = false → Settles t (.node .skipUntil child next) position depth k v := by
    intro position k v hi hf
    exact hi.of_inner (Nat.le_refl _) hi.ne_cutOff (fun _ hl h => .skipStop hl h hf)
      fun _ hl h => .skipStop hl h rfl
  have last : ∃ k v, Settles t (.node .skipUntil child next) none depth k v := by
    obtain ⟨k, v, hi⟩ := inner none
    cases hf : v.isFailure with
    | false => exact ⟨k, v, stop hi hf⟩
    | true =>
      exact ⟨k, .noMatch, hi.of_inner (Nat.le_refl _) nofun (fun _ hl h => .skipEnd hl h hf)
        fun _ hl h => .skipStop hl h rfl⟩
  intro position
  cases position with
  | none => exact last
  | some n =>
    -- the siblings behind `n` come before `n` in the order of links
    induction n using t.finite.induction with
    | _ n ih =>
      obtain ⟨k, v, hi⟩ := inner (some n)
      cases hf : v.isFailure with
      | false => exact ⟨k, v, stop hi hf⟩
      | true =>
        have behind : ∃ k v, Settles t (.node .skipUntil child next) (t.next n) depth k v := by
          cases hn : t.next n with
          | none => exact last
          | some m => exact ih m (.inr hn)
        obtain ⟨k', w, hr⟩ := behind
        exact ⟨max k k', w, hi.of_inner_of_rest hr (Nat.le_refl _) (Nat.le_refl _) hr.ne_cutOff
          (fun _ hl h h' => .skipOn hl h hf h') (fun _ hl h => .skipStop hl h rfl)
          fun _ hl h h' => .skipOn hl h hf h'⟩

/-- Repeating settles when its nested pattern does at every position. To be cut off leaves no node
over, so the search does not start again. -/
theorem exists_settles_repetition (hc : child.isAbsent = false)
    (inner : ∀ position, ∃ k v, Settles t child position (depth + 1) k v) :
    ∀ position, ∃ k v, Settles t (.node .repetition child next) position depth k v := by
  intro position
  -- an attempt ends the search unless it leaves over a node, which lies ahead
  have attempt : ∀ position : Option ν,
      (∀ n, t.Ahead position n →
        ∃ k v, Settles t (.node .repetition child next) (some n) depth k v) →
      ∃ k v, Settles t (.node .repetition child next) position depth k v := by
    intro position again
    obtain ⟨k, v, hi⟩ := inner position
    cases ht : v.tail? with
    | none =>
      exact ⟨k, v, hi.of_inner (Nat.le_refl _) hi.ne_cutOff (fun _ hl h => .repeatStop hl hc h ht)
        fun _ hl h => .repeatStop hl hc h rfl⟩
    | some n =>
      obtain rfl : v = .leftover n := by
        cases v <;> simp_all [Verdict.tail?]
      obtain ⟨k', w, hr⟩ := again n ((hi.comesTo k (Nat.le_refl _)).ahead hc)
      exact ⟨max k k', w, hi.of_inner_of_rest hr (Nat.le_refl _) (Nat.le_refl _) hr.ne_cutOff
        (fun _ hl h h' => .repeatOn hl hc h h') (fun _ hl h => .repeatStop hl hc h rfl)
        fun _ hl h h' => .repeatOn hl hc h h'⟩
  cases position with
  | none => exact attempt none fun k hk => absurd hk Tree.not_ahead_none
  | some n =>
    induction n using t.ahead_wellFounded.induction with
    | _ n ih => exact attempt (some n) fun k hk => ih k (Tree.ahead_some.1 hk)

/-- A tag settles when its nested pattern does one level deeper and its continuation on its own
level. -/
theorem exists_settles_tag {name : String}
    (inner : ∀ position, ∃ k v, Settles t child position (depth + 1) k v)
    (rest : ∀ position, ∃ k v, Settles t next position depth k v) (position : Option ν) :
    ∃ k v, Settles t (.node (.tag name) child next) position depth k v := by
  by_cases hother : ∀ n, position = some n → t.tag n ≠ some name
  · exact ⟨depth, .noMatch, .at_once nofun fun _ hl => .tagOther hl hother⟩
  · obtain ⟨n, rfl, ht⟩ : ∃ n, position = some n ∧ t.tag n = some name := by
      simpa using hother
    obtain ⟨k, v, hi⟩ := inner (t.child n)
    cases hv : v.isMatch with
    | false =>
      exact ⟨k, v, hi.of_inner (Nat.le_max_left ..) hi.ne_cutOff
        (fun _ hl h => .tagChild hl ht h hv) fun _ hl h => .tagChild hl ht h rfl⟩
    | true =>
      obtain ⟨value, captures, rfl⟩ : ∃ value captures, v = .matched value captures := by
        cases v <;> simp_all [Verdict.isMatch]
      obtain ⟨k', w, hr⟩ := rest (t.next n)
      cases hw : w.isMatch with
      | false =>
        exact ⟨max k k', w, hi.of_inner_of_rest hr (Nat.le_max_left ..) (Nat.le_max_right ..)
          hr.ne_cutOff (fun _ hl h h' => .tagNext hl ht h h' hw)
          (fun _ hl h => .tagChild hl ht h rfl) fun _ hl h h' => .tagNext hl ht h h' rfl⟩
      | true =>
        obtain ⟨value', captures', rfl⟩ : ∃ value captures, w = .matched value captures := by
          cases w <;> simp_all [Verdict.isMatch]
        exact ⟨max k k', .matched none (captures ++ captures'),
          hi.of_inner_of_rest hr (Nat.le_max_left ..) (Nat.le_max_right ..) nofun
          (fun _ hl h h' => .tagFits hl ht h h') (fun _ hl h => .tagChild hl ht h rfl)
          fun _ hl h h' => .tagNext hl ht h h' rfl⟩

/-- A construct for single text nodes settles at once. -/
theorem exists_settles_leaf {construct : Construct} {accepts : String → Bool}
    (hc : construct.accepts? = some accepts) (position : Option ν) :
    ∃ k v, Settles t (.node construct child next) position depth k v := by
  by_cases hfits : ∃ n text, position = some n ∧ t.shownText n = some text ∧ accepts text = true
  · obtain ⟨n, text, rfl, hn, ha⟩ := hfits
    exact ⟨depth, .matched (some text) [], .at_once nofun fun _ hl => .leafFits hl hc hn ha⟩
  · refine ⟨depth, .noMatch, .at_once nofun fun _ hl => .leafFails hl hc fun n text hm hn => ?_⟩
    exact Bool.eq_false_iff.2 fun ha => hfits ⟨n, text, hm, hn, ha⟩

/-- A binding settles with its nested pattern. -/
theorem Settles.bind {name : String} (hc : child.isAbsent = false)
    (hi : Settles t child position (depth + 1) k v) :
    Settles t (.node (.bind name) child next) position depth k (v.capture name) := by
  refine hi.of_inner (Nat.le_refl _) ?_ (fun _ hl h => .bind hl hc h) fun _ hl h => .bind hl hc h
  intro limit hv
  exact hi.ne_cutOff limit (Verdict.capture_eq_error.1 hv)

/-- The verdict on a pattern settles at every position, by induction on the pattern. -/
theorem exists_settles (t : Tree ν) :
    ∀ (p : Pattern) (position : Option ν) (depth : Nat), ∃ k v, Settles t p position depth k v
  | .absent, none, depth => ⟨depth, .matched none [], .at_once nofun fun _ hl => .atEnd hl⟩
  | .absent, some n, depth => ⟨depth, .leftover n, .at_once nofun fun _ hl => .atNode hl⟩
  | .node construct child next, position, depth => by
    have inner := fun position => exists_settles t child position (depth + 1)
    have rest := fun position => exists_settles t next position depth
    by_cases hm : construct.needsInner = true ∧ child = .absent
    · obtain ⟨hm, rfl⟩ := hm
      exact ⟨depth, .error (.missingInner construct.kindName),
        .at_once (by simp) fun _ hl => .missing hl hm⟩
    have present (hn : construct.needsInner = true) : child.isAbsent = false := by
      cases child with
      | absent => exact absurd ⟨hn, rfl⟩ hm
      | node => rfl
    obtain ⟨k, v, hi⟩ := inner position
    cases construct with
    | skipUntil => exact exists_settles_skipUntil inner position
    | repetition => exact exists_settles_repetition (present rfl) inner position
    | tag name => exact exists_settles_tag inner rest position
    | text literal => exact exists_settles_leaf rfl position
    | regex e => exact exists_settles_leaf rfl position
    | scope =>
      exact ⟨k, v, hi.of_inner (Nat.le_refl _) hi.ne_cutOff (fun _ hl h => .scope hl (present rfl) h)
        fun _ hl h => .scope hl (present rfl) h⟩
    | bind name => exact ⟨k, v.capture name, hi.bind (present rfl)⟩

end settles

/-! ### Runs -/

namespace Matcher

/-- The limit is a sharp threshold. For every pattern and position there is a depth, no greater than
the pattern nests, such that from every chain the matchers that allow it give one and the same
answer, which reports no limit, and all others report theirs. No sequence of any length comes to a
greater depth than its items may. -/
theorem exists_depth_threshold {ν : Type} (t : Tree ν) (p : Pattern) (position : Option ν) :
    ∃ k, k ≤ p.nesting ∧
      (∀ ps bound, p = .sequence ps → (∀ q ∈ ps, q.nesting ≤ bound) → k ≤ bound) ∧
      ∀ chain : Chain, ∃ a : Answer ν,
        (∀ limit, a ≠ .error (.depthLimitExceeded limit)) ∧
        ∀ m : Matcher, m.run t p position chain =
          if k ≤ m.maxDepth then a else .error (.depthLimitExceeded m.maxDepth) := by
  obtain ⟨k, v, h⟩ := exists_settles t p position 0
  have hk : k ≤ p.nesting := by
    have := h.le_nesting
    omega
  refine ⟨k, hk, ?_, fun chain => ⟨v.replay p chain, ?_, fun m => ?_⟩⟩
  · rintro ps bound rfl hps
    exact Nat.le_trans hk (Pattern.nesting_sequence_le hps)
  · intro limit ha
    refine h.ne_cutOff limit ?_
    cases v with
    | error e =>
      cases ha
      rfl
    | noMatch | leftover | matched => cases ha
  · split
    · exact (h.comesTo m.maxDepth ‹_›).walk_eq chain
    · exact (h.cutOff m.maxDepth (Nat.lt_of_not_le ‹_›)).walk_eq chain

end Matcher

end TreePattern
