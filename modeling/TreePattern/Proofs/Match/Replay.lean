import TreePattern.Proofs.Match.Verdict

/-!
# The walk replays its verdict

A pattern comes to one verdict, whatever chain its walk begins from (`ComesTo`). Here the walk is
recovered from the verdict: `Verdict.replay` says what is done to a chain for it. An error and a
failure leave no trace. For a fit, first all frames are pushed, as many as `Pattern.pushes` counts
on the pattern alone, and then all captures are written into the innermost frame, in order.

That the walk does just this (`ComesTo.walk_eq`) is not what its definition looks like: a tag hands
the chain of its nested pattern to its continuation, which may push frames of its own, and merges
what comes back. Merging keeps the captures and drops those frames (`Chain.merge_record`).

* `Frame.merge_overlay`: laying a frame over another and then writing, or the other way round.
* `Chain.frames_pushed`: pushing keeps all frames and adds empty ones.
* `ComesTo.walk_eq`: from every chain the walk answers with the replay of the verdict.
-/

namespace TreePattern

/-! ### Writing a list of captures -/

namespace Frame

/-- Writes captures into a frame, one after the other. -/
def overlay (f : Frame) (captures : List (String × String)) : Frame :=
  captures.foldl (fun f e => f.set e.1 e.2) f

@[simp] theorem overlay_nil (f : Frame) : f.overlay [] = f := rfl

@[simp] theorem overlay_cons (f : Frame) (name value : String)
    (captures : List (String × String)) :
    f.overlay ((name, value) :: captures) = (f.set name value).overlay captures := rfl

theorem overlay_append (f : Frame) (first later : List (String × String)) :
    f.overlay (first ++ later) = (f.overlay first).overlay later :=
  List.foldl_append

/-- A frame laid over itself is the frame. -/
@[simp] theorem merge_self (f : Frame) : f.merge f = f := by
  refine ext_get? fun x => ?_
  rw [get?_merge]
  cases f.get? x <;> rfl

/-- The empty frame laid over a frame adds nothing. -/
@[simp] theorem merge_empty (f : Frame) : f.merge ∅ = f := by
  refine ext_get? fun x => ?_
  rw [get?_merge, get?_empty, Option.none_or]

/-- A write to the upper frame can as well be done after the frames are laid over one another. -/
theorem merge_set (f g : Frame) (name value : String) :
    f.merge (g.set name value) = (f.merge g).set name value := by
  refine ext_get? fun x => ?_
  rw [get?_merge, get?_set, get?_set, get?_merge]
  by_cases hx : x = name
  · rw [if_pos hx, if_pos hx, Option.some_or]
  · rw [if_neg hx, if_neg hx]

/-- Captures in the upper frame can as well be written after the frames are laid over one
another. -/
theorem merge_overlay (f : Frame) :
    ∀ (captures : List (String × String)) (g : Frame),
      f.merge (g.overlay captures) = (f.merge g).overlay captures
  | [], _ => rfl
  | (name, value) :: captures, g => by
    rw [overlay_cons, merge_overlay f captures, merge_set, overlay_cons]

end Frame

namespace Chain

/-- Writes captures into the innermost frame. -/
def record (c : Chain) (captures : List (String × String)) : Chain :=
  { c with innermost := c.innermost.overlay captures }

/-- The same chain with a number of empty frames pushed onto it. -/
def pushed (c : Chain) : Nat → Chain
  | 0 => c
  | n + 1 => c.push.pushed n

@[simp] theorem record_nil (c : Chain) : c.record [] = c := rfl

@[simp] theorem innermost_record (c : Chain) (captures : List (String × String)) :
    (c.record captures).innermost = c.innermost.overlay captures := rfl

@[simp] theorem outer_record (c : Chain) (captures : List (String × String)) :
    (c.record captures).outer = c.outer := rfl

@[simp] theorem pushed_zero (c : Chain) : c.pushed 0 = c := rfl

theorem pushed_succ (c : Chain) (n : Nat) : c.pushed (n + 1) = c.push.pushed n := rfl

theorem record_append (c : Chain) (first later : List (String × String)) :
    c.record (first ++ later) = (c.record first).record later := by
  rw [record, Frame.overlay_append]
  rfl

/-- Setting a name is recording one more capture. -/
theorem set_record (c : Chain) (captures : List (String × String)) (name value : String) :
    (c.record captures).set name value = c.record (captures ++ [(name, value)]) := by
  rw [record_append]
  rfl

/-- The innermost frame is the old one if nothing is pushed, and empty otherwise. -/
theorem innermost_pushed :
    ∀ (n : Nat) (c : Chain), (c.pushed n).innermost = if n = 0 then c.innermost else ∅
  | 0, _ => rfl
  | n + 1, c => by
    rw [pushed_succ, innermost_pushed n c.push, if_neg (Nat.succ_ne_zero n)]
    exact ite_self _

/-- Pushing keeps all frames and adds empty ones. -/
theorem frames_pushed :
    ∀ (n : Nat) (c : Chain), (c.pushed n).frames = c.frames ++ List.replicate n ∅
  | 0, c => (List.append_nil _).symm
  | n + 1, c => by
    rw [pushed_succ, frames_pushed n c.push, frames_push, List.append_assoc]
    rfl

/-- Every push adds one to the number of frames. -/
theorem depth_pushed : ∀ (n : Nat) (c : Chain), (c.pushed n).depth = c.depth + n
  | 0, _ => rfl
  | n + 1, c => by
    rw [pushed_succ, depth_pushed n c.push]
    have : c.push.depth = c.depth + 1 := rfl
    omega

/-- Recording touches the innermost frame only. -/
theorem frames_record (c : Chain) (captures : List (String × String)) :
    (c.record captures).frames = c.frames.dropLast ++ [(c.record captures).innermost] := by
  rw [frames, frames, List.dropLast_concat]
  rfl

/-- What is captured in frames pushed onto a chain comes back by merging, and the frames do
not. -/
theorem merge_record (c : Chain) (n : Nat) (captures : List (String × String)) :
    c.merge ((c.pushed n).record captures) = c.record captures := by
  have base : c.innermost.merge (c.pushed n).innermost = c.innermost := by
    rw [innermost_pushed]
    split
    · exact Frame.merge_self _
    · exact Frame.merge_empty _
  rw [merge, innermost_record, Frame.merge_overlay, base]
  rfl

end Chain

/-! ### Replaying a verdict -/

/-- How many frames a pattern leaves pushed when it fits: one for every scope and every repeating
construct on the way down through nested patterns. Constructs for single text nodes have nothing
below them. -/
def Pattern.pushes : Pattern → Nat
  | .absent => 0
  | .node (.text _) _ _ => 0
  | .node (.regex _) _ _ => 0
  | .node .scope child _ => child.pushes + 1
  | .node .repetition child _ => child.pushes + 1
  | .node .skipUntil child _ => child.pushes
  | .node (.tag _) child _ => child.pushes
  | .node (.bind _) child _ => child.pushes

/-- Constructs for single text nodes push nothing. -/
theorem Pattern.pushes_of_accepts? {construct : Construct} {accepts : String → Bool}
    {child next : Pattern} (h : construct.accepts? = some accepts) :
    (Pattern.node construct child next).pushes = 0 := by
  cases construct with
  | text | regex => rfl
  | _ => cases h

/-- What a verdict on a pattern makes of a chain: for a fit the frames are pushed and the captures
are recorded, and otherwise the chain stays as it was. -/
def Verdict.replay {ν : Type} (p : Pattern) (chain : Chain) : Verdict ν → Answer ν
  | .error e => .error e
  | .noMatch => .ok (.noMatch, chain)
  | .leftover tail => .ok (.leftover tail, chain)
  | .matched value captures => .ok (.matched value, (chain.pushed p.pushes).record captures)

namespace ComesTo

variable {ν : Type} {t : Tree ν} {m : Matcher} {p : Pattern} {position : Option ν} {depth : Nat}
  {v : Verdict ν}

/-- Constructs for single text nodes answer with what they accept. -/
theorem walk_leaf {construct : Construct} {accepts : String → Bool} {child next : Pattern}
    {chain : Chain} (h : depth ≤ m.maxDepth) (hc : construct.accepts? = some accepts) :
    m.walk t (.node construct child next) position chain depth =
      .ok (Matcher.matchText t accepts position, chain) := by
  cases construct with
  | text literal =>
    cases hc
    exact Matcher.walk_text h
  | regex e =>
    cases hc
    exact Matcher.walk_regex h
  | _ => cases hc

/-- From every chain the walk answers with the replay of the verdict. -/
theorem walk_eq (h : ComesTo t m.maxDepth p position depth v) (chain : Chain) :
    m.walk t p position chain depth = v.replay p chain := by
  induction h generalizing chain with
  | tooDeep h => exact Matcher.walk_of_lt h
  | atEnd h => exact Matcher.walk_absent h
  | atNode h => exact Matcher.walk_absent h
  | @missing construct _ _ _ h hc => cases construct with
    | repetition => exact Matcher.walk_repetition_absent h
    | scope => exact Matcher.walk_scope_absent h
    | bind => exact Matcher.walk_bind_absent h
    | _ => cases hc
  | leafFits h hc hn ha =>
    rw [walk_leaf h hc]
    simp [Matcher.matchText, hn, ha, Verdict.replay, Pattern.pushes_of_accepts? hc]
  | @leafFails _ _ _ position _ _ h hc ha =>
    rw [walk_leaf h hc]
    rcases hn : position.bind t.shownText with _ | text
    · simp [Matcher.matchText, hn, Verdict.replay]
    · obtain ⟨n, rfl, ht⟩ := Option.bind_eq_some_iff.1 hn
      simp [Matcher.matchText, hn, ha n text rfl ht, Verdict.replay]
  | @skipStop _ _ _ _ v h _ hv ih =>
    rw [Matcher.walk_skipUntil h, ih chain]
    cases v with
    | error | matched => rfl
    | noMatch | leftover => cases hv
  | @skipOn _ _ _ _ v _ h _ hv _ ihi ihr =>
    rw [Matcher.walk_skipUntil h, ihi chain]
    cases v with
    | error | matched => cases hv
    | noMatch | leftover => exact ihr chain
  | @skipEnd _ _ _ v h _ hv ih =>
    rw [Matcher.walk_skipUntil h, ih chain]
    cases v with
    | error | matched => cases hv
    | noMatch | leftover => rfl
  | @repeatStop _ _ _ _ v h hc _ hv ih =>
    rw [Matcher.walk_repetition h hc, ih chain.push]
    cases v with
    | error | matched | noMatch => rfl
    | leftover => cases hv
  | repeatOn h hc _ _ ihi ihr =>
    rw [Matcher.walk_repetition h hc, ihi chain.push]
    exact ihr chain
  | @tagOther _ _ _ position _ h ht =>
    rw [Matcher.walk_tag h]
    cases position with
    | none => rfl
    | some n => exact if_neg (ht n rfl)
  | @tagChild _ _ _ _ _ v h ht _ hv ih =>
    rw [Matcher.walk_tag h]
    refine (if_pos ht).trans ?_
    rw [ih chain]
    cases v with
    | error | noMatch | leftover => rfl
    | matched => cases hv
  | @tagNext _ child _ _ _ _ captures v h ht _ _ hv ihi ihr =>
    rw [Matcher.walk_tag h]
    refine (if_pos ht).trans ?_
    rw [ihi chain]
    dsimp only [Verdict.replay]
    rw [ihr ((chain.pushed child.pushes).record captures)]
    cases v with
    | error | noMatch | leftover => rfl
    | matched => cases hv
  | @tagFits _ child _ _ _ _ captures _ captures' h ht _ _ ihi ihr =>
    rw [Matcher.walk_tag h]
    refine (if_pos ht).trans ?_
    rw [ihi chain]
    dsimp only [Verdict.replay]
    rw [ihr ((chain.pushed child.pushes).record captures)]
    dsimp only [Verdict.replay]
    -- the continuation began from the chain it is merged into
    rw [Chain.merge_record, ← Chain.record_append]
    rfl
  | @scope _ _ _ _ v h hc _ ih =>
    rw [Matcher.walk_scope h hc, ih chain.push]
    cases v <;> rfl
  | @bind _ child _ _ _ v h hc _ ih =>
    rw [Matcher.walk_bind h hc, ih chain]
    rcases v with e | _ | k | ⟨_ | value, captures⟩
    case matched.some =>
      dsimp only [Verdict.replay, Verdict.capture]
      rw [Chain.set_record]
      rfl
    all_goals rfl

end ComesTo

/-- Every run is the replay of one verdict, the same for all chains to begin from. -/
theorem Matcher.exists_run_eq_replay {ν : Type} (m : Matcher) (t : Tree ν) (p : Pattern)
    (position : Option ν) :
    ∃ v, ComesTo t m.maxDepth p position 0 v ∧
      ∀ chain, m.run t p position chain = v.replay p chain := by
  obtain ⟨v, hv⟩ := exists_comesTo t m.maxDepth p position 0
  exact ⟨v, hv, hv.walk_eq⟩

/-- What is a fit under a condition and no match without it is a fit exactly under the condition. -/
theorem exists_matched_iff {ν : Type} {answer : Answer ν} {chain : Chain} {condition : Prop}
    (fits : condition → ∃ value c, answer = .ok (.matched value, c))
    (fails : ¬ condition → answer = .ok (.noMatch, chain)) :
    (∃ value c, answer = .ok (.matched value, c)) ↔ condition := by
  refine ⟨?_, fits⟩
  rintro ⟨value, c, h⟩
  refine Classical.byContradiction fun hc => ?_
  cases (fails hc).symm.trans h

end TreePattern
