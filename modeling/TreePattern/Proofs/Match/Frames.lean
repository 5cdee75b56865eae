import TreePattern.Document.Builder
import TreePattern.Proofs.Match.Replay

/-!
# The chain that a match ends with

Frames are pushed by two constructs and never popped, and what a failed attempt wrote and pushed is
given up with its chain. Both statements here are about runs from any chain, on any tree, and with
any limit.

* `Matcher.chain_eq_of_run_failed`: a pattern that does not fit hands back the chain it was given.
* `Matcher.frames_of_run_matched`: a pattern that fits leaves as many frames pushed as
  `Pattern.pushes` counts, whatever the tree; all frames but the innermost are the old ones or
  empty.
-/

namespace TreePattern

namespace Matcher

variable {ν : Type} {m : Matcher} {t : Tree ν} {p : Pattern} {position : Option ν}

/-- A run that ends without a fit hands back the chain it began from, whatever was captured and
pushed on the way. -/
theorem chain_eq_of_run_failed {chain c : Chain} {outcome : Outcome ν}
    (h : m.run t p position chain = .ok (outcome, c)) (ho : outcome.isMatch = false) :
    c = chain := by
  obtain ⟨v, -, hv⟩ := m.exists_run_eq_replay t p position
  rw [hv chain] at h
  cases v with
  | error e => cases h
  | noMatch | leftover tail =>
    cases h
    rfl
  | matched value captures =>
    cases h
    cases ho

/-- The text of the first element is captured in a frame of its own before the tag behind fails. -/
theorem chain_eq_of_run_failed_behind_capture :
    let d := Document.ofSteps [.enter "p", .text "a", .leave, .enter "div"]
    let captured := Pattern.node (.bind "x") (.node (.text "a") .absent .absent) .absent
    let p := Pattern.node (.tag "p") (.node .scope captured .absent)
      (.node (.tag "span") .absent .absent)
    let chain := Chain.new.set "kept" "yes"
    ∃ c, standard.run d.tree p d.rootNode chain = .ok (.noMatch, c) ∧ c = chain := by
  intro d captured p chain
  have h : standard.run d.tree p d.rootNode chain = .ok (.noMatch, chain) := rfl
  exact ⟨chain, h, chain_eq_of_run_failed h rfl⟩

/-- A run that ends with a fit leaves the frames that the pattern says: if it pushes none, the
frames around the innermost one are the old ones; if it pushes some, all old frames are there, then
empty ones, and last the innermost frame. -/
theorem frames_of_run_matched {chain c : Chain} {value : Option String}
    (h : m.run t p position chain = .ok (.matched value, c)) :
    c.depth = chain.depth + p.pushes ∧
      (p.pushes = 0 → c.frames = chain.frames.dropLast ++ [c.innermost]) ∧
      (0 < p.pushes →
        c.frames = chain.frames ++ List.replicate (p.pushes - 1) ∅ ++ [c.innermost]) := by
  obtain ⟨v, -, hv⟩ := m.exists_run_eq_replay t p position
  rw [hv chain] at h
  cases v with
  | error | noMatch | leftover => cases h
  | matched value captures =>
    cases h
    refine ⟨Chain.depth_pushed p.pushes chain, fun hp => ?_, fun hp => ?_⟩
    · rw [Chain.frames_record, Chain.frames_pushed, hp, List.replicate_zero, List.append_nil]
    · obtain ⟨n, hn⟩ := Nat.exists_eq_succ_of_ne_zero (Nat.ne_of_gt hp)
      rw [Chain.frames_record, Chain.frames_pushed, hn, List.replicate_succ', ← List.append_assoc,
        List.dropLast_concat, Nat.succ_sub_one]

/-- Of the three frames pushed here, two stay, and the one pushed in the continuation does not. -/
theorem frames_of_run_matched_scopes :
    let d := Document.ofSteps [.enter "p", .text "a", .leave, .enter "p", .text "b"]
    let captured (name text : String) :=
      Pattern.node .scope (.node (.bind name) (.node (.text text) .absent .absent) .absent) .absent
    let p := Pattern.node (.tag "p") (.node .scope (captured "x" "a") .absent)
      (.node (.tag "p") (captured "y" "b") .absent)
    let chain := Chain.new.set "kept" "yes"
    ∃ c, standard.run d.tree p d.rootNode chain = .ok (.matched none, c) ∧
      c.depth = chain.depth + 2 ∧ c.frames = chain.frames ++ [∅] ++ [c.innermost] := by
  intro d captured p chain
  have h : standard.run d.tree p d.rootNode chain =
      .ok (.matched none, ⟨[∅, chain.innermost], (Frame.empty.set "x" "a").set "y" "b"⟩) := rfl
  have frames := frames_of_run_matched h
  exact ⟨_, h, frames.1, frames.2.2 (by decide)⟩

end Matcher

end TreePattern
