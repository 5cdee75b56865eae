import TreePattern.Proofs.Match.Replay

/-!
# What a match captures

The captures of a match are known without any chain: the rules of `ComesTo` collect them, a tag
those of its nested pattern before those of its continuation, a binding its own last, skipping those
of the place where it stops, and repeating those of its last attempt only. A run writes just these,
in order, into one frame.

* `Matcher.exists_run_eq_captures`: a run is described by one verdict that no chain can change; on a
  fit the innermost frame is the one to begin from, or an empty one, overlaid with the captures.
-/

namespace TreePattern

namespace Matcher

variable {ν : Type}

/-- The frame that a pattern writes its captures into: the innermost one of the chain it is given,
unless a scope or a repeating construct on the way down through nested patterns pushes another. -/
def baseFrame (p : Pattern) (chain : Chain) : Frame :=
  if p.pushes = 0 then chain.innermost else ∅

/-- There is one verdict for a pattern at a position, and from every chain the run is what it says:
the same error, or the same outcome; a failure hands back the chain, and a fit leaves the captures
of the verdict, written in order into the innermost frame. -/
theorem exists_run_eq_captures (m : Matcher) (t : Tree ν) (p : Pattern) (position : Option ν) :
    ∃ v : Verdict ν, (∀ w, ComesTo t m.maxDepth p position 0 w ↔ w = v) ∧
      ∀ chain : Chain,
        match v with
        | .error e => m.run t p position chain = .error e
        | .noMatch => m.run t p position chain = .ok (.noMatch, chain)
        | .leftover tail => m.run t p position chain = .ok (.leftover tail, chain)
        | .matched value captures =>
          ∃ c, m.run t p position chain = .ok (.matched value, c) ∧
            c.innermost = (baseFrame p chain).overlay captures := by
  obtain ⟨v, hv, run_eq⟩ := m.exists_run_eq_replay t p position
  refine ⟨v, fun w => ⟨fun hw => hw.unique hv, ?_⟩, fun chain => ?_⟩
  · rintro rfl
    exact hv
  · have h := run_eq chain
    cases v with
    | error | noMatch | leftover => exact h
    | matched value captures =>
      refine ⟨_, h, ?_⟩
      rw [Chain.innermost_record, Chain.innermost_pushed]
      rfl

end Matcher

end TreePattern
