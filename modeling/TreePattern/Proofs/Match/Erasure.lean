import TreePattern.Proofs.Match.Consulted

/-!
# Matching without captures

Scopes and bindings are there for the captures. `Pattern.erase` takes them out of a pattern, at
every place, and puts what is nested in them into the slot where they stood: a nested pattern may so
become the continuation of a tag, and nests less deep than before. The searches of the matcher are
led by outcomes. They go on after a failure and start again at a node that is left over, and these
are the same with and without captures; so a pattern and its erasure take the same turns.

* `Verdict.outcome`: a verdict without its captures, which is all that the searches look at.
* `ComesTo.exists_erase`: the erasure of a complete pattern comes to the same outcome, at any depth
  that the limit allows.
* `Matcher.run_erase`: what this means for runs.
-/

namespace TreePattern

namespace Pattern

/-! ### Erasing -/

/-- The pattern without scopes and bindings, each replaced by what is nested in it. Slots that are
not looked at are emptied. -/
def erase : Pattern → Pattern
  | absent => absent
  | node (.text literal) _ _ => node (.text literal) absent absent
  | node (.regex e) _ _ => node (.regex e) absent absent
  | node (.tag name) child next => node (.tag name) child.erase next.erase
  | node .skipUntil child _ => node .skipUntil child.erase absent
  | node .repetition child _ => node .repetition child.erase absent
  | node .scope child _ => child.erase
  | node (.bind _) child _ => child.erase

/-- Erasing keeps a construct for single text nodes. -/
theorem erase_of_accepts? {construct : Construct} {accepts : String → Bool} {child next : Pattern}
    (h : construct.accepts? = some accepts) :
    (node construct child next).erase = node construct absent absent := by
  cases construct with
  | text | regex => rfl
  | _ => cases h

/-- A complete pattern is not erased altogether, since a scope and a binding have something nested
in them. -/
theorem isAbsent_erase : ∀ {p : Pattern}, p.Complete → p.erase.isAbsent = p.isAbsent
  | absent, _ => rfl
  | node construct child next, hp => by
    obtain ⟨has, inner, -⟩ := complete_node_iff.1 hp
    cases construct with
    | scope | bind => exact (isAbsent_erase (inner rfl)).trans (has rfl)
    | _ => rfl

/-- Erasing never makes a pattern nest deeper. -/
theorem nesting_erase_le : ∀ p : Pattern, p.erase.nesting ≤ p.nesting
  | absent => Nat.le_refl _
  | node construct child next => by
    have inner := nesting_erase_le child
    have rest := nesting_erase_le next
    cases construct with
    | text | regex => exact Nat.le_refl _
    | _ =>
      simp only [erase, nesting]
      omega

end Pattern

/-! ### Verdicts without captures -/

namespace Verdict

variable {ν : Type} {v v' : Verdict ν}

/-- How matching ended, whatever was captured. -/
def outcome : Verdict ν → Except MatchError (Outcome ν)
  | error e => .error e
  | noMatch => .ok .noMatch
  | leftover tail => .ok (.leftover tail)
  | matched value _ => .ok (.matched value)

@[simp] theorem outcome_capture (v : Verdict ν) (name : String) :
    (v.capture name).outcome = v.outcome := by
  rcases v with e | _ | k | ⟨_ | text, captures⟩ <;> rfl

theorem isMatch_of_outcome_eq (h : v'.outcome = v.outcome) : v'.isMatch = v.isMatch := by
  cases v <;> cases v' <;> simp_all [outcome, isMatch]

theorem isFailure_of_outcome_eq (h : v'.outcome = v.outcome) : v'.isFailure = v.isFailure := by
  cases v <;> cases v' <;> simp_all [outcome, isFailure]

theorem tail?_of_outcome_eq (h : v'.outcome = v.outcome) : v'.tail? = v.tail? := by
  cases v <;> cases v' <;> simp_all [outcome, tail?]

theorem eq_leftover_of_outcome {k : ν} (h : v.outcome = .ok (.leftover k)) : v = .leftover k := by
  cases v <;> simp_all [outcome]

theorem exists_captures_of_outcome {value : Option String}
    (h : v.outcome = .ok (.matched value)) : ∃ captures, v = .matched value captures := by
  cases v <;> simp_all [outcome]

/-- A verdict that is no error is replayed with its outcome. -/
theorem exists_replay_eq_ok {o : Outcome ν} (h : v.outcome = .ok o) (p : Pattern) (chain : Chain) :
    ∃ c, v.replay p chain = .ok (o, c) := by
  cases v with
  | error e => cases h
  | noMatch | leftover | matched =>
    cases h
    exact ⟨_, rfl⟩

end Verdict

/-! ### The search of the erasure -/

section searches

variable {ν : Type} {t : Tree ν} {limit limit' : Nat} {p : Pattern} {position : Option ν}
  {depth depth' : Nat} {v : Verdict ν}

open Verdict Pattern in
/-- What a complete pattern comes to, its erasure comes to as well, captures aside. Both are allowed
for by their limits, so neither is cut off; where a scope or a binding is gone, the erasure is at a
smaller depth than the pattern, which is why the depths are not the same. -/
theorem ComesTo.exists_erase (h : ComesTo t limit p position depth v) (hp : p.Complete)
    (hd : depth + p.nesting ≤ limit) (hd' : depth' + p.erase.nesting ≤ limit') :
    ∃ v', ComesTo t limit' p.erase position depth' v' ∧ v'.outcome = v.outcome := by
  induction h generalizing depth' with
  | tooDeep h => omega
  | atEnd => exact ⟨_, .atEnd (Nat.le_of_add_right_le hd'), rfl⟩
  | atNode => exact ⟨_, .atNode (Nat.le_of_add_right_le hd'), rfl⟩
  | missing _ hc => cases hp.has_child hc
  | leafFits _ hc hn ha =>
    rw [Pattern.erase_of_accepts? hc] at hd' ⊢
    exact ⟨_, .leafFits (Nat.le_of_add_right_le hd') hc hn ha, rfl⟩
  | leafFails _ hc ha =>
    rw [Pattern.erase_of_accepts? hc] at hd' ⊢
    exact ⟨_, .leafFails (Nat.le_of_add_right_le hd') hc ha, rfl⟩
  | skipStop _ _ hf ih =>
    have here := Nat.le_of_add_right_le hd'
    obtain ⟨v', hi, same⟩ := ih (hp.inner rfl) (allows_child hd rfl) (allows_child hd' rfl)
    exact ⟨v', .skipStop here hi ((isFailure_of_outcome_eq same).trans hf), same⟩
  | skipOn _ _ hf _ ihi ihr =>
    have here := Nat.le_of_add_right_le hd'
    obtain ⟨v', hi, same⟩ := ihi (hp.inner rfl) (allows_child hd rfl) (allows_child hd' rfl)
    obtain ⟨w', hr, same'⟩ := ihr hp hd hd'
    exact ⟨w', .skipOn here hi ((isFailure_of_outcome_eq same).trans hf) hr, same'⟩
  | skipEnd _ _ hf ih =>
    have here := Nat.le_of_add_right_le hd'
    obtain ⟨v', hi, same⟩ := ih (hp.inner rfl) (allows_child hd rfl) (allows_child hd' rfl)
    exact ⟨_, .skipEnd here hi ((isFailure_of_outcome_eq same).trans hf), rfl⟩
  | repeatStop _ hc _ hk ih =>
    have here := Nat.le_of_add_right_le hd'
    have present := (isAbsent_erase (hp.inner rfl)).trans hc
    obtain ⟨v', hi, same⟩ := ih (hp.inner rfl) (allows_child hd rfl) (allows_child hd' rfl)
    exact ⟨v', .repeatStop here present hi ((tail?_of_outcome_eq same).trans hk), same⟩
  | repeatOn _ hc _ _ ihi ihr =>
    have here := Nat.le_of_add_right_le hd'
    have present := (isAbsent_erase (hp.inner rfl)).trans hc
    obtain ⟨v', hi, same⟩ := ihi (hp.inner rfl) (allows_child hd rfl) (allows_child hd' rfl)
    obtain rfl := eq_leftover_of_outcome same
    obtain ⟨w', hr, same'⟩ := ihr hp hd hd'
    exact ⟨w', .repeatOn here present hi hr, same'⟩
  | tagOther _ ht => exact ⟨_, .tagOther (Nat.le_of_add_right_le hd') ht, rfl⟩
  | tagChild _ ht _ hm ih =>
    have here := Nat.le_of_add_right_le hd'
    obtain ⟨v', hi, same⟩ := ih (hp.inner rfl) (allows_child hd rfl) (allows_child hd' rfl)
    exact ⟨v', .tagChild here ht hi ((isMatch_of_outcome_eq same).trans hm), same⟩
  | tagNext _ ht _ _ hm ihi ihr =>
    have here := Nat.le_of_add_right_le hd'
    obtain ⟨v', hi, same⟩ := ihi (hp.inner rfl) (allows_child hd rfl) (allows_child hd' rfl)
    obtain ⟨captures, rfl⟩ := exists_captures_of_outcome same
    obtain ⟨w', hr, same'⟩ := ihr hp.rest (allows_next hd) (allows_next hd')
    exact ⟨w', .tagNext here ht hi hr ((isMatch_of_outcome_eq same').trans hm), same'⟩
  | tagFits _ ht _ _ ihi ihr =>
    have here := Nat.le_of_add_right_le hd'
    obtain ⟨v', hi, same⟩ := ihi (hp.inner rfl) (allows_child hd rfl) (allows_child hd' rfl)
    obtain ⟨captures, rfl⟩ := exists_captures_of_outcome same
    obtain ⟨w', hr, same'⟩ := ihr hp.rest (allows_next hd) (allows_next hd')
    obtain ⟨captures', rfl⟩ := exists_captures_of_outcome same'
    exact ⟨_, .tagFits here ht hi hr, rfl⟩
  | scope _ _ _ ih =>
    -- the erasure stands where the scope stood, so its depth does not change
    exact ih (hp.inner rfl) (allows_child hd rfl) hd'
  | bind _ _ _ ih =>
    rw [Verdict.outcome_capture]
    exact ih (hp.inner rfl) (allows_child hd rfl) hd'

end searches

/-! ### Runs -/

namespace Matcher

variable {ν : Type}

/-- Captures and frames never change whether a pattern fits, what text it hands on, or which node it
leaves over. From any two chains a complete pattern and its erasure have the same outcome, if the
limit allows for the nesting of the pattern. -/
theorem run_erase {m : Matcher} {p : Pattern} (hp : p.Complete) (hd : p.nesting ≤ m.maxDepth)
    (t : Tree ν) (position : Option ν) (chain chain' : Chain) :
    ∃ outcome c c', m.run t p position chain = .ok (outcome, c) ∧
      m.run t p.erase position chain' = .ok (outcome, c') := by
  have allowed : 0 + p.nesting ≤ m.maxDepth := by omega
  have allowed' : 0 + p.erase.nesting ≤ m.maxDepth := by
    have := p.nesting_erase_le
    omega
  obtain ⟨v, hv, run_eq⟩ := m.exists_run_eq_replay t p position
  obtain ⟨v', hv', same⟩ := hv.exists_erase hp allowed allowed'
  have ends : ∃ outcome, v.outcome = .ok outcome := by
    cases v with
    | error e => exact absurd (hv.errsWith rfl) (hp.not_errsWith allowed)
    | noMatch | leftover | matched => exact ⟨_, rfl⟩
  obtain ⟨outcome, ho⟩ := ends
  obtain ⟨c, hc⟩ := Verdict.exists_replay_eq_ok ho p chain
  obtain ⟨c', hc'⟩ := Verdict.exists_replay_eq_ok (same.trans ho) p.erase chain'
  have run_eq' : m.run t p.erase position chain' = v'.replay p.erase chain' := hv'.walk_eq chain'
  exact ⟨outcome, c, c', (run_eq chain).trans hc, run_eq'.trans hc'⟩

/-- The first item is left behind, and the second one is captured in a frame inside a frame. What
stays of the pattern is the list of items. -/
theorem run_erase_list_items :
    let d := Document.ofSteps [.enter "li", .text "a", .leave, .enter "li", .text "a"]
    let captured := Pattern.node (.bind "x") (.node (.text "a") .absent .absent) .absent
    let item := Pattern.node (.tag "li") (.node .scope captured .absent) .absent
    let p := Pattern.node .repetition (.node .scope item .absent) .absent
    p.Complete ∧ p.nesting ≤ (Matcher.mk 5).maxDepth ∧
      p.erase = .node .repetition
        (.node (.tag "li") (.node (.text "a") .absent .absent) .absent) .absent ∧
      ∃ c c', (Matcher.mk 5).run d.tree p d.rootNode .new = .ok (.matched none, c) ∧
        (Matcher.mk 5).run d.tree p.erase d.rootNode (Chain.new.set "y" "b") =
          .ok (.matched none, c') := by
  intro d captured item p
  have hp : p.Complete := by decide
  have hd : p.nesting ≤ (Matcher.mk 5).maxDepth := by decide
  have text (n : d.Node) (hn : d.tree.shownText n = some "a") :
      ComesTo d.tree 5 (.node .scope captured .absent) (some n) 3
        (.matched (some "a") [("x", "a")]) :=
    .scope (by decide) rfl (.bind (by decide) rfl (.leafFits (by decide) rfl hn rfl))
  have first : ComesTo d.tree 5 (.node .scope item .absent) d.rootNode 1
      (.leftover ⟨2, by decide⟩) :=
    .scope (by decide) rfl (.tagNext (by decide) rfl (text ⟨1, by decide⟩ rfl)
      (.atNode (by decide)) rfl)
  have second : ComesTo d.tree 5 (.node .scope item .absent) (some ⟨2, by decide⟩) 1
      (.matched none ([("x", "a")] ++ [])) :=
    .scope (by decide) rfl (.tagFits (by decide) rfl (text ⟨3, by decide⟩ rfl)
      (.atEnd (by decide)))
  have fits : ComesTo d.tree 5 p d.rootNode 0 (.matched none ([("x", "a")] ++ [])) :=
    .repeatOn (by decide) rfl first (.repeatStop (by decide) rfl second rfl)
  obtain ⟨outcome, c, c', h, h'⟩ :=
    run_erase hp hd d.tree d.rootNode .new (Chain.new.set "y" "b")
  have run_eq : (Matcher.mk 5).run d.tree p d.rootNode .new = _ := fits.walk_eq .new
  cases run_eq.symm.trans h
  exact ⟨hp, hd, rfl, _, c', h, h'⟩

end Matcher

end TreePattern
