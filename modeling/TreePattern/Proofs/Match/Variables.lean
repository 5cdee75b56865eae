import TreePattern.Document.Builder
import TreePattern.Proofs.Match.Replay

/-!
# The variables that a match binds

Which variables are bound after a match can be read off the pattern: it declares a variable wherever
a binding is sure to be handed a text (`Pattern.vars`). A walk decides nothing about it. Siblings
are skipped, attempts are dropped together with what they captured, and tags forget the text they
were handed; but whatever way a fit is found, its captures have the declared names, in the order of
the pattern, and the frame they are written into has no others that were not there before.

* `ComesTo.declared`: a fit hands on a text exactly if the pattern does so, and captures exactly
  what the pattern declares, name for name.
* `Frame.mem_names_overlay`: writing captures into a frame adds their names to those of the frame.
* `Matcher.mem_names_of_run_matched`: what this means for runs.
-/

namespace TreePattern

/-! ### Names in a frame -/

namespace Frame

/-- The names that a frame binds. -/
def names (f : Frame) : List String := f.entries.map Prod.fst

/-- The names are those that a look-up finds. -/
theorem mem_names {f : Frame} {x : String} : x ∈ f.names ↔ (f.get? x).isSome = true := by
  unfold names get?
  rw [List.lookup_isSome_iff, List.mem_map]
  constructor
  · rintro ⟨e, he, rfl⟩
    exact ⟨e, he, beq_self_eq_true _⟩
  · rintro ⟨e, he, hx⟩
    exact ⟨e, he, (beq_iff_eq.1 hx).symm⟩

/-- A write adds its name. -/
theorem mem_names_set {f : Frame} {name value x : String} :
    x ∈ (f.set name value).names ↔ x = name ∨ x ∈ f.names := by
  rw [mem_names, mem_names, get?_set]
  by_cases hx : x = name
  · simp [hx]
  · simp [hx]

/-- Writing captures into a frame adds their names to those of the frame. -/
theorem mem_names_overlay {x : String} : ∀ {captures : List (String × String)} {f : Frame},
    x ∈ (f.overlay captures).names ↔ x ∈ captures.map Prod.fst ∨ x ∈ f.names
  | [], f => by simp
  | (name, value) :: captures, f => by
    rw [overlay_cons, mem_names_overlay, mem_names_set, List.map_cons, List.mem_cons]
    exact or_left_comm.trans or_assoc.symm

end Frame

/-! ### Declared variables -/

namespace Pattern

/-- Whether a pattern that fits hands on a text: the way down through nested patterns leads to a
construct for single text nodes, and meets no tag, which would forget the text. -/
def handsOnText : Pattern → Bool
  | absent => false
  | node (.text _) _ _ => true
  | node (.regex _) _ _ => true
  | node (.tag _) _ _ => false
  | node .skipUntil child _ => child.handsOnText
  | node .repetition child _ => child.handsOnText
  | node .scope child _ => child.handsOnText
  | node (.bind _) child _ => child.handsOnText

/-- The variables that a pattern declares: the names of its bindings whose nested pattern hands on a
text, those of nested patterns first. Only tags have a continuation that declares something, and
constructs for single text nodes declare nothing. -/
def vars : Pattern → List String
  | absent => []
  | node (.text _) _ _ => []
  | node (.regex _) _ _ => []
  | node (.tag _) child next => child.vars ++ next.vars
  | node .skipUntil child _ => child.vars
  | node .repetition child _ => child.vars
  | node .scope child _ => child.vars
  | node (.bind name) child _ => child.vars ++ if child.handsOnText then [name] else []

variable {construct : Construct} {accepts : String → Bool} {child next : Pattern}

/-- Constructs for single text nodes hand on a text. -/
theorem handsOnText_of_accepts? (h : construct.accepts? = some accepts) :
    (node construct child next).handsOnText = true := by
  cases construct with
  | text | regex => rfl
  | _ => cases h

/-- Constructs for single text nodes declare nothing. -/
theorem vars_of_accepts? (h : construct.accepts? = some accepts) :
    (node construct child next).vars = [] := by
  cases construct with
  | text | regex => rfl
  | _ => cases h

end Pattern

/-- A fit hands on a text exactly if the pattern does so, and captures exactly what the pattern
declares, name for name. -/
theorem ComesTo.declared {ν : Type} {t : Tree ν} {limit : Nat} {p : Pattern} {position : Option ν}
    {depth : Nat} {v : Verdict ν} {value : Option String} {captures : List (String × String)}
    (h : ComesTo t limit p position depth v) (hv : v = .matched value captures) :
    value.isSome = p.handsOnText ∧ captures.map Prod.fst = p.vars := by
  induction h generalizing value captures with
  | tooDeep | atNode | missing | leafFails | skipEnd | tagOther => cases hv
  | atEnd =>
    cases hv
    exact ⟨rfl, rfl⟩
  | leafFits _ hc =>
    cases hv
    exact ⟨(Pattern.handsOnText_of_accepts? hc).symm, (Pattern.vars_of_accepts? hc).symm⟩
  | skipStop _ _ _ ih => exact ih hv
  | skipOn _ _ _ _ _ ih => exact ih hv
  | repeatStop _ _ _ _ ih => exact ih hv
  | repeatOn _ _ _ _ _ ih => exact ih hv
  | tagChild _ _ _ hm => simp [hv] at hm
  | tagNext _ _ _ _ hm => simp [hv] at hm
  | tagFits _ _ _ _ ihi ihr =>
    cases hv
    refine ⟨rfl, ?_⟩
    rw [List.map_append, (ihi rfl).2, (ihr rfl).2]
    rfl
  | scope _ _ _ ih => exact ih hv
  | @bind _ child _ _ _ v _ _ _ ih =>
    rcases v with e | _ | k | ⟨_ | text, inner⟩
    case error | noMatch | leftover => cases hv
    case matched.none =>
      cases hv
      obtain ⟨hands, names⟩ := ih rfl
      have hands : child.handsOnText = false := hands.symm
      refine ⟨hands.symm, ?_⟩
      simp [Pattern.vars, hands, names]
    case matched.some =>
      cases hv
      obtain ⟨hands, names⟩ := ih rfl
      have hands : child.handsOnText = true := hands.symm
      refine ⟨hands.symm, ?_⟩
      simp [Pattern.vars, hands, names]

/-! ### Runs -/

namespace Matcher

/-- A run that ends with a fit binds exactly the variables that the pattern declares. The frame that
it leaves innermost has no other names, unless the pattern pushes no frame: then those names are
there too that the innermost frame had before. -/
theorem mem_names_of_run_matched {ν : Type} {m : Matcher} {t : Tree ν} {p : Pattern}
    {position : Option ν} {chain c : Chain} {value : Option String}
    (h : m.run t p position chain = .ok (.matched value, c)) (x : String) :
    x ∈ c.innermost.names ↔ x ∈ p.vars ∨ p.pushes = 0 ∧ x ∈ chain.innermost.names := by
  obtain ⟨v, hv, run_eq⟩ := m.exists_run_eq_replay t p position
  rw [run_eq chain] at h
  cases v with
  | error | noMatch | leftover => cases h
  | matched value captures =>
    cases h
    rw [Chain.innermost_record, Frame.mem_names_overlay, (hv.declared rfl).2,
      Chain.innermost_pushed]
    apply or_congr_right
    by_cases hp : p.pushes = 0
    · simp [hp]
    · simp [hp, Frame.mem_names]

/-- The first text is skipped and the scope stands in a continuation, so its variable is there next
to the one that was bound before. -/
theorem mem_names_of_run_matched_beside_kept :
    let d := Document.ofSteps [.enter "p", .text "a", .text "b", .leave, .text "c"]
    let captured (name text : String) :=
      Pattern.node (.bind name) (.node (.text text) .absent .absent) .absent
    let p := Pattern.node (.tag "p") (.node .skipUntil (captured "x" "b") .absent)
      (.node .scope (captured "y" "c") .absent)
    let chain := Chain.new.set "kept" "yes"
    ∃ c, standard.run d.tree p d.rootNode chain = .ok (.matched none, c) ∧
      ∀ x, x ∈ c.innermost.names ↔ x ∈ ["x", "y"] ∨ x ∈ ["kept"] := by
  intro d captured p chain
  have other : ComesTo d.tree standard.maxDepth (captured "x" "b") (d.node? 1) 2 .noMatch :=
    .bind (by decide) rfl (.leafFails (by decide) rfl (by rintro n s ⟨⟩ ⟨⟩; rfl))
  have found : ComesTo d.tree standard.maxDepth (captured "x" "b") (d.node? 2) 2
      (.matched (some "b") [("x", "b")]) :=
    .bind (by decide) rfl (.leafFits (by decide) rfl rfl rfl)
  have behind : ComesTo d.tree standard.maxDepth (captured "y" "c") (d.node? 3) 1
      (.matched (some "c") [("y", "c")]) :=
    .bind (by decide) rfl (.leafFits (by decide) rfl rfl rfl)
  have fits : ComesTo d.tree standard.maxDepth p d.rootNode 0
      (.matched none ([("x", "b")] ++ [("y", "c")])) :=
    .tagFits (by decide) rfl (.skipOn (by decide) other rfl (.skipStop (by decide) found rfl))
      (.scope (by decide) rfl behind)
  have h : standard.run d.tree p d.rootNode chain =
      .ok (.matched none, ⟨[], ((Frame.empty.set "kept" "yes").set "x" "b").set "y" "c"⟩) :=
    fits.walk_eq chain
  refine ⟨_, h, fun x => ?_⟩
  have bound := mem_names_of_run_matched h x
  have pushes : p.pushes = 0 := rfl
  have names : chain.innermost.names = ["kept"] := rfl
  rw [bound, names]
  simp only [pushes, true_and]
  rfl

end Matcher

end TreePattern
