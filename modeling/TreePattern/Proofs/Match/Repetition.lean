import Mathlib.Data.List.Chain
import TreePattern.Document.Builder
import TreePattern.Proofs.Match.Replay
import TreePattern.Proofs.Match.Sequences

/-!
# What repeating amounts to

Repeating tries its nested pattern again and again, each time where the last attempt left a node
over, until an attempt leaves none. Nothing but the place goes from one attempt to the next. So it
answers as the last attempt does, made by itself from the chain at the beginning, and an attempt by
itself is what a scope makes of the nested pattern.

A sequence of tags that fits along the first siblings leaves over the one behind them. On nodes
without children, repeating such a sequence goes through the siblings in steps of its length, and
fits if the siblings are nothing but copies of the sequence.

* `ComesTo.exists_attempts`: the places where attempts are made, up to the last one.
* `Matcher.run_repetition_eq_last_attempt`: what this means for runs.
* `ComesTo.repetition_of_copies`, `ComesTo.repetition_of_not_copies`: repeating a sequence of tags
  on nodes without children.
* `Matcher.run_recognises_copies`: what this means for runs.
-/

namespace TreePattern

/-! ### The attempts of repeating -/

section attempts

variable {ν : Type} {t : Tree ν} {limit depth : Nat} {q next : Pattern} {position : Option ν}
  {v : Verdict ν}

/-- Repeating goes from place to place, each attempt leaving over the node at the next place, and
comes to what the attempt at the last place comes to, which leaves no node over. -/
theorem ComesTo.exists_attempts (h : ComesTo t limit (.node .repetition q next) position depth v)
    (hd : depth ≤ limit) (hq : q.isAbsent = false) :
    ∃ later : List (Option ν),
      (position :: later).IsChain (fun place place' => ∃ k, place' = some k ∧
        ComesTo t limit (.node .scope q .absent) place depth (.leftover k)) ∧
      ComesTo t limit (.node .scope q .absent) ((position :: later).getLast (List.cons_ne_nil _ _))
        depth v ∧
      v.tail? = none := by
  generalize hp : Pattern.node .repetition q next = p at h
  induction h with
  | tooDeep => omega
  | missing =>
    cases hp
    cases hq
  | leafFits _ hc | leafFails _ hc =>
    cases hp
    cases hc
  | repeatStop _ hc hi hk =>
    cases hp
    exact ⟨[], List.isChain_singleton _, .scope hd hc hi, hk⟩
  | @repeatOn _ _ _ k _ _ _ hc hi _ _ ih =>
    cases hp
    obtain ⟨later, attempts, last, stopped⟩ := ih hd rfl
    refine ⟨some k :: later, List.isChain_cons_cons.2 ⟨⟨k, rfl, .scope hd hc hi⟩, attempts⟩, ?_,
      stopped⟩
    rw [List.getLast_cons (List.cons_ne_nil _ _)]
    exact last
  | _ => cases hp

end attempts

/-- The frames after a push and some captures: those of the chain, and others that the chain has no
part in. -/
theorem Chain.frames_record_pushed_succ (c : Chain) (n : Nat) (captures : List (String × String)) :
    ((c.pushed (n + 1)).record captures).frames =
      c.frames ++ (List.replicate n ∅ ++ [(∅ : Frame).overlay captures]) := by
  rw [frames_record, frames_pushed, List.replicate_succ', ← List.append_assoc, List.dropLast_concat,
    innermost_record, innermost_pushed, if_neg (Nat.succ_ne_zero n), List.append_assoc]

namespace Matcher

variable {ν : Type}

/-- Trying the pattern at the one place leaves over the node at the other place, and the chain as it
was. -/
def Resumes (m : Matcher) (t : Tree ν) (p : Pattern) (chain : Chain) (place place' : Option ν) :
    Prop :=
  ∃ k, place' = some k ∧ m.run t p place chain = .ok (.leftover k, chain)

/-- Repeating a pattern is one last attempt. There is a list of places that begins at the position
and goes on, each time, where the pattern tried in a scope from the chain at the beginning leaves a
node over. Repeating answers as the scope does at the last of them, and never leaves a node over. If
it fits, the frames that it leaves on the chain are those that the last attempt leaves on a new
one, so nothing is there of what other attempts captured. -/
theorem run_repetition_eq_last_attempt {m : Matcher} {t : Tree ν} {q : Pattern}
    (hq : q.isAbsent = false) (position : Option ν) (chain : Chain) :
    let inScope := Pattern.node .scope q .absent
    let answer := m.run t (.node .repetition q .absent) position chain
    ∃ later : List (Option ν),
      let last := (position :: later).getLast (List.cons_ne_nil _ _)
      (position :: later).IsChain (m.Resumes t inScope chain) ∧
      answer = m.run t inScope last chain ∧
      (∀ tail c, answer ≠ .ok (.leftover tail, c)) ∧
      ∀ value c, answer = .ok (.matched value, c) →
        ∃ c', m.run t inScope last .new = .ok (.matched value, c') ∧
          c.frames = chain.frames ++ c'.frames.tail := by
  intro inScope answer
  obtain ⟨v, hv, run_eq⟩ := m.exists_run_eq_replay t (.node .repetition q .absent) position
  obtain ⟨later, attempts, last, stopped⟩ := hv.exists_attempts (Nat.zero_le _) hq
  have last_eq (chain : Chain) :
      m.run t inScope ((position :: later).getLast (List.cons_ne_nil _ _)) chain =
        v.replay inScope chain := last.walk_eq chain
  have replay_eq : answer = v.replay inScope chain := by
    refine (run_eq chain).trans ?_
    cases v <;> rfl
  refine ⟨later, attempts.imp ?_, replay_eq.trans (last_eq chain).symm, ?_, ?_⟩
  · rintro place place' ⟨k, hk, attempt⟩
    exact ⟨k, hk, attempt.walk_eq chain⟩
  · intro tail c h
    rw [replay_eq] at h
    cases v with
    | leftover => cases stopped
    | error | noMatch | matched => cases h
  · intro value c h
    rw [replay_eq] at h
    rw [last_eq .new]
    cases v with
    | error | noMatch | leftover => cases h
    | matched value captures =>
      cases h
      refine ⟨_, rfl, ?_⟩
      have pushes : inScope.pushes = q.pushes + 1 := rfl
      rw [pushes, Chain.frames_record_pushed_succ, Chain.frames_record_pushed_succ,
        Chain.frames_new]
      rfl

/-- The first attempt captures a text and then ends among the children of the list where it began.
The second one is made there. -/
theorem run_repetition_eq_last_attempt_inner_list :
    let d := Document.ofSteps
      [.enter "ul", .enter "li", .text "a", .leave, .enter "ul", .enter "li", .text "a"]
    let captured := Pattern.node (.bind "x") (.node (.text "a") .absent .absent) .absent
    let q := Pattern.node (.tag "ul") (.node (.tag "li") captured .absent) .absent
    let inScope := Pattern.node .scope q .absent
    let chain := Chain.new.set "x" "b"
    q.isAbsent = false ∧ ∃ later c c',
      (d.rootNode :: later).IsChain (standard.Resumes d.tree inScope chain) ∧
      standard.run d.tree (.node .repetition q .absent) d.rootNode chain =
        .ok (.matched none, c) ∧
      standard.run d.tree inScope ((d.rootNode :: later).getLast (List.cons_ne_nil _ _)) .new =
        .ok (.matched none, c') ∧
      c.frames = chain.frames ++ c'.frames.tail := by
  intro d captured q inScope chain
  have text (n : d.Node) (hn : d.tree.shownText n = some "a") :
      ComesTo d.tree standard.maxDepth captured (some n) 3 (.matched (some "a") [("x", "a")]) :=
    .bind (by decide) rfl (.leafFits (by decide) rfl hn rfl)
  have first : ComesTo d.tree standard.maxDepth q d.rootNode 1 (.leftover ⟨3, by decide⟩) :=
    .tagChild (by decide) rfl (.tagNext (by decide) rfl (text ⟨2, by decide⟩ rfl)
      (.atNode (by decide)) rfl) rfl
  have second : ComesTo d.tree standard.maxDepth q (some ⟨3, by decide⟩) 1
      (.matched none ([("x", "a")] ++ [] ++ [])) :=
    .tagFits (by decide) rfl (.tagFits (by decide) rfl (text ⟨5, by decide⟩ rfl)
      (.atEnd (by decide))) (.atEnd (by decide))
  have fits : ComesTo d.tree standard.maxDepth (.node .repetition q .absent) d.rootNode 0
      (.matched none ([("x", "a")] ++ [] ++ [])) :=
    .repeatOn (by decide) rfl first (.repeatStop (by decide) rfl second rfl)
  have h : standard.run d.tree (.node .repetition q .absent) d.rootNode chain = _ :=
    fits.walk_eq chain
  have hq : q.isAbsent = false := rfl
  obtain ⟨later, attempts, -, -, frames⟩ :=
    run_repetition_eq_last_attempt (m := standard) (t := d.tree) hq d.rootNode chain
  obtain ⟨c', last, added⟩ := frames none _ h
  exact ⟨hq, later, _, c', attempts, h, last, added⟩

end Matcher

/-! ### Copies of a sequence of tags -/

section copies

variable {ν : Type} {t : Tree ν} {limit depth : Nat} {next : Pattern} {position : Option ν}
  {names : List String} {window after : List ν}

/-- Tags by themselves fit along nodes of their names that have no children, and capture nothing. -/
theorem fitsAlong_of_map_tag (hd : depth + 1 ≤ limit) (flat : ∀ n ∈ window, t.child n = none)
    (h : window.map t.tag = names.map some) :
    FitsAlong t limit depth (names.map .ofName) window [] := by
  induction names generalizing window with
  | nil =>
    obtain rfl := List.map_eq_nil_iff.1 h
    exact .nil
  | cons name names ih =>
    obtain ⟨n, window, rfl, ht, htags⟩ := List.map_eq_cons_iff.1 h
    have inside : ComesTo t limit .absent (t.child n) (depth + 1) (.matched none []) := by
      rw [flat n List.mem_cons_self]
      exact .atEnd hd
    have behind := ih (fun k hk => flat k (List.mem_cons_of_mem _ hk)) htags
    have fits : FitsAlong t limit depth (.ofName name :: names.map .ofName) (n :: window)
        ([] ++ []) := .cons ht inside behind
    exact fits

/-- On nodes without children, a sequence of tags does not match if the first siblings do not have
its names. -/
theorem ComesTo.chained_of_not_tags (hd : depth + 1 ≤ limit)
    (flat : ∀ n ∈ t.siblings position, t.child n = none)
    (h : ∀ window after, t.siblings position = window ++ after →
      window.map t.tag ≠ names.map some) :
    ComesTo t limit (.chained (names.map .ofName) .absent) position depth .noMatch := by
  have unfit : ∀ window after captures, t.siblings position = window ++ after →
      ¬ FitsAlong t limit depth (names.map .ofName) window captures := by
    intro window after captures hs hf
    refine h window after hs (hf.map_tag.trans ?_)
    rw [List.map_map]
    rfl
  obtain ⟨v, hv, rfl | ⟨hm, item, hitem, n, hn, -, hi⟩⟩ :=
    exists_comesTo_of_not_fitsAlong .absent (Nat.le_of_succ_le hd) unfit
  · exact hv
  · -- nothing is nested in the item, and this fits below a node without children
    obtain ⟨name, -, rfl⟩ := List.mem_map.1 hitem
    rw [flat n hn] at hi
    cases hi.unique (.atEnd hd)
    cases hm

/-- A sequence of names that stands at the beginning of some siblings leaves over the one behind it.
-/
theorem ComesTo.chained_of_tags {n : ν} {nodes : List ν} (hd : depth + 1 ≤ limit)
    (flat : ∀ n ∈ t.siblings position, t.child n = none)
    (hs : t.siblings position = window ++ n :: nodes) (h : window.map t.tag = names.map some) :
    ComesTo t limit (.chained (names.map .ofName) .absent) position depth (.leftover n) := by
  have here := fitsAlong_of_map_tag hd
    (fun k hk => flat k (hs ▸ List.mem_append_left _ hk)) h
  exact here.comesTo_of_failed (Nat.le_of_succ_le hd) hs (.atNode (Nat.le_of_succ_le hd)) rfl

theorem isAbsent_chained_ofName (hn : names ≠ []) :
    (Pattern.chained (names.map .ofName) .absent).isAbsent = false := by
  obtain ⟨name, names, rfl⟩ := List.exists_cons_of_ne_nil hn
  rfl

/-- Repeating a sequence of tags fits where the siblings, which have no children, are one or more
copies of it. -/
theorem ComesTo.repetition_of_copies (hn : names ≠ []) (hd : depth + 2 ≤ limit)
    (flat : ∀ n ∈ t.siblings position, t.child n = none) {k : Nat}
    (h : (t.siblings position).map t.tag = (List.replicate (k + 1) (names.map some)).flatten) :
    ComesTo t limit (.node .repetition (.chained (names.map .ofName) .absent) next) position depth
      (.matched none []) := by
  have here : depth ≤ limit := by omega
  have present := isAbsent_chained_ofName hn
  induction k generalizing position with
  | zero =>
    have tags : (t.siblings position).map t.tag = names.map some := by
      rw [h, List.replicate_one, List.flatten_singleton]
    have whole : t.siblings position = t.siblings position ++ [] := (List.append_nil _).symm
    have fits := (fitsAlong_of_map_tag hd flat tags).comesTo_of_matched (by omega) whole
      (.atEnd (by omega))
    exact .repeatStop here present fits rfl
  | succ k ih =>
    rw [List.replicate_succ, List.flatten_cons] at h
    obtain ⟨window, after, hs, hw, ha⟩ := List.map_eq_append_iff.1 h
    cases after with
    | nil =>
      -- the copies that are left have a name in them
      rw [List.replicate_succ, List.flatten_cons, List.map_nil] at ha
      exact absurd (List.map_eq_nil_iff.1 (List.append_eq_nil_iff.1 ha.symm).1) hn
    | cons n nodes =>
      have left : t.siblings (some n) = n :: nodes := Tree.siblings_head? hs
      refine .repeatOn here present (.chained_of_tags hd flat hs hw) (ih ?_ ?_)
      · intro m hm
        rw [left] at hm
        exact flat m (hs ▸ List.mem_append_right _ hm)
      · rw [left, ha]

/-- Repeating a sequence of tags does not match where the siblings, which have no children, are not
one or more copies of it. -/
theorem ComesTo.repetition_of_not_copies (hn : names ≠ []) (hd : depth + 2 ≤ limit)
    (flat : ∀ n ∈ t.siblings position, t.child n = none)
    (h : ∀ k, (t.siblings position).map t.tag ≠ (List.replicate (k + 1) (names.map some)).flatten) :
    ComesTo t limit (.node .repetition (.chained (names.map .ofName) .absent) next) position depth
      .noMatch := by
  have here : depth ≤ limit := by omega
  have present := isAbsent_chained_ofName hn
  -- each attempt that leaves a node over takes siblings away
  induction hl : (t.siblings position).length using Nat.strongRecOn
    generalizing position with
  | _ length ih =>
    by_cases begins : ∃ window after, t.siblings position = window ++ after ∧
        window.map t.tag = names.map some
    · obtain ⟨window, after, hs, hw⟩ := begins
      cases after with
      | nil =>
        refine absurd ?_ (h 0)
        rw [hs, List.append_nil, hw, List.replicate_one, List.flatten_singleton]
      | cons n nodes =>
        have left : t.siblings (some n) = n :: nodes := Tree.siblings_head? hs
        have shorter : (t.siblings (some n)).length < length := by
          have some_taken : window ≠ [] := by
            rintro rfl
            exact hn (List.map_eq_nil_iff.1 hw.symm)
          have := List.length_pos_iff.2 some_taken
          rw [left, ← hl, hs, List.length_append]
          omega
        refine .repeatOn here present (.chained_of_tags hd flat hs hw) (ih _ shorter ?_ ?_ rfl)
        · intro m hm
          rw [left] at hm
          exact flat m (hs ▸ List.mem_append_right _ hm)
        · intro k hk
          refine h (k + 1) ?_
          rw [hs, List.map_append, hw, ← left, hk, List.replicate_succ (n := k + 1),
            List.flatten_cons]
    · refine .repeatStop here present (.chained_of_not_tags hd flat ?_) rfl
      intro window after hs hw
      exact begins ⟨window, after, hs, hw⟩

end copies

namespace Matcher

variable {ν : Type}

/-- On siblings without children, repeating a sequence of tags recognises one or more copies of its
names. It fits if the tags of the siblings are such copies, and only then, and leaves one empty
frame on the chain; otherwise there is no match. -/
theorem run_recognises_copies {m : Matcher} {t : Tree ν} {names : List String} (hn : names ≠ [])
    (hd : 2 ≤ m.maxDepth) {position : Option ν}
    (flat : ∀ n ∈ t.siblings position, t.child n = none) (chain : Chain) :
    let p := Pattern.node .repetition
      (.sequence (names.map fun name => .ofConstruct (.tag name))) .absent
    let copies (k : Nat) := (List.replicate k (names.map some)).flatten
    let tags := (t.siblings position).map t.tag
    ((∃ value c, m.run t p position chain = .ok (.matched value, c)) ↔
      ∃ k, 1 ≤ k ∧ tags = copies k) ∧
    ((∃ k, 1 ≤ k ∧ tags = copies k) →
      m.run t p position chain = .ok (.matched none, chain.push)) ∧
    ((¬ ∃ k, 1 ≤ k ∧ tags = copies k) → m.run t p position chain = .ok (.noMatch, chain)) := by
  intro p copies tags
  have hp : p = .node .repetition (.chained (names.map .ofName) .absent) .absent := by
    rw [← Pattern.sequence_map_pattern, List.map_map]
    rfl
  have fits : (∃ k, 1 ≤ k ∧ tags = copies k) →
      m.run t p position chain = .ok (.matched none, chain.push) := by
    rintro ⟨k, hk, htags⟩
    obtain ⟨k, rfl⟩ := Nat.exists_eq_add_of_le' hk
    have h : ComesTo t m.maxDepth (.node .repetition (.chained (names.map .ofName) .absent) .absent)
        position 0 (.matched none []) := .repetition_of_copies hn hd flat htags
    rw [hp]
    refine (h.walk_eq chain).trans ?_
    obtain ⟨name, names, rfl⟩ := List.exists_cons_of_ne_nil hn
    rfl
  have fails : (¬ ∃ k, 1 ≤ k ∧ tags = copies k) →
      m.run t p position chain = .ok (.noMatch, chain) := by
    intro h
    have none_fits : ∀ k, tags ≠ copies (k + 1) := fun k hk => h ⟨k + 1, Nat.le_add_left .., hk⟩
    have h : ComesTo t m.maxDepth (.node .repetition (.chained (names.map .ofName) .absent) .absent)
        position 0 .noMatch := .repetition_of_not_copies hn hd flat none_fits
    rw [hp]
    exact h.walk_eq chain
  exact ⟨exists_matched_iff (fun h => ⟨none, _, fits h⟩) fails, fits, fails⟩

/-- Two copies of two names. -/
theorem run_recognises_copies_twice :
    let d := Document.ofSteps
      [.enter "dt", .leave, .enter "dd", .leave, .enter "dt", .leave, .enter "dd"]
    let names := ["dt", "dd"]
    names ≠ [] ∧ 2 ≤ (Matcher.mk 2).maxDepth ∧
      (∀ n ∈ d.tree.siblings d.rootNode, d.tree.child n = none) ∧
      (Matcher.mk 2).run d.tree
          (.node .repetition (.sequence (names.map fun name => .ofConstruct (.tag name))) .absent)
          d.rootNode .new =
        .ok (.matched none, Chain.new.push) := by
  intro d names
  have nodes : d.tree.siblings d.rootNode = d.nodes := by
    refine Tree.siblings_some.trans (congrArg _ ?_)
    refine Tree.siblings_some.trans (congrArg _ ?_)
    refine Tree.siblings_some.trans (congrArg _ ?_)
    exact Tree.siblings_some
  have flat : ∀ n ∈ d.tree.siblings d.rootNode, d.tree.child n = none := by
    rw [nodes]
    decide
  have hn : names ≠ [] := List.cons_ne_nil _ _
  have hd : 2 ≤ (Matcher.mk 2).maxDepth := Nat.le_refl 2
  refine ⟨hn, hd, flat, (run_recognises_copies hn hd flat .new).2.1 ⟨2, by decide, ?_⟩⟩
  rw [nodes]
  rfl

end Matcher

end TreePattern
