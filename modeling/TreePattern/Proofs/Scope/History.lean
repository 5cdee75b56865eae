import Mathlib.Data.List.Basic
import Mathlib.Data.List.Induction
import TreePattern.Scope.Chain

/-!
# The history of a chain

What is done to a chain, step after step, can be read off the chain afterwards, as far as it has
not been written over. A push puts the innermost frame away for good: no step reaches the frames
around the innermost one, and a merge does not bring along those of the other chain. In the
innermost frame the last step that gave a name its text wins, be it a write or a merge.

* `Chain.outer_prefix_step`, `Chain.outer_prefix_run`: the frames around the innermost one stay.
* `Chain.frames_run_push`: a push keeps the innermost frame as it stands, in its place.
* `Chain.get?_step`, `Chain.get?_ofSteps`: a look-up finds the text that the name was given last.
* `Chain.ofSteps_keeps_history`: all frames of a chain, told from the steps that made it.
-/

namespace TreePattern

namespace Chain

/-- What can be done to a chain. -/
inductive Step where
  /-- Pushes an empty frame. -/
  | push
  /-- Binds a name in the innermost frame. -/
  | set (name value : String)
  /-- Lays the innermost frame of another chain over the innermost frame. The other chain may be a
  copy of the chain itself. -/
  | merge (other : Chain)
  deriving DecidableEq

/-- Does one step. -/
def step (c : Chain) : Step → Chain
  | .push => c.push
  | .set name value => c.set name value
  | .merge other => c.merge other

/-- Does a list of steps in order. -/
def run (c : Chain) (steps : List Step) : Chain := steps.foldl step c

/-- The chain that a list of steps makes of a new one. -/
def ofSteps (steps : List Step) : Chain := new.run steps

/-- The text that a step gives to a name. A merge gives the name what the other chain has for it in
its innermost frame. -/
def Step.given? (name : String) : Step → Option String
  | .push => none
  | .set x value => if name = x then some value else none
  | .merge other => other.innermost.get? name

/-- The last text that the name was given since the last push: a step gives it, and behind this step
there is no push and none that gives the name a text. -/
def LastGiven (steps : List Step) (name value : String) : Prop :=
  ∃ before step after, steps = before ++ step :: after ∧ step.given? name = some value ∧
    ∀ later ∈ after, later ≠ .push ∧ later.given? name = none

variable {steps : List Step} {s : Step} {name value : String}

@[simp] theorem run_nil (c : Chain) : c.run [] = c := rfl

@[simp] theorem run_cons (c : Chain) (s : Step) (steps : List Step) :
    c.run (s :: steps) = (c.step s).run steps := rfl

theorem run_append (c : Chain) (first later : List Step) :
    c.run (first ++ later) = (c.run first).run later :=
  List.foldl_append

theorem ofSteps_concat (steps : List Step) (s : Step) :
    ofSteps (steps ++ [s]) = (ofSteps steps).step s :=
  run_append new steps [s]

/-! ### The frames around the innermost one -/

/-- The frames around the innermost one stay where they are at every step. -/
theorem outer_prefix_step (c : Chain) (s : Step) :
    c.outer.reverse <+: (c.step s).outer.reverse := by
  cases s with
  | push =>
    rw [step, push, List.reverse_cons]
    exact List.prefix_append _ _
  | set | merge => exact List.prefix_rfl

/-- The frames around the innermost one stay where they are, whatever is done. -/
theorem outer_prefix_run (c : Chain) (steps : List Step) :
    c.outer.reverse <+: (c.run steps).outer.reverse := by
  induction steps generalizing c with
  | nil => exact List.prefix_rfl
  | cons s steps ih => exact (c.outer_prefix_step s).trans (ih (c.step s))

/-- A push keeps the innermost frame as it stands, in its place, whatever is done later. -/
theorem frames_run_push (c : Chain) (later : List Step) :
    (c.push.run later).frames[c.outer.length]? = some c.innermost := by
  have kept : c.frames <+: (c.push.run later).frames := by
    have around := c.push.outer_prefix_run later
    rw [push, List.reverse_cons] at around
    exact around.trans (List.prefix_append _ _)
  have last : c.frames[c.outer.length]? = some c.innermost := by
    simp [frames]
  have within : c.outer.length < c.frames.length := by
    simp [depth]
  rw [← last, List.getElem?_eq_getElem within]
  exact (List.prefix_iff_getElem?.1 kept) _ within

/-- Only a push makes a chain deeper, and by one frame. -/
theorem depth_run (c : Chain) (steps : List Step) :
    (c.run steps).depth = c.depth + steps.count .push := by
  induction steps generalizing c with
  | nil => rfl
  | cons s steps ih =>
    rw [run_cons, ih]
    cases s with
    | push =>
      rw [List.count_cons_self]
      simp only [step, push, depth, List.length_cons]
      omega
    | set | merge =>
      rw [List.count_cons_of_ne (by simp)]
      rfl

theorem depth_ofSteps (steps : List Step) : (ofSteps steps).depth = 1 + steps.count .push :=
  depth_run new steps

/-- There is a place in a list for each time that an element is in it. -/
theorem exists_append_of_lt_count {α : Type} [DecidableEq α] {a : α} :
    ∀ {l : List α} {j : Nat}, j < l.count a →
      ∃ before after, l = before ++ a :: after ∧ before.count a = j
  | [], j, h => absurd h (Nat.not_lt_zero j)
  | x :: l, j, h => by
    by_cases hx : x = a
    · subst hx
      rw [List.count_cons_self] at h
      cases j with
      | zero => exact ⟨[], l, rfl, rfl⟩
      | succ j =>
        obtain ⟨before, after, rfl, count⟩ := exists_append_of_lt_count (Nat.lt_of_succ_lt_succ h)
        exact ⟨x :: before, after, rfl, by rw [List.count_cons_self, count]⟩
    · rw [List.count_cons_of_ne hx] at h
      obtain ⟨before, after, rfl, count⟩ := exists_append_of_lt_count h
      exact ⟨x :: before, after, rfl, by rw [List.count_cons_of_ne hx, count]⟩

/-! ### The innermost frame -/

/-- Behind a step a name has the text that the step gives it, or else the one it had. A push leaves
no name with a text. -/
theorem get?_step (c : Chain) (s : Step) (name : String) :
    (c.step s).get? name = if s = .push then none else (s.given? name).or (c.get? name) := by
  cases s with
  | push => rfl
  | set x value =>
    rw [if_neg (by simp)]
    unfold step set get? Step.given?
    by_cases hx : name = x
    · simp [hx]
    · simp [hx]
  | merge other =>
    rw [if_neg (by simp)]
    exact Frame.get?_merge _ _ _

/-- The last text of a name is the one that the last step gives it, or else the last text it was
given before, if the last step is no push. -/
theorem lastGiven_concat :
    LastGiven (steps ++ [s]) name value ↔
      s.given? name = some value ∨
        s ≠ .push ∧ s.given? name = none ∧ LastGiven steps name value := by
  constructor
  · rintro ⟨before, step, after, split, given, later⟩
    rcases List.eq_nil_or_concat' after with rfl | ⟨after, last, rfl⟩
    · obtain ⟨-, rfl⟩ := List.append_singleton_inj.1 split
      exact .inl given
    · rw [← List.cons_append, ← List.append_assoc] at split
      obtain ⟨rfl, rfl⟩ := List.append_singleton_inj.1 split
      obtain ⟨behind, atEnd⟩ := List.forall_mem_append.1 later
      obtain ⟨noPush, notGiven⟩ := atEnd s List.mem_cons_self
      exact .inr ⟨noPush, notGiven, before, step, after, rfl, given, behind⟩
  · rintro (given | ⟨noPush, notGiven, before, step, after, rfl, given, later⟩)
    · exact ⟨steps, s, [], rfl, given, nofun⟩
    · refine ⟨before, step, after ++ [s], by simp, given, ?_⟩
      exact List.forall_mem_append.2 ⟨later, List.forall_mem_singleton.2 ⟨noPush, notGiven⟩⟩

/-- A look-up finds the text that the name was given last since the last push. -/
theorem get?_ofSteps (steps : List Step) (name value : String) :
    (ofSteps steps).get? name = some value ↔ LastGiven steps name value := by
  induction steps using List.reverseRecOn with
  | nil =>
    constructor
    · intro h
      cases h
    · rintro ⟨before, step, after, split, -⟩
      simp at split
  | append_singleton steps s ih =>
    rw [ofSteps_concat, get?_step, lastGiven_concat, ← ih]
    by_cases hs : s = .push
    · subst hs
      simp [Step.given?]
    · rw [if_neg hs, Option.or_eq_some_iff]
      simp [hs]

/-! ### The law -/

/-- A chain has one frame more than it was pushed. Each frame but the innermost is the innermost
frame as it stood at the push with its number, whatever was done later. The innermost frame holds
for each name the text it was given last since the last push, and nothing else, and this is what a
look-up finds. -/
theorem ofSteps_keeps_history (steps : List Step) :
    (ofSteps steps).frames.length = 1 + steps.count .push ∧
    (ofSteps steps).depth = 1 + steps.count .push ∧
    (∀ j, j < steps.count .push → ∃ before after, steps = before ++ .push :: after ∧
      before.count .push = j ∧
      (ofSteps steps).frames[j]? = some (ofSteps before).innermost) ∧
    (ofSteps steps).frames.getLast? = some (ofSteps steps).innermost ∧
    (∀ name value, (name, value) ∈ (ofSteps steps).innermost.entries ↔
      LastGiven steps name value) ∧
    ∀ name value, (ofSteps steps).get? name = some value ↔ LastGiven steps name value := by
  refine ⟨?_, depth_ofSteps steps, ?_, ?_, ?_, get?_ofSteps steps⟩
  · rw [length_frames, depth_ofSteps]
  · intro j hj
    obtain ⟨before, after, rfl, count⟩ := exists_append_of_lt_count hj
    refine ⟨before, after, rfl, count, ?_⟩
    have place : (ofSteps before).outer.length = j := by
      have deep := depth_ofSteps before
      unfold depth at deep
      omega
    have later : ofSteps (before ++ .push :: after) = (ofSteps before).push.run after :=
      run_append new before (.push :: after)
    rw [later, ← place]
    exact frames_run_push _ _
  · simp [frames]
  · intro name value
    exact Frame.mem_entries.trans (get?_ofSteps steps name value)

/-- Two chains are merged behind the push: one whose outer frame binds `a`, and a copy of the chain
as it stands then. Of both only the innermost frame counts. -/
theorem ofSteps_keeps_history_of_copy :
    let deep := ofSteps [.set "a" "hidden", .push, .set "b" "3", .set "c" "4"]
    let before := [Step.set "a" "1", .push, .set "b" "2", .merge deep]
    let steps := before ++ [.merge (ofSteps before), .set "c" "5"]
    (ofSteps steps).frames.length = 2 ∧
    (∃ first later, steps = first ++ .push :: later ∧ first.count .push = 0 ∧
      (ofSteps steps).frames[0]? = some (ofSteps first).innermost) ∧
    LastGiven steps "b" "3" ∧ LastGiven steps "c" "5" ∧ ¬ LastGiven steps "a" "hidden" := by
  intro deep before steps
  obtain ⟨length, -, atPush, -, -, lookup⟩ := ofSteps_keeps_history steps
  refine ⟨length, atPush 0 (by decide), (lookup "b" "3").1 (by decide),
    (lookup "c" "5").1 (by decide), fun given => ?_⟩
  have found : (ofSteps steps).get? "a" = some "hidden" := (lookup "a" "hidden").2 given
  have absent : (ofSteps steps).get? "a" = none := by decide
  rw [absent] at found
  cases found

end Chain

end TreePattern
