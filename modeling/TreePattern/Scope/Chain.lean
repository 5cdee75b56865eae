import TreePattern.Scope.Frame

/-!
# Chains of frames

A chain is a non-empty stack of frames. Captures are written into the innermost frame, and only
the innermost frame is looked into; pushing a frame freezes all the others. Merging lays the
innermost frame of one chain over the innermost frame of another and leaves the rest alone.

* `Chain.frames_push`: a push keeps every frame and adds an empty one.
* `Chain.frames_set`, `Chain.frames_merge`: a write or a merge touches the innermost frame only.
-/

namespace TreePattern

/-- A stack of frames: the innermost one, and those around it. -/
structure Chain where
  /-- The frames around the innermost one, the nearest first. -/
  outer : List Frame
  /-- The frame that is written and looked into. -/
  innermost : Frame
  deriving DecidableEq

namespace Chain

/-- The chain of one empty frame. -/
def new : Chain := ⟨[], ∅⟩

instance : Inhabited Chain := ⟨new⟩

/-- The same chain with an empty frame pushed onto it. -/
def push (c : Chain) : Chain := ⟨c.innermost :: c.outer, ∅⟩

/-- The text bound to a name in the innermost frame; frames around it are not searched. -/
def get? (c : Chain) (name : String) : Option String := c.innermost.get? name

/-- Binds a name in the innermost frame. -/
def set (c : Chain) (name value : String) : Chain :=
  { c with innermost := c.innermost.set name value }

/-- Lays the innermost frame of `d` over the innermost frame of `c`. -/
def merge (c d : Chain) : Chain :=
  { c with innermost := c.innermost.merge d.innermost }

/-- All frames, the outermost first. -/
def frames (c : Chain) : List Frame := c.outer.reverse ++ [c.innermost]

/-- The number of frames. -/
def depth (c : Chain) : Nat := c.outer.length + 1

/-! ### What each operation does to the frames -/

@[simp] theorem frames_new : new.frames = [∅] := rfl

@[simp] theorem frames_push (c : Chain) : c.push.frames = c.frames ++ [∅] := by
  simp [push, frames]

@[simp] theorem frames_set (c : Chain) (name value : String) :
    (c.set name value).frames = c.outer.reverse ++ [c.innermost.set name value] := rfl

@[simp] theorem frames_merge (c d : Chain) :
    (c.merge d).frames = c.outer.reverse ++ [c.innermost.merge d.innermost] := rfl

@[simp] theorem length_frames (c : Chain) : c.frames.length = c.depth := by
  simp [frames, depth]

end Chain

end TreePattern
