/-!
# Frames of captured texts

A frame maps variable names to texts. Its entries are kept in increasing order of the names, each
name once, so two frames with the same bindings are the same value:

* `Frame.get?_set`: a write is seen under its own name and nowhere else.
* `Frame.get?_merge`: of two frames laid over one another, the upper one wins.
* `Frame.ext_get?`: frames that answer every look-up alike are equal.
-/

namespace TreePattern

/-- Writes a binding into an ordered list of entries, replacing the one of the same name. -/
def putEntry (name value : String) : List (String × String) → List (String × String)
  | [] => [(name, value)]
  | (x, v) :: rest =>
    if name < x then (name, value) :: (x, v) :: rest
    else if name = x then (name, value) :: rest
    else (x, v) :: putEntry name value rest

theorem mem_putEntry {name value : String} {e : String × String} :
    ∀ {l : List (String × String)}, e ∈ putEntry name value l → e = (name, value) ∨ e ∈ l
  | [], h => by simpa [putEntry] using h
  | (x, v) :: rest, h => by
    unfold putEntry at h
    split at h
    · simpa using h
    · split at h
      · rcases List.mem_cons.1 h with h | h
        · exact .inl h
        · exact .inr (List.mem_cons_of_mem _ h)
      · rcases List.mem_cons.1 h with h | h
        · exact .inr (h ▸ List.mem_cons_self)
        · exact (mem_putEntry h).imp id (List.mem_cons_of_mem _)

/-- Of two names, either is smaller or they are the same. -/
theorem name_trichotomy {a b : String} (h₁ : ¬ a < b) (h₂ : a ≠ b) : b < a :=
  Decidable.by_contra fun h => h₂ (String.le_antisymm (String.not_lt.1 h) (String.not_lt.1 h₁))

/-- Writing a binding keeps the names in increasing order. -/
theorem pairwise_putEntry {name value : String} :
    ∀ {l : List (String × String)}, l.Pairwise (·.1 < ·.1) →
      (putEntry name value l).Pairwise (·.1 < ·.1)
  | [], _ => List.pairwise_singleton ..
  | (x, v) :: rest, h => by
    obtain ⟨hx, hrest⟩ := List.pairwise_cons.1 h
    unfold putEntry
    split
    · rename_i hlt
      refine List.pairwise_cons.2 ⟨fun e he => ?_, h⟩
      rcases List.mem_cons.1 he with rfl | he
      · exact hlt
      · exact String.lt_trans hlt (hx e he)
    · split
      · rename_i heq
        exact List.pairwise_cons.2 ⟨fun e he => heq ▸ hx e he, hrest⟩
      · rename_i hnlt hne
        refine List.pairwise_cons.2 ⟨fun e he => ?_, pairwise_putEntry hrest⟩
        rcases mem_putEntry he with rfl | he
        · exact name_trichotomy hnlt hne
        · exact hx e he

/-- A frame: variable names with the texts captured for them. -/
structure Frame where
  /-- The bindings, in increasing order of the names. -/
  entries : List (String × String)
  /-- Every name stands once, in its place. -/
  increasing : entries.Pairwise (·.1 < ·.1)
  deriving DecidableEq

namespace Frame

/-- The frame without bindings. -/
def empty : Frame := ⟨[], .nil⟩

instance : Inhabited Frame := ⟨empty⟩

instance : EmptyCollection Frame := ⟨empty⟩

/-- The text bound to a name. -/
def get? (f : Frame) (name : String) : Option String :=
  f.entries.lookup name

/-- Binds a name to a text, in place of what it was bound to. -/
def set (f : Frame) (name value : String) : Frame :=
  ⟨putEntry name value f.entries, pairwise_putEntry f.increasing⟩

/-- Lays `g` over `f`: all bindings of both, those of `g` where the two disagree. -/
def merge (f g : Frame) : Frame :=
  g.entries.foldl (fun acc e => acc.set e.1 e.2) f

/-! ### Look-up after a write -/

@[simp] theorem get?_empty (x : String) : (∅ : Frame).get? x = none := rfl

theorem lookup_putEntry (name value x : String) :
    ∀ l : List (String × String), l.Pairwise (·.1 < ·.1) →
      (putEntry name value l).lookup x = if x = name then some value else l.lookup x
  | [], _ => by by_cases h : x = name <;> simp [putEntry, List.lookup_cons, beq_false_of_ne, h]
  | (y, v) :: rest, h => by
    obtain ⟨hy, hrest⟩ := List.pairwise_cons.1 h
    have ih := lookup_putEntry name value x rest hrest
    unfold putEntry
    by_cases h₁ : name < y
    · by_cases hx : x = name <;> simp [List.lookup_cons, h₁, hx]
      all_goals grind
    · by_cases h₂ : name = y
      · subst h₂
        by_cases hx : x = name <;> simp [List.lookup_cons, hx]
        all_goals grind
      · have hne : y ≠ name := fun h => h₂ h.symm
        by_cases hx : x = y
        · subst hx
          simp [h₁, h₂, hne]
        · simp [List.lookup_cons, h₁, h₂, beq_false_of_ne hx, ih]

/-- A write is seen under its own name and nowhere else. -/
@[simp] theorem get?_set (f : Frame) (name value x : String) :
    (f.set name value).get? x = if x = name then some value else f.get? x :=
  lookup_putEntry name value x f.entries f.increasing

theorem lookup_eq_none_of_forall_lt {x : String} :
    ∀ {l : List (String × String)}, (∀ e ∈ l, x < e.1) → l.lookup x = none
  | [], _ => rfl
  | (y, v) :: rest, h => by
    have hy : x ≠ y := by
      rintro rfl
      exact String.lt_irrefl _ (h (x, v) List.mem_cons_self)
    simp [List.lookup_cons, beq_false_of_ne hy,
      lookup_eq_none_of_forall_lt fun e he => h e (List.mem_cons_of_mem _ he)]

theorem get?_foldl_set (x : String) :
    ∀ (l : List (String × String)) (f : Frame), l.Pairwise (·.1 < ·.1) →
      (l.foldl (fun acc e => acc.set e.1 e.2) f).get? x = (l.lookup x).or (f.get? x)
  | [], _, _ => by simp
  | (y, v) :: rest, f, h => by
    obtain ⟨hy, hrest⟩ := List.pairwise_cons.1 h
    rw [List.foldl_cons, get?_foldl_set x rest _ hrest, get?_set]
    by_cases hx : x = y
    · subst hx
      simp [lookup_eq_none_of_forall_lt hy]
    · simp [List.lookup_cons, beq_false_of_ne hx, hx]

/-- Of two frames laid over one another, the upper one wins. -/
@[simp] theorem get?_merge (f g : Frame) (x : String) :
    (f.merge g).get? x = (g.get? x).or (f.get? x) :=
  get?_foldl_set x g.entries f g.increasing

/-! ### Frames are determined by their look-ups -/

theorem entries_eq_of_lookup_eq :
    ∀ {l m : List (String × String)}, l.Pairwise (·.1 < ·.1) → m.Pairwise (·.1 < ·.1) →
      (∀ x, l.lookup x = m.lookup x) → l = m
  | [], [], _, _, _ => rfl
  | [], (y, v) :: m, _, _, h => by simpa [List.lookup_cons] using h y
  | (y, v) :: l, [], _, _, h => by simpa [List.lookup_cons] using h y
  | (y, v) :: l, (z, w) :: m, hl, hm, h => by
    obtain ⟨hy, hl'⟩ := List.pairwise_cons.1 hl
    obtain ⟨hz, hm'⟩ := List.pairwise_cons.1 hm
    have hyz : y = z := by
      apply Decidable.by_contra
      intro hne
      rcases Decidable.em (y < z) with hlt | hnlt
      · have h₁ := h y
        have h₂ : m.lookup y = none :=
          lookup_eq_none_of_forall_lt fun e he => String.lt_trans hlt (hz e he)
        simp [List.lookup_cons, beq_false_of_ne hne, h₂] at h₁
      · have hgt := name_trichotomy hnlt hne
        have h₁ := h z
        have h₂ : l.lookup z = none :=
          lookup_eq_none_of_forall_lt fun e he => String.lt_trans hgt (hy e he)
        simp [List.lookup_cons, beq_false_of_ne (Ne.symm hne), h₂] at h₁
    subst hyz
    have hvw : v = w := by simpa [List.lookup_cons] using h y
    subst hvw
    refine congrArg _ (entries_eq_of_lookup_eq hl' hm' fun x => ?_)
    by_cases hx : x = y
    · subst hx
      rw [lookup_eq_none_of_forall_lt hy, lookup_eq_none_of_forall_lt hz]
    · simpa [List.lookup_cons, beq_false_of_ne hx] using h x

theorem mem_iff_lookup_eq {x value : String} :
    ∀ {l : List (String × String)}, l.Pairwise (·.1 < ·.1) →
      ((x, value) ∈ l ↔ l.lookup x = some value)
  | [], _ => by simp
  | (y, v) :: rest, h => by
    obtain ⟨hy, hrest⟩ := List.pairwise_cons.1 h
    by_cases hx : x = y
    · subst hx
      have absent : (x, value) ∉ rest := fun he => String.lt_irrefl x (hy (x, value) he)
      simp [absent, eq_comm]
    · simp [List.lookup_cons, beq_false_of_ne hx, hx, mem_iff_lookup_eq hrest]

/-- The entries of a frame are just what look-ups find. -/
theorem mem_entries {f : Frame} {x value : String} :
    (x, value) ∈ f.entries ↔ f.get? x = some value :=
  mem_iff_lookup_eq f.increasing

/-- Frames that answer every look-up alike are equal. -/
theorem ext_get? {f g : Frame} (h : ∀ x, f.get? x = g.get? x) : f = g := by
  obtain ⟨l, hl⟩ := f
  obtain ⟨m, hm⟩ := g
  obtain rfl : l = m := entries_eq_of_lookup_eq hl hm h
  rfl

end Frame

end TreePattern
