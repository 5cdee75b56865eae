import TreePattern.Proofs.Document.Building

/-!
# How a document grows under a builder

A builder sets the link that belongs to its place without looking whether it was set before. It
never was: the place where the next node goes and the places to go on from later are different, and
none of them leads anywhere yet (`Document.Vacant`). So each node is added at the end of the table,
one absent link is set to lead to it, and everything else stays (`Document.Grows`).

* `Document.target?_append_self`, `Document.target?_append_of_ne`: a new node is what its place
  leads to, and all other places lead where they did.
* `Builder.Sound.step`, `Builder.Sound.run`: the places of a builder stay vacant and different.
* `Builder.Sound.target?_run`: a link that is set is never set again.
* `Document.ofSteps_append_only`: what one step more does to the document of a list of steps.
-/

namespace TreePattern

namespace Document

/-! ### Places and where they lead -/

/-- The node that a place leads to. -/
def target? (d : Document) : Place → Option Nat
  | .first => d.root
  | .below parent => d.entries[parent]?.bind Entry.child
  | .after sibling => d.entries[sibling]?.bind Entry.next

/-- What the node with a number is. -/
def content? (d : Document) (i : Nat) : Option Content := d.entries[i]?.map Entry.content

/-- The places of a document: the first of all, below each element, and behind each node. -/
def HasPlace (d : Document) : Place → Prop
  | .first => True
  | .below parent => ∃ name, d.content? parent = some (.element name)
  | .after sibling => sibling < d.size

/-- The document `d'` is `d` with one more node: it comes last and has no links, what the other
nodes are stays, and one place that led nowhere leads to it, while all others lead where they did. -/
structure Grows (d : Document) (content : Content) (d' : Document) : Prop where
  /-- There is one more node. -/
  size_eq : d'.size = d.size + 1
  /-- The new node has the last number, no child and no next sibling. -/
  added : d'.entries[d.size]? = some ⟨content, none, none⟩
  /-- The other nodes are what they were. -/
  content?_eq : ∀ i, i < d.size → d'.content? i = d.content? i
  /-- One absent link is set, to the new node. -/
  linked : ∃ p, d.HasPlace p ∧ d.target? p = none ∧ d'.target? p = some d.size ∧
    ∀ q, q ≠ p → d'.target? q = d.target? q

variable {d d' : Document} {p q : Place} {content : Content} {i j : Nat}

/-- A place leads to a node of the document. -/
theorem lt_of_target? (h : d.target? p = some j) : j < d.size := by
  cases p with
  | first => exact d.root_lt j h
  | below i =>
    obtain ⟨line, hl, hj⟩ := Option.bind_eq_some_iff.1 h
    exact (d.forward i line j hl (.inl hj)).2
  | after i =>
    obtain ⟨line, hl, hj⟩ := Option.bind_eq_some_iff.1 h
    exact (d.forward i line j hl (.inr hj)).2

/-- A link that is set keeps its value when the document grows. -/
theorem Grows.target?_eq (h : d.Grows content d') (hq : d.target? q = some j) :
    d'.target? q = some j := by
  obtain ⟨p, -, vacant, -, others⟩ := h.linked
  rw [others q, hq]
  rintro rfl
  rw [vacant] at hq
  cases hq

/-- Two places lead to one node only if they are the same, and still so when the document grows. -/
theorem Grows.eq_of_target? (h : d.Grows content d')
    (single : ∀ p q j, d.target? p = some j → d.target? q = some j → p = q)
    (hp : d'.target? p = some j) (hq : d'.target? q = some j) : p = q := by
  obtain ⟨r, -, -, new, others⟩ := h.linked
  -- only the place that was filled leads to the new node
  have old : ∀ k, k ≠ r → d'.target? k = some j → d.target? k = some j ∧ j < d.size := by
    intro k hk hj
    rw [others k hk] at hj
    exact ⟨hj, lt_of_target? hj⟩
  have fresh : d'.target? r = some j → j = d.size := by
    intro hj
    rw [new] at hj
    exact (Option.some.inj hj).symm
  by_cases hpr : p = r
  · subst hpr
    by_contra hne
    have := (old q (Ne.symm hne) hq).2
    have := fresh hp
    omega
  · by_cases hqr : q = r
    · subst hqr
      have := (old p hpr hp).2
      have := fresh hq
      omega
    · exact single p q j (old p hpr hp).1 (old q hqr hq).1

/-! ### A new node -/

/-- The new node has the last line, and the other lines are those of the relinked table. -/
theorem getElem?_append (d : Document) (p : Place) (content : Content) (i : Nat) :
    (d.append p content).entries[i]? =
      if i = d.size then some ⟨content, none, none⟩ else (relink d.entries p d.size)[i]? := by
  have table : (d.append p content).entries =
      (relink d.entries p d.size).push ⟨content, none, none⟩ := rfl
  rw [table, Array.getElem?_push, size_relink]
  rfl

/-- What the lines of a table hold besides links is not changed by relinking. -/
theorem map_content_relink (entries : Array Entry) (p : Place) (target i : Nat) :
    (relink entries p target)[i]?.map Entry.content = entries[i]?.map Entry.content := by
  cases p with
  | first => rfl
  | below | after =>
    rw [relink, Array.getElem?_modify]
    split
    · rw [Option.map_map]
      rfl
    · rfl

theorem content?_append_of_lt (hi : i < d.size) :
    (d.append p content).content? i = d.content? i := by
  rw [content?, getElem?_append, if_neg (Nat.ne_of_lt hi)]
  exact map_content_relink _ _ _ _

theorem content?_append_size : (d.append p content).content? d.size = some content := by
  rw [content?, getElem?_append, if_pos rfl]
  rfl

/-- A node is within the table. -/
theorem lt_of_content? {c : Content} (h : d.content? i = some c) : i < d.size := by
  obtain ⟨line, hl, -⟩ := Option.map_eq_some_iff.1 h
  exact (Array.getElem?_eq_some_iff.1 hl).1

/-- The places of a document are still there with a new node. -/
theorem HasPlace.append (h : d.HasPlace q) : (d.append p content).HasPlace q := by
  cases q with
  | first => trivial
  | below i =>
    obtain ⟨name, hn⟩ := h
    exact ⟨name, (content?_append_of_lt (lt_of_content? hn)).trans hn⟩
  | after i =>
    rw [HasPlace, Forest.size_append]
    exact Nat.lt_succ_of_lt h

/-- A place leads to the node that was put there. -/
theorem target?_append_self (h : d.HasPlace p) :
    (d.append p content).target? p = some d.size := by
  cases p with
  | first => rfl
  | below i =>
    obtain ⟨name, hn⟩ := h
    have hi := lt_of_content? hn
    rw [target?, getElem?_append, if_neg (Nat.ne_of_lt hi), relink, Array.getElem?_modify,
      if_pos rfl, Array.getElem?_eq_getElem hi]
    rfl
  | after i =>
    rw [target?, getElem?_append, if_neg (Nat.ne_of_lt h), relink, Array.getElem?_modify,
      if_pos rfl, Array.getElem?_eq_getElem h]
    rfl

/-- Relinking sets the first child of a node only at the place below it. -/
theorem child_relink_of_ne {entries : Array Entry} {target : Nat} (h : Place.below i ≠ p) :
    (relink entries p target)[i]?.bind Entry.child = entries[i]?.bind Entry.child := by
  cases p with
  | first => rfl
  | below k =>
    have hk : k ≠ i := fun hk => h (congrArg Place.below hk.symm)
    rw [relink, Array.getElem?_modify, if_neg hk]
  | after k =>
    rw [relink, Array.getElem?_modify]
    split
    · rw [Option.bind_map]
      rfl
    · rfl

/-- Relinking sets the next sibling of a node only at the place behind it. -/
theorem next_relink_of_ne {entries : Array Entry} {target : Nat} (h : Place.after i ≠ p) :
    (relink entries p target)[i]?.bind Entry.next = entries[i]?.bind Entry.next := by
  cases p with
  | first => rfl
  | below k =>
    rw [relink, Array.getElem?_modify]
    split
    · rw [Option.bind_map]
      rfl
    · rfl
  | after k =>
    have hk : k ≠ i := fun hk => h (congrArg Place.after hk.symm)
    rw [relink, Array.getElem?_modify, if_neg hk]

/-- There is no line yet with the number of a new node. -/
theorem getElem?_size (d : Document) : d.entries[d.size]? = none :=
  Array.getElem?_eq_none (Nat.le_refl _)

/-- All other places lead where they did. -/
theorem target?_append_of_ne (h : q ≠ p) : (d.append p content).target? q = d.target? q := by
  cases q with
  | first =>
    cases p with
    | first => exact absurd rfl h
    | below | after => rfl
  | below i =>
    rw [target?, target?, getElem?_append]
    split
    · rename_i hi
      rw [hi, getElem?_size]
      rfl
    · exact child_relink_of_ne h
  | after i =>
    rw [target?, target?, getElem?_append]
    split
    · rename_i hi
      rw [hi, getElem?_size]
      rfl
    · exact next_relink_of_ne h

/-- A document grows by a node that is put at a place which leads nowhere. -/
theorem grows_append (h : d.HasPlace p) (vacant : d.target? p = none) :
    d.Grows content (d.append p content) where
  size_eq := Forest.size_append d p content
  added := by rw [getElem?_append, if_pos rfl]
  content?_eq _ hi := content?_append_of_lt hi
  linked := ⟨p, h, vacant, target?_append_self h, fun _ hq => target?_append_of_ne hq⟩

/-! ### Vacant places -/

/-- Different places of the document that lead nowhere. Nor do any two places of the document lead
to one node. -/
structure Vacant (d : Document) (places : List Place) : Prop where
  /-- The places are different. -/
  nodup : places.Nodup
  /-- They are places of the document. -/
  hasPlace : ∀ p ∈ places, d.HasPlace p
  /-- None of them leads to a node. -/
  target?_eq : ∀ p ∈ places, d.target? p = none
  /-- At most one place leads to a node. -/
  single : ∀ p q j, d.target? p = some j → d.target? q = some j → p = q

variable {places : List Place}

theorem Vacant.tail (h : d.Vacant (p :: places)) : d.Vacant places where
  nodup := h.nodup.of_cons
  hasPlace q hq := h.hasPlace q (List.mem_cons_of_mem _ hq)
  target?_eq q hq := h.target?_eq q (List.mem_cons_of_mem _ hq)
  single := h.single

/-- A place that leads nowhere is one more. -/
theorem Vacant.cons (h : d.Vacant places) (hp : d.HasPlace p) (vacant : d.target? p = none)
    (other : p ∉ places) : d.Vacant (p :: places) where
  nodup := List.nodup_cons.2 ⟨other, h.nodup⟩
  hasPlace := List.forall_mem_cons.2 ⟨hp, h.hasPlace⟩
  target?_eq := List.forall_mem_cons.2 ⟨vacant, h.target?_eq⟩
  single := h.single

/-- The document grows by a node at a vacant place. -/
theorem Vacant.grows (h : d.Vacant (p :: places)) (content : Content) :
    d.Grows content (d.append p content) :=
  grows_append (h.hasPlace p List.mem_cons_self) (h.target?_eq p List.mem_cons_self)

/-- The other places are still vacant once one of them is taken. -/
theorem Vacant.append (h : d.Vacant (p :: places)) (content : Content) :
    (d.append p content).Vacant places where
  nodup := h.nodup.of_cons
  hasPlace q hq := (h.tail.hasPlace q hq).append
  target?_eq q hq := by
    have hne : q ≠ p := fun hqp => (List.nodup_cons.1 h.nodup).1 (hqp ▸ hq)
    rw [target?_append_of_ne hne]
    exact h.tail.target?_eq q hq
  single _ _ _ hp hq := (h.grows content).eq_of_target? h.single hp hq

/-- The place behind a new node leads nowhere, and is none of the places there were. -/
theorem Vacant.after (h : d.Vacant (p :: places)) (content : Content) :
    (d.append p content).Vacant (.after d.size :: places) := by
  refine (h.append content).cons ?_ ?_ ?_
  · rw [HasPlace, Forest.size_append]
    exact Nat.lt_succ_self _
  · rw [target?, (h.grows content).added]
    rfl
  · exact fun hq => Nat.lt_irrefl _ (h.tail.hasPlace _ hq)

/-- So does the place below a new element. -/
theorem Vacant.below (h : d.Vacant (p :: places)) (name : String) :
    (d.append p (.element name)).Vacant (.below d.size :: .after d.size :: places) := by
  refine (h.after _).cons ⟨name, content?_append_size⟩ ?_ ?_
  · rw [target?, (h.grows _).added]
    rfl
  · intro hq
    obtain ⟨name', hn⟩ := h.tail.hasPlace _ (List.mem_of_ne_of_mem Place.noConfusion hq)
    exact Nat.lt_irrefl _ (lt_of_content? hn)

/-! ### The places of a builder -/

namespace Builder

/-- The place where the next node goes and the places to go on from later are vacant. -/
def Sound (b : Builder) : Prop := b.document.Vacant (b.place :: b.pending)

variable {b : Builder}

theorem sound_new : Builder.new.Sound where
  nodup := List.nodup_singleton _
  hasPlace := by simp [new, HasPlace]
  target?_eq := by simp [new, target?, empty]
  single _ _ j hp _ := absurd (lt_of_target? hp) (Nat.not_lt_zero j)

/-- A step keeps the places vacant. -/
theorem Sound.step (h : b.Sound) : ∀ step : Step, (b.step step).Sound
  | .enter name => Vacant.below h name
  | .text s => Vacant.after h (.text s)
  | .leave => by
    change b.leave.Sound
    unfold leave
    split
    · exact h
    · rename_i place pending hp
      rw [Sound, hp] at h
      exact h.tail

/-- A link that is set is not set again by a step. -/
theorem Sound.target?_step (h : b.Sound) (hq : b.document.target? q = some j) :
    ∀ step : Step, (b.step step).document.target? q = some j
  | .enter _ => (Vacant.grows h _).target?_eq hq
  | .text _ => (Vacant.grows h _).target?_eq hq
  | .leave => by
    rw [Builder.step, document_leave]
    exact hq

/-- Nor are the places taken by any list of steps. -/
theorem Sound.run (h : b.Sound) (steps : List Step) : (b.run steps).Sound := by
  induction steps generalizing b with
  | nil => exact h
  | cons step steps ih => exact ih (h.step step)

/-- A link that is set is never set again. -/
theorem Sound.target?_run (h : b.Sound) (hq : b.document.target? q = some j) (steps : List Step) :
    (b.run steps).document.target? q = some j := by
  induction steps generalizing b with
  | nil => exact hq
  | cons step steps ih => exact ih (h.step step) (h.target?_step hq step)

end Builder

/-! ### One step more -/

/-- A document only grows under a builder. To leave changes nothing. To enter an element or to add a
text adds one node behind all others and links it to one place that led nowhere; nothing else
changes. A link that is set keeps its value whatever steps follow, and no two links ever lead to one
node. -/
theorem ofSteps_append_only (steps : List Step) :
    ofSteps (steps ++ [.leave]) = ofSteps steps ∧
    (∀ name, (ofSteps steps).Grows (.element name) (ofSteps (steps ++ [.enter name]))) ∧
    (∀ s, (ofSteps steps).Grows (.text s) (ofSteps (steps ++ [.text s]))) ∧
    (∀ (later : List Step) p j, (ofSteps steps).target? p = some j →
      (ofSteps (steps ++ later)).target? p = some j) ∧
    ∀ p q j, (ofSteps steps).target? p = some j → (ofSteps steps).target? q = some j → p = q := by
  have sound : (Builder.new.run steps).Sound := Builder.sound_new.run steps
  have further : ∀ later : List Step,
      ofSteps (steps ++ later) = ((Builder.new.run steps).run later).document := by
    intro later
    rw [ofSteps, Forest.run_append]
    rfl
  refine ⟨?_, ?_, ?_, ?_, sound.single⟩
  · rw [further]
    exact Builder.document_leave _
  · intro name
    rw [further]
    exact Vacant.grows sound _
  · intro s
    rw [further]
    exact Vacant.grows sound _
  · intro later p j hj
    rw [further]
    exact sound.target?_run hj later

end Document

end TreePattern
