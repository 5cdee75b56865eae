import TreePattern.Markup.Token

/-!
# How tokens are spelled

Reading a token tries out which tag the input begins with and takes runs of characters as long as
they go. `Token.Spells` says how tokens are spelled without any reading: a tag is its brackets
around a name and blanks, and a text is a non-empty run of characters other than `<`.

* `Token.read?_append`: a token that is spelled out is read back, and what is behind it is left.
* `Token.exists_spells_of_read?`: a token that is read was spelled out there.
-/

namespace TreePattern

namespace Token

/-- A tag name: not empty, and made of name characters. -/
def IsName (w : List Char) : Prop := w ≠ [] ∧ ∀ c ∈ w, isNameChar c = true

/-- The blanks behind the name of a tag, if any. -/
def IsBlanks (w : List Char) : Prop := ∀ c ∈ w, isTagBlank c = true

/-- A run of text: not empty, and without `<`. -/
def IsRun (w : List Char) : Prop := w ≠ [] ∧ ∀ c ∈ w, c ≠ '<'

/-- Where a run of text cannot go on: at the end, and before `<`. -/
def EndsText (rest : List Char) : Prop := ∀ c, rest.head? = some c → c = '<'

/-- How tokens are spelled. -/
inductive Spells : List Char → Token → Prop where
  /-- The tag that starts an element. -/
  | start {name : String} {ws : List Char} (hn : IsName name.toList) (hw : IsBlanks ws) :
      Spells ('<' :: (name.toList ++ ws ++ ['>'])) (.start name)
  /-- The tag of an element without content. -/
  | single {name : String} {ws : List Char} (hn : IsName name.toList) (hw : IsBlanks ws) :
      Spells ('<' :: (name.toList ++ ws ++ ['/', '>'])) (.single name)
  /-- The tag that ends an element. -/
  | stop {name : String} {ws : List Char} (hn : IsName name.toList) (hw : IsBlanks ws) :
      Spells ('<' :: '/' :: (name.toList ++ ws ++ ['>'])) (.stop name)
  /-- A text. -/
  | text {s : String} (hs : IsRun s.toList) : Spells s.toList (.text s)

theorem endsText_nil : EndsText [] := nofun

/-- A text ends before joined pieces of markup when it ends before each of them. -/
theorem EndsText.append {f rest : List Char} (hf : EndsText f) (hr : EndsText rest) :
    EndsText (f ++ rest) := by
  cases f with
  | nil => exact hr
  | cons c f => exact hf

/-- Where a text ends is seen before all the markup that follows. -/
theorem EndsText.of_append {f rest : List Char} (h : EndsText (f ++ rest)) : EndsText f := by
  cases f with
  | nil => exact endsText_nil
  | cons c f => exact h

/-- A text ends before a closing tag. -/
theorem Spells.endsText {w : List Char} {name : String} (h : Spells w (.stop name))
    (rest : List Char) : EndsText (w ++ rest) := by
  cases h with
  | stop =>
    intro c hc
    cases hc
    rfl

/-- A start tag without blanks in it. -/
theorem spells_startTag {name : String} (hn : IsName name.toList) :
    Spells ("<" ++ name ++ ">").toList (.start name) := by
  have spelled : Spells ('<' :: (name.toList ++ [] ++ ['>'])) (.start name) := .start hn nofun
  simpa using spelled

/-- A closing tag without blanks in it. -/
theorem spells_stopTag {name : String} (hn : IsName name.toList) :
    Spells ("</" ++ name ++ ">").toList (.stop name) := by
  have spelled : Spells ('<' :: '/' :: (name.toList ++ [] ++ ['>'])) (.stop name) := .stop hn nofun
  simpa using spelled

/-! ### Runs of characters -/

/-- A run of a class of characters that cannot go on is the longest one. -/
theorem takeWhile_append_of_ends {p : Char → Bool} {w rest : List Char} (hw : ∀ c ∈ w, p c = true)
    (hr : ∀ c, rest.head? = some c → p c = false) : (w ++ rest).takeWhile p = w := by
  rw [List.takeWhile_append_of_pos hw]
  cases rest with
  | nil => exact List.append_nil w
  | cons c rest => rw [List.takeWhile_cons_of_neg (by simp [hr c rfl]), List.append_nil]

/-- What is behind a run that cannot go on is left. -/
theorem dropWhile_append_of_ends {p : Char → Bool} {w rest : List Char} (hw : ∀ c ∈ w, p c = true)
    (hr : ∀ c, rest.head? = some c → p c = false) : (w ++ rest).dropWhile p = rest := by
  rw [List.dropWhile_append_of_pos hw]
  cases rest with
  | nil => rfl
  | cons c rest => exact List.dropWhile_cons_of_neg (by simp [hr c rfl])

/-- Runs of one class that cannot go on are told by what they are part of, and so is what is behind
them. -/
theorem append_inj_of_ends {p : Char → Bool} {v w r s : List Char} (hv : ∀ c ∈ v, p c = true)
    (hw : ∀ c ∈ w, p c = true) (hr : ∀ c, r.head? = some c → p c = false)
    (hs : ∀ c, s.head? = some c → p c = false) (h : v ++ r = w ++ s) : v = w ∧ r = s := by
  constructor
  · rw [← takeWhile_append_of_ends hv hr, h, takeWhile_append_of_ends hw hs]
  · rw [← dropWhile_append_of_ends hv hr, h, dropWhile_append_of_ends hw hs]

/-- What stands before the first character of a kind is told by what it is part of. -/
theorem append_cons_inj_of_not_mem {v w r s : List Char} {c : Char} (hv : c ∉ v) (hw : c ∉ w)
    (h : v ++ c :: r = w ++ c :: s) : v = w ∧ r = s := by
  have other : ∀ {l : List Char}, c ∉ l → ∀ d ∈ l, (d != c) = true :=
    fun hl d hd => bne_iff_ne.2 fun hdc => hl (hdc ▸ hd)
  have ends : ∀ (l : List Char) d, (c :: l).head? = some d → (d != c) = false :=
    fun l d hd => bne_eq_false_iff_eq.2 (Option.some.inj hd).symm
  obtain ⟨before, behind⟩ := append_inj_of_ends (other hv) (other hw) (ends r) (ends s) h
  exact ⟨before, (List.cons.inj behind).2⟩

/-- Behind the longest run comes a character of another class, if any. -/
theorem head?_dropWhile {p : Char → Bool} {w : List Char} {c : Char}
    (h : (w.dropWhile p).head? = some c) : p c = false := by
  have := List.head?_dropWhile_not p w
  rw [h] at this
  exact this

theorem forall_of_mem_takeWhile {p : Char → Bool} {w : List Char} :
    ∀ c ∈ w.takeWhile p, p c = true :=
  List.all_eq_true.1 List.all_takeWhile

/-- No blank of a tag may stand in a name. -/
theorem isNameChar_of_isTagBlank {c : Char} (h : isTagBlank c = true) : isNameChar c = false := by
  simp only [isTagBlank, Bool.or_eq_true, beq_iff_eq] at h
  rcases h with ((rfl | rfl) | rfl) | rfl <;> rfl

/-! ### Names -/

/-- A name does not go on into the blanks behind it, nor into another character behind these. -/
theorem ends_name {ws rest : List Char} {c : Char} (hw : IsBlanks ws) (hc : isNameChar c = false) :
    ∀ d, (ws ++ c :: rest).head? = some d → isNameChar d = false := by
  intro d hd
  cases ws with
  | nil =>
    cases hd
    exact hc
  | cons d' ws =>
    cases hd
    exact isNameChar_of_isTagBlank (hw d List.mem_cons_self)

/-- A name and the blanks behind it are passed over, up to a character that is neither. -/
theorem readName?_append {name : String} {ws rest : List Char} {c : Char}
    (hn : IsName name.toList) (hw : IsBlanks ws) (hc : isNameChar c = false)
    (hb : isTagBlank c = false) :
    readName? (name.toList ++ ws ++ c :: rest) = some (name, c :: rest) := by
  have behind : ∀ d, (ws ++ c :: rest).head? = some d → isNameChar d = false := ends_name hw hc
  have stop : ∀ d, (c :: rest).head? = some d → isTagBlank d = false := by
    intro d hd
    cases hd
    exact hb
  rw [List.append_assoc, readName?, takeWhile_append_of_ends hn.2 behind,
    dropWhile_append_of_ends hn.2 behind, dropWhile_append_of_ends hw stop]
  split
  · exact absurd ‹_› hn.1
  · rw [String.ofList_toList]

/-- What is passed over is a name and the blanks behind it. -/
theorem append_of_readName? {input rest : List Char} {name : String}
    (h : readName? input = some (name, rest)) :
    ∃ ws, input = name.toList ++ ws ++ rest ∧ IsName name.toList ∧ IsBlanks ws := by
  unfold readName? at h
  split at h
  · cases h
  · rename_i hne
    simp only [Option.some.injEq, Prod.mk.injEq] at h
    obtain ⟨rfl, rfl⟩ := h
    refine ⟨(input.dropWhile isNameChar).takeWhile isTagBlank, ?_, ⟨?_, ?_⟩,
      forall_of_mem_takeWhile⟩
    · rw [String.toList_ofList, List.append_assoc, List.takeWhile_append_dropWhile,
        List.takeWhile_append_dropWhile]
    · rw [String.toList_ofList]
      exact hne
    · rw [String.toList_ofList]
      exact forall_of_mem_takeWhile

/-! ### Tokens -/

/-- Behind `<` a name stands where a closing tag has its slash. -/
theorem ne_slash_of_readName? {r : List Char} {read : String × List Char}
    (h : readName? r = some read) (r' : List Char) : r ≠ '/' :: r' := by
  rintro rfl
  cases h

theorem read?_start {r rest : List Char} {name : String}
    (h : readName? r = some (name, '>' :: rest)) :
    read? ('<' :: r) = some (.start name, rest) := by
  rw [read?]
  · simp only [h]
  · exact ne_slash_of_readName? h

theorem read?_single {r rest : List Char} {name : String}
    (h : readName? r = some (name, '/' :: '>' :: rest)) :
    read? ('<' :: r) = some (.single name, rest) := by
  rw [read?]
  · simp only [h]
  · exact ne_slash_of_readName? h

theorem read?_stop {r rest : List Char} {name : String}
    (h : readName? r = some (name, '>' :: rest)) :
    read? ('<' :: '/' :: r) = some (.stop name, rest) := by
  simp only [read?, h]

theorem read?_text {s : String} {rest : List Char} (hs : IsRun s.toList) (hr : EndsText rest) :
    read? (s.toList ++ rest) = some (.text s, rest) := by
  have goes : ∀ c ∈ s.toList, (c != '<') = true := by
    intro c hc
    exact bne_iff_ne.2 (hs.2 c hc)
  have stops : ∀ c, rest.head? = some c → (c != '<') = false := by
    intro c hc
    rw [hr c hc]
    rfl
  have taken := takeWhile_append_of_ends goes stops
  have left := dropWhile_append_of_ends goes stops
  cases hcs : s.toList with
  | nil => exact absurd hcs hs.1
  | cons c cs =>
    have mem : c ∈ s.toList := hcs ▸ List.mem_cons_self
    have hc : c ≠ '<' := hs.2 c mem
    rw [hcs, List.cons_append, List.takeWhile_cons_of_pos (p := (· != '<')) (goes c mem)] at taken
    rw [hcs, List.cons_append, List.dropWhile_cons_of_pos (p := (· != '<')) (goes c mem)] at left
    rw [List.cons_append, read?]
    · rw [taken, left, ← hcs, String.ofList_toList]
    · exact fun _ hr => absurd hr hc
    · exact hc

/-- A token that is spelled out is read back, and what is behind it is left. A text has to end
there, since a run of text is read as far as it goes. -/
theorem read?_append {w rest : List Char} {token : Token} (h : Spells w token)
    (hr : ∀ s, token = .text s → EndsText rest) : read? (w ++ rest) = some (token, rest) := by
  cases h with
  | start hn hw =>
    rw [List.cons_append, List.append_assoc]
    exact read?_start (readName?_append hn hw rfl rfl)
  | single hn hw =>
    rw [List.cons_append, List.append_assoc]
    exact read?_single (readName?_append hn hw rfl rfl)
  | stop hn hw =>
    rw [List.cons_append, List.cons_append, List.append_assoc]
    exact read?_stop (readName?_append hn hw rfl rfl)
  | text hs => exact read?_text hs (hr _ rfl)

/-- A token that is read was spelled out there, and a text was read up to where it ends. -/
theorem exists_spells_of_read? {input rest : List Char} {token : Token}
    (h : read? input = some (token, rest)) :
    ∃ w, input = w ++ rest ∧ Spells w token ∧ ∀ s, token = .text s → EndsText rest := by
  unfold read? at h
  split at h
  · cases h
  · split at h
    · rename_i hn
      cases h
      obtain ⟨ws, rfl, hname, hw⟩ := append_of_readName? hn
      refine ⟨_, ?_, .stop hname hw, nofun⟩
      simp only [List.cons_append, List.append_assoc, List.nil_append]
    · cases h
  · split at h
    · rename_i hn
      cases h
      obtain ⟨ws, rfl, hname, hw⟩ := append_of_readName? hn
      refine ⟨_, ?_, .start hname hw, nofun⟩
      simp only [List.cons_append, List.append_assoc, List.nil_append]
    · rename_i hn
      cases h
      obtain ⟨ws, rfl, hname, hw⟩ := append_of_readName? hn
      refine ⟨_, ?_, .single hname hw, nofun⟩
      simp only [List.cons_append, List.append_assoc, List.nil_append]
    · cases h
  · rename_i c r _ hc
    cases h
    refine ⟨_, ?_, .text (s := String.ofList (c :: r.takeWhile (· != '<'))) ⟨?_, ?_⟩, ?_⟩
    · rw [String.toList_ofList, List.cons_append, List.takeWhile_append_dropWhile]
    · rw [String.toList_ofList]
      exact List.cons_ne_nil _ _
    · rw [String.toList_ofList]
      intro d hd
      rcases List.mem_cons.1 hd with rfl | hd
      · exact hc
      · exact bne_iff_ne.1 (forall_of_mem_takeWhile d hd)
    · intro _ _ d hd
      exact bne_eq_false_iff_eq.1 (head?_dropWhile (p := (· != '<')) hd)

end Token

end TreePattern
