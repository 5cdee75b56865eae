import TreePattern.Pattern.Printer
import TreePattern.Proofs.Text.Quoting

/-!
# Patterns are told by their text

The notation of patterns mixes tags, braces, quotes and slashes, and a continuation follows without
a gap. It can be taken apart in one way all the same, if names are those of tags, no expression has
a slash in it and no text or expression has a nested pattern (`Pattern.IsOrdinary`): how a construct
begins tells the construct (`Construct.IsOrdinary.opening_append_inj`), and a pattern ends where no
construct can begin (`EndsPattern`), which is what stands behind any nested pattern.

Of an expression only its source is written, so a pattern is told up to the rest of its expressions
(`Pattern.Alike`). This rest is settled by the source too where all expressions are compiled in one
way (`Pattern.CompiledBy`).

* `Pattern.render_append_inj`: what is written tells the pattern and what is behind it.
* `Pattern.render_eq_iff`: patterns are written alike only if they are alike.
-/

namespace TreePattern

open Token (isNameChar)

/-! ### Ordinary patterns -/

namespace Construct

/-- Whether a construct looks at a single text and has no use for a nested pattern. -/
def isLeaf : Construct → Bool
  | text _ | regex _ => true
  | _ => false

/-- Names are made of the characters of tag names, and expressions have no slash in them. -/
def IsOrdinary : Construct → Prop
  | tag name | bind name => ∀ c ∈ name.toList, isNameChar c = true
  | regex e => '/' ∉ e.source.toList
  | _ => True

end Construct

namespace Pattern

/-- All constructs of the pattern are ordinary, and no text or expression has a nested pattern. -/
def IsOrdinary : Pattern → Prop
  | absent => True
  | node construct child next =>
    construct.IsOrdinary ∧ (construct.isLeaf = true → child = absent) ∧ child.IsOrdinary ∧
      next.IsOrdinary

end Pattern

/-! ### Alike patterns -/

namespace Construct

/-- Constructs of one kind that carry the same text; expressions carry their source. -/
def Alike (c d : Construct) : Prop := c.kindName = d.kindName ∧ c.payload? = d.payload?

variable {c d : Construct}

/-- Constructs that are alike are the same, or expressions from one source. -/
theorem alike_iff : c.Alike d ↔
    c = d ∨ ∃ e e' : Expression, c = regex e ∧ d = regex e' ∧ e.source = e'.source := by
  cases c <;> cases d <;> simp [Alike, kindName, payload?]
  -- two expressions are left
  rintro rfl
  rfl

theorem Alike.refl (c : Construct) : c.Alike c := ⟨rfl, rfl⟩

/-- Constructs that are alike are written alike. -/
theorem Alike.written_alike (h : c.Alike d) :
    c.opening = d.opening ∧ c.closing = d.closing ∧ c.gap = d.gap ∧ c.isLeaf = d.isLeaf := by
  obtain rfl | ⟨e, e', rfl, rfl, same⟩ := alike_iff.1 h
  · exact ⟨rfl, rfl, rfl, rfl⟩
  · simp [opening, closing, gap, isLeaf, same]

end Construct

namespace Pattern

/-- Patterns of one structure whose constructs are alike. -/
inductive Alike : Pattern → Pattern → Prop where
  | absent : Alike absent absent
  | node {c d : Construct} {child child' next next' : Pattern} (construct : c.Alike d)
      (nested : Alike child child') (rest : Alike next next') :
      Alike (node c child next) (node d child' next')

theorem Alike.refl (p : Pattern) : p.Alike p := by
  induction p with
  | absent => exact .absent
  | node c child next ihc ihn => exact .node (.refl c) ihc ihn

/-- Patterns that are alike are written alike. -/
theorem Alike.render_eq {p q : Pattern} (h : p.Alike q) : p.render = q.render := by
  induction h with
  | absent => rfl
  | @node c d child child' next next' construct nested rest ihc ihn =>
    obtain ⟨opening, closing, gap, -⟩ := construct.written_alike
    have absence : child.isAbsent = child'.isAbsent := by
      cases nested <;> rfl
    rw [render_node, render_node, opening, closing, gap, absence, ihc, ihn]

/-- Every expression of the pattern is what its source is compiled to. -/
def CompiledBy (compile : String → Option Expression) : Pattern → Prop
  | absent => True
  | node construct child next =>
    (∀ e, construct = .regex e → compile e.source = some e) ∧ child.CompiledBy compile ∧
      next.CompiledBy compile

/-- Patterns that are alike are the same where their expressions are compiled in one way. -/
theorem Alike.eq_of_compiledBy {compile : String → Option Expression} {p q : Pattern}
    (h : p.Alike q) (hp : p.CompiledBy compile) (hq : q.CompiledBy compile) : p = q := by
  induction h with
  | absent => rfl
  | node construct nested rest ihc ihn =>
    rw [ihc hp.2.1 hq.2.1, ihn hp.2.2 hq.2.2]
    obtain rfl | ⟨e, e', rfl, rfl, same⟩ := Construct.alike_iff.1 construct
    · rfl
    · have compiled := hp.1 e rfl
      rw [same, hq.1 e' rfl] at compiled
      rw [Option.some.inj compiled]

/-- A pattern for an expression that is written in a text is compiled as it was. -/
theorem compiledBy_of_ofSource? {source : String} {p : Pattern} (h : ofSource? source = some p) :
    p.CompiledBy Expression.ofSource? := by
  obtain ⟨e, he, rfl⟩ := Option.map_eq_some_iff.1 h
  refine ⟨fun e' h' => ?_, trivial, trivial⟩
  cases h'
  rw [Expression.source_of_ofSource? he, he]

end Pattern

/-! ### Where a pattern ends -/

/-- What can stand behind a whole pattern: nothing, the end of braces, or a closing tag. -/
inductive EndsPattern : List Char → Prop where
  | nil : EndsPattern []
  | brace {rest : List Char} : EndsPattern ('\x7d' :: rest)
  | stop {rest : List Char} : EndsPattern ('<' :: '/' :: rest)

/-- A name does not go on here. -/
def EndsName (rest : List Char) : Prop := ∀ c, rest.head? = some c → isNameChar c = false

theorem EndsName.cons {c : Char} {rest : List Char} (hc : isNameChar c = false) :
    EndsName (c :: rest) := by
  intro d hd
  rw [← Option.some.inj hd]
  exact hc

/-- Names end where patterns end. -/
theorem EndsPattern.endsName {rest : List Char} (h : EndsPattern rest) : EndsName rest := by
  cases h with
  | nil => exact nofun
  | brace | stop => exact .cons rfl

/-! ### Constructs -/

namespace Construct

variable {c d : Construct} {r s : List Char}

/-- A construct does not begin with a character of a name. -/
theorem endsName_opening (c : Construct) (rest : List Char) :
    EndsName (c.opening.toList ++ rest) := by
  cases c <;> simp only [opening, quote, String.toList_append, String.toList_ofList]
  all_goals exact .cons rfl

/-- A construct does not begin where a pattern ends. -/
theorem IsOrdinary.not_endsPattern (hc : c.IsOrdinary) (rest : List Char) :
    ¬ EndsPattern (c.opening.toList ++ rest) := by
  intro h
  cases c with
  | tag name =>
    rw [opening, String.toList_append, String.toList_append] at h
    cases hn : name.toList with
    | nil =>
      rw [hn] at h
      cases h
    | cons x cs =>
      rw [hn] at h
      have hx : isNameChar x = true := hc x (hn ▸ List.mem_cons_self)
      cases h
      cases hx
  | text literal =>
    rw [opening, quote, String.toList_ofList] at h
    cases h
  | regex e =>
    rw [opening, String.toList_append, String.toList_append] at h
    cases h
  | bind name =>
    rw [opening, String.toList_append] at h
    cases h
  | skipUntil | repetition | scope => cases h

/-- How a construct begins tells the construct, if no name goes on behind it. -/
theorem IsOrdinary.opening_append_inj (hc : c.IsOrdinary) (hd : d.IsOrdinary) (hr : EndsName r)
    (hs : EndsName s) (h : c.opening.toList ++ r = d.opening.toList ++ s) :
    c.Alike d ∧ r = s := by
  have whole := h
  -- constructs of different kinds differ in the first two characters
  cases c <;> cases d <;> simp only [opening, quote, String.toList_append, String.toList_ofList,
    String.reduceToList, List.cons_append, List.nil_append, List.append_assoc, List.cons.injEq,
    Char.reduceEq, true_and, false_and, and_false] at h
  case skipUntil.skipUntil | repetition.repetition | scope.scope => exact ⟨.refl _, h⟩
  case tag.tag name name' =>
    have ends : ∀ rest, EndsName ('>' :: rest) := fun _ => .cons rfl
    obtain ⟨same, behind⟩ := Token.append_inj_of_ends hc hd (ends r) (ends s) h
    exact ⟨⟨rfl, congrArg some (String.toList_inj.1 same)⟩, (List.cons.inj behind).2⟩
  case text.text literal literal' =>
    obtain ⟨rfl, behind⟩ := quote_append_inj whole
    exact ⟨.refl _, behind⟩
  case regex.regex e e' =>
    obtain ⟨same, behind⟩ := Token.append_cons_inj_of_not_mem hc hd h
    exact ⟨⟨rfl, congrArg some (String.toList_inj.1 same)⟩, behind⟩
  case bind.bind name name' =>
    obtain ⟨same, behind⟩ := Token.append_inj_of_ends hc hd hr hs h
    exact ⟨⟨rfl, congrArg some (String.toList_inj.1 same)⟩, behind⟩

/-- What is written inside a construct, up to what closes it. -/
def inside (c : Construct) (child : Pattern) : List Char :=
  if child.isAbsent then [] else c.gap.toList ++ child.render.toList

/-- Inside constructs that are alike the same is written. -/
theorem Alike.inside_eq (h : c.Alike d) (child : Pattern) : c.inside child = d.inside child := by
  rw [inside, inside, h.written_alike.2.2.1]

/-- Without a gap the nested pattern is written by itself. -/
theorem inside_of_gap_eq {c : Construct} (h : c.gap = "") (child : Pattern) :
    c.inside child = child.render.toList := by
  cases child with
  | absent => rfl
  | node d child next =>
    change c.gap.toList ++ _ = _
    rw [h]
    rfl

/-- With a gap a nested pattern shows by it. -/
theorem inside_node {c : Construct} (h : c.gap = " ") (d : Construct) (child next : Pattern) :
    c.inside (.node d child next) = ' ' :: (Pattern.node d child next).render.toList := by
  change c.gap.toList ++ _ = _
  rw [h]
  rfl

/-- A construct is a leaf, or it is closed where a pattern ends: a tag by its closing tag, without a
gap, and any other by a brace, with a gap in front of a nested pattern. -/
theorem closing_cases (c : Construct) :
    (c.isLeaf = true ∧ c.closing = "") ∨
    (c.gap = "" ∧ ∀ rest, EndsPattern (c.closing.toList ++ rest)) ∨
    (c.gap = " " ∧ c.closing = "\x7d") := by
  cases c with
  | text | regex => exact .inl ⟨rfl, rfl⟩
  | tag name =>
    refine .inr (.inl ⟨rfl, fun rest => ?_⟩)
    rw [closing, String.toList_append, String.toList_append]
    exact .stop
  | skipUntil | repetition | scope | bind => exact .inr (.inr ⟨rfl, rfl⟩)

end Construct

/-! ### Patterns -/

namespace Pattern

/-- What is written for a construct with its nested pattern and its continuation. -/
theorem toList_render_node (c : Construct) (child next : Pattern) (rest : List Char) :
    (node c child next).render.toList ++ rest = c.opening.toList ++
      (c.inside child ++ (c.closing.toList ++ (next.render.toList ++ rest))) := by
  rw [render_node, Construct.inside]
  split <;> simp

/-- Names end where a pattern is written. -/
theorem endsName_render {rest : List Char} (p : Pattern) (hr : EndsPattern rest) :
    EndsName (p.render.toList ++ rest) := by
  cases p with
  | absent => exact hr.endsName
  | node c child next =>
    rw [toList_render_node]
    exact c.endsName_opening _

/-- Names end behind the opening of a construct. -/
theorem endsName_inside {c : Construct} {child next : Pattern} {rest : List Char}
    (leaf : c.isLeaf = true → child = absent) (hr : EndsPattern rest) :
    EndsName (c.inside child ++ (c.closing.toList ++ (next.render.toList ++ rest))) := by
  rcases c.closing_cases with ⟨hl, hc⟩ | ⟨hg, ends⟩ | ⟨hg, hc⟩
  · rw [leaf hl, hc]
    exact endsName_render next hr
  · rw [Construct.inside_of_gap_eq hg]
    exact endsName_render child (ends _)
  · rw [hc]
    cases child with
    | absent => exact .cons rfl
    | node d inner behind =>
      rw [Construct.inside_node hg]
      exact .cons rfl

/-- What is written behind the opening of a construct tells its nested pattern and what is behind
the construct, if what is written for the nested pattern tells this pattern. -/
theorem inside_append_inj {c : Construct} {child child' : Pattern} {x x' : List Char}
    (leaf : c.isLeaf = true → child = absent) (leaf' : c.isLeaf = true → child' = absent)
    (tells : ∀ {r s : List Char}, EndsPattern r → EndsPattern s →
      child.render.toList ++ r = child'.render.toList ++ s → child.Alike child' ∧ r = s)
    (h : c.inside child ++ (c.closing.toList ++ x) = c.inside child' ++ (c.closing.toList ++ x')) :
    child.Alike child' ∧ x = x' := by
  rcases c.closing_cases with ⟨hl, -⟩ | ⟨hg, ends⟩ | ⟨hg, hc⟩
  · rw [leaf hl, leaf' hl] at h ⊢
    exact ⟨.absent, List.append_cancel_left (List.append_cancel_left h)⟩
  · rw [Construct.inside_of_gap_eq hg, Construct.inside_of_gap_eq hg] at h
    obtain ⟨same, behind⟩ := tells (ends x) (ends x') h
    exact ⟨same, List.append_cancel_left behind⟩
  · rw [hc] at h
    -- a gap comes with a nested pattern, and a brace without one
    cases child with
    | absent =>
      cases child' with
      | absent => exact ⟨.absent, (List.cons.inj h).2⟩
      | node d inner behind =>
        rw [Construct.inside_node hg] at h
        exact absurd (List.cons.inj h).1 (by decide)
    | node d inner behind =>
      cases child' with
      | absent =>
        rw [Construct.inside_node hg] at h
        exact absurd (List.cons.inj h).1 (by decide)
      | node d' inner' behind' =>
        rw [Construct.inside_node hg, Construct.inside_node hg] at h
        obtain ⟨same, rest⟩ := tells .brace .brace (List.cons.inj h).2
        exact ⟨same, (List.cons.inj rest).2⟩

/-- What is written tells the pattern and what is behind it. -/
theorem render_append_inj {p q : Pattern} (hp : p.IsOrdinary) (hq : q.IsOrdinary)
    {r s : List Char} (hr : EndsPattern r) (hs : EndsPattern s)
    (h : p.render.toList ++ r = q.render.toList ++ s) : p.Alike q ∧ r = s := by
  induction p generalizing q r s with
  | absent =>
    cases q with
    | absent => exact ⟨.absent, h⟩
    | node d child' next' =>
      rw [toList_render_node] at h
      have ends : EndsPattern (absent.render.toList ++ r) := hr
      rw [h] at ends
      exact absurd ends (hq.1.not_endsPattern _)
  | node c child next ihc ihn =>
    obtain ⟨hc, leaf, hchild, hnext⟩ := hp
    cases q with
    | absent =>
      rw [toList_render_node] at h
      have ends : EndsPattern (absent.render.toList ++ s) := hs
      rw [← h] at ends
      exact absurd ends (hc.not_endsPattern _)
    | node d child' next' =>
      obtain ⟨hd, leaf', hchild', hnext'⟩ := hq
      rw [toList_render_node, toList_render_node] at h
      obtain ⟨alike, within⟩ := hc.opening_append_inj hd (endsName_inside leaf hr)
        (endsName_inside leaf' hs) h
      obtain ⟨-, closing, -, kind⟩ := alike.written_alike
      rw [← closing, ← alike.inside_eq] at within
      obtain ⟨inner, behind⟩ := inside_append_inj leaf (kind ▸ leaf') (ihc hchild hchild') within
      obtain ⟨follows, rest⟩ := ihn hnext hnext' hr hs behind
      exact ⟨.node alike inner follows, rest⟩

/-- Ordinary patterns are written alike only if they are alike: the same constructs with the same
names, texts and sources of expressions, and the same nested patterns and continuations. If their
expressions are compiled in one way, they are the same. -/
theorem render_eq_iff {p q : Pattern} (hp : p.IsOrdinary) (hq : q.IsOrdinary) :
    (p.render = q.render ↔ p.Alike q) ∧
    ∀ compile, p.CompiledBy compile → q.CompiledBy compile → (p.render = q.render ↔ p = q) := by
  have told : p.render = q.render → p.Alike q := by
    intro h
    have whole : p.render.toList ++ [] = q.render.toList ++ [] := by rw [h]
    exact (render_append_inj hp hq .nil .nil whole).1
  refine ⟨⟨told, Alike.render_eq⟩, fun compile hcp hcq => ⟨fun h => ?_, congrArg render⟩⟩
  exact (told h).eq_of_compiledBy hcp hcq

/-- To search behind a capture, or behind the text that is captured: the closing brace of the capture
comes before the search or after it. What is searched for shows by its source alone. -/
theorem render_eq_iff_behind_capture :
    let search (e : Expression) := node .skipUntil (ofConstruct (.regex e)) absent
    let behind (e : Expression) := node (.bind "x") (ofConstruct (.text "a\"")) (search e)
    let inside (e : Expression) := node (.bind "x") (node (.text "a\"") absent (search e)) absent
    let plain : Expression := ⟨"b", (· == "b")⟩
    let folded : Expression := ⟨"b", fun text => text == "b" || text == "B"⟩
    (behind plain).IsOrdinary ∧ (behind folded).IsOrdinary ∧ (inside plain).IsOrdinary ∧
    (behind plain).render = (behind folded).render ∧
    (behind plain).CompiledBy (fun _ => some plain) ∧
    (inside plain).CompiledBy (fun _ => some plain) ∧
    (behind plain).render ≠ (inside plain).render := by
  intro search behind inside plain folded
  have name : ∀ c ∈ "x".toList, isNameChar c = true := by simp [isNameChar]
  have search_ordinary (e : Expression) (h : e.source = "b") : (search e).IsOrdinary := by
    refine ⟨trivial, nofun, ⟨?_, fun _ => rfl, trivial, trivial⟩, trivial⟩
    simp [Construct.IsOrdinary, h]
  have behind_ordinary (e : Expression) (h : e.source = "b") : (behind e).IsOrdinary :=
    ⟨name, nofun, ⟨trivial, fun _ => rfl, trivial, trivial⟩, search_ordinary e h⟩
  have inside_ordinary : (inside plain).IsOrdinary :=
    ⟨name, nofun, ⟨trivial, fun _ => rfl, trivial, search_ordinary plain rfl⟩, trivial⟩
  have behind_compiled : (behind plain).CompiledBy fun _ => some plain := by
    simp [behind, search, CompiledBy, ofConstruct]
  have inside_compiled : (inside plain).CompiledBy fun _ => some plain := by
    simp [inside, search, CompiledBy, ofConstruct]
  have told := render_eq_iff (behind_ordinary plain rfl) inside_ordinary
  refine ⟨behind_ordinary plain rfl, behind_ordinary folded rfl, inside_ordinary, ?_,
    behind_compiled, inside_compiled, fun same => ?_⟩
  · refine (render_eq_iff (behind_ordinary plain rfl) (behind_ordinary folded rfl)).1.2 ?_
    have searched : (search plain).Alike (search folded) :=
      .node (.refl _) (.node ⟨rfl, rfl⟩ .absent .absent) .absent
    exact .node (.refl _) (.refl _) searched
  · have equal := (told.2 _ behind_compiled inside_compiled).1 same
    simp [behind, inside, search, ofConstruct] at equal

end Pattern

end TreePattern
