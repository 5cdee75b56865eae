import TreePattern.Markup.Reading
import TreePattern.Proofs.Document.Forest
import TreePattern.Proofs.Markup.Spelling

/-!
# The grammar of markup

`Forest.Spells` is the grammar of markup: an item of a forest is a text, a single tag, or a start
tag and an end tag of one name around the markup of a forest. Reading knows nothing of it. It goes
from token to token with a stack of open names, and drives a builder that has a stack of its own.

* `Document.readOnto_append`: the markup of a forest is read to its end, and the builder is given
  the steps of the forest without its blank texts.
* `Document.exists_spells_of_readOnto`: markup that is read begins with the markup of a forest, up
  to the tag that closes the innermost open element.
* `Document.readMarkup_eq_ok_iff`: what can be read onto a builder is exactly the markup of forests.
* `Document.ofMarkup_eq_ok_iff`: the document that is read is the layout of the forest without its
  blank texts.
-/

namespace TreePattern

namespace Forest

/-- How forests are spelled. The empty forest is no markup at all. -/
inductive Spells : List Char → Forest → Prop where
  | nil : Spells [] .nil
  /-- A text, as far as it goes, and the forest behind it. -/
  | text {s : String} {f : List Char} {rest : Forest} (hs : Token.Spells s.toList (.text s))
      (hf : Token.EndsText f) (hr : Spells f rest) : Spells (s.toList ++ f) (.text s rest)
  /-- An element without content written as one tag, and the forest behind it. -/
  | single {w f : List Char} {name : String} {rest : Forest} (hw : Token.Spells w (.single name))
      (hr : Spells f rest) : Spells (w ++ f) (.element name .nil rest)
  /-- An element with its content between two tags of its name, and the forest behind it. -/
  | element {w v f g : List Char} {name : String} {inner rest : Forest}
      (hw : Token.Spells w (.start name)) (hi : Spells f inner) (hv : Token.Spells v (.stop name))
      (hr : Spells g rest) : Spells (w ++ f ++ v ++ g) (.element name inner rest)

/-- The forest without its blank texts. -/
def visible : Forest → Forest
  | nil => nil
  | text s rest => if isBlankText s.toList then rest.visible else text s rest.visible
  | element name inner rest => element name inner.visible rest.visible

end Forest

/-! ### Planting a forest -/

namespace Document

namespace Builder

/-- Builds a forest without its blank texts. -/
def plant (b : Builder) (F : Forest) : Builder := b.run F.visible.steps

@[simp] theorem plant_nil (b : Builder) : b.plant .nil = b := rfl

@[simp] theorem plant_text (b : Builder) (s : String) (rest : Forest) :
    b.plant (.text s rest) = (if isBlankText s.toList then b else b.text s).plant rest := by
  rw [plant, Forest.visible]
  split
  · rfl
  · rfl

@[simp] theorem plant_element (b : Builder) (name : String) (inner rest : Forest) :
    b.plant (.element name inner rest) = ((b.enter name).plant inner).leave.plant rest :=
  Forest.run_append (b.enter name) inner.visible.steps (.leave :: rest.visible.steps)

/-- Planting a forest where nothing is gives its layout. -/
theorem finish_plant_new (F : Forest) : (new.plant F).finish = F.visible.layout :=
  ofSteps_steps F.visible

end Builder

/-! ### Reading a forest -/

open Token (EndsText)

/-- Without a token at its head, markup is read only if it is at its end with no element open. -/
theorem readOnto_of_read?_eq_none {input : List Char} {opened : List String} {b : Builder}
    (h : Token.read? input = none) :
    readOnto input opened b = if input = [] ∧ opened = [] then .ok b else .error input := by
  cases input with
  | nil =>
    rw [readOnto]
    cases opened with
    | nil => rfl
    | cons name opened => rfl
  | cons c input =>
    rw [readOnto, if_neg fun hi => List.cons_ne_nil c input hi.1]
    split <;> rename_i h'
    · rfl
    all_goals cases h.symm.trans h'

/-- What reading does with the token at the head of the input. -/
theorem readOnto_of_read? {input rest : List Char} {token : Token} {opened : List String}
    {b : Builder} : Token.read? input = some (token, rest) →
    readOnto input opened b =
      match token, opened with
      | .start name, opened => readOnto rest (name :: opened) (b.enter name)
      | .single name, opened => readOnto rest opened (b.enter name).leave
      | .stop _, [] => .error input
      | .stop name, innermost :: around =>
        if innermost = name then readOnto rest around b.leave else .error input
      | .text s, opened => readOnto rest opened (if isBlankText s.toList then b else b.text s) := by
  intro h
  cases input with
  | nil => cases h
  | cons c input =>
    rw [readOnto]
    split <;> rename_i h' <;> cases h.symm.trans h'
    · rfl
    · rfl
    · cases opened with
      | nil => rfl
      | cons innermost around => rfl
    · rfl

/-- The markup of a forest is read to its end, and the builder is given the steps of the forest
without its blank texts. -/
theorem readOnto_append {f : List Char} {F : Forest} (h : F.Spells f) :
    ∀ {rest : List Char}, EndsText rest → ∀ (opened : List String) (b : Builder),
      readOnto (f ++ rest) opened b = readOnto rest opened (b.plant F) := by
  induction h with
  | nil =>
    intro rest _ opened b
    rfl
  | @text s f F hs hf _ ih =>
    intro rest hr opened b
    have read : Token.read? (s.toList ++ (f ++ rest)) = some (.text s, f ++ rest) :=
      Token.read?_append hs fun _ _ => hf.append hr
    rw [List.append_assoc, readOnto_of_read? read, Builder.plant_text]
    exact ih hr opened _
  | @single w f name F hw _ ih =>
    intro rest hr opened b
    have read : Token.read? (w ++ (f ++ rest)) = some (.single name, f ++ rest) :=
      Token.read?_append hw nofun
    rw [List.append_assoc, readOnto_of_read? read, Builder.plant_element, Builder.plant_nil]
    exact ih hr opened _
  | @element w v f g name I F hw _ hv _ ihi ihr =>
    intro rest hr opened b
    have start : Token.read? (w ++ (f ++ (v ++ (g ++ rest)))) =
        some (.start name, f ++ (v ++ (g ++ rest))) := Token.read?_append hw nofun
    have stop : Token.read? (v ++ (g ++ rest)) = some (.stop name, g ++ rest) :=
      Token.read?_append hv nofun
    rw [List.append_assoc, List.append_assoc, List.append_assoc, readOnto_of_read? start,
      Builder.plant_element]
    refine (ihi (hv.endsText _) (name :: opened) (b.enter name)).trans ?_
    rw [readOnto_of_read? stop]
    refine (if_pos rfl).trans ?_
    exact ihr hr opened _

/-! ### What is read is a forest -/

/-- Where the markup of a forest ends: with all of the markup when no element is open, and before
the tag that closes the innermost open element otherwise. -/
def Closes : List String → List Char → Prop
  | [], rest => rest = []
  | name :: _, rest => ∃ w g, rest = w ++ g ∧ Token.Spells w (.stop name)

/-- A text ends where the forest it is in ends. -/
theorem Closes.endsText {opened : List String} {rest : List Char} (h : Closes opened rest) :
    EndsText rest := by
  cases opened with
  | nil =>
    rw [h]
    exact Token.endsText_nil
  | cons name opened =>
    obtain ⟨w, g, rfl, hw⟩ := h
    exact hw.endsText g

/-- Markup that is read begins with the markup of a forest, up to the tag that closes the innermost
open element. -/
theorem exists_spells_of_readOnto {input : List Char} {opened : List String} {b b' : Builder}
    (h : readOnto input opened b = .ok b') :
    ∃ f F rest, input = f ++ rest ∧ Forest.Spells f F ∧ Closes opened rest := by
  cases hread : Token.read? input with
  | none =>
    rw [readOnto_of_read?_eq_none hread] at h
    split at h
    · rename_i atEnd
      obtain ⟨rfl, rfl⟩ := atEnd
      exact ⟨[], .nil, [], rfl, .nil, rfl⟩
    · cases h
  | some read =>
    obtain ⟨token, rest⟩ := read
    have shorter := Token.length_lt_of_read? hread
    obtain ⟨w, hinput, hw, ends⟩ := Token.exists_spells_of_read? hread
    rw [readOnto_of_read? hread] at h
    cases token with
    | start name =>
      obtain ⟨f, inner, _, rfl, hf, v, g, rfl, hv⟩ := exists_spells_of_readOnto h
      -- the content is known to be a forest; reading it leads to what stands behind its closing tag
      have inside : readOnto (f ++ (v ++ g)) (name :: opened) (b.enter name) = .ok b' := h
      rw [readOnto_append hf (hv.endsText g),
        readOnto_of_read? (Token.read?_append hv nofun)] at inside
      have behind : readOnto g opened ((b.enter name).plant inner).leave = .ok b' :=
        (if_pos rfl).symm.trans inside
      have : g.length < input.length := by
        simp only [List.length_append] at shorter
        omega
      obtain ⟨f', F, rest, rfl, hf', hc⟩ := exists_spells_of_readOnto behind
      refine ⟨w ++ f ++ v ++ f', _, rest, ?_, .element hw hf hv hf', hc⟩
      simp only [hinput, List.append_assoc]
    | single name =>
      obtain ⟨f, F, rest, rfl, hf, hc⟩ := exists_spells_of_readOnto h
      refine ⟨w ++ f, _, rest, ?_, .single hw hf, hc⟩
      rw [hinput, List.append_assoc]
    | stop name =>
      cases opened with
      | nil => cases h
      | cons innermost around =>
        by_cases hn : innermost = name
        · subst hn
          exact ⟨[], .nil, input, rfl, .nil, w, rest, hinput, hw⟩
        · cases (if_neg hn).symm.trans h
    | text s =>
      obtain ⟨f, F, rest, rfl, hf, hc⟩ := exists_spells_of_readOnto h
      cases hw with
      | text hs =>
        refine ⟨s.toList ++ f, _, rest, ?_, .text (.text hs) (ends s rfl).of_append hf, hc⟩
        rw [hinput, List.append_assoc]
termination_by input.length

/-! ### Documents -/

/-- Markup is read onto a builder exactly if it is that of a forest, which is then planted there. -/
theorem readMarkup_eq_ok_iff {m : String} {b b' : Builder} :
    readMarkup m b = .ok b' ↔ ∃ F, Forest.Spells m.toList F ∧ b' = b.plant F := by
  have planted : ∀ F, Forest.Spells m.toList F → readOnto m.toList [] b = .ok (b.plant F) := by
    intro F hF
    have read : readOnto (m.toList ++ []) [] b = readOnto [] [] (b.plant F) :=
      readOnto_append hF Token.endsText_nil [] b
    rw [List.append_nil, readOnto] at read
    exact read
  rw [readMarkup]
  constructor
  · intro h
    split at h
    · rename_i b'' hread
      obtain ⟨f, F, rest, hm, hF, rfl⟩ := exists_spells_of_readOnto hread
      rw [List.append_nil] at hm
      subst hm
      cases h
      exact ⟨F, hF, Except.ok.inj (hread.symm.trans (planted F hF))⟩
    · cases h
  · rintro ⟨F, hF, rfl⟩
    rw [planted F hF]

/-- Markup that can be read is that of a forest, and the document is the layout of this forest
without its blank texts. -/
theorem exists_spells_of_ofMarkup {m : String} {d : Document} (h : ofMarkup m = .ok d) :
    ∃ F, Forest.Spells m.toList F ∧ d = F.visible.layout := by
  rw [ofMarkup] at h
  cases hread : readMarkup m .new with
  | error e =>
    rw [hread] at h
    cases h
  | ok b =>
    rw [hread] at h
    obtain ⟨F, hF, rfl⟩ := readMarkup_eq_ok_iff.1 hread
    cases h
    exact ⟨F, hF, Builder.finish_plant_new F⟩

theorem ofMarkup_of_spells {m : String} {F : Forest} (h : Forest.Spells m.toList F) :
    ofMarkup m = .ok F.visible.layout := by
  rw [ofMarkup, readMarkup_eq_ok_iff.2 ⟨F, h, rfl⟩]
  exact congrArg Except.ok (Builder.finish_plant_new F)

/-- What can be read is exactly the markup of forests, and whichever forest the markup spells, the
document is the layout of that forest without its blank texts. -/
theorem ofMarkup_eq_ok_iff {m : String} {d : Document} :
    ofMarkup m = .ok d ↔ ∃ F, Forest.Spells m.toList F ∧ d = F.visible.layout := by
  constructor
  · exact exists_spells_of_ofMarkup
  · rintro ⟨F, hF, rfl⟩
    exact ofMarkup_of_spells hF

end Document

end TreePattern
