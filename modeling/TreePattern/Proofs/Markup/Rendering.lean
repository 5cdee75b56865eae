import TreePattern.Proofs.Document.Order
import TreePattern.Proofs.Markup.Grammar

/-!
# Writing documents as markup

The same document can be written in many ways: tags have blanks before their end, an element
without content is one tag or two, and blank texts go unread where no other text is. What is read
back does not depend on the choice. `Forest.IsNormal` are the forests that can be written, and
`Forest.Written` are all ways to write them; a blank next to a text would become part of that text,
so it is kept in mind whether what is written stands behind a text.

* `Forest.Spells.isNormal_visible`: only normal forests are read.
* `Forest.Written.exists_spells`: whatever the choice, what is written spells the forest with blank
  texts added to it.
* `Forest.IsNormal.written_render`: every normal forest can be written, without adding anything.
* `Document.ofMarkup_undoes_writing`: what is written is read back, and so is any document that was
  read.
-/

namespace TreePattern

namespace Forest

open Token (EndsText IsName IsRun)

/-- A forest that can be written: names of elements can stand in tags, texts are runs that are not
blank, and no text stands next to another. -/
inductive IsNormal : Forest → Prop where
  | nil : IsNormal .nil
  /-- A text, and behind it the end or an element. -/
  | text {s : String} {rest : Forest} (hs : IsRun s.toList) (hv : isBlankText s.toList = false)
      (apart : ∀ s' rest', rest ≠ .text s' rest') (hr : IsNormal rest) : IsNormal (.text s rest)
  /-- An element with the forest inside it, and the forest behind it. -/
  | element {name : String} {inner rest : Forest} (hn : IsName name.toList) (hi : IsNormal inner)
      (hr : IsNormal rest) : IsNormal (.element name inner rest)

/-- What may be added in front of a tag or an end: blank text, and behind a text nothing. -/
structure IsGap (behindText : Bool) (g : List Char) : Prop where
  /-- The gap is blank. -/
  blank : isBlankText g = true
  /-- Behind a text there is no gap. -/
  eq_nil : behindText = true → g = []

/-- The ways to write a forest. -/
inductive Written : Bool → List Char → Forest → Prop where
  /-- The end, with a gap in front of it. -/
  | nil {behindText : Bool} {g : List Char} (hg : IsGap behindText g) : Written behindText g .nil
  /-- A text as it is, and the forest behind it. -/
  | text {s : String} {f : List Char} {rest : Forest} (hr : Written true f rest) :
      Written false (s.toList ++ f) (.text s rest)
  /-- A gap, an element without content as one tag, and the forest behind it. -/
  | single {behindText : Bool} {g w f : List Char} {name : String} {rest : Forest}
      (hg : IsGap behindText g) (hw : Token.Spells w (.single name)) (hr : Written false f rest) :
      Written behindText (g ++ (w ++ f)) (.element name .nil rest)
  /-- A gap, an element with its content between two tags, and the forest behind it. -/
  | element {behindText : Bool} {g w f v h : List Char} {name : String} {inner rest : Forest}
      (hg : IsGap behindText g) (hw : Token.Spells w (.start name)) (hi : Written false f inner)
      (hv : Token.Spells v (.stop name)) (hr : Written false h rest) :
      Written behindText (g ++ (w ++ f ++ v ++ h)) (.element name inner rest)

/-- A forest written without adding anything, every element between two tags. -/
def render : Forest → String
  | nil => ""
  | text s rest => s ++ rest.render
  | element name inner rest =>
    "<" ++ name ++ ">" ++ inner.render ++ "</" ++ name ++ ">" ++ rest.render

/-! ### What is read is normal -/

/-- A tag stands where a text ends. -/
theorem endsText_of_tag {w : List Char} {token : Token} (h : Token.Spells w token)
    (ht : ∀ s, token ≠ .text s) (f : List Char) : EndsText (w ++ f) := by
  cases h with
  | text hs => exact absurd rfl (ht _)
  | start | single | stop =>
    intro c hc
    cases hc
    rfl

theorem isRun_of_spells {w : List Char} {s : String} (h : Token.Spells w (.text s)) :
    IsRun s.toList := by
  cases h with
  | text hs => exact hs

/-- No text is spelled where a text ends. -/
theorem Spells.ne_text {f : List Char} {F : Forest} (h : F.Spells f) (hf : EndsText f) :
    ∀ s rest, F ≠ .text s rest := by
  rintro s rest rfl
  cases h with
  | text hs _ _ =>
    have run := isRun_of_spells hs
    refine run.2 _ (List.head_mem run.1) (hf _ ?_)
    rw [List.head?_append, List.head?_eq_some_head run.1]
    rfl

/-- Without blank texts a forest begins with a text only if it did before. -/
theorem visible_ne_text {F : Forest} (h : ∀ s rest, F ≠ .text s rest) :
    ∀ s rest, F.visible ≠ .text s rest := by
  cases F with
  | nil => exact h
  | text s rest => exact absurd rfl (h s rest)
  | element name inner rest => exact nofun

/-- Only normal forests are read. -/
theorem Spells.isNormal_visible {f : List Char} {F : Forest} (h : F.Spells f) :
    F.visible.IsNormal := by
  induction h with
  | nil => exact .nil
  | text hs hf hr ih =>
    rw [visible]
    split
    · exact ih
    · rename_i hv
      exact .text (isRun_of_spells hs) (eq_false_of_ne_true hv) (visible_ne_text (hr.ne_text hf)) ih
  | single hw _ ih =>
    cases hw with
    | single hn _ => exact .element hn .nil ih
  | element hw _ _ _ ihi ihr =>
    cases hw with
    | start hn _ => exact .element hn ihi ihr

/-! ### What is written is read back -/

/-- A gap in front of a tag or an end goes unread. -/
theorem IsGap.exists_spells {behindText : Bool} {g f : List Char} {F : Forest}
    (hg : IsGap behindText g) (hf : EndsText f) (h : F.Spells f) :
    ∃ G : Forest, G.Spells (g ++ f) ∧ G.visible = F.visible ∧
      (behindText = true → EndsText (g ++ f)) := by
  by_cases hn : g = []
  · subst hn
    exact ⟨F, h, rfl, fun _ => hf⟩
  · have blank : isBlankText (String.ofList g).toList = true := by
      rw [String.toList_ofList]
      exact hg.blank
    have run : IsRun (String.ofList g).toList := by
      rw [String.toList_ofList]
      refine ⟨hn, ?_⟩
      rintro c hc rfl
      exact Bool.noConfusion (List.all_eq_true.1 hg.blank '<' hc)
    have spelled := Spells.text (.text run) hf h
    rw [String.toList_ofList] at spelled
    refine ⟨_, spelled, ?_, fun hb => absurd (hg.eq_nil hb) hn⟩
    rw [visible, if_pos blank]

/-- What is written spells the forest with blank texts added to it, and behind a text it begins
where a text ends. -/
theorem Written.exists_spells {behindText : Bool} {w : List Char} {F : Forest}
    (h : F.Written behindText w) (hF : F.IsNormal) :
    ∃ G : Forest, G.Spells w ∧ G.visible = F ∧ (behindText = true → EndsText w) := by
  induction h with
  | @nil behindText g hg =>
    have ends := hg.exists_spells Token.endsText_nil Spells.nil
    rw [List.append_nil] at ends
    exact ends
  | @text s f rest _ ih =>
    cases hF with
    | text hs hv _ hr =>
      obtain ⟨R, hR, rfl, ends⟩ := ih hr
      refine ⟨.text s R, .text (.text hs) (ends rfl) hR, ?_, Bool.noConfusion⟩
      rw [visible, if_neg (ne_true_of_eq_false hv)]
  | @single behindText g w f name rest hg hw _ ih =>
    cases hF with
    | element _ _ hr =>
      obtain ⟨R, hR, rfl, -⟩ := ih hr
      exact hg.exists_spells (endsText_of_tag hw (by simp) f) (.single hw hR)
  | @element behindText g w f v h name inner rest hg hw _ hv _ ihi ihr =>
    cases hF with
    | element _ hi hr =>
      obtain ⟨I, hI, rfl, -⟩ := ihi hi
      obtain ⟨R, hR, rfl, -⟩ := ihr hr
      have ends : EndsText (w ++ f ++ v ++ h) := by
        rw [List.append_assoc, List.append_assoc]
        exact endsText_of_tag hw (by simp) _
      exact hg.exists_spells ends (.element hw hI hv hR)

/-! ### Writing without a choice -/

theorem isGap_nil (behindText : Bool) : IsGap behindText [] := ⟨rfl, fun _ => rfl⟩

/-- A normal forest is written out as its texts and its tags, nothing added. -/
theorem IsNormal.written_render {F : Forest} (hF : F.IsNormal) :
    ∀ behindText : Bool, (behindText = true → ∀ s rest, F ≠ .text s rest) →
      F.Written behindText F.render.toList := by
  induction hF with
  | nil =>
    intro behindText _
    exact .nil (isGap_nil behindText)
  | @text s rest hs hv apart hr ih =>
    intro behindText h
    cases behindText with
    | true => exact absurd rfl (h rfl s rest)
    | false =>
      rw [render, String.toList_append]
      exact .text (ih true fun _ => apart)
  | @element name inner rest hn hi hr ihi ihr =>
    intro behindText _
    have written := Written.element (isGap_nil behindText) (Token.spells_startTag hn)
      (ihi false nofun) (Token.spells_stopTag hn) (ihr false nofun)
    have same : (Forest.element name inner rest).render.toList =
        [] ++ (("<" ++ name ++ ">").toList ++ inner.render.toList ++
          ("</" ++ name ++ ">").toList ++ rest.render.toList) := by
      simp [render]
    rw [same]
    exact written

end Forest

namespace Document

/-- What is written is read back as the layout of the forest that was written. -/
theorem ofMarkup_of_written {F : Forest} {w : String} (hF : F.IsNormal)
    (h : F.Written false w.toList) : ofMarkup w = .ok F.layout := by
  obtain ⟨G, hG, rfl, -⟩ := h.exists_spells hF
  exact ofMarkup_of_spells hG

/-- A document that is read is the layout of a normal forest. -/
theorem exists_isNormal_of_ofMarkup {m : String} {d : Document} (h : ofMarkup m = .ok d) :
    ∃ F : Forest, F.IsNormal ∧ d = F.layout := by
  obtain ⟨F, hF, rfl⟩ := exists_spells_of_ofMarkup h
  exact ⟨F.visible, hF.isNormal_visible, rfl⟩

/-- Reading undoes writing. A document that is read is the layout of a forest that can be written;
each such forest is read back, whichever way it is written; rendering is one of the ways, so what a
document that was read is rendered as is read as the same document. -/
theorem ofMarkup_undoes_writing :
    (∀ (m : String) (d : Document), ofMarkup m = .ok d →
      d.forest.IsNormal ∧ d = d.forest.layout) ∧
    (∀ (F : Forest) (w : String), F.IsNormal → F.Written false w.toList →
      ofMarkup w = .ok F.layout) ∧
    (∀ F : Forest, F.IsNormal → F.Written false F.render.toList) ∧
    (∀ (m : String) (d : Document), ofMarkup m = .ok d → ofMarkup d.forest.render = .ok d) := by
  have normal : ∀ (m : String) (d : Document), ofMarkup m = .ok d →
      d.forest.IsNormal ∧ d = d.forest.layout := by
    intro m d h
    obtain ⟨F, hF, rfl⟩ := exists_isNormal_of_ofMarkup h
    rw [forest_layout]
    exact ⟨hF, rfl⟩
  have rendered : ∀ F : Forest, F.IsNormal → F.Written false F.render.toList := by
    intro F hF
    exact hF.written_render false nofun
  refine ⟨normal, fun F w => ofMarkup_of_written, rendered, ?_⟩
  intro m d h
  obtain ⟨hF, laid⟩ := normal m d h
  have back : ofMarkup d.forest.render = .ok d.forest.layout :=
    ofMarkup_of_written hF (rendered _ hF)
  rw [← laid] at back
  exact back

/-- A line break and blanks in tags and between them leave no trace. -/
theorem ofMarkup_undoes_writing_spaced :
    (Forest.element "ul" (.text "x" (.element "br" .nil .nil)) .nil).IsNormal ∧
    (Forest.element "ul" (.text "x" (.element "br" .nil .nil)) .nil).Written false
      "\n<ul >x<br\t/> </ul>".toList ∧
    ofMarkup "\n<ul >x<br\t/> </ul>" =
      .ok (Forest.element "ul" (.text "x" (.element "br" .nil .nil)) .nil).layout := by
  have ul : Token.IsName "ul".toList := ⟨by decide, by simp [Token.isNameChar]⟩
  have br : Token.IsName "br".toList := ⟨by decide, by simp [Token.isNameChar]⟩
  have x : Token.IsRun "x".toList := ⟨by decide, by simp⟩
  have space : Token.IsBlanks [' '] := by simp [Token.IsBlanks, Token.isTagBlank]
  have tab : Token.IsBlanks ['\t'] := by simp [Token.IsBlanks, Token.isTagBlank]
  have none : Token.IsBlanks [] := by simp [Token.IsBlanks]
  have gap : ∀ g, isBlankText g = true → Forest.IsGap false g := fun g hg => ⟨hg, Bool.noConfusion⟩
  have normal : (Forest.element "ul" (.text "x" (.element "br" .nil .nil)) .nil).IsNormal :=
    .element ul (.text x (by decide) (by simp) (.element br .nil .nil)) .nil
  have inside : (Forest.text "x" (.element "br" .nil .nil)).Written false "x<br\t/> ".toList :=
    .text (s := "x")
      (.single (Forest.isGap_nil true) (.single br tab) (.nil (gap [' '] rfl)))
  have written : (Forest.element "ul" (.text "x" (.element "br" .nil .nil)) .nil).Written false
      "\n<ul >x<br\t/> </ul>".toList :=
    .element (gap ['\n'] rfl) (.start ul space) inside (.stop ul none) (.nil (gap [] rfl))
  exact ⟨normal, written, ofMarkup_undoes_writing.2.1 _ _ normal written⟩

end Document

end TreePattern
