import TreePattern.Proofs.Markup.Failure

/-!
# Pages

A page is markup put into two elements that are opened before it is read and closed behind it. The
names that the markup has to close are counted from its own beginning, so no tag in it can close the
elements around it, and what is on the builder makes no difference to how reading goes
(`Document.readMarkup_cases`). A document keeps its nodes in order, so an element around it comes
first and all the others move up by one place (`Document.wrap`).

* `Forest.layout_element`: laying out a forest inside an element wraps its layout.
* `Document.ofBodyMarkup_eq_map`: reading a page is reading its body and wrapping it twice.
* `Document.ofMarkup_inTags`: the same comes out if tags are written around markup that can be read.
* `Document.ofBodyMarkup_agrees`: what this means for errors and for the nodes of a page.
-/

namespace TreePattern

/-! ### An element around a document -/

namespace Document

/-- A link of a shifted line is a link of the line, shifted. -/
theorem Entry.link_of_shift {k j : Nat} {e : Entry}
    (h : (e.shift k).child = some j ∨ (e.shift k).next = some j) :
    ∃ i, j = i + k ∧ (e.child = some i ∨ e.next = some i) := by
  rcases h with h | h
  · obtain ⟨i, hi, rfl⟩ := Option.map_eq_some_iff.1 h
    exact ⟨i, rfl, .inl hi⟩
  · obtain ⟨i, hi, rfl⟩ := Option.map_eq_some_iff.1 h
    exact ⟨i, rfl, .inr hi⟩

/-- The document of an element of the given name with the document inside it. -/
def wrap (d : Document) (name : String) : Document where
  entries :=
    (⟨.element name, d.root.map (· + 1), none⟩ :: d.entries.toList.map (Entry.shift 1)).toArray
  root := some 0
  forward := by
    intro i e j he hj
    rw [List.getElem?_toArray] at he
    rw [List.size_toArray, List.length_cons, List.length_map, Array.length_toList]
    cases i with
    | zero =>
      cases he
      rcases hj with hj | hj
      · obtain ⟨r, hr, rfl⟩ := Option.map_eq_some_iff.1 hj
        have := d.root_lt r hr
        omega
      · cases hj
    | succ i =>
      rw [List.getElem?_cons_succ, List.getElem?_map, Array.getElem?_toList] at he
      obtain ⟨e', he', rfl⟩ := Option.map_eq_some_iff.1 he
      obtain ⟨j', rfl, hj'⟩ := Entry.link_of_shift hj
      have := d.forward i e' j' he' hj'
      omega
  root_lt := by
    rintro j ⟨⟩
    exact Nat.succ_pos _

end Document

namespace Forest

open Document (Entry)

/-- Laying out a forest inside an element wraps its layout. -/
theorem layout_element (name : String) (F : Forest) :
    (element name F nil).layout = F.layout.wrap name := by
  refine Document.ext_entries (congrArg List.toArray ?_) rfl
  rw [entries, entries, List.append_nil, link_add 1 F 0, entries_add 1 F 0]
  rfl

end Forest

namespace Document

open Token (IsName)

/-! ### Reading onto a builder -/

/-- Reading goes the same way on every builder: either the markup is that of a forest, which is
planted there, or it goes wrong at one byte. -/
theorem readMarkup_cases (m : String) :
    (∃ F, Forest.Spells m.toList F ∧ ∀ b, readMarkup m b = .ok (b.plant F)) ∨
      ∃ o, ∀ b, readMarkup m b = .error (.unreadable o) := by
  cases hread : readMarkup m .new with
  | ok b =>
    obtain ⟨F, hF, -⟩ := readMarkup_eq_ok_iff.1 hread
    exact .inl ⟨F, hF, fun b => readMarkup_eq_ok_iff.2 ⟨F, hF, rfl⟩⟩
  | error e =>
    obtain ⟨o⟩ := e
    have wrong := readMarkup_eq_error_iff.1 hread
    exact .inr ⟨o, fun b => readMarkup_eq_error_iff.2 wrong⟩

/-- A forest planted inside two elements that are then closed. -/
theorem finish_plant_page (F : Forest) :
    (((Builder.new.enter "html").enter "body").plant F).leave.leave.finish =
      (F.visible.layout.wrap "body").wrap "html" := by
  have inside := Builder.finish_plant_new (.element "html" (.element "body" F .nil) .nil)
  simp only [Builder.plant_element, Builder.plant_nil, Forest.visible, Forest.layout_element]
    at inside
  exact inside

/-- Reading a page is reading its body and wrapping it twice. -/
theorem ofBodyMarkup_eq_map (m : String) :
    ofBodyMarkup m = (ofMarkup m).map fun d => (d.wrap "body").wrap "html" := by
  rw [ofBodyMarkup, ofMarkup]
  obtain ⟨F, -, read⟩ | ⟨o, failed⟩ := readMarkup_cases m
  · rw [read, read]
    refine congrArg Except.ok ((finish_plant_page F).trans ?_)
    rw [Builder.finish_plant_new]
  · rw [failed, failed]
    rfl

/-! ### Tags around markup -/

/-- Markup with the tags of an element around it. -/
def inTags (name markup : String) : String :=
  "<" ++ name ++ ">" ++ markup ++ "</" ++ name ++ ">"

/-- Markup of a forest with tags around it is markup of the forest inside an element. -/
theorem spells_inTags {name m : String} {F : Forest} (hn : IsName name.toList)
    (h : Forest.Spells m.toList F) :
    Forest.Spells (inTags name m).toList (.element name F .nil) := by
  have spelled :=
    Forest.Spells.element (Token.spells_startTag hn) h (Token.spells_stopTag hn) .nil
  have same : (inTags name m).toList =
      ("<" ++ name ++ ">").toList ++ m.toList ++ ("</" ++ name ++ ">").toList ++ [] := by
    simp [inTags]
  rw [same]
  exact spelled

/-- Markup that can be read can be read with tags around it, which wrap the document. -/
theorem ofMarkup_inTags {name m : String} {d : Document} (hn : IsName name.toList)
    (h : ofMarkup m = .ok d) : ofMarkup (inTags name m) = .ok (d.wrap name) := by
  obtain ⟨F, hF, rfl⟩ := exists_spells_of_ofMarkup h
  rw [ofMarkup_of_spells (spells_inTags hn hF), Forest.visible, Forest.visible,
    Forest.layout_element]

/-- The document of a text between tags. -/
theorem ofMarkup_paragraph :
    ofMarkup "<p>x</p>" = .ok (Forest.element "p" (.text "x" .nil) .nil).layout := by
  have p : IsName "p".toList := ⟨by decide, by simp [Token.isNameChar]⟩
  have inside : Forest.Spells ("x".toList ++ []) (.text "x" .nil) :=
    .text (.text ⟨by decide, by simp⟩) Token.endsText_nil .nil
  exact ofMarkup_of_spells (m := "<p>x</p>") (spells_inTags (m := "x") p inside)

/-! ### Pages -/

/-- A page goes wrong where its body does, the tags around it not counted, and closing tags in the
body never close it. If the body can be read, the page is that of the body with the tags written
around it: `html` comes first, `body` second and inside it, and behind these two the nodes of the
body with all links shifted by two. -/
theorem ofBodyMarkup_agrees (m : String) :
    (∀ o, ofBodyMarkup m = .error (.unreadable o) ↔ ofMarkup m = .error (.unreadable o)) ∧
    ∀ d, ofMarkup m = .ok d → ∃ page, ofBodyMarkup m = .ok page ∧
      ofMarkup ("<html><body>" ++ m ++ "</body></html>") = .ok page ∧ page.root = some 0 ∧
      page.entries.toList = ⟨.element "html", some 1, none⟩ ::
        ⟨.element "body", d.root.map (· + 2), none⟩ :: d.entries.toList.map (Entry.shift 2) := by
  have mapped := ofBodyMarkup_eq_map m
  constructor
  · intro o
    rw [mapped, map_eq_error_iff]
  · intro d h
    have html : IsName "html".toList := ⟨by decide, by simp [Token.isNameChar]⟩
    have body : IsName "body".toList := ⟨by decide, by simp [Token.isNameChar]⟩
    have tags : "<html><body>" ++ m ++ "</body></html>" = inTags "html" (inTags "body" m) := by
      rw [← String.toList_inj]
      simp [inTags]
    refine ⟨(d.wrap "body").wrap "html", ?_, ?_, rfl, ?_⟩
    · rw [mapped, h]
      rfl
    · rw [tags]
      exact ofMarkup_inTags html (ofMarkup_inTags body h)
    · simp [wrap, Entry.shift, Function.comp_def]

/-- A closing tag cannot end the body it stands in. A text and an element come third and fourth. -/
theorem ofBodyMarkup_agrees_text_and_element :
    ofMarkup "</body>" = .error (.unreadable 0) ∧ ofBodyMarkup "</body>" = .error (.unreadable 0) ∧
    ∃ page, ofBodyMarkup "a<br/>" = .ok page ∧
      ofMarkup ("<html><body>" ++ "a<br/>" ++ "</body></html>") = .ok page ∧
      page.entries.toList = [⟨.element "html", some 1, none⟩, ⟨.element "body", some 2, none⟩,
        ⟨.text "a", none, some 3⟩, ⟨.element "br", none, none⟩] := by
  have br : IsName "br".toList := ⟨by decide, by simp [Token.isNameChar]⟩
  have body : IsName "body".toList := ⟨by decide, by simp [Token.isNameChar]⟩
  have offends : Offends [] (("</" ++ "body" ++ ">").toList ++ []) :=
    .wrongStop (Token.spells_stopTag body) nofun
  have failed : ofMarkup "</body>" = .error (.unreadable 0) :=
    ofMarkup_eq_error_iff.2 ⟨"", "</body>", [], rfl, rfl, ⟨[], .nil, rfl⟩, .inr offends⟩
  have single : Token.Spells ('<' :: ("br".toList ++ [] ++ ['/', '>'])) (.single "br") :=
    .single br nofun
  have ends : Token.EndsText ('<' :: ("br".toList ++ [] ++ ['/', '>']) ++ []) := by
    intro c hc
    cases hc
    rfl
  have spelled : Forest.Spells "a<br/>".toList (.text "a" (.element "br" .nil .nil)) :=
    .text (s := "a") (.text ⟨by decide, by simp⟩) ends (.single single .nil)
  have read := ofMarkup_of_spells spelled
  obtain ⟨page, hpage, tags, -, entries⟩ := (ofBodyMarkup_agrees "a<br/>").2 _ read
  exact ⟨failed, ((ofBodyMarkup_agrees "</body>").1 0).2 failed, page, hpage, tags, entries⟩

end Document

end TreePattern
