import TreePattern.Proofs.Markup.Failure

/-!
# Reading goes on token by token

At the head of the input stands at most one token, and what is read there is what is spelled there:
brackets around the longest name, or the longest text. A spelling is never empty, so the rest of the
input is shorter, and reading takes at most as many tokens as there are characters.

`Document.readOnto` calls itself on the evidence that this is so. `Document.readWithin` goes the
same way without it: it counts the tokens that may still be taken, and gives up when there are none.

* `Token.Spells.isLongestIn`: a token that is read takes as many characters as there are.
* `Token.read?_eq_none_iff`: no token is read only before `<`, and only if no tag is spelled there.
* `Document.readWithin_eq`: a token for each character is enough to read to the end.
* `Document.reading_inverts_spelling`: what is read, what fails, and how far reading goes.
-/

namespace TreePattern

namespace Token

/-! ### The longest run -/

/-- The input begins with these characters of a class, and with no more of them. -/
structure IsLongestRun (p : Char → Bool) (w input : List Char) : Prop where
  /-- The input begins with them. -/
  begins : w <+: input
  /-- They are of the class. -/
  inClass : ∀ c ∈ w, p c = true
  /-- No longer beginning of the input is of the class. -/
  longest : ∀ v, v <+: input → (∀ c ∈ v, p c = true) → v.length ≤ w.length

/-- The name of a tag is the longest run of name characters behind the tag's opening bracket, and a
text is the longest run of characters other than `<`. -/
def IsLongestIn (input : List Char) : Token → Prop
  | .start name => IsLongestRun isNameChar name.toList (input.drop 1)
  | .single name => IsLongestRun isNameChar name.toList (input.drop 1)
  | .stop name => IsLongestRun isNameChar name.toList (input.drop 2)
  | .text s => IsLongestRun (· != '<') s.toList input

variable {input w rest : List Char} {token : Token}

/-- A run that cannot go on is the longest one. -/
theorem isLongestRun_append {p : Char → Bool} (hw : ∀ c ∈ w, p c = true)
    (hr : ∀ c, rest.head? = some c → p c = false) : IsLongestRun p w (w ++ rest) where
  begins := List.prefix_append w rest
  inClass := hw
  longest := by
    rintro v ⟨behind, hv⟩ inClass
    rcases List.append_eq_append_iff.1 hv with ⟨more, rfl, -⟩ | ⟨more, rfl, hrest⟩
    · rw [List.length_append]
      exact Nat.le_add_right _ _
    · -- what `v` has more than `w` would be the beginning of what stands behind `w`
      cases more with
      | nil => simp
      | cons c more =>
        rw [hrest] at hr
        have other : p c = false := hr c rfl
        have same : p c = true := inClass c (List.mem_append_right _ List.mem_cons_self)
        rw [other] at same
        cases same

/-- No token is spelled without a character. -/
theorem Spells.ne_nil (h : Spells w token) : w ≠ [] := by
  cases h with
  | start | single | stop => exact List.cons_ne_nil _ _
  | text hs => exact hs.1

/-- A token that is spelled out takes the longest name or text there is. -/
theorem Spells.isLongestIn (h : Spells w token) (hr : ∀ s, token = .text s → EndsText rest) :
    token.IsLongestIn (w ++ rest) := by
  cases h with
  | start hn hw | single hn hw | stop hn hw =>
    unfold IsLongestIn
    simp only [List.cons_append, List.append_assoc, List.drop_succ_cons, List.drop_zero]
    exact isLongestRun_append hn.2 (ends_name hw rfl)
  | text hs =>
    refine isLongestRun_append ?_ ?_
    · intro c hc
      exact bne_iff_ne.2 (hs.2 c hc)
    · intro c hc
      rw [hr _ rfl c hc]
      rfl

/-- No token is read exactly where none is spelled, and all such input begins with `<`. -/
theorem read?_eq_none_iff (hi : input ≠ []) :
    read? input = none ↔
      input.head? = some '<' ∧ ∀ w token rest, input = w ++ rest → ¬ Spells w token := by
  constructor
  · intro h
    exact ⟨head?_of_read?_eq_none h hi, fun w token rest => not_spells_of_read?_eq_none h⟩
  · rintro ⟨-, absent⟩
    exact read?_eq_none_of_not_spells absent

end Token

namespace Document

/-! ### Reading with a number of tokens -/

/-- Reads markup onto a builder like `readOnto`, if this takes no more than a number of tokens. -/
def readWithin (tokens : Nat) (input : List Char) (opened : List String) (b : Builder) :
    Option (Except (List Char) Builder) :=
  match tokens, input with
  | _, [] => some (if opened.isEmpty then .ok b else .error [])
  | 0, _ :: _ => none
  | tokens + 1, c :: rest =>
    match Token.read? (c :: rest) with
    | none => some (.error (c :: rest))
    | some (token, rest') =>
      match token.open? opened with
      | none => some (.error (c :: rest))
      | some opened' => readWithin tokens rest' opened' (b.take token)

/-- A token for each character is enough to read to the end, and more do not change the answer. -/
theorem readWithin_eq {tokens : Nat} {input : List Char} {opened : List String} {b : Builder}
    (h : input.length ≤ tokens) :
    readWithin tokens input opened b = some (readOnto input opened b) := by
  induction tokens generalizing input opened b with
  | zero =>
    obtain rfl := List.eq_nil_of_length_eq_zero (Nat.le_zero.1 h)
    rw [readWithin, readOnto]
  | succ tokens ih =>
    cases input with
    | nil => rw [readWithin, readOnto]
    | cons c rest =>
      cases hread : Token.read? (c :: rest) with
      | none =>
        rw [readOnto_of_read?_eq_none hread, if_neg (fun atEnd => List.cons_ne_nil c rest atEnd.1)]
        simp only [readWithin, hread]
      | some read =>
        obtain ⟨token, rest'⟩ := read
        have shorter := Token.length_lt_of_read? hread
        cases ho : token.open? opened with
        | none =>
          rw [readOnto_of_open?_eq_none hread ho]
          simp only [readWithin, hread, ho]
        | some opened' =>
          rw [readOnto_of_open?_eq_some hread ho]
          simp only [readWithin, hread, ho]
          apply ih
          omega

/-! ### Reading and spelling -/

open Token (EndsText Spells)

/-- A token that is read is spelled out there, with the longest name or text, and what is behind the
spelling is left. Every token that is spelled out is read, whatever stands behind it; behind a text
this has to be `<` or the end. No token is read only where the input begins with `<` and with no
token. So reading is at its end, or has failed, after one token for each character at most. -/
theorem reading_inverts_spelling :
    (∀ input token rest, Token.read? input = some (token, rest) →
      ∃ w, w ≠ [] ∧ input = w ++ rest ∧ Spells w token ∧ token.IsLongestIn input) ∧
    (∀ w token rest, Spells w token → (∀ s, token = .text s → EndsText rest) →
      Token.read? (w ++ rest) = some (token, rest)) ∧
    (∀ input, input ≠ [] → (Token.read? input = none ↔
      input.head? = some '<' ∧ ∀ w token rest, input = w ++ rest → ¬ Spells w token)) ∧
    ∀ tokens input opened b, input.length ≤ tokens →
      readWithin tokens input opened b = some (readOnto input opened b) := by
  refine ⟨?_, ?_, ?_, ?_⟩
  · intro input token rest h
    obtain ⟨w, rfl, spelled, ends⟩ := Token.exists_spells_of_read? h
    exact ⟨w, spelled.ne_nil, rfl, spelled, spelled.isLongestIn ends⟩
  · intro w token rest spelled ends
    exact Token.read?_append spelled ends
  · intro input hi
    exact Token.read?_eq_none_iff hi
  · intro tokens input opened b enough
    exact readWithin_eq enough

/-- Blanks may stand behind the name of a tag. No token is spelled where something else stands behind
the name of a closing tag. -/
theorem reading_inverts_spelling_with_blanks :
    (∃ w, w ≠ [] ∧ "<br />x".toList = w ++ ['x'] ∧ Spells w (.single "br") ∧
      (Token.single "br").IsLongestIn "<br />x".toList) ∧
    Token.read? ('<' :: '/' :: ("p".toList ++ ['\n'] ++ ['>']) ++ ['x']) = some (.stop "p", ['x']) ∧
    (∀ w token rest, "</p x>".toList = w ++ rest → ¬ Spells w token) ∧
    readWithin 7 "<br />x".toList [] .new = some (readOnto "<br />x".toList [] .new) := by
  obtain ⟨spelled, read, absent, enough⟩ := reading_inverts_spelling
  have single : Token.read? "<br />x".toList = some (.single "br", ['x']) := by decide
  have stop : Spells ('<' :: '/' :: ("p".toList ++ ['\n'] ++ ['>'])) (.stop "p") :=
    .stop ⟨by decide, List.all_eq_true.1 rfl⟩ (List.all_eq_true.1 rfl)
  have none : Token.read? "</p x>".toList = none := by decide
  refine ⟨spelled _ _ _ single, read _ _ _ stop nofun, ?_, enough _ _ _ _ (by decide)⟩
  exact ((absent _ (by decide)).1 none).2

end Document

end TreePattern
