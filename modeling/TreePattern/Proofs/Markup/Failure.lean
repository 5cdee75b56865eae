import TreePattern.Proofs.Markup.Grammar

/-!
# Where markup goes wrong

Markup that cannot be read is blamed on one byte. Up to there nothing is wrong yet: the markup is
cut into whole tokens (`Token.Splits`), every closing tag names the innermost open element
(`Token.openAfter?`), and with closing tags for the elements that are left open it could be read.
The blame falls on what stands at that byte, or on the end of the markup if elements are still open
there.

* `Document.readOnto_append_of_splits`: tokens are read one by one, and what stands behind them is
  read with the elements open that they leave open.
* `Document.exists_splits_of_readOnto`: where reading fails, everything before is tokens.
* `Document.readMarkup_eq_error_iff`, `Document.ofMarkup_eq_error_iff`: at which byte markup fails.
* `Document.ofMarkup_fails_at_first_offence`: what this byte says about the markup.
-/

namespace TreePattern

namespace Token

/-- Markup cut into whole tokens: tags, and texts as long as they go. -/
inductive Splits : List Char → List Token → Prop where
  | nil : Splits [] []
  /-- A token, and the markup behind it cut into tokens. -/
  | cons {w rest : List Char} {token : Token} {tokens : List Token} (hw : Spells w token)
      (ends : ∀ s, token = .text s → EndsText rest) (hr : Splits rest tokens) :
      Splits (w ++ rest) (token :: tokens)

/-- The elements that are open behind a token, given those that are open before it, the innermost
first. There is no answer for a closing tag that does not name the innermost open element. -/
def open? : Token → List String → Option (List String)
  | start name, opened => some (name :: opened)
  | single _, opened => some opened
  | text _, opened => some opened
  | stop _, [] => none
  | stop name, innermost :: around => if innermost = name then some around else none

/-- The elements that are open behind a list of tokens, if every closing tag among them names the
innermost element that is open there. -/
def openAfter? : List Token → List String → Option (List String)
  | [], opened => some opened
  | token :: tokens, opened => (token.open? opened).bind (openAfter? tokens)

/-! ### Tokens in their places -/

/-- A closing tag is in its place if it names the innermost open element, which it closes. -/
theorem open?_stop_eq_some {name : String} {opened opened' : List String} :
    (stop name).open? opened = some opened' ↔ opened = name :: opened' := by
  cases opened with
  | nil => simp [open?]
  | cons innermost around =>
    unfold open?
    by_cases hn : innermost = name
    · simp [hn]
    · simp [hn]

/-- Only a closing tag can be out of its place. -/
theorem exists_stop_of_open?_eq_none {token : Token} {opened : List String}
    (h : token.open? opened = none) :
    ∃ name, token = .stop name ∧ opened.head? ≠ some name := by
  cases token with
  | start | single | text => cases h
  | stop name =>
    refine ⟨name, rfl, fun hn => ?_⟩
    obtain ⟨around, rfl⟩ := List.head?_eq_some_iff.1 hn
    rw [open?_stop_eq_some.2 rfl] at h
    cases h

/-! ### Where no token is read -/

/-- There is a token at the head of any input that does not begin with `<`. -/
theorem head?_of_read?_eq_none {input : List Char} (h : read? input = none) (hi : input ≠ []) :
    input.head? = some '<' := by
  cases input with
  | nil => exact absurd rfl hi
  | cons c rest =>
    by_cases hc : c = '<'
    · rw [hc]
      rfl
    · rw [read?] at h
      · cases h
      · exact fun _ he => absurd he hc
      · exact hc

/-- Where no token is read, none is spelled. -/
theorem not_spells_of_read?_eq_none {input w rest : List Char} {token : Token}
    (h : read? input = none) (hi : input = w ++ rest) : ¬ Spells w token := by
  intro hw
  by_cases ht : ∃ s, token = .text s
  · obtain ⟨s, rfl⟩ := ht
    cases hw with
    | text hs =>
      have head : (s.toList ++ rest).head? = some '<' := by
        rw [← hi]
        apply head?_of_read?_eq_none h
        rw [hi]
        simp [hs.1]
      rw [List.head?_append, List.head?_eq_some_head hs.1, Option.some_or,
        Option.some.injEq] at head
      exact hs.2 _ (List.head_mem hs.1) head
  · have read : read? (w ++ rest) = some (token, rest) :=
      read?_append hw fun s hs => absurd ⟨s, hs⟩ ht
    rw [← hi, h] at read
    cases read

/-- A token is read wherever one is spelled. -/
theorem read?_eq_none_of_not_spells {input : List Char}
    (h : ∀ w token rest, input = w ++ rest → ¬ Spells w token) : read? input = none := by
  cases hread : read? input with
  | none => rfl
  | some read =>
    obtain ⟨w, hw, spelled, -⟩ := exists_spells_of_read? hread
    exact absurd spelled (h w _ _ hw)

end Token

namespace Document

open Token (EndsText IsName Splits openAfter?)

/-- What a builder is given for a token. -/
def Builder.take (b : Builder) : Token → Builder
  | .start name => b.enter name
  | .single name => (b.enter name).leave
  | .stop _ => b.leave
  | .text s => if isBlankText s.toList then b else b.text s

variable {input rest w : List Char} {token : Token} {tokens : List Token}
  {opened opened' : List String} {b : Builder}

/-! ### Reading tokens -/

/-- A token in its place is read, and reading goes on behind it. -/
theorem readOnto_of_open?_eq_some (h : Token.read? input = some (token, rest))
    (ho : token.open? opened = some opened') :
    readOnto input opened b = readOnto rest opened' (b.take token) := by
  rw [readOnto_of_read? h]
  cases token with
  | start | single | text =>
    cases ho
    rfl
  | stop name =>
    obtain rfl := Token.open?_stop_eq_some.1 ho
    exact if_pos rfl

/-- A token out of its place is not read. -/
theorem readOnto_of_open?_eq_none (h : Token.read? input = some (token, rest))
    (ho : token.open? opened = none) : readOnto input opened b = .error input := by
  obtain ⟨name, rfl, hn⟩ := Token.exists_stop_of_open?_eq_none ho
  rw [readOnto_of_read? h]
  cases opened with
  | nil => rfl
  | cons innermost around => exact if_neg fun he => hn (congrArg some he)

/-- Tokens are read one by one, and what stands behind them is read with the elements open that they
leave open. -/
theorem readOnto_append_of_splits (h : Splits w tokens) (hr : EndsText rest)
    (ho : openAfter? tokens opened = some opened') :
    readOnto (w ++ rest) opened b = readOnto rest opened' (tokens.foldl Builder.take b) := by
  induction h generalizing opened b with
  | nil =>
    cases ho
    rfl
  | @cons w f token tokens hw ends _ ih =>
    obtain ⟨opened'', here, behind⟩ := Option.bind_eq_some_iff.1 ho
    have read : Token.read? (w ++ (f ++ rest)) = some (token, f ++ rest) :=
      Token.read?_append hw fun s hs => (ends s hs).append hr
    rw [List.append_assoc, readOnto_of_open?_eq_some read here]
    exact ih behind

/-! ### Where reading fails -/

/-- What may not stand behind whole tokens: a `<` that begins no tag, and a closing tag that does
not name the innermost open element. -/
inductive Offends (opened : List String) : List Char → Prop where
  | noTag {rest : List Char} (h : ∀ w token behind, '<' :: rest = w ++ behind →
      ¬ Token.Spells w token) : Offends opened ('<' :: rest)
  | wrongStop {w behind : List Char} {name : String} (hw : Token.Spells w (.stop name))
      (hn : opened.head? ≠ some name) : Offends opened (w ++ behind)

/-- What offends begins with a `<`. -/
theorem Offends.head?_eq (h : Offends opened rest) : rest.head? = some '<' := by
  cases h with
  | noTag => rfl
  | wrongStop hw =>
    cases hw
    rfl

/-- An offence is not read. -/
theorem Offends.readOnto_eq (h : Offends opened rest) : readOnto rest opened b = .error rest := by
  cases h with
  | @noTag tail absent =>
    rw [readOnto_of_read?_eq_none (Token.read?_eq_none_of_not_spells absent)]
    exact if_neg fun hi => List.cons_ne_nil '<' tail hi.1
  | @wrongStop w behind name hw hn =>
    have read : Token.read? (w ++ behind) = some (.stop name, behind) :=
      Token.read?_append hw nofun
    cases ho : (Token.stop name).open? opened with
    | none => exact readOnto_of_open?_eq_none read ho
    | some around =>
      rw [Token.open?_stop_eq_some.1 ho] at hn
      exact absurd rfl hn

/-- Where reading fails, everything before is whole tokens in their places, and either the markup is
at its end with elements open or it goes on with an offence. -/
theorem exists_splits_of_readOnto {input rest : List Char} {opened : List String} {b : Builder}
    (h : readOnto input opened b = .error rest) :
    ∃ w tokens opened', input = w ++ rest ∧ Splits w tokens ∧
      openAfter? tokens opened = some opened' ∧
      (rest = [] ∧ opened' ≠ [] ∨ Offends opened' rest) := by
  cases hread : Token.read? input with
  | none =>
    rw [readOnto_of_read?_eq_none hread] at h
    split at h
    · cases h
    · rename_i hne
      cases h
      refine ⟨[], [], opened, rfl, .nil, rfl, ?_⟩
      by_cases hi : input = []
      · exact .inl ⟨hi, fun ho => hne ⟨hi, ho⟩⟩
      · obtain ⟨tail, htail⟩ := List.head?_eq_some_iff.1 (Token.head?_of_read?_eq_none hread hi)
        rw [htail]
        exact .inr (.noTag fun w token behind hw =>
          Token.not_spells_of_read?_eq_none hread (htail.trans hw))
  | some read =>
    obtain ⟨token, behind⟩ := read
    have shorter := Token.length_lt_of_read? hread
    obtain ⟨w, hinput, hw, ends⟩ := Token.exists_spells_of_read? hread
    cases ho : token.open? opened with
    | none =>
      rw [readOnto_of_open?_eq_none hread ho] at h
      cases h
      obtain ⟨name, rfl, hn⟩ := Token.exists_stop_of_open?_eq_none ho
      refine ⟨[], [], opened, rfl, .nil, rfl, .inr ?_⟩
      rw [hinput]
      exact .wrongStop hw hn
    | some opened'' =>
      rw [readOnto_of_open?_eq_some hread ho] at h
      obtain ⟨v, tokens, opened', rfl, hv, ha, offence⟩ := exists_splits_of_readOnto h
      refine ⟨w ++ v, token :: tokens, opened', ?_, ?_, ?_, offence⟩
      · rw [hinput, List.append_assoc]
      · exact .cons hw (fun s hs => (ends s hs).of_append) hv
      · exact Option.bind_eq_some_iff.2 ⟨opened'', ho, ha⟩
termination_by input.length

/-! ### Closing what is open -/

/-- The closing tags of elements that are open, the innermost first. -/
def closingTags : List String → String
  | [] => ""
  | name :: around => "</" ++ name ++ ">" ++ closingTags around

/-- The names of open elements can stand in tags. -/
theorem isName_of_openAfter? (h : Splits w tokens) (ho : openAfter? tokens opened = some opened')
    (hn : ∀ name ∈ opened, IsName name.toList) : ∀ name ∈ opened', IsName name.toList := by
  induction h generalizing opened with
  | nil =>
    cases ho
    exact hn
  | @cons w f token tokens hw _ _ ih =>
    obtain ⟨opened'', here, behind⟩ := Option.bind_eq_some_iff.1 ho
    refine ih behind ?_
    cases hw with
    | start hname =>
      cases here
      exact List.forall_mem_cons.2 ⟨hname, hn⟩
    | single | text =>
      cases here
      exact hn
    | stop =>
      obtain rfl := Token.open?_stop_eq_some.1 here
      exact (List.forall_mem_cons.1 hn).2

/-- Closing tags are tokens, and close everything. -/
theorem splits_closingTags :
    ∀ {opened : List String}, (∀ name ∈ opened, IsName name.toList) →
      Splits (closingTags opened).toList (opened.map .stop) ∧
        openAfter? (opened.map .stop) opened = some [] ∧ EndsText (closingTags opened).toList
  | [], _ => ⟨.nil, rfl, Token.endsText_nil⟩
  | name :: around, hn => by
    obtain ⟨hname, haround⟩ := List.forall_mem_cons.1 hn
    obtain ⟨split, closed, -⟩ := splits_closingTags haround
    have stop := Token.spells_stopTag hname
    rw [closingTags, String.toList_append]
    refine ⟨.cons stop nofun split, ?_, stop.endsText _⟩
    simp [openAfter?, Token.open?, closed]

/-! ### Documents -/

/-- The markup is whole tokens in which every closing tag names the innermost open element, and
leaves these elements open. -/
def LeavesOpen (markup : String) (opened : List String) : Prop :=
  ∃ tokens, Splits markup.toList tokens ∧ openAfter? tokens [] = some opened

/-- With closing tags for the elements that it leaves open, markup can be read. -/
theorem LeavesOpen.exists_ofMarkup {m : String} (h : LeavesOpen m opened) :
    ∃ d, ofMarkup (m ++ closingTags opened) = .ok d := by
  obtain ⟨tokens, split, left⟩ := h
  obtain ⟨split', closed, ends⟩ := splits_closingTags (isName_of_openAfter? split left nofun)
  have read : readOnto ((closingTags opened).toList ++ []) opened (tokens.foldl .take .new) =
      readOnto [] [] _ := readOnto_append_of_splits split' Token.endsText_nil closed
  rw [List.append_nil] at read
  unfold ofMarkup readMarkup
  rw [String.toList_append, readOnto_append_of_splits split ends left, read, readOnto]
  exact ⟨_, rfl⟩

/-- At a byte markup goes wrong: whole tokens in their places stand before it, and behind it nothing
with elements open, or an offence. -/
def GoesWrongAt (m : String) (o : Nat) : Prop :=
  ∃ (before after : String) (opened : List String), m = before ++ after ∧
    before.utf8ByteSize = o ∧ LeavesOpen before opened ∧
    (after = "" ∧ opened ≠ [] ∨ Offends opened after.toList)

/-- Reading fails at the byte where the markup goes wrong, whatever there is on the builder. -/
theorem readMarkup_eq_error_iff {m : String} {b : Builder} {o : Nat} :
    readMarkup m b = .error (.unreadable o) ↔ GoesWrongAt m o := by
  unfold readMarkup
  constructor
  · intro h
    split at h
    · cases h
    · rename_i rest hread
      obtain ⟨w, tokens, opened, hm, split, left, offence⟩ := exists_splits_of_readOnto hread
      have same : m = String.ofList w ++ String.ofList rest := by
        rw [← String.ofList_append, ← hm, String.ofList_toList]
      refine ⟨String.ofList w, String.ofList rest, opened, same, ?_, ⟨tokens, ?_, left⟩, ?_⟩
      · cases h
        rw [same, String.utf8ByteSize_append, byteLength, Nat.add_sub_cancel]
      · rw [String.toList_ofList]
        exact split
      · rw [String.toList_ofList]
        refine offence.imp (fun ⟨hr, hn⟩ => ⟨?_, hn⟩) id
        rw [hr]
  · rintro ⟨before, after, opened, rfl, rfl, ⟨tokens, split, left⟩, offence⟩
    have fails : EndsText after.toList ∧ ∀ b, readOnto after.toList opened b =
        .error after.toList := by
      rcases offence with ⟨rfl, hn⟩ | offends
      · refine ⟨Token.endsText_nil, fun b => ?_⟩
        rw [String.toList_empty, readOnto_of_read?_eq_none rfl]
        exact if_neg fun ⟨_, ho⟩ => hn ho
      · refine ⟨fun c hc => ?_, fun b => offends.readOnto_eq⟩
        rw [offends.head?_eq] at hc
        exact (Option.some.inj hc).symm
    rw [String.toList_append, readOnto_append_of_splits split fails.1 left, fails.2]
    dsimp only
    rw [byteLength, String.ofList_toList, String.utf8ByteSize_append, Nat.add_sub_cancel]

theorem map_eq_error_iff {ε α β : Type} {f : α → β} {x : Except ε α} {e : ε} :
    x.map f = .error e ↔ x = .error e := by
  cases x <;> simp [Except.map]

theorem ofMarkup_eq_error_iff {m : String} {o : Nat} :
    ofMarkup m = .error (.unreadable o) ↔ GoesWrongAt m o := by
  rw [ofMarkup, map_eq_error_iff, readMarkup_eq_error_iff]

/-- An error names the byte where markup first goes wrong, and this lies between two characters. All
that stands before is whole tokens, closing tags in their places, and with closing tags for the
elements left open it could be read. If the markup fails at its end, and only then, it is such
tokens to the end and leaves an element open. Otherwise there stands a `<` at that byte that begins
no tag, or a closing tag that does not name the innermost open element. -/
theorem ofMarkup_fails_at_first_offence {m : String} {o : Nat}
    (h : ofMarkup m = .error (.unreadable o)) :
    o ≤ m.utf8ByteSize ∧ String.Pos.Raw.IsValid m ⟨o⟩ ∧
    (o = m.utf8ByteSize ↔ ∃ opened, LeavesOpen m opened ∧ opened ≠ []) ∧
    ∃ (before after : String) (opened : List String), m = before ++ after ∧
      before.utf8ByteSize = o ∧ LeavesOpen before opened ∧
      (∃ d, ofMarkup (before ++ closingTags opened) = .ok d) ∧
      (o ≠ m.utf8ByteSize → Offends opened after.toList) := by
  obtain ⟨before, after, opened, rfl, rfl, left, offence⟩ := ofMarkup_eq_error_iff.1 h
  have size : (before ++ after).utf8ByteSize = before.utf8ByteSize + after.utf8ByteSize :=
    String.utf8ByteSize_append
  refine ⟨by omega, ?_, ⟨?_, ?_⟩, before, after, opened, rfl, rfl, left, left.exists_ofMarkup, ?_⟩
  · exact String.Pos.Raw.isValid_iff_exists_append.2 ⟨before, after, rfl, rfl⟩
  · intro he
    obtain rfl : after = "" := String.utf8ByteSize_eq_zero_iff.1 (by omega)
    rcases offence with ⟨-, hn⟩ | offends
    · rw [String.append_empty]
      exact ⟨opened, left, hn⟩
    · cases offends.head?_eq
  · rintro ⟨opened', left', hn⟩
    have failed : ofMarkup (before ++ after) =
        .error (.unreadable (before ++ after).utf8ByteSize) :=
      ofMarkup_eq_error_iff.2 ⟨_, "", opened', String.append_empty.symm, rfl, left', .inl ⟨rfl, hn⟩⟩
    exact MarkupError.unreadable.inj (Except.error.inj (h.symm.trans failed))
  · intro hne
    rcases offence with ⟨rfl, -⟩ | offends
    · exact absurd (congrArg String.utf8ByteSize String.append_empty.symm) hne
    · exact offends

/-- The closing tag behind the text names another element than the one that is open. The first
character takes two bytes. -/
theorem ofMarkup_fails_at_first_offence_wrong_name :
    ofMarkup "é<p>x</q>" = .error (.unreadable 6) ∧ String.Pos.Raw.IsValid "é<p>x</q>" ⟨6⟩ ∧
    ∃ (before after : String) (opened : List String), "é<p>x</q>" = before ++ after ∧
      before.utf8ByteSize = 6 ∧ LeavesOpen before opened ∧
      (∃ d, ofMarkup (before ++ closingTags opened) = .ok d) ∧ Offends opened after.toList := by
  have isName : ∀ c, Token.isNameChar c = true → IsName [c] := by
    intro c hc
    exact ⟨List.cons_ne_nil _ _, by simpa using hc⟩
  have start : Token.Spells ('<' :: ("p".toList ++ [] ++ ['>'])) (.start "p") :=
    .start (isName 'p' rfl) nofun
  have stop : Token.Spells ('<' :: '/' :: ("q".toList ++ [] ++ ['>'])) (.stop "q") :=
    .stop (isName 'q' rfl) nofun
  have split : Splits ("é".toList ++ ('<' :: ("p".toList ++ [] ++ ['>']) ++ ("x".toList ++ [])))
      [.text "é", .start "p", .text "x"] := by
    refine .cons (.text ⟨by decide, by simp⟩) ?_ (.cons start nofun (.cons (.text ⟨by decide,
      by simp⟩) (fun _ _ => Token.endsText_nil) .nil))
    intro s _ c hc
    cases hc
    rfl
  have left : LeavesOpen "é<p>x" ["p"] := ⟨_, split, rfl⟩
  have offends : Offends ["p"] ('<' :: '/' :: ("q".toList ++ [] ++ ['>']) ++ []) :=
    .wrongStop stop (by simp)
  have h : ofMarkup "é<p>x</q>" = .error (.unreadable 6) :=
    ofMarkup_eq_error_iff.2 ⟨"é<p>x", "</q>", ["p"], rfl, rfl, left, .inr offends⟩
  obtain ⟨-, boundary, -, before, after, opened, hm, size, left, closed, offence⟩ :=
    ofMarkup_fails_at_first_offence h
  exact ⟨h, boundary, before, after, opened, hm, size, left, closed, offence (by decide)⟩

end Document

end TreePattern
