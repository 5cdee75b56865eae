import TreePattern.Markup.Token

/-!
# Tokens by alternatives

A token can be read without looking ahead: a closing tag is tried, then an opening one, then a text,
and each of them takes its parts one behind the other. A part that does not fit leaves the input
where it is by then, in the middle of a tag perhaps. What is asked of trying alternatives is that
they are tried in order, that the first to fit settles what is read, and that each begins where the
first one began (`Reader.firstOf`).

* `Reader.token`: a token, by its alternatives.
* `Reader.read?_token`: this is how `Token.read?` reads.
-/

namespace TreePattern

/-- A way to read the head of an input. It tells what was read, if it fits, and what is left of the
input; where it does not fit, some of the input can be gone. -/
def Reader (α : Type) : Type := List Char → Option α × List Char

namespace Reader

variable {α β : Type}

instance : Monad Reader where
  pure a := fun input => (some a, input)
  bind p f := fun input =>
    match p input with
    | (some a, rest) => f a rest
    | (none, rest) => (none, rest)

/-- The first of several ways that fits. Each of them begins at the head of the whole input, however
much of it the ways before have taken. -/
def firstOf : List (Reader α) → Reader α
  | [] => fun input => (none, input)
  | p :: ps => fun input =>
    match p input with
    | (some a, rest) => (some a, rest)
    | (none, _) => firstOf ps input

/-- Takes given characters. -/
def literal (expected : List Char) : Reader Unit := fun input =>
  if expected.isPrefixOf input then (some (), input.drop expected.length) else (none, input)

/-- Takes characters of a class as long as there are any. -/
def run (p : Char → Bool) : Reader (List Char) := fun input =>
  (some (input.takeWhile p), input.dropWhile p)

/-- Takes characters of a class as long as there are any, but at least one. -/
def nonEmptyRun (p : Char → Bool) : Reader (List Char) := fun input =>
  match input.takeWhile p with
  | [] => (none, input)
  | taken => (some taken, input.dropWhile p)

/-! ### Parts of markup -/

/-- The name of a tag. -/
def tagName : Reader String := do
  let name ← nonEmptyRun Token.isNameChar
  return String.ofList name

/-- A tag that ends an element. -/
def closeTag : Reader Token := do
  literal ['<', '/']
  let name ← tagName
  let _ ← run Token.isTagBlank
  literal ['>']
  return .stop name

/-- A tag that starts an element, or that of an element without content. -/
def openTag : Reader Token := do
  literal ['<']
  let name ← tagName
  let _ ← run Token.isTagBlank
  firstOf [
    do literal ['/', '>']; return .single name,
    do literal ['>']; return .start name]

/-- A text. -/
def textRun : Reader Token := do
  let taken ← nonEmptyRun (· != '<')
  return .text (String.ofList taken)

/-- A token. -/
def token : Reader Token := firstOf [closeTag, openTag, textRun]

/-! ### What is read -/

/-- What is read and what is left behind it, if a way of reading fits. -/
def read? (p : Reader α) (input : List Char) : Option (α × List Char) :=
  match p input with
  | (some a, rest) => some (a, rest)
  | (none, _) => none

variable {input : List Char}

@[simp] theorem read?_pure (a : α) : (pure a : Reader α).read? input = some (a, input) := rfl

@[simp] theorem read?_bind (p : Reader α) (f : α → Reader β) :
    (p >>= f).read? input = (p.read? input).bind fun (a, rest) => (f a).read? rest := by
  rcases h : p input with ⟨_ | a, rest⟩ <;> simp [read?, bind, h]

@[simp] theorem read?_firstOf_nil : (firstOf [] : Reader α).read? input = none := rfl

@[simp] theorem read?_firstOf_cons (p : Reader α) (ps : List (Reader α)) :
    (firstOf (p :: ps)).read? input = (p.read? input).or ((firstOf ps).read? input) := by
  rcases h : p input with ⟨_ | a, rest⟩ <;> simp [read?, firstOf, h]

@[simp] theorem read?_literal (expected : List Char) :
    (literal expected).read? input =
      if expected.isPrefixOf input then some ((), input.drop expected.length) else none := by
  unfold read? literal
  cases expected.isPrefixOf input <;> simp

@[simp] theorem read?_run (p : Char → Bool) :
    (run p).read? input = some (input.takeWhile p, input.dropWhile p) := rfl

@[simp] theorem read?_nonEmptyRun (p : Char → Bool) :
    (nonEmptyRun p).read? input =
      if input.takeWhile p = [] then none else some (input.takeWhile p, input.dropWhile p) := by
  unfold read? nonEmptyRun
  cases input.takeWhile p <;> simp

/-! ### Parts of markup that are read -/

variable {rest : List Char}

/-- The name of a tag and the blanks behind it are read as a name. -/
theorem read?_name_blanks (f : String → Reader α) :
    (do let name ← tagName; let _ ← run Token.isTagBlank; f name : Reader α).read? input =
      (Token.readName? input).bind fun (name, rest) => (f name).read? rest := by
  simp only [tagName, read?_bind, read?_nonEmptyRun, Token.readName?]
  cases input.takeWhile Token.isNameChar <;> simp

/-- The end of a tag is read where it stands. -/
theorem read?_end (token : Token) :
    (do literal ['>']; return token : Reader Token).read? input =
      match input with
      | '>' :: rest => some (token, rest)
      | _ => none := by
  cases input with
  | nil => rfl
  | cons c rest =>
    by_cases hc : c = '>'
    · simp [hc]
    · simp [hc, Ne.symm hc]

/-- The end of a tag without content is read where it stands. -/
theorem read?_singleEnd (token : Token) :
    (do literal ['/', '>']; return token : Reader Token).read? input =
      match input with
      | '/' :: '>' :: rest => some (token, rest)
      | _ => none := by
  rcases input with _ | ⟨c, _ | ⟨d, rest⟩⟩
  · rfl
  · simp
  · by_cases hc : c = '/'
    · by_cases hd : d = '>'
      · simp [hc, hd]
      · simp [hc, hd, Ne.symm hd]
    · simp [hc, Ne.symm hc]

/-- Closing tags are read where one begins. -/
theorem read?_closeTag :
    closeTag.read? ('<' :: '/' :: rest) = Token.read? ('<' :: '/' :: rest) := by
  rw [closeTag, read?_bind, read?_literal, Token.read?]
  change Reader.read? _ rest = _
  rw [read?_name_blanks]
  rcases Token.readName? rest with _ | ⟨name, behind⟩
  · rfl
  · change Reader.read? _ behind = _
    rw [read?_end]
    split <;> simp_all

/-- Opening tags are read where one begins, and no closing tag does. -/
theorem read?_openTag (h : rest.head? ≠ some '/') :
    openTag.read? ('<' :: rest) = Token.read? ('<' :: rest) := by
  rw [openTag, read?_bind, read?_literal, Token.read?]
  · change Reader.read? _ rest = _
    rw [read?_name_blanks]
    rcases Token.readName? rest with _ | ⟨name, behind⟩
    · rfl
    · change Reader.read? _ behind = _
      rw [read?_firstOf_cons, read?_firstOf_cons, read?_singleEnd, read?_end]
      split <;> split <;> simp_all
  · rintro r rfl
    exact h rfl

/-- No text is read where a tag would begin. -/
theorem read?_textRun_tag : textRun.read? ('<' :: rest) = none := by
  simp [textRun]

/-- Texts are read where one begins. -/
theorem read?_textRun {c : Char} (h : c ≠ '<') :
    textRun.read? (c :: rest) = Token.read? (c :: rest) := by
  rw [Token.read?]
  · simp [textRun, h]
  · simp [h]
  · simp [h]

/-- Reading a token tries its alternatives. -/
theorem read?_token (input : List Char) : token.read? input = Token.read? input := by
  simp only [token, read?_firstOf_cons, read?_firstOf_nil, Option.or_none]
  cases input with
  | nil => rfl
  | cons c rest =>
    by_cases hc : c = '<'
    · subst hc
      rw [read?_textRun_tag, Option.or_none]
      by_cases hr : rest.head? = some '/'
      · obtain ⟨behind, rfl⟩ := List.head?_eq_some_iff.1 hr
        have opens : openTag.read? ('<' :: '/' :: behind) = none := by
          simp [openTag, tagName, Token.isNameChar]
        rw [read?_closeTag, opens, Option.or_none]
      · have closes : closeTag.read? ('<' :: rest) = none := by
          cases rest with
          | nil => simp [closeTag]
          | cons d behind =>
            have hd : '/' ≠ d := fun same => hr (congrArg some same.symm)
            simp [closeTag, hd]
        rw [closes, Option.none_or, read?_openTag hr]
    · have closes : closeTag.read? (c :: rest) = none := by
        simp [closeTag, Ne.symm hc]
      have opens : openTag.read? (c :: rest) = none := by
        simp [openTag, Ne.symm hc]
      rw [closes, opens, Option.none_or, Option.none_or, read?_textRun hc]

end Reader

end TreePattern
