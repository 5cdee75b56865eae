/-!
# Tokens of markup

Markup is a run of tags and texts. A tag is written `<name>`, `<name/>` or `</name>`, with blanks
allowed behind the name and nowhere else; a text runs up to the next `<`. A name is a non-empty run
of ASCII letters and digits, `-`, `_` and `:`.

* `Token.read?`: the token at the head of the input.
* `Token.length_lt_of_read?`: reading a token always moves on.
-/

namespace TreePattern

/-- A piece of markup. -/
inductive Token where
  /-- The tag that starts an element. -/
  | start (name : String)
  /-- The tag of an element without content. -/
  | single (name : String)
  /-- The tag that ends an element. -/
  | stop (name : String)
  /-- A text. -/
  | text (text : String)
  deriving DecidableEq

namespace Token

/-- Whether a character may stand in a tag name. -/
def isNameChar (c : Char) : Bool := c.isAlphanum || c == '-' || c == '_' || c == ':'

/-- Whether a character may stand between a tag's name and its end. -/
def isTagBlank (c : Char) : Bool := c == ' ' || c == '\t' || c == '\r' || c == '\n'

/-- The characters behind the name of a tag and its blanks, with the name. -/
def readName? (input : List Char) : Option (String × List Char) :=
  match input.takeWhile isNameChar with
  | [] => none
  | name => some (String.ofList name, (input.dropWhile isNameChar).dropWhile isTagBlank)

/-- The token at the head of the input and what is left behind it. Looking two characters ahead tells
which kind of token it can be; this reads what trying the kinds one after the other reads, see
`Reader.read?_token`. -/
def read? (input : List Char) : Option (Token × List Char) :=
  match input with
  | [] => none
  | '<' :: '/' :: rest =>
    match readName? rest with
    | some (name, '>' :: rest) => some (.stop name, rest)
    | _ => none
  | '<' :: rest =>
    match readName? rest with
    | some (name, '>' :: rest) => some (.start name, rest)
    | some (name, '/' :: '>' :: rest) => some (.single name, rest)
    | _ => none
  | c :: rest =>
    some (.text (String.ofList (c :: rest.takeWhile (· != '<'))), rest.dropWhile (· != '<'))

/-! ### Progress -/

theorem length_dropWhile_le {p : Char → Bool} (l : List Char) :
    (l.dropWhile p).length ≤ l.length :=
  (List.dropWhile_sublist p).length_le

theorem length_le_of_readName? {input rest : List Char} {name : String}
    (h : readName? input = some (name, rest)) : rest.length ≤ input.length := by
  unfold readName? at h
  split at h
  · cases h
  · simp only [Option.some.injEq, Prod.mk.injEq] at h
    exact h.2 ▸ Nat.le_trans (length_dropWhile_le _) (length_dropWhile_le _)

/-- Reading a token always moves on. -/
theorem length_lt_of_read? {input rest : List Char} {token : Token}
    (h : read? input = some (token, rest)) : rest.length < input.length := by
  unfold read? at h
  split at h
  · cases h
  · split at h
    · rename_i hn
      have := length_le_of_readName? hn
      simp only [Option.some.injEq, Prod.mk.injEq] at h
      simp only [List.length_cons, ← h.2] at this ⊢
      omega
    · cases h
  · split at h
    · rename_i hn
      have := length_le_of_readName? hn
      simp only [Option.some.injEq, Prod.mk.injEq] at h
      simp only [List.length_cons, ← h.2] at this ⊢
      omega
    · rename_i hn
      have := length_le_of_readName? hn
      simp only [Option.some.injEq, Prod.mk.injEq] at h
      simp only [List.length_cons, ← h.2] at this ⊢
      omega
    · cases h
  · rename_i c rest' _ _
    simp only [Option.some.injEq, Prod.mk.injEq] at h
    have := length_dropWhile_le (p := (· != '<')) rest'
    simp only [List.length_cons, ← h.2]
    omega

end Token

end TreePattern
