import TreePattern.Expression.Term
import TreePattern.Text.Blank
import TreePattern.Unicode.CodeSet

/-!
# Reading escapes and counts

The parts of an expression that are spelled out character by character: what stands behind a
backslash, and the counts of a repetition in braces. Each reader takes what is left of the
expression and gives back what it read and what is left then; where the text is no such part, it
gives nothing. With the setting `spaced`, blanks and comments may stand between the characters of
these parts.

* `readEscape`: what stands behind a backslash.
* `readCounts`: what stands behind the opening brace of a repetition.
-/

namespace TreePattern.Expression

/-- What is left behind blanks, and behind comments, which run from a number sign to the end of the
line. -/
def passBlanks (inComment : Bool) : List Char → List Char
  | [] => []
  | c :: rest =>
    if inComment then passBlanks (c != '\n') rest
    else if isBlank c then passBlanks false rest
    else if c == '#' then passBlanks true rest
    else c :: rest

/-- What is left behind blanks and comments, if they are passed over. -/
def skipBlanks (spaced : Bool) (input : List Char) : List Char :=
  if spaced then passBlanks false input else input

theorem length_passBlanks_le (inComment : Bool) (input : List Char) :
    (passBlanks inComment input).length ≤ input.length := by
  induction input generalizing inComment with
  | nil => simp [passBlanks]
  | cons c rest ih =>
    unfold passBlanks
    split
    · exact Nat.le_succ_of_le (ih _)
    · split
      · exact Nat.le_succ_of_le (ih _)
      · split
        · exact Nat.le_succ_of_le (ih _)
        · simp

theorem length_skipBlanks_le (spaced : Bool) (input : List Char) :
    (skipBlanks spaced input).length ≤ input.length := by
  unfold skipBlanks
  split
  · exact length_passBlanks_le ..
  · exact Nat.le_refl _

/-- The longest run of characters of a kind, and what is left behind it and the blanks after its
last character. -/
def readRun (spaced : Bool) (kind : Char → Bool) : List Char → List Char × List Char
  | [] => ([], [])
  | c :: rest =>
    if kind c then
      let (run, left) := readRun spaced kind (skipBlanks spaced rest)
      (c :: run, left)
    else ([], c :: rest)
termination_by input => input.length
decreasing_by exact Nat.lt_succ_of_le (length_skipBlanks_le ..)

/-- The character with a code point, if it has one. -/
def charOfCode? (code : Nat) : Option Char :=
  if code < 0xD800 ∨ (0xDFFF < code ∧ code < 0x110000) then some (Char.ofNat code) else none

/-! ### Numbers -/

/-- The value of a run of digits. -/
def valueOfDigits (base : Nat) (digits : List Char) : Nat :=
  digits.foldl (fun n c => n * base + CodeSet.hexValue c) 0

/-- The greatest count of a repetition: the greatest number of 32 bits. -/
def lastCount : Nat := 4294967295

/-- A count of a repetition, with the blanks around it. -/
def readCount? (spaced : Bool) (input : List Char) : Option (Nat × List Char) :=
  let (digits, rest) := readRun spaced Char.isDigit (input.dropWhile isBlank)
  let count := valueOfDigits 10 digits
  if digits.isEmpty || lastCount < count then none
  else some (count, (readRun spaced isBlank rest).2)

/-- The counts of a repetition: what stands behind its opening brace. A single count is meant
exactly, and a missing second one means that there is no end. -/
def readCounts? (spaced : Bool) (input : List Char) :
    Option ((Nat × Option Nat) × List Char) := do
  let (low, rest) ← readCount? spaced (skipBlanks spaced input)
  match rest with
  | '\x7d' :: rest => some ((low, some low), rest)
  | ',' :: rest =>
    match skipBlanks spaced rest with
    | '\x7d' :: rest => some ((low, none), rest)
    | rest =>
      let (high, rest) ← readCount? spaced rest
      match rest with
      | '\x7d' :: rest => if low ≤ high then some ((low, some high), rest) else none
      | _ => none
  | _ => none

/-! ### Escapes -/

/-- What an escape stands for. -/
inductive Escape where
  /-- A character. -/
  | literal (l : Literal)
  /-- A condition on the place. -/
  | mark (m : Mark)
  /-- A character with a property, or without it. -/
  | property (name : PropertyName) (negated : Bool)
  /-- A character of a class that has a letter, or outside it. -/
  | shorthand (kind : Shorthand) (negated : Bool)

/-- Whether a character is a hexadecimal digit. -/
def isHexDigit (c : Char) : Bool := c.isDigit || ('a' ≤ c && c ≤ 'f') || ('A' ≤ c && c ≤ 'F')

/-- A character given by a fixed number of hexadecimal digits. -/
def readHexDigits? (spaced : Bool) (byte : Bool) :
    Nat → List Char → List Char → Option (Escape × List Char)
  | 0, digits, input => do
    let c ← charOfCode? (valueOfDigits 16 digits)
    some (.literal ⟨c, byte⟩, input)
  | _ + 1, _, [] => none
  | count + 1, digits, c :: rest =>
    if isHexDigit c then
      readHexDigits? spaced byte count (digits ++ [c]) (skipBlanks spaced rest)
    else none

/-- A character given by hexadecimal digits: what stands behind the letter of the escape. -/
def readHex? (spaced : Bool) (count : Nat) (input : List Char) : Option (Escape × List Char) :=
  match skipBlanks spaced input with
  | '\x7b' :: rest =>
    match readRun spaced isHexDigit (skipBlanks spaced rest) with
    | ([], _) => none
    | (digits, '\x7d' :: rest) => do
      let c ← charOfCode? (valueOfDigits 16 digits)
      some (.literal ⟨c, false⟩, skipBlanks spaced rest)
    | _ => none
  | input => readHexDigits? spaced (count == 2) count [] input

/-- What stands before and behind the first place where a separator stands. -/
def breakAt? (separator : List Char) : List Char → Option (List Char × List Char)
  | [] => none
  | c :: rest =>
    if separator.isPrefixOf (c :: rest) then some ([], (c :: rest).drop separator.length)
    else (breakAt? separator rest).map fun (before, behind) => (c :: before, behind)

/-- A property asked for by a name, or by a name and a value. -/
def propertyName (text : List Char) : PropertyName :=
  let found := (breakAt? ['!', '='] text).or ((breakAt? [':'] text).or (breakAt? ['='] text))
  match found with
  | some (name, value) => .valued (String.ofList name) (String.ofList value)
  | none => .plain (String.ofList text)

/-- A property: what stands behind the letter of the escape. -/
def readProperty? (spaced negated : Bool) (input : List Char) : Option (Escape × List Char) :=
  match skipBlanks spaced input with
  | '\x7b' :: rest =>
    match readRun spaced (· != '\x7d') (skipBlanks spaced rest) with
    | (text, '\x7d' :: rest) => some (.property (propertyName text) negated, rest)
    | _ => none
  | c :: rest =>
    if c == '\\' then none
    else some (.property (.plain (String.singleton c)) negated, skipBlanks spaced rest)
  | [] => none

/-- Whether a character may stand in the name of a word boundary. -/
def isBoundaryChar (c : Char) : Bool := c.isAlpha || c == '-'

/-- A word boundary: what stands behind its letter. It may be followed by a name in braces; braces
with something else in them count how often it is repeated. -/
def readBoundary? (spaced : Bool) (input : List Char) : Option (Escape × List Char) :=
  match input with
  | '\x7b' :: rest =>
    match skipBlanks spaced rest with
    | [] => none
    | c :: rest =>
      if isBoundaryChar c then
        match readRun spaced isBoundaryChar (c :: rest) with
        | (name, '\x7d' :: rest) =>
          match String.ofList name with
          | "start" => some (.mark .wordStart, rest)
          | "end" => some (.mark .wordEnd, rest)
          | "start-half" => some (.mark .wordStartHalf, rest)
          | "end-half" => some (.mark .wordEndHalf, rest)
          | _ => none
        | _ => none
      else some (.mark .wordBoundary, input)
  | input => some (.mark .wordBoundary, input)

/-- Whether a character stands for itself behind a backslash. -/
def isEscapable (c : Char) : Bool :=
  c.toNat < 0x80 && !c.isAlphanum && c != '<' && c != '>'

/-- The escape that stands behind a backslash. -/
def readEscape? (spaced : Bool) (input : List Char) : Option (Escape × List Char) :=
  match input with
  | [] => none
  | c :: rest =>
    let literal (code : Nat) := some (Escape.literal ⟨Char.ofNat code, false⟩, rest)
    match c with
    | 'x' => readHex? spaced 2 rest
    | 'u' => readHex? spaced 4 rest
    | 'U' => readHex? spaced 8 rest
    | 'p' => readProperty? spaced false rest
    | 'P' => readProperty? spaced true rest
    | 'd' => some (.shorthand .digit false, rest)
    | 'D' => some (.shorthand .digit true, rest)
    | 's' => some (.shorthand .space false, rest)
    | 'S' => some (.shorthand .space true, rest)
    | 'w' => some (.shorthand .word false, rest)
    | 'W' => some (.shorthand .word true, rest)
    | 'a' => literal 0x07
    | 't' => literal 0x09
    | 'n' => literal 0x0A
    | 'v' => literal 0x0B
    | 'f' => literal 0x0C
    | 'r' => literal 0x0D
    | 'A' => some (.mark .textStart, rest)
    | 'z' => some (.mark .textEnd, rest)
    | 'b' => readBoundary? spaced rest
    | 'B' => some (.mark .noWordBoundary, rest)
    | '<' => some (.mark .wordStart, rest)
    | '>' => some (.mark .wordEnd, rest)
    | c => if isEscapable c then literal c.toNat else none

end TreePattern.Expression
