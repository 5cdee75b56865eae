import TreePattern.Expression.Escape

/-!
# Reading classes

A class stands in brackets: single characters, ranges, escapes, named classes of ASCII characters
and further classes in brackets, side by side or joined by `&&`, `--` and `~~`. The three joins bind
alike and to the left, and more loosely than standing side by side. A closing bracket in the first
place and hyphens in the first places stand for themselves.

* `readClass?`: the class whose opening bracket has been read.
-/

namespace TreePattern.Expression

/-- The classes of ASCII characters that go by a name, with their characters. -/
def asciiClasses : List (String × String) := [
  ("alnum", "30-39 41-5A 61-7A"),
  ("alpha", "41-5A 61-7A"),
  ("ascii", "0-7F"),
  ("blank", "9 20"),
  ("cntrl", "0-1F 7F"),
  ("digit", "30-39"),
  ("graph", "21-7E"),
  ("lower", "61-7A"),
  ("print", "20-7E"),
  ("punct", "21-2F 3A-40 5B-60 7B-7E"),
  ("space", "9-D 20"),
  ("upper", "41-5A"),
  ("word", "30-39 41-5A 5F 61-7A"),
  ("xdigit", "30-39 41-46 61-66")]

/-- A named class of ASCII characters: what stands behind its opening bracket. -/
def readAsciiClass? (input : List Char) : Option (ClassTerm × List Char) :=
  match input with
  | ':' :: rest =>
    let (negated, rest) := match rest with
      | '^' :: rest => (true, rest)
      | rest => (false, rest)
    let name := String.ofList (rest.takeWhile (· != ':'))
    match rest.dropWhile (· != ':') with
    | ':' :: ']' :: rest =>
      if (asciiClasses.lookup name).isSome then some (.ascii name negated, rest) else none
    | _ => none
  | _ => none

/-- An item of a class, which may be the end of a range. -/
def readClassItem? (spaced : Bool) (input : List Char) : Option (Escape × List Char) :=
  match input with
  | [] => none
  | '\\' :: rest => readEscape? spaced rest
  | c :: rest => some (.literal ⟨c, false⟩, rest)

/-- An escape as an item of a class; conditions on places are none. -/
def Escape.classTerm? : Escape → Option ClassTerm
  | .literal l => some (.literal l)
  | .mark _ => none
  | .property name negated => some (.property name negated)
  | .shorthand kind negated => some (.shorthand kind negated)

/-- An item of a class or a range. A hyphen before a closing bracket or another hyphen joins no
range. -/
def readClassRange? (spaced : Bool) (input : List Char) : Option (ClassTerm × List Char) := do
  let (first, rest) ← readClassItem? spaced input
  match skipBlanks spaced rest with
  | [] => none
  | '-' :: rest =>
    match skipBlanks spaced rest with
    | [] => none
    | c :: rest' =>
      if c == ']' || c == '-' then
        (first.classTerm?).map fun item => (item, '-' :: rest)
      else
        let (last, rest) ← readClassItem? spaced (c :: rest')
        match first, last with
        | .literal a, .literal b => if a.char ≤ b.char then some (.range a b, rest) else none
        | _, _ => none
  | rest => (first.classTerm?).map fun item => (item, rest)

/-- A class in the course of being read. -/
structure OpenClass where
  /-- Whether the class is what lies outside. -/
  negated : Bool
  /-- A class already read that is to be joined with the items. -/
  left : Option (ClassOp × ClassTerm)
  /-- The items so far, the last one first. -/
  items : List ClassTerm

namespace OpenClass

/-- Adds an item. -/
def add (c : OpenClass) (item : ClassTerm) : OpenClass := { c with items := item :: c.items }

/-- What has been read so far, as one class. -/
def body (c : OpenClass) : ClassTerm :=
  let right := match c.items with
    | [] => .empty
    | [item] => item
    | items => .union items.reverse
  match c.left with
  | none => right
  | some (op, left) => .binary op left right

/-- Goes on behind a join. -/
def join (c : OpenClass) (op : ClassOp) : OpenClass := ⟨c.negated, some (op, c.body), []⟩

end OpenClass

/-- Starts a class: what stands behind its opening bracket. -/
def openClass? (spaced : Bool) (input : List Char) : Option (OpenClass × List Char) :=
  let input := skipBlanks spaced input
  let (negated, input) := match input with
    | '^' :: rest => (true, skipBlanks spaced rest)
    | input => (false, input)
  let (hyphens, input) := readRun spaced (· == '-') input
  let items := hyphens.map fun c => ClassTerm.literal ⟨c, false⟩
  match input with
  | [] => none
  | ']' :: rest =>
    if items.isEmpty then
      match skipBlanks spaced rest with
      | [] => none
      | rest => some (⟨negated, none, [.literal ⟨']', false⟩]⟩, rest)
    else some (⟨negated, none, items⟩, input)
  | _ => some (⟨negated, none, items⟩, input)

/-- Reads on in a class, with the classes around it. Every round reads at least one character. -/
def readClassRounds? (spaced : Bool) :
    Nat → OpenClass → List OpenClass → List Char → Option (Bool × ClassTerm × List Char)
  | 0, _, _, _ => none
  | rounds + 1, c, around, input =>
    match skipBlanks spaced input with
    | [] => none
    | '[' :: rest =>
      match readAsciiClass? rest with
      | some (item, rest) => readClassRounds? spaced rounds (c.add item) around rest
      | none => do
        let (inner, rest) ← openClass? spaced rest
        readClassRounds? spaced rounds inner (c :: around) rest
    | ']' :: rest =>
      match around with
      | [] => some (c.negated, c.body, rest)
      | outer :: around =>
        readClassRounds? spaced rounds (outer.add (.bracketed c.negated c.body)) around rest
    | '&' :: '&' :: rest => readClassRounds? spaced rounds (c.join .intersection) around rest
    | '-' :: '-' :: rest => readClassRounds? spaced rounds (c.join .difference) around rest
    | '~' :: '~' :: rest =>
      readClassRounds? spaced rounds (c.join .symmetricDifference) around rest
    | input => do
      let (item, rest) ← readClassRange? spaced input
      readClassRounds? spaced rounds (c.add item) around rest

/-- A class: what stands behind its opening bracket. -/
def readClass? (spaced : Bool) (input : List Char) : Option (Term × List Char) := do
  let (c, rest) ← openClass? spaced input
  let (negated, body, rest) ← readClassRounds? spaced (rest.length + 1) c [] rest
  return (.bracketed negated body, rest)

end TreePattern.Expression
