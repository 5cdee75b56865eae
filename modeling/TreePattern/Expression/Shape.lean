import TreePattern.Expression.ClassReading
import TreePattern.Unicode.Folding
import TreePattern.Unicode.Lookup

/-!
# Shapes: what expressions ask for

The shape of an expression says what it asks of a text once the settings have been taken account of:
characters out of sets, conditions on places, and their combinations. Settings hold from where they
are made to the end of the group around them, across the branches of the group. Where characters are
bytes and not those of Unicode, only what stays within ASCII has a shape.

* `Term.shape?`: the shape of an expression under the usual settings.
-/

namespace TreePattern.Expression

/-- A condition on a place between two characters of a text. -/
inductive Look where
  /-- The text starts here. -/
  | textStart
  /-- The text ends here. -/
  | textEnd
  /-- A line starts here; lines end in a line feed, or also in a carriage return. -/
  | lineStart (carriageReturn : Bool)
  /-- A line ends here. -/
  | lineEnd (carriageReturn : Bool)
  /-- Word characters stand here as the condition asks, on the left and on the right; the word
  characters are those of Unicode or those of ASCII. -/
  | words (condition : Bool → Bool → Bool) (unicode : Bool)

/-- What an expression asks for. -/
inductive Shape where
  /-- Nothing. -/
  | empty
  /-- A character out of a set. -/
  | set (s : CodeSet)
  /-- A condition on the place. -/
  | look (l : Look)
  /-- One shape and then the other. -/
  | seq (first second : Shape)
  /-- One shape or the other. -/
  | alt (left right : Shape)
  /-- A shape several times. -/
  | repetition (low : Nat) (high : Option Nat) (body : Shape)
  /-- A shape whose place in the text can be told. -/
  | capture (body : Shape)

/-- The settings in force at some point of an expression. -/
structure Settings where
  /-- Case does not matter. -/
  ignoreCase : Bool
  /-- The line marks stand for the ends of lines. -/
  multiLine : Bool
  /-- The dot stands for every character. -/
  dotAll : Bool
  /-- Characters are those of Unicode. -/
  unicode : Bool
  /-- A line may also end in a carriage return. -/
  carriageReturn : Bool
  deriving DecidableEq

namespace Settings

/-- The settings that an expression begins with. -/
def usual : Settings := ⟨false, false, false, true, false⟩

/-- Makes one change. Greed does not matter for whether an expression occurs, and blanks matter only
for how it is read. -/
def change (s : Settings) : Flag × Bool → Settings
  | (.ignoreCase, on) => { s with ignoreCase := on }
  | (.multiLine, on) => { s with multiLine := on }
  | (.dotAll, on) => { s with dotAll := on }
  | (.unicode, on) => { s with unicode := on }
  | (.carriageReturn, on) => { s with carriageReturn := on }
  | (.swapGreed, _) => s
  | (.spaced, _) => s

/-- Makes several changes. -/
def apply (s : Settings) (changes : List (Flag × Bool)) : Settings := changes.foldl change s

/-! ### Sets of characters -/

/-- The capital and small letters of ASCII, each with its counterpart. -/
def closeAsciiCase (s : CodeSet) : CodeSet :=
  let shift (low high : Nat) (move : Nat → Nat) : CodeSet :=
    .unions (((List.range (high - low + 1)).map (· + low)).filterMap fun code =>
      if s.hasCode code then some (.range (move code) (move code)) else none)
  (s.union (shift 0x41 0x5A (· + 0x20))).union (shift 0x61 0x7A (· - 0x20))

/-- A set, and under a setting that says so what differs from it in case only. -/
def fold (st : Settings) (s : CodeSet) : CodeSet :=
  if st.ignoreCase then (if st.unicode then s.closeCase else closeAsciiCase s) else s

/-- Whether a set stays within ASCII. -/
def isAscii (s : CodeSet) : Bool := (s.diff (.range 0 0x7F)).isEmpty

/-- A set or what lies outside it. Bytes beyond ASCII are no characters, so a set of bytes may not
reach there. -/
def outside? (st : Settings) (negated : Bool) (s : CodeSet) : Option CodeSet :=
  if st.unicode then some (if negated then s.compl else s)
  else
    let s := if negated then (CodeSet.range 0 0xFF).diff s else s
    if isAscii s then some s else none

/-- The set of a class that has a letter. -/
def shorthand (st : Settings) : Shorthand → CodeSet
  | .digit => if st.unicode then Unicode.decimalDigit else .range 0x30 0x39
  | .space => if st.unicode then Unicode.space else .ofText "9-D 20"
  | .word => if st.unicode then Unicode.word else .ofText "30-39 41-5A 5F 61-7A"

/-- The set of a property, which only characters of Unicode have. -/
def property? (st : Settings) (name : PropertyName) (negated : Bool) : Option CodeSet :=
  if st.unicode then do
    let s ← match name with
      | .plain name => Unicode.named? name
      | .valued name value => Unicode.valued? name value
    st.outside? negated (st.fold s)
  else none

/-- The code point of a character in a class; where characters are bytes, it is one of ASCII. -/
def classCode? (st : Settings) (l : Literal) : Option Nat :=
  if st.unicode || l.char.toNat < 0x80 then some l.char.toNat else none

/-- The combination of two sets. -/
def combine : ClassOp → CodeSet → CodeSet → CodeSet
  | .intersection => .inter
  | .difference => .diff
  | .symmetricDifference => .symmDiff

mutual

/-- The set of a class. -/
def classSet? (st : Settings) : ClassTerm → Option CodeSet
  | .empty => some .empty
  | .literal l => (st.classCode? l).map fun code => .range code code
  | .range first last => do some (.range (← st.classCode? first) (← st.classCode? last))
  | .ascii name negated =>
    st.outside? negated (st.fold (.ofText ((asciiClasses.lookup name).getD "")))
  | .property name negated => st.property? name negated
  | .shorthand kind negated => st.outside? negated (st.shorthand kind)
  | .bracketed negated body => do st.outside? negated (st.fold (← st.classSet? body))
  | .union items => st.classSetOfList? items
  | .binary op left right => do
    some (combine op (st.fold (← st.classSet? left)) (st.fold (← st.classSet? right)))

/-- The union of the sets of several classes. -/
def classSetOfList? (st : Settings) : List ClassTerm → Option CodeSet
  | [] => some .empty
  | item :: items => do some ((← st.classSet? item).union (← st.classSetOfList? items))

end

/-- The set of a character that stands by itself. A byte beyond ASCII is no character. -/
def literalSet? (st : Settings) (l : Literal) : Option CodeSet :=
  if !st.unicode && l.byte && 0x80 ≤ l.char.toNat then none else some (st.fold (.single l.char))

/-- The set of the dot. -/
def dotSet? (st : Settings) : Option CodeSet :=
  if !st.unicode then none
  else if st.dotAll then some .full
  else if st.carriageReturn then some (CodeSet.ofText "A D").compl
  else some (CodeSet.ofText "A").compl

/-- The condition that a mark stands for. -/
def look (st : Settings) : Mark → Look
  | .lineStart => if st.multiLine then .lineStart st.carriageReturn else .textStart
  | .lineEnd => if st.multiLine then .lineEnd st.carriageReturn else .textEnd
  | .textStart => .textStart
  | .textEnd => .textEnd
  | .wordBoundary => .words (· != ·) st.unicode
  | .noWordBoundary => .words (· == ·) st.unicode
  | .wordStart => .words (fun left right => !left && right) st.unicode
  | .wordEnd => .words (fun left right => left && !right) st.unicode
  | .wordStartHalf => .words (fun left _ => !left) st.unicode
  | .wordEndHalf => .words (fun _ right => !right) st.unicode

end Settings

namespace Shape

/-- Whether a shape never takes a character. -/
def isZeroWidth : Shape → Bool
  | empty => true
  | set _ => false
  | look _ => true
  | seq first second => first.isZeroWidth && second.isZeroWidth
  | alt left right => left.isZeroWidth && right.isZeroWidth
  | repetition _ high body => high == some 0 || body.isZeroWidth
  | capture body => body.isZeroWidth

/-- One shape and then the other, where the empty shape does not count. -/
def followedBy (first second : Shape) : Shape :=
  match first, second with
  | empty, second => second
  | first, empty => first
  | first, second => seq first second

/-- One shape or the other; a character out of one set or the other is one out of their union. -/
def orElse (left right : Shape) : Shape :=
  match left, right with
  | set s, set t => set (s.union t)
  | left, right => alt left right

/-- A shape several times. What takes no characters is asked for once at most, and a shape that is
asked for never or exactly once is no repetition. -/
def times (low : Nat) (high : Option Nat) (body : Shape) : Shape :=
  let (low, high) :=
    if body.isZeroWidth then (min low 1, some ((high.map (min · 1)).getD 1)) else (low, high)
  if high == some 0 then empty
  else if low == 1 && high == some 1 then body
  else repetition low high body

end Shape

mutual

/-- The shape of a term under settings, and the settings that hold behind it. -/
def Term.shapeUnder? (st : Settings) : Term → Option (Shape × Settings)
  | .empty => some (.empty, st)
  | .settings changes => some (.empty, st.apply changes)
  | .literal l => do some (.set (← st.literalSet? l), st)
  | .dot => do some (.set (← st.dotSet?), st)
  | .mark m => some (.look (st.look m), st)
  | .property name negated => do some (.set (← st.property? name negated), st)
  | .shorthand kind negated => do some (.set (← st.outside? negated (st.shorthand kind)), st)
  | .bracketed negated body => do
    some (.set (← st.outside? negated (st.fold (← st.classSet? body))), st)
  | .repetition low high body => do
    let (shape, st) ← body.shapeUnder? st
    some (.times low high shape, st)
  | .group captures changes body => do
    let (shape, _) ← body.shapeUnder? (st.apply changes)
    some (if captures then .capture shape else shape, st)
  | .alternation branches => Term.alternationUnder? st branches
  | .concat items => Term.concatUnder? st items

/-- The shape of several terms of which one is asked for. -/
def Term.alternationUnder? (st : Settings) : List Term → Option (Shape × Settings)
  | [] => some (.empty, st)
  | [t] => t.shapeUnder? st
  | t :: ts => do
    let (first, st) ← t.shapeUnder? st
    let (rest, st) ← Term.alternationUnder? st ts
    some (first.orElse rest, st)

/-- The shape of several terms behind each other. -/
def Term.concatUnder? (st : Settings) : List Term → Option (Shape × Settings)
  | [] => some (.empty, st)
  | [t] => t.shapeUnder? st
  | t :: ts => do
    let (first, st) ← t.shapeUnder? st
    let (rest, st) ← Term.concatUnder? st ts
    some (first.followedBy rest, st)

end

/-- The shape of an expression. -/
def Term.shape? (t : Term) : Option Shape := (t.shapeUnder? .usual).map (·.1)

end TreePattern.Expression
