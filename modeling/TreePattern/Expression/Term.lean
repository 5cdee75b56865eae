/-!
# Terms of expressions

An expression is a search pattern over text. Its term is its build-up as it was written: what stands
beside what, what is repeated, and which settings hold where. What a character or a class means
depends on the settings in force, so terms keep classes by name.

* `Term.nesting`, `ClassTerm.nesting`: how deep a term nests, which is limited.
-/

namespace TreePattern.Expression

/-- A setting that can be switched on and off inside an expression. -/
inductive Flag where
  /-- Case does not matter. -/
  | ignoreCase
  /-- The line marks stand for the ends of lines. -/
  | multiLine
  /-- The dot stands for every character. -/
  | dotAll
  /-- Greedy repetitions are lazy, and lazy ones greedy. -/
  | swapGreed
  /-- Characters are those of Unicode. -/
  | unicode
  /-- A line may also end in a carriage return. -/
  | carriageReturn
  /-- Blanks and comments in the expression are passed over. -/
  | spaced
  deriving DecidableEq

/-- A condition on a place in the text. -/
inductive Mark where
  /-- Where a line starts, or the text. -/
  | lineStart
  /-- Where a line ends, or the text. -/
  | lineEnd
  /-- Where the text starts. -/
  | textStart
  /-- Where the text ends. -/
  | textEnd
  /-- Between a word character and another. -/
  | wordBoundary
  /-- Not between a word character and another. -/
  | noWordBoundary
  /-- Where a word starts. -/
  | wordStart
  /-- Where a word ends. -/
  | wordEnd
  /-- Where no word character stands before. -/
  | wordStartHalf
  /-- Where no word character stands behind. -/
  | wordEndHalf
  deriving DecidableEq

/-- A class of characters that has a letter of its own. -/
inductive Shorthand where
  /-- Decimal digits. -/
  | digit
  /-- Blanks. -/
  | space
  /-- Word characters. -/
  | word
  deriving DecidableEq

/-- A property of characters as it is asked for. -/
inductive PropertyName where
  /-- A property, a category or a script. -/
  | plain (name : String)
  /-- The value of a property. -/
  | valued (name value : String)
  deriving DecidableEq

/-- How two classes are combined. -/
inductive ClassOp where
  /-- What is in both. -/
  | intersection
  /-- What is in the first only. -/
  | difference
  /-- What is in exactly one. -/
  | symmetricDifference
  deriving DecidableEq

/-- A character in an expression; `byte` tells that it was written as a byte, by two digits. -/
structure Literal where
  /-- The character. -/
  char : Char
  /-- Whether it was written as a byte. -/
  byte : Bool
  deriving DecidableEq

/-- What stands between the brackets of a class. -/
inductive ClassTerm where
  /-- Nothing. -/
  | empty
  /-- A character. -/
  | literal (l : Literal)
  /-- The characters from one to another. -/
  | range (first last : Literal)
  /-- A named class of ASCII characters, or the characters outside it. -/
  | ascii (name : String) (negated : Bool)
  /-- The characters with a property, or without it. -/
  | property (name : PropertyName) (negated : Bool)
  /-- A class that has a letter, or the characters outside it. -/
  | shorthand (kind : Shorthand) (negated : Bool)
  /-- A class in brackets inside the class. -/
  | bracketed (negated : Bool) (body : ClassTerm)
  /-- Several items beside each other. -/
  | union (items : List ClassTerm)
  /-- Two classes combined. -/
  | binary (op : ClassOp) (left right : ClassTerm)

/-- An expression as it was written. -/
inductive Term where
  /-- Nothing. -/
  | empty
  /-- Settings for what follows, each with its new value. -/
  | settings (changes : List (Flag × Bool))
  /-- A character. -/
  | literal (l : Literal)
  /-- Any character, but perhaps not the end of a line. -/
  | dot
  /-- A condition on the place. -/
  | mark (m : Mark)
  /-- A character with a property, or without it. -/
  | property (name : PropertyName) (negated : Bool)
  /-- A character of a class that has a letter, or outside it. -/
  | shorthand (kind : Shorthand) (negated : Bool)
  /-- A character of a class in brackets, or outside it. -/
  | bracketed (negated : Bool) (body : ClassTerm)
  /-- A term several times, at least `low` times and at most `high` times. -/
  | repetition (low : Nat) (high : Option Nat) (body : Term)
  /-- A term in parentheses, with settings of its own. -/
  | group (captures : Bool) (changes : List (Flag × Bool)) (body : Term)
  /-- One of several terms. -/
  | alternation (branches : List Term)
  /-- Several terms behind each other. -/
  | concat (items : List Term)

/-! ### Depth of nesting -/

mutual

/-- How deep a class nests. -/
def ClassTerm.nesting : ClassTerm → Nat
  | .bracketed _ body => body.nesting + 1
  | .union items => ClassTerm.nestingOfList items + 1
  | .binary _ left right => max left.nesting right.nesting + 1
  | _ => 0

/-- How deep the deepest of several classes nests. -/
def ClassTerm.nestingOfList : List ClassTerm → Nat
  | [] => 0
  | item :: items => max item.nesting (ClassTerm.nestingOfList items)

end

mutual

/-- How deep a term nests. -/
def Term.nesting : Term → Nat
  | .bracketed _ body => body.nesting + 1
  | .repetition _ _ body => body.nesting + 1
  | .group _ _ body => body.nesting + 1
  | .alternation branches => Term.nestingOfList branches + 1
  | .concat items => Term.nestingOfList items + 1
  | _ => 0

/-- How deep the deepest of several terms nests. -/
def Term.nestingOfList : List Term → Nat
  | [] => 0
  | item :: items => max item.nesting (Term.nestingOfList items)

end

/-- How deep a term may nest. -/
def nestingLimit : Nat := 250

end TreePattern.Expression
