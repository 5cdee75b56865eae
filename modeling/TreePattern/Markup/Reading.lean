import TreePattern.Document.Builder
import TreePattern.Markup.Token
import TreePattern.Text.Blank

/-!
# Reading documents from markup

A document is read token by token. A start tag opens an element, and only the tag that ends the
innermost open element may close it; blank texts are left out. Where markup cannot be read, the
error says at which byte: at the token that is none, at the closing tag that closes nothing, or at
the end when elements are still open.

* `Document.ofMarkup`: the document that markup stands for.
* `Document.ofBodyMarkup`: the same as the body of a page.
-/

namespace TreePattern

/-- Why markup cannot be read. -/
inductive MarkupError where
  /-- The markup goes wrong at this byte. -/
  | unreadable (offset : Nat)
  deriving DecidableEq

/-- What is said about markup that cannot be read. -/
def MarkupError.message : MarkupError → String
  | unreadable offset => "markup syntax error at byte " ++ toString offset

namespace Document

/-- Reads markup onto a builder. The names of the elements that the markup has opened and not
closed are at hand, the innermost first. A failure gives back the markup from where it went
wrong. -/
def readOnto (input : List Char) (opened : List String) (b : Builder) :
    Except (List Char) Builder :=
  match input with
  | [] => if opened.isEmpty then .ok b else .error []
  | c :: rest =>
    match _h : Token.read? (c :: rest) with
    | none => .error (c :: rest)
    | some (.start name, rest') => readOnto rest' (name :: opened) (b.enter name)
    | some (.single name, rest') => readOnto rest' opened (b.enter name).leave
    | some (.stop name, rest') =>
      match opened with
      | [] => .error (c :: rest)
      | innermost :: around =>
        if innermost = name then readOnto rest' around b.leave else .error (c :: rest)
    | some (.text text, rest') =>
      readOnto rest' opened (if isBlankText text.toList then b else b.text text)
termination_by input.length
decreasing_by all_goals exact Token.length_lt_of_read? ‹_›

/-- The length of a text in bytes of its UTF-8 form. -/
def byteLength (text : List Char) : Nat := (String.ofList text).utf8ByteSize

/-- Reads markup onto a builder and tells an error by its place in the markup. -/
def readMarkup (markup : String) (b : Builder) : Except MarkupError Builder :=
  match readOnto markup.toList [] b with
  | .ok b => .ok b
  | .error rest => .error (.unreadable (markup.utf8ByteSize - byteLength rest))

/-- The document that markup stands for. -/
def ofMarkup (markup : String) : Except MarkupError Document :=
  (readMarkup markup .new).map Builder.finish

/-- The document of a page whose body is the markup: `html` around `body` around its content. The
markup cannot close these two. -/
def ofBodyMarkup (markup : String) : Except MarkupError Document :=
  (readMarkup markup ((Builder.new.enter "html").enter "body")).map fun b => b.leave.leave.finish

end Document

end TreePattern
