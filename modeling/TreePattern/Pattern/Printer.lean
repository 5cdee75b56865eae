import TreePattern.Pattern.Basic
import TreePattern.Text.Quoted

/-!
# Patterns as text

A tag is written as a pair of tags around its nested pattern, a text in quotes and an expression
between slashes. The other constructs stand in braces, behind a mark that tells them apart. Inside
braces a nested pattern is set off by a space, and a continuation follows without a gap.

* `Pattern.render_node`: how a construct is written, with its nested pattern and its continuation.
-/

namespace TreePattern

namespace Construct

/-- What is written before the nested pattern. -/
def opening : Construct → String
  | skipUntil => "\x7b..."
  | repetition => "\x7b*"
  | tag name => "<" ++ name ++ ">"
  | text literal => quote literal
  | regex expression => "/" ++ expression.source ++ "/"
  | scope => "\x7bscope"
  | bind name => "\x7b$" ++ name

/-- What is written behind the nested pattern. -/
def closing : Construct → String
  | tag name => "</" ++ name ++ ">"
  | text _ | regex _ => ""
  | _ => "\x7d"

/-- What sets the nested pattern off. -/
def gap : Construct → String
  | tag _ => ""
  | _ => " "

end Construct

namespace Pattern

/-- Writes a pattern behind a text. -/
def renderOnto : Pattern → String → String
  | absent, written => written
  | node construct child next, written =>
    let opened := written ++ construct.opening
    let nested := if child.isAbsent then opened else renderOnto child (opened ++ construct.gap)
    renderOnto next (nested ++ construct.closing)

/-- A pattern as text. -/
def render (p : Pattern) : String := p.renderOnto ""

/-! ### What is written -/

theorem renderOnto_eq_append (p : Pattern) (written : String) :
    p.renderOnto written = written ++ p.render := by
  induction p generalizing written with
  | absent => simp [renderOnto, render]
  | node construct child next ihc ihn =>
    unfold render renderOnto
    rw [ihn, ihn ((if child.isAbsent = true then _ else _) ++ _)]
    cases child.isAbsent
    · simp only [Bool.false_eq_true, if_false]
      rw [ihc, ihc ("" ++ _ ++ _)]
      simp [String.append_assoc]
    · simp [String.append_assoc]

@[simp] theorem render_absent : absent.render = "" := rfl

/-- How a construct is written, with its nested pattern and its continuation. -/
theorem render_node (construct : Construct) (child next : Pattern) :
    (node construct child next).render =
      construct.opening ++ (if child.isAbsent then "" else construct.gap ++ child.render) ++
        construct.closing ++ next.render := by
  rw [render, renderOnto, renderOnto_eq_append next]
  cases child.isAbsent
  · simp only [Bool.false_eq_true, if_false]
    rw [renderOnto_eq_append child]
    simp [String.append_assoc]
  · simp

end Pattern

end TreePattern
