import Mathlib.Data.List.Forall2
import TypeSchema.Proofs.TypeScript.Template
import TypeSchema.TypeScript.Source

/-!
Template literal types, cut at their holes. The text between two holes becomes the text after the
first of them, its escapes resolved, in whatever pieces the grammar gives it.
-/

namespace TypeSchema.TypeScript

open Text

/-- Text without a backtick and without the start of a hole, escaped or not. -/
structure Template.Unbroken (text : List Char) : Prop where
  noBacktick : '\x60' ∉ text
  noHole : ¬ ['$', '{'] <:+: text

/-- A hole, and the text after it up to the next hole or to the end. -/
structure Interpolation where
  /-- What is written between the braces. -/
  written : List Char
  type : TypeTree
  after : List Char
  /-- The text after the hole, as it is cut. -/
  cut : List TemplatePiece

namespace Interpolation

def source (hole : Interpolation) : List Char :=
  '$' :: '{' :: hole.written ++ '}' :: hole.after

def pieces (hole : Interpolation) : List TemplatePiece :=
  .hole hole.type :: hole.cut

/-- A span that has the type of a hole and the text after it. -/
structure Becomes (hole : Interpolation) (span : TemplateSpan) : Prop where
  type : hole.type.lower = .ok span.type
  literal : span.literal = String.ofList (unescape hole.after)

end Interpolation

namespace Template

theorem Unbroken.part {text part : List Char} (unbroken : Unbroken text) (inside : part <:+: text) :
    Unbroken part where
  noBacktick listed := unbroken.noBacktick (inside.subset listed)
  noHole opens := unbroken.noHole (opens.trans inside)

theorem Unbroken.isPlain {text : List Char} (unbroken : Unbroken text) : isPlain text = true := by
  refine (isPlain_iff text).mpr ⟨fun backtick => ?_, fun hole => ?_⟩
  · exact unbroken.noBacktick (backtick.isInfix.subset List.mem_cons_self)
  · exact unbroken.noHole hole.isInfix

/-- The source text of a template literal type. -/
def source (head : List Char) (holes : List Interpolation) : List Char :=
  '\x60' :: (head ++ holes.flatMap Interpolation.source) ++ ['\x60']

end Template

namespace TemplatePiece

open Template

end TemplatePiece

end TypeSchema.TypeScript
