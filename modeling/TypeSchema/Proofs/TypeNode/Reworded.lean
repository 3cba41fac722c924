import Mathlib.Data.List.Forall2
import TypeSchema.GenerateError
import TypeSchema.TypeNode

/-!
Types, declarations and errors that are the same up to texts that are quoted from a source: the names
of types, the texts of numbers, and the source texts in errors.
-/

namespace TypeSchema

variable (texts : String → String → Prop)

mutual

inductive TypeNode.Reworded : TypeNode → TypeNode → Prop
  | primitive (keyword : Primitive) : TypeNode.Reworded (.primitive keyword) (.primitive keyword)
  | string (value : String) :
      TypeNode.Reworded (.literal (.string value)) (.literal (.string value))
  | number {first second : String} : texts first second →
      TypeNode.Reworded (.literal (.number first)) (.literal (.number second))
  | boolean (value : Bool) :
      TypeNode.Reworded (.literal (.boolean value)) (.literal (.boolean value))
  | reference {first second : String} : texts first second →
      TypeNode.Reworded (.reference first) (.reference second)
  | array {first second : TypeNode} : TypeNode.Reworded first second →
      TypeNode.Reworded (.array first) (.array second)
  | tuple {first second : List TypeNode} : List.Forall₂ TypeNode.Reworded first second →
      TypeNode.Reworded (.tuple first) (.tuple second)
  | object {first second : List Member} {signature other : Option IndexSignature} :
      List.Forall₂ Member.Reworded first second → Option.Rel IndexSignature.Reworded signature other →
        TypeNode.Reworded (.object ⟨first, signature⟩) (.object ⟨second, other⟩)
  | union {first second : List TypeNode} : List.Forall₂ TypeNode.Reworded first second →
      TypeNode.Reworded (.union first) (.union second)
  | intersection {first second : List TypeNode} : List.Forall₂ TypeNode.Reworded first second →
      TypeNode.Reworded (.intersection first) (.intersection second)
  | generic {name other : String} {first second : List TypeNode} : texts name other →
      List.Forall₂ TypeNode.Reworded first second →
        TypeNode.Reworded (.generic name first) (.generic other second)
  | template (head : String) {first second : List TemplateSpan} :
      List.Forall₂ TemplateSpan.Reworded first second →
        TypeNode.Reworded (.template ⟨head, first⟩) (.template ⟨head, second⟩)
  | parenthesized {first second : TypeNode} : TypeNode.Reworded first second →
      TypeNode.Reworded (.parenthesized first) (.parenthesized second)

inductive Member.Reworded : Member → Member → Prop
  | mk (key : String) (optional : Bool) {first second : TypeNode} (comment : Option String)
      (directives : List Directive) : TypeNode.Reworded first second →
        Member.Reworded ⟨key, optional, first, comment, directives⟩
          ⟨key, optional, second, comment, directives⟩

inductive IndexSignature.Reworded : IndexSignature → IndexSignature → Prop
  | mk {key other first second : TypeNode} : TypeNode.Reworded key other →
      TypeNode.Reworded first second → IndexSignature.Reworded ⟨key, first⟩ ⟨other, second⟩

inductive TemplateSpan.Reworded : TemplateSpan → TemplateSpan → Prop
  | mk {first second : TypeNode} (literal : String) : TypeNode.Reworded first second →
      TemplateSpan.Reworded ⟨first, literal⟩ ⟨second, literal⟩

end

inductive Declaration.Reworded : Declaration → Declaration → Prop
  | mk (name : String) {first second : TypeNode} : TypeNode.Reworded texts first second →
      Declaration.Reworded ⟨name, first⟩ ⟨name, second⟩

/-- The errors in which a source text stands may have another; all others are the same. -/
inductive GenerateError.Reworded : GenerateError → GenerateError → Prop
  | same (error : GenerateError) : GenerateError.Reworded error error
  | keyword {first second : String} : texts first second →
      GenerateError.Reworded (.unsupported (.keyword first)) (.unsupported (.keyword second))
  | typeForm (form : String) {first second : String} : texts first second →
      GenerateError.Reworded (.unsupported (.typeForm form first))
        (.unsupported (.typeForm form second))
  | computedProperty {first second : String} : texts first second →
      GenerateError.Reworded (.unsupported (.computedProperty first))
        (.unsupported (.computedProperty second))
  | mappedType {first second : String} : texts first second →
      GenerateError.Reworded (.unsupported (.mappedType first)) (.unsupported (.mappedType second))
  | unterminatedTemplate {first second : String} : texts first second →
      GenerateError.Reworded (.unreadable (.unterminatedTemplate first))
        (.unreadable (.unterminatedTemplate second))
  | strayInTemplate {first second : String} : texts first second →
      GenerateError.Reworded (.unreadable (.strayInTemplate first))
        (.unreadable (.strayInTemplate second))

/-- Results that are both values or both errors, the values and the errors being related. -/
inductive Result.Related {ε α : Type} (errors : ε → ε → Prop) (values : α → α → Prop) :
    Except ε α → Except ε α → Prop
  | ok {first second : α} : values first second → Result.Related errors values (.ok first) (.ok second)
  | error {first second : ε} : errors first second →
      Result.Related errors values (.error first) (.error second)

theorem Result.Related.bind {ε α β : Type} {errors : ε → ε → Prop} {values : α → α → Prop}
    {results : β → β → Prop} {first second : Except ε α} {next other : α → Except ε β}
    (related : Result.Related errors values first second)
    (each : ∀ one another, values one another →
      Result.Related errors results (next one) (other another)) :
    Result.Related errors results (first >>= next) (second >>= other) := by
  cases related with
  | ok both => exact each _ _ both
  | error both => exact .error both

end TypeSchema
