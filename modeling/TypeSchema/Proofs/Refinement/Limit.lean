import TypeSchema.Proofs.Text.NumericLiteral
import TypeSchema.Proofs.Text.Word
import TypeSchema.Refinement
import TypeSchema.Schema.Render

/-!
Bounds on numbers. The main statements tell which arguments set one, and which of the numbers that are
written then are numeric literals: they are written as they were given, so that a zero too many stays.
-/

namespace TypeSchema

/-- The directives that set a bound on a number. -/
inductive Limit where
  | least
  | most

namespace Limit

open Text

def tag : Limit → String
  | least => "minimum"
  | most => "maximum"

def method : Limit → String
  | least => "min"
  | most => "max"

/-- The call that a bound adds, with the number as it is given. -/
def call (limit : Limit) (number : List Char) : Call :=
  ⟨limit.method, [.number (String.ofList number)]⟩

theorem refinement_eq (limit : Limit) (argument : String) :
    Directive.refinement? ⟨limit.tag, argument⟩ =
      if isFiniteNumeral (trim argument.toList) then some (limit.call (trim argument.toList))
      else none := by
  cases limit <;> rfl

theorem write_call (limit : Limit) (number library : List Char) (level : Nat) :
    (limit.call number).write library level = limit.method.toList ++ '(' :: number ++ [')'] := by
  rw [call, Call.write, Call.writeArguments, Argument.write, String.toList_ofList]

theorem isNumeralChar_ascii {c : Char} (numeral : isNumeralChar c = true) : c.toNat < 128 := by
  simp only [isNumeralChar, Bool.or_eq_true, decide_eq_true_eq, List.mem_cons, List.not_mem_nil,
    or_false] at numeral
  rcases numeral with digit | rfl | rfl | rfl | rfl | rfl
  · exact (Char.isDigit_iff_toNat.mp digit).2.trans_lt (by decide)
  all_goals decide

/-- The names of what is no finite number are no numerals, in whatever case they are written. -/
theorem isFiniteNumeral_name (sign : Sign) {name : List Char}
    (named : String.ofList (name.map Char.toLower) ∈ ["inf", "infinity", "nan"]) :
    isFiniteNumeral (sign.text ++ name) = false := by
  refine Bool.eq_false_iff.mpr fun finite => ?_
  have numeral := (List.forall_mem_append.mp (isFiniteNumeral_chars finite)).2
  cases name with
  | nil => revert named; decide
  | cons c rest =>
      have isNumeral := numeral c List.mem_cons_self
      -- the first letter is enough
      have small : c.toLower ∉ ['i', 'n'] :=
        ascii_forall (p := fun c => isNumeralChar c = true → c.toLower ∉ ['i', 'n'])
          (by decide +kernel) (isNumeralChar_ascii isNumeral) isNumeral
      have first : (c.toLower :: rest.map Char.toLower).head? ∈ [some 'i', some 'n'] := by
        simp only [List.mem_cons, List.not_mem_nil, or_false, ← String.toList_inj, String.toList_ofList,
          List.map_cons] at named
        rcases named with same | same | same <;> rw [same] <;> decide
      exact small (by simpa using first)

/-- A directive sets a bound exactly if its argument, white space around it aside, is a decimal numeral
whose number does not round to infinity, and the bound is that numeral as it is. -/
theorem refinement_eq_some_iff (limit : Limit) (argument : String) :
    (∀ call, Directive.refinement? ⟨limit.tag, argument⟩ = some call ↔
      (∃ numeral : Numeral, numeral.text = trim argument.toList ∧
        |numeral.value| < 2 ^ 1024 - 2 ^ 970) ∧
      call = limit.call (trim argument.toList)) ∧
    ∀ sign : Sign, ∀ name : List Char, trim argument.toList = sign.text ++ name →
      String.ofList (name.map Char.toLower) ∈ ["inf", "infinity", "nan"] →
      Directive.refinement? ⟨limit.tag, argument⟩ = none := by
  rw [refinement_eq]
  refine ⟨fun call => ?_, fun sign name written named => ?_⟩
  · rw [Option.ite_none_right_eq_some, isFiniteNumeral_iff, Option.some.injEq, eq_comm (a := call)]
  · rw [written, if_neg (Bool.eq_false_iff.mp (isFiniteNumeral_name sign named))]

/-- What is written for a bound stands for the number of the argument, and it is a numeric literal of
strict code exactly if the argument does not start with a zero too many. -/
theorem write_isLiteral_iff (limit : Limit) {argument : String} {call : Call}
    (adds : Directive.refinement? ⟨limit.tag, argument⟩ = some call) :
    ∃ numeral : Numeral, numeral.text = trim argument.toList ∧
      (∀ library level,
        call.write library level = limit.method.toList ++ '(' :: numeral.text ++ [')']) ∧
      ∀ value, SignedLiteral numeral.text value ↔
        value = numeral.value ∧ NumericLiteral.padded numeral.whole = false := by
  rw [refinement_eq] at adds
  obtain ⟨finite, made⟩ := Option.ite_none_right_eq_some.mp adds
  cases made
  obtain ⟨numeral, written, -⟩ := isFiniteNumeral_iff.mp finite
  refine ⟨numeral, written, ?_, signedLiteral_iff numeral⟩
  rw [written]
  exact limit.write_call _

/-- A zero before the point, and one at the end. -/
theorem write_isLiteral_half :
    ∃ call, Directive.refinement? ⟨Limit.most.tag, " -0.50e+1"⟩ = some call ∧
      call.write ['z'] 0 = "max(-0.50e+1)".toList ∧ SignedLiteral "-0.50e+1".toList (-5) := by
  have adds : Directive.refinement? ⟨Limit.most.tag, " -0.50e+1"⟩ =
      some (Limit.most.call "-0.50e+1".toList) := by rfl
  obtain ⟨numeral, text, written, isLiteral⟩ := Limit.most.write_isLiteral_iff adds
  have trimmed : trim " -0.50e+1".toList = "-0.50e+1".toList := by decide
  rw [trimmed] at text
  have parts : some numeral.parts = some ⟨true, ['0'], ['5', '0'], 1⟩ := by
    rw [← numeral.readDecimal_text, text]
    rfl
  have whole : numeral.whole = ['0'] := congrArg Decimal.whole (Option.some.inj parts)
  have value : numeral.value = -5 := by
    rw [← numeral.value_parts, Option.some.inj parts]
    have significand : Decimal.significand ⟨true, ['0'], ['5', '0'], 1⟩ = 50 := by rfl
    rw [Decimal.value, Decimal.size, significand]
    norm_num [Decimal.scale]
  rw [text] at written isLiteral
  refine ⟨_, adds, written ['z'] 0, (isLiteral (-5)).mpr ⟨value.symm, ?_⟩⟩
  rw [whole]
  rfl

/-- Two zeros too many. -/
theorem write_padded :
    ∃ call, Directive.refinement? ⟨Limit.least.tag, "007"⟩ = some call ∧
      call.write ['z'] 0 = "min(007)".toList ∧ ¬∃ value, SignedLiteral "007".toList value := by
  refine ⟨Limit.least.call "007".toList, rfl, rfl, ?_⟩
  rintro ⟨value, isLiteral⟩
  have digits : "007".toList.all Char.isDigit = true := by decide
  let numeral : Numeral :=
    ⟨.absent, "007".toList, none, none, List.all_eq_true.mp digits, List.forall_mem_nil _,
      .inl (by decide)⟩
  have unpadded := ((signedLiteral_iff numeral value).mp isLiteral).2
  cases unpadded

end Limit

end TypeSchema
