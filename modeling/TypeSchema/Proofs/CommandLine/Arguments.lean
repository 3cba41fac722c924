import TypeSchema.CommandLine.Request
import TypeSchema.Proofs.Result

/-!
What an accepted command line says. The arguments spell items, each in one of the ways in which it may
be written, and the command holds what the items say: one path of a source, and each option once at
most. The proof takes one item at a time, with what has been read before it.
-/

namespace TypeSchema.CommandLine

open Result

/-- What stands on a command line. -/
inductive Item where
  /-- The path of a source. -/
  | input (path : String)
  | setting (setting : Setting) (value : String)
  | switch (switch : Switch)
deriving DecidableEq

def Setting.name : Setting → String
  | output => "output"
  | library => "alias"
  | config => "config"
  | format => "format"

def Switch.name : Switch → String
  | strict => "strict"
  | noExport => "no-export"

namespace Item

/-- The ways in which an item is written. Only the output has a letter of its own. -/
inductive Spelled : Item → List String → Prop
  | input {path : String} (plain : Arguments.isValue path = true) : Spelled (.input path) [path]
  | switch (switch : Switch) : Spelled (.switch switch) ["--" ++ switch.name]
  | joined (setting : Setting) (value : String) :
      Spelled (.setting setting value) ["--" ++ setting.name ++ "=" ++ value]
  | apart (setting : Setting) {value : String} (plain : Arguments.isValue value = true) :
      Spelled (.setting setting value) ["--" ++ setting.name, value]
  | letter {value : String} (unequal : ∃ c ∈ value.toList.head?, c ≠ '=') :
      Spelled (.setting .output value) ["-o" ++ value]
  | letterJoined (value : String) : Spelled (.setting .output value) ["-o=" ++ value]
  | letterApart {value : String} (plain : Arguments.isValue value = true) :
      Spelled (.setting .output value) ["-o", value]

def input? : Item → Option String
  | input path => some path
  | _ => none

/-- The value that an item gives to an option. -/
def value? (setting : Setting) : Item → Option String
  | .setting given value => if given = setting then some value else none
  | _ => none

end Item

/-- Arguments that spell items in order. After two hyphens no argument is an option. -/
inductive Spells : List Item → List String → Prop
  | nil : Spells [] []
  | cons {item : Item} {items : List Item} {words arguments : List String}
      (spelled : item.Spelled words) (others : Spells items arguments) :
      Spells (item :: items) (words ++ arguments)
  | paths (paths : List String) : Spells (paths.map .input) ("--" :: paths)

/-- Arguments that hold what items say. -/
structure Arguments.Holds (arguments : Arguments) (items : List Item) : Prop where
  input : items.filterMap Item.input? = arguments.input.toList
  output : items.filterMap (Item.value? .output) = arguments.output.toList
  library : items.filterMap (Item.value? .library) = arguments.library.toList
  config : items.filterMap (Item.value? .config) = arguments.config.toList
  format : (items.filterMap (Item.value? .format)).map SourceFormat.ofName? =
    arguments.format.toList.map some
  strict : Item.switch .strict ∈ items ↔ arguments.strict = true
  noExport : Item.switch .noExport ∈ items ↔ arguments.noExport = true

/-- A command that does what items say: the source is the path among them, an option has the value
given or none, and the format is TypeScript if none is given. -/
structure Command.Follows (command : Command) (items : List Item) : Prop where
  input : items.filterMap Item.input? = [command.input]
  output : items.filterMap (Item.value? .output) = command.output.toList
  library : items.filterMap (Item.value? .library) = command.library.toList
  config : items.filterMap (Item.value? .config) = command.config.toList
  format : ∃ format? : Option SourceFormat,
    (items.filterMap (Item.value? .format)).map SourceFormat.ofName? = format?.toList.map some ∧
      command.format = format?.getD .typescript
  strict : Item.switch .strict ∈ items ↔ command.strict = true
  noExport : Item.switch .noExport ∈ items ↔ command.noExport = true

namespace Arguments

variable {arguments next : Arguments} {items : List Item} {command : Command}

def take (arguments : Arguments) : Item → Except UsageFault Arguments
  | .input path => arguments.addInput path
  | .setting setting value => arguments.set setting value
  | .switch switch => arguments.turnOn switch

/-- Taking an item, with nothing wrong with it: its own field is free, and only that is filled. -/
inductive Taken (arguments : Arguments) : Item → Arguments → Prop
  | input (path : String) (free : arguments.input = none) :
      Taken arguments (.input path) { arguments with input := some path }
  | output (value : String) (free : arguments.output = none) :
      Taken arguments (.setting .output value) { arguments with output := some value }
  | library (value : String) (free : arguments.library = none) :
      Taken arguments (.setting .library value) { arguments with library := some value }
  | config (value : String) (free : arguments.config = none) :
      Taken arguments (.setting .config value) { arguments with config := some value }
  | format {name : String} {format : SourceFormat} (known : SourceFormat.ofName? name = some format)
      (free : arguments.format = none) :
      Taken arguments (.setting .format name) { arguments with format := some format }
  | strict : Taken arguments (.switch .strict) { arguments with strict := true }
  | noExport : Taken arguments (.switch .noExport) { arguments with noExport := true }

theorem taken_of_set {setting : Setting} {value : String}
    (taken : arguments.set setting value = .ok next) :
    arguments.Taken (.setting setting value) next := by
  cases setting with
  | output =>
      simp only [set, ite_error_eq_ok_iff, Option.not_isSome_iff_eq_none] at taken
      obtain ⟨-, free, result⟩ := taken
      cases result
      exact .output value free
  | library =>
      simp only [set, ite_error_eq_ok_iff, Option.not_isSome_iff_eq_none] at taken
      obtain ⟨free, result⟩ := taken
      cases result
      exact .library value free
  | config =>
      simp only [set, ite_error_eq_ok_iff, Option.not_isSome_iff_eq_none] at taken
      obtain ⟨-, free, result⟩ := taken
      cases result
      exact .config value free
  | format =>
      simp only [set] at taken
      split at taken
      next => cases taken
      next named known =>
        simp only [ite_error_eq_ok_iff, Option.not_isSome_iff_eq_none] at taken
        obtain ⟨free, result⟩ := taken
        cases result
        exact .format known free

theorem taken_of_take {item : Item} (taken : arguments.take item = .ok next) :
    arguments.Taken item next := by
  cases item with
  | input path =>
      simp only [take, addInput, ite_error_eq_ok_iff, Option.not_isSome_iff_eq_none] at taken
      obtain ⟨free, -, result⟩ := taken
      cases result
      exact .input path free
  | setting setting value => exact taken_of_set taken
  | switch switch =>
      cases switch with
      | strict =>
          obtain ⟨-, result⟩ := ite_error_eq_ok_iff.mp taken
          cases result
          exact .strict
      | noExport =>
          obtain ⟨-, result⟩ := ite_error_eq_ok_iff.mp taken
          cases result
          exact .noExport

theorem holds_nil : Holds {} [] := by
  constructor <;> simp

theorem Holds.take {item : Item} (holds : arguments.Holds items)
    (taken : arguments.take item = .ok next) : next.Holds (items ++ [item]) := by
  obtain ⟨input, output, library, config, format, strict, noExport⟩ := holds
  cases taken_of_take taken <;> constructor <;> simp [*, Item.input?, Item.value?]

theorem Holds.follows (holds : arguments.Holds items)
    (complete : arguments.complete = .ok (.generate command)) : command.Follows items := by
  unfold Arguments.complete at complete
  split at complete
  next => cases complete
  next path given =>
    cases complete
    exact ⟨by rw [holds.input, given]; rfl, holds.output, holds.library, holds.config,
      ⟨arguments.format, holds.format, rfl⟩, holds.strict, holds.noExport⟩

/-! One item in front of the arguments. -/

theorem splitLong_eq {text : List Char} {name : String} {value? : Option String}
    (cut : splitLong text = (name, value?)) :
    text = name.toList ++ value?.elim [] fun value => '=' :: value.toList := by
  unfold splitLong at cut
  have whole := List.takeWhile_append_dropWhile (p := (· != '=')) (l := text)
  have head := List.head?_dropWhile_not (· != '=') text
  cases rest : text.dropWhile (· != '=') with
  | nil =>
      rw [rest] at cut whole
      obtain ⟨rfl, rfl⟩ := Prod.mk.inj cut
      rw [String.toList_ofList]
      exact whole.symm
  | cons c value =>
      rw [rest] at cut whole head
      obtain ⟨rfl, rfl⟩ := Prod.mk.inj cut
      obtain rfl : c = '=' := by simpa using head
      rw [String.toList_ofList, Option.elim, String.toList_ofList]
      exact whole.symm

theorem name_of_ofLong_setting {name : String} {setting : Setting}
    (known : OptionKind.ofLong? name = some (.setting setting)) : name = setting.name := by
  unfold OptionKind.ofLong? at known
  split at known <;> cases known <;> rfl

theorem name_of_ofLong_switch {name : String} {switch : Switch}
    (known : OptionKind.ofLong? name = some (.switch switch)) : name = switch.name := by
  unfold OptionKind.ofLong? at known
  split at known <;> cases known <;> rfl

theorem letter_of_ofShort {c : Char} {setting : Setting}
    (known : OptionKind.ofShort? c = some (.setting setting)) : c = 'o' ∧ setting = .output := by
  unfold OptionKind.ofShort? at known
  split at known <;> cases known
  exact ⟨rfl, rfl⟩

/-- What the reading of arguments starts with, if a command comes of it. -/
inductive Starts (arguments : Arguments) (command : Command) : List String → Prop
  | paths {paths : List String} {next : Arguments} (taken : arguments.addInputs paths = .ok next)
      (complete : next.complete = .ok (.generate command)) :
      Starts arguments command ("--" :: paths)
  | item {item : Item} {words others : List String} {next : Arguments}
      (spelled : item.Spelled words) (taken : arguments.take item = .ok next)
      (read : next.read others = .ok (.generate command)) :
      Starts arguments command (words ++ others)

theorem long_eq {argument : String} {long : List Char} {name : String} {value? : Option String}
    (dashes : argument.toList = '-' :: '-' :: long) (cut : splitLong long = (name, value?)) :
    argument = "--" ++ name ++ value?.elim "" ("=" ++ ·) := by
  apply String.toList_inj.mp
  rw [dashes, splitLong_eq cut]
  cases value? <;> simp

/-- The value of an option that stands in an argument of its own. -/
theorem starts_of_value {setting : Setting} {argument value : String} {others : List String}
    (spelled : isValue value = true → (Item.setting setting value).Spelled [argument, value])
    (accepted : (if isValue value = true then do (← arguments.set setting value).read others
      else Except.error (.missingValue setting.usage)) = .ok (.generate command)) :
    arguments.Starts command (argument :: value :: others) := by
  split at accepted
  next plain =>
    obtain ⟨next, taken, read⟩ := bind_eq_ok_iff.mp accepted
    exact .item (spelled plain) taken read
  next => cases accepted

theorem eq_nil_of_attachedValue {text : List Char} (unattached : attachedValue? text = none) :
    text = [] := by
  unfold attachedValue? at unattached
  split at unattached
  next => rfl
  next => cases unattached
  next => cases unattached

/-- The value of an option that stands right after its letter. -/
theorem spelled_letter {argument value : String} {text : List Char}
    (dash : argument.toList = '-' :: 'o' :: text) (attached : attachedValue? text = some value) :
    (Item.setting .output value).Spelled [argument] := by
  have written : argument = "-o" ++ String.ofList text := by
    apply String.toList_inj.mp
    rw [dash]
    simp
  rw [written]
  cases text with
  | nil => cases attached
  | cons c rest =>
      by_cases equals : c = '='
      · subst equals
        obtain rfl : String.ofList rest = value := Option.some.inj attached
        rw [String.ofList_cons, ← String.append_assoc]
        exact .letterJoined _
      · have value_eq : String.ofList (c :: rest) = value := by
          unfold attachedValue? at attached
          split at attached
          next => cases attached
          next same => exact absurd (List.cons.inj same).1 equals
          next => exact Option.some.inj attached
        rw [value_eq]
        exact .letter ⟨c, by rw [← value_eq, String.toList_ofList]; rfl, equals⟩

theorem isValue_of_plain {argument : String}
    (plain : ∀ c text, argument.toList ≠ '-' :: c :: text) : isValue argument = true := by
  unfold isValue
  cases shape : argument.toList with
  | nil => rfl
  | cons c rest =>
      by_cases dash : c = '-'
      · cases rest with
        | nil =>
            have hyphen : argument = "-" := String.toList_inj.mp (by rw [shape, dash]; rfl)
            rw [hyphen, beq_self_eq_true, Bool.or_true]
        | cons d more => exact absurd (dash ▸ shape) (plain d more)
      · simp [dash]

variable {argument : String} {others : List String}

theorem starts_of_long {long : List Char} (dashes : argument.toList = '-' :: '-' :: long)
    (notAlone : long ≠ [])
    (accepted : arguments.read (argument :: others) = .ok (.generate command)) :
    arguments.Starts command (argument :: others) := by
  obtain ⟨name, value?, cut⟩ : ∃ name value?, splitLong long = (name, value?) := ⟨_, _, rfl⟩
  have written := long_eq dashes cut
  obtain ⟨d, more, rfl⟩ := List.exists_cons_of_ne_nil notAlone
  simp only [read, dashes, cut] at accepted
  split at accepted
  next => cases accepted
  next setting value known =>
    obtain ⟨next, taken, read⟩ := bind_eq_ok_iff.mp accepted
    rw [name_of_ofLong_setting known, Option.elim, ← String.append_assoc] at written
    rw [written]
    exact .item (.joined setting value) taken read
  next setting known =>
    rw [name_of_ofLong_setting known, Option.elim, String.append_empty] at written
    rw [written]
    split at accepted
    next => cases accepted
    next value others => exact starts_of_value (.apart setting) accepted
  next => cases accepted
  next switch known =>
    obtain ⟨next, taken, read⟩ := bind_eq_ok_iff.mp accepted
    rw [name_of_ofLong_switch known, Option.elim, String.append_empty] at written
    rw [written]
    exact .item (.switch switch) taken read
  next => cases accepted
  next => cases accepted

theorem starts_of_short {c : Char} {text : List Char} (dash : argument.toList = '-' :: c :: text)
    (notLong : c ≠ '-')
    (accepted : arguments.read (argument :: others) = .ok (.generate command)) :
    arguments.Starts command (argument :: others) := by
  rw [read, dash] at accepted
  split at accepted
  next alone => exact absurd (List.cons.inj (List.cons.inj alone).2).1 notLong
  next long _ same => exact absurd (List.cons.inj (List.cons.inj same).2).1 notLong
  next same =>
    obtain ⟨rfl, rfl⟩ := List.cons.inj (List.cons.inj same).2
    split at accepted
    next setting known =>
      obtain ⟨rfl, rfl⟩ := letter_of_ofShort known
      split at accepted
      next value attached =>
        obtain ⟨next, taken, read⟩ := bind_eq_ok_iff.mp accepted
        exact .item (spelled_letter dash attached) taken read
      next => cases accepted
      next value others unattached =>
        have letter : argument = "-o" := by
          apply String.toList_inj.mp
          rw [dash, eq_nil_of_attachedValue unattached]
          rfl
        rw [letter]
        exact starts_of_value .letterApart accepted
    next => cases accepted
    next => cases accepted
    next => cases accepted
  next plain => exact absurd rfl (plain c text)

theorem starts_of_read
    (accepted : arguments.read (argument :: others) = .ok (.generate command)) :
    arguments.Starts command (argument :: others) := by
  have whole := accepted
  rw [read] at accepted
  split at accepted
  next hyphens =>
    obtain ⟨next, taken, complete⟩ := bind_eq_ok_iff.mp accepted
    obtain rfl : argument = "--" := String.toList_inj.mp hyphens
    exact .paths taken complete
  next long notAlone dashes => exact starts_of_long dashes notAlone whole
  next c text notAlone notLong dash =>
    exact starts_of_short dash notLong whole
  next notAlone notLong notShort =>
    obtain ⟨next, taken, read⟩ := bind_eq_ok_iff.mp accepted
    have plain : isValue argument = true := isValue_of_plain notShort
    change arguments.Starts command ([argument] ++ others)
    exact .item (.input plain) taken read

theorem Holds.takeAll {paths : List String} (holds : arguments.Holds items)
    (taken : arguments.addInputs paths = .ok next) : next.Holds (items ++ paths.map .input) := by
  induction paths generalizing arguments items with
  | nil =>
      cases taken
      rwa [List.map_nil, List.append_nil]
  | cons path paths induction =>
      obtain ⟨middle, first, rest⟩ := bind_eq_ok_iff.mp taken
      have one : arguments.take (.input path) = .ok middle := first
      have all := induction (holds.take one) rest
      rwa [List.append_assoc] at all

theorem length_pos_of_spelled {item : Item} {words : List String} (spelled : item.Spelled words) :
    0 < words.length := by
  cases spelled <;> exact Nat.succ_pos _

/-- A command that comes of arguments, when items have been taken before them. -/
theorem Holds.spells {written : List String} (holds : arguments.Holds items)
    (accepted : arguments.read written = .ok (.generate command)) :
    ∃ more, Spells more written ∧ command.Follows (items ++ more) := by
  -- An item may take more than one argument, so the induction is on how many are left.
  induction left : written.length using Nat.strongRecOn generalizing written arguments items with
  | ind count induction =>
      subst left
      cases written with
      | nil =>
          rw [read] at accepted
          exact ⟨[], .nil, by rw [List.append_nil]; exact holds.follows accepted⟩
      | cons argument others =>
          have starts := starts_of_read accepted
          generalize argument :: others = written at starts induction ⊢
          cases starts with
          | paths taken complete =>
              exact ⟨_, .paths _, (holds.takeAll taken).follows complete⟩
          | @item item words others next spelled taken read =>
              have shorter : others.length < (words ++ others).length := by
                have positive := length_pos_of_spelled spelled
                rw [List.length_append]
                omega
              obtain ⟨more, spells, follows⟩ :=
                induction others.length shorter (holds.take taken) read rfl
              refine ⟨item :: more, .cons spelled spells, ?_⟩
              rwa [List.append_assoc] at follows

end Arguments

/-- The arguments of a command spell items in order, and the command does what they say. -/
theorem Request.spells {arguments : List String} {command : Command}
    (accepted : Request.ofArguments arguments = .ok (.generate command)) :
    ∃ items, Spells items arguments ∧ command.Follows items :=
  Arguments.holds_nil.spells accepted

end TypeSchema.CommandLine
