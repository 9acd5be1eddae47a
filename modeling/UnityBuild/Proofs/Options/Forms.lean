import UnityBuild.Config

/-!
# Options in all their forms

An option and its value can be written in five forms: in one argument or in two, short or long. In
one argument, equality signs in front of a value would be lost; in two, a value must not look like
an option. Where a form can write a value, reading the arguments adds one occurrence of the option
with just this value, whatever the value says, and leaves nothing open for the arguments that
follow.

So the arguments of any number of items are read into their values, sorted by option and in order.
If no option and no flag was given twice, these are the options, in whatever order they were given.
If one was, nothing is read.
-/

namespace UnityBuild

namespace Options

/-- The forms of an option with its value. -/
inductive Form where
  /-- One letter and the value behind it. -/
  | joined
  /-- One letter, an equality sign and the value behind it. -/
  | equated
  /-- One letter, and the value in the next argument. -/
  | apart
  /-- The name, an equality sign and the value behind it. -/
  | longEquated
  /-- The name, and the value in the next argument. -/
  | longApart
  deriving DecidableEq, Repr

namespace Form

def arguments (form : Form) (setting : Setting) (value : String) : List String :=
  match form with
  | joined => [String.ofList ('-' :: setting.short :: value.toList)]
  | equated => [String.ofList ('-' :: setting.short :: '=' :: value.toList)]
  | apart => [String.ofList ['-', setting.short], value]
  | longEquated => [String.ofList ('-' :: '-' :: (setting.long.toList ++ '=' :: value.toList))]
  | longApart => [String.ofList ('-' :: '-' :: setting.long.toList), value]

/-- The values that a form can write, so that it is this value that is read back. An equality sign
behind the letter, or a dash in front of the next argument, would be taken for something else. -/
def Admits (form : Form) (value : String) : Prop :=
  match form with
  | joined => value ≠ "" ∧ value.toList.head? ≠ some '='
  | equated | longEquated => value.toList.head? ≠ some '='
  | apart | longApart => value = "-" ∨ value.toList.head? ≠ some '-'

instance (form : Form) (value : String) : Decidable (form.Admits value) :=
  match form with
  | joined => inferInstanceAs (Decidable (_ ∧ _))
  | equated | longEquated => inferInstanceAs (Decidable (_ ≠ _))
  | apart | longApart => inferInstanceAs (Decidable (_ ∨ _))

end Form

/-- An option with its value in some form, or the flag. -/
inductive Item where
  | option (setting : Setting) (form : Form) (value : String)
  | flag
  deriving DecidableEq, Repr

namespace Item

def arguments : Item → List String
  | option setting form value => form.arguments setting value
  | flag => [String.ofList ('-' :: '-' :: selfTestFlag.toList)]

def IsWritable : Item → Prop
  | option _ form value => form.Admits value
  | flag => True

instance : (item : Item) → Decidable item.IsWritable
  | option _ form value => inferInstanceAs (Decidable (form.Admits value))
  | flag => isTrue trivial

/-- The value that is given to an option. -/
def valueFor? (setting : Setting) : Item → Option String
  | option other _ value => if other = setting then some value else none
  | flag => none

end Item

/-- The values that items give to an option, in their order. -/
def valuesFor (setting : Setting) (items : List Item) : List String :=
  items.filterMap (Item.valueFor? setting)

def get? (options : Options) : Setting → Option String
  | .input => options.input
  | .root => options.root
  | .output => options.output

/-- The items give what the options hold, each once, in any order and in any forms. -/
structure IsListedBy (options : Options) (items : List Item) : Prop where
  values : ∀ setting, valuesFor setting items = (options.get? setting).toList
  flags : items.count .flag = options.selfTest.toNat

end Options

namespace Scan

open Options (Form Item valuesFor)

variable {scan next : Scan} {setting : Setting} {value argument : String} {items : List Item}

/-- Adds an item to what was read. Nothing is left open behind it. -/
def add (scan : Scan) : Item → Scan
  | .option setting _ value =>
    { scan with
      given := fun other =>
        if other = setting then
          ⟨(scan.given setting).count + 1, (scan.given setting).values ++ [value]⟩
        else scan.given other
      pending := none }
  | .flag => { scan with selfTests := scan.selfTests + 1, pending := none }

/-- An option whose value is the next argument is one with that value. -/
theorem supply_meet (scan : Scan) (setting : Setting) (value : String) :
    (scan.meet setting none).supply setting value = scan.meet setting (some value) := by
  simp only [meet, supply, Option.toList_none, Option.toList_some, List.append_nil, if_true,
    Option.isSome_some, mk.injEq, and_true]
  funext other
  by_cases same : other = setting <;> simp [same]

theorem attached_of_head (plain : value.toList.head? ≠ some '=') :
    attached value.toList = value := by
  have kept : value.toList.dropWhile (· == '=') = value.toList := by
    cases letters : value.toList with
    | nil => rfl
    | cons first rest =>
      refine List.dropWhile_cons_of_neg ?_
      simpa [letters] using plain
  rw [attached, kept, String.ofList_toList]

theorem step_letter (scan : Scan) (setting : Setting) (rest : List Char) :
    scan.step (String.ofList ('-' :: setting.short :: rest)) =
      .ok (scan.meet setting (if rest.isEmpty then none else some (attached rest))) := by
  rw [step, String.toList_ofList]
  cases setting <;> rfl

theorem step_name (scan : Scan) (setting : Setting) :
    scan.step (String.ofList ('-' :: '-' :: setting.long.toList)) =
      .ok (scan.meet setting none) := by
  rw [step, String.toList_ofList]
  cases setting <;> rfl

theorem step_name_equality (scan : Scan) (setting : Setting) (text : List Char) :
    scan.step (String.ofList ('-' :: '-' :: (setting.long.toList ++ '=' :: text))) =
      .ok (scan.meet setting (some (attached text))) := by
  rw [step, String.toList_ofList]
  cases setting <;> rfl

theorem step_flag (scan : Scan) :
    scan.step (String.ofList ('-' :: '-' :: selfTestFlag.toList)) = .ok (scan.add .flag) := by
  rw [step, String.toList_ofList]
  rfl

/-- An argument that does not look like an option is the value that is waited for. -/
theorem step_value (waits : scan.pending = some setting)
    (plain : value = "-" ∨ value.toList.head? ≠ some '-') :
    scan.step value = .ok (scan.supply setting value) := by
  have asPlain : scan.step value = scan.plain value := by
    rcases plain with rfl | plain
    · rfl
    · unfold step
      split <;> simp_all
  rw [asPlain, Scan.plain, waits]

theorem ne_dashes_of_value (plain : value = "-" ∨ value.toList.head? ≠ some '-') :
    value ≠ "--" := by
  rintro rfl
  revert plain
  decide

theorem steps_cons (step : scan.step argument = .ok next) (option : argument ≠ "--")
    (rest : List String) : scan.steps (argument :: rest) = next.steps rest := by
  rw [steps.eq_def]
  simp only [if_neg option, step]

theorem letter_ne_dashes (setting : Setting) (rest : List Char) :
    String.ofList ('-' :: setting.short :: rest) ≠ "--" := by
  intro same
  have letters := congrArg String.toList same
  rw [String.toList_ofList] at letters
  cases setting <;> cases letters

theorem name_ne_dashes (setting : Setting) (rest : List Char) :
    String.ofList ('-' :: '-' :: (setting.long.toList ++ rest)) ≠ "--" := by
  intro same
  have letters := congrArg String.toList same
  rw [String.toList_ofList] at letters
  cases setting <;> cases letters

/-- The arguments of an item add this item, and reading goes on behind them. -/
theorem steps_arguments_append {item : Item} (writable : item.IsWritable) (scan : Scan)
    (rest : List String) : scan.steps (item.arguments ++ rest) = (scan.add item).steps rest := by
  cases item with
  | flag => exact steps_cons (step_flag scan) (by decide) rest
  | option setting form value =>
    have waits : (scan.meet setting none).pending = some setting := rfl
    cases form with
    | joined =>
      obtain ⟨filled, plain⟩ := writable
      have letters : value.toList.isEmpty = false := by simpa using filled
      have step := step_letter scan setting value.toList
      rw [letters, attached_of_head plain] at step
      exact steps_cons step (letter_ne_dashes setting _) rest
    | equated =>
      have step := step_letter scan setting ('=' :: value.toList)
      have value_eq : attached ('=' :: value.toList) = value := attached_of_head writable
      rw [value_eq] at step
      exact steps_cons step (letter_ne_dashes setting _) rest
    | longEquated =>
      have step := step_name_equality scan setting value.toList
      rw [attached_of_head writable] at step
      exact steps_cons step (name_ne_dashes setting _) rest
    | apart =>
      have first := steps_cons (step_letter scan setting []) (letter_ne_dashes setting [])
        (value :: rest)
      have second := steps_cons (step_value waits writable) (ne_dashes_of_value writable) rest
      rw [supply_meet] at second
      exact first.trans second
    | longApart =>
      have named := name_ne_dashes setting []
      rw [List.append_nil] at named
      have first := steps_cons (step_name scan setting) named (value :: rest)
      have second := steps_cons (step_value waits writable) (ne_dashes_of_value writable) rest
      rw [supply_meet] at second
      exact first.trans second

/-- The arguments of all items are read, with or without `--` behind them. -/
theorem steps_items (writable : ∀ item ∈ items, item.IsWritable) {ending : List String}
    (ends : ending = [] ∨ ending = ["--"]) (scan : Scan) :
    scan.steps (items.flatMap Item.arguments ++ ending) = .ok (items.foldl add scan) := by
  induction items generalizing scan with
  | nil => rcases ends with rfl | rfl <;> rfl
  | cons item items ih =>
    have first := writable item List.mem_cons_self
    have others := ih fun other member => writable other (List.mem_cons_of_mem _ member)
    rw [List.flatMap_cons, List.append_assoc, steps_arguments_append first, others,
      List.foldl_cons]

/-- What was read after some items: their values for every option, and the number of flags. -/
theorem given_foldl_add (items : List Item) (scan : Scan) (setting : Setting) :
    (items.foldl add scan).given setting =
      ⟨(scan.given setting).count + (valuesFor setting items).length,
        (scan.given setting).values ++ valuesFor setting items⟩ := by
  induction items generalizing scan with
  | nil => simp [valuesFor]
  | cons item items ih =>
    rw [List.foldl_cons, ih, valuesFor, valuesFor, List.filterMap_cons]
    cases item with
    | flag => rfl
    | option other form value =>
      by_cases same : other = setting
      · simp [add, Item.valueFor?, same]
        omega
      · simp [add, Item.valueFor?, same, Ne.symm same]

theorem selfTests_foldl_add (items : List Item) (scan : Scan) :
    (items.foldl add scan).selfTests = scan.selfTests + items.count .flag := by
  induction items generalizing scan with
  | nil => rfl
  | cons item items ih =>
    rw [List.foldl_cons, ih, List.count_cons]
    cases item <;> simp [add]
    omega

theorem pending_foldl_add (items : List Item) (closed : scan.pending = none) :
    (items.foldl add scan).pending = none := by
  induction items generalizing scan with
  | nil => exact closed
  | cons item items ih => exact ih (by cases item <;> rfl)

/-- An option that was given once has its value, and one that was not given has none. -/
theorem valueOf_of_length_le {values : List String}
    (given : scan.given setting = ⟨values.length, values⟩) (few : values.length ≤ 1) :
    scan.valueOf setting = .ok values.head? := by
  unfold valueOf
  rw [given]
  rcases values with - | ⟨value, - | ⟨second, rest⟩⟩
  · rfl
  · rfl
  · exact absurd few (by simp)

theorem valueOf_of_lt_length {values : List String}
    (given : scan.given setting = ⟨values.length, values⟩) (many : 1 < values.length) :
    scan.valueOf setting = .error (.repeated setting) := by
  unfold valueOf
  rw [given]
  rcases values with - | ⟨value, - | ⟨second, rest⟩⟩
  · exact absurd many (by simp)
  · exact absurd many (by simp)
  · rfl

/-- When no option waits for its value, the values are looked up one after the other. -/
theorem finish_of_closed (closed : scan.pending = none) :
    scan.finish =
      (scan.valueOf .input).bind fun input => (scan.valueOf .root).bind fun root =>
        (scan.valueOf .output).bind fun output =>
          if 1 < scan.selfTests then .error .repeatedFlag
          else .ok ⟨input, root, output, scan.selfTests == 1⟩ := by
  unfold finish
  rw [closed]
  rfl

end Scan

namespace Options

variable {items : List Item} {ending : List String}

/-- The arguments of items are read into the values of these items. -/
theorem parse_eq_finish (writable : ∀ item ∈ items, item.IsWritable)
    (ends : ending = [] ∨ ending = ["--"]) :
    parse (items.flatMap Item.arguments ++ ending) = (items.foldl Scan.add .start).finish := by
  rw [parse, Scan.steps_items writable ends]
  rfl

theorem given_items (items : List Item) (setting : Setting) :
    (items.foldl Scan.add .start).given setting =
      ⟨(valuesFor setting items).length, valuesFor setting items⟩ := by
  rw [Scan.given_foldl_add]
  simp [Scan.start]

theorem selfTests_items (items : List Item) :
    (items.foldl Scan.add .start).selfTests = items.count .flag := by
  rw [Scan.selfTests_foldl_add]
  simp [Scan.start]

theorem length_toList_le (value : Option String) : value.toList.length ≤ 1 := by
  cases value <;> simp

/-- An option or the flag is given more than once. -/
def Repeats (items : List Item) : Prop :=
  (∃ setting, 1 < (valuesFor setting items).length) ∨ 1 < items.count .flag

/-- The reason is that an option or the flag is given more than once. -/
def BlamesRepetition (items : List Item) (refused : Refused) : Prop :=
  (∃ setting, refused = .repeated setting ∧ 1 < (valuesFor setting items).length) ∨
    refused = .repeatedFlag ∧ 1 < items.count .flag

/-- Items that list options are read into these options, whatever their order is: each option takes
its value from the one item that gives it. -/
theorem finish_of_isListedBy {options : Options} (listed : options.IsListedBy items) :
    (items.foldl Scan.add .start).finish = .ok options := by
  have values : ∀ setting, (items.foldl Scan.add .start).valueOf setting =
      .ok (options.get? setting) := by
    intro setting
    have few := length_toList_le (options.get? setting)
    have given := given_items items setting
    rw [listed.values] at given
    rw [Scan.valueOf_of_length_le given few, Option.head?_toList]
  have flags := (selfTests_items items).trans listed.flags
  rw [Scan.finish_of_closed (Scan.pending_foldl_add items rfl), values, values, values, flags]
  obtain ⟨input, root, output, selfTest⟩ := options
  cases selfTest <;> rfl

/-- Options that are repeated are refused for that reason, and the reason names an option that is
given more than once. -/
theorem exists_finish_of_repeats (repeats : Repeats items) :
    ∃ refused, (items.foldl Scan.add .start).finish = .error refused ∧
      BlamesRepetition items refused := by
  rw [Scan.finish_of_closed (Scan.pending_foldl_add items rfl), selfTests_items]
  -- Every option is looked up, and each one that has passed was given once at most.
  have look : ∀ setting,
      (∃ value, (items.foldl Scan.add .start).valueOf setting = .ok value ∧
        (valuesFor setting items).length ≤ 1) ∨
      ((items.foldl Scan.add .start).valueOf setting = .error (.repeated setting) ∧
        1 < (valuesFor setting items).length) := by
    intro setting
    have given := given_items items setting
    rcases Nat.lt_or_ge 1 (valuesFor setting items).length with many | few
    · exact .inr ⟨Scan.valueOf_of_lt_length given many, many⟩
    · exact .inl ⟨_, Scan.valueOf_of_length_le given few, few⟩
  have blame : ∀ setting, 1 < (valuesFor setting items).length →
      BlamesRepetition items (.repeated setting) := fun setting many => .inl ⟨setting, rfl, many⟩
  rcases look .input with ⟨input, found₁, few₁⟩ | ⟨found₁, many₁⟩
  · rcases look .root with ⟨root, found₂, few₂⟩ | ⟨found₂, many₂⟩
    · rcases look .output with ⟨output, found₃, few₃⟩ | ⟨found₃, many₃⟩
      · have flags : 1 < items.count .flag := by
          refine repeats.resolve_left ?_
          rintro ⟨setting, many⟩
          cases setting <;> omega
        rw [found₁, found₂, found₃]
        exact ⟨.repeatedFlag, if_pos flags, .inr ⟨rfl, flags⟩⟩
      · rw [found₁, found₂, found₃]
        exact ⟨_, rfl, blame _ many₃⟩
    · rw [found₁, found₂]
      exact ⟨_, rfl, blame _ many₂⟩
  · rw [found₁]
    exact ⟨_, rfl, blame _ many₁⟩

/-- Options are read back from the arguments that list them, in every order and in every form that
can write their values, and what they leave open is the default. Arguments that repeat an option or
the flag are refused. -/
theorem parse_items (writable : ∀ item ∈ items, item.IsWritable)
    (ends : ending = [] ∨ ending = ["--"]) :
    (∀ options : Options, options.IsListedBy items →
      parse (items.flatMap Item.arguments ++ ending) = .ok options ∧
        Config.ofOptions options =
          ⟨options.input.getD "compile_commands.json", options.root.getD ".",
            options.output.getD
              (Path.join (options.root.getD ".") "compile_commands.json")⟩) ∧
      (Repeats items → ∃ refused,
        parse (items.flatMap Item.arguments ++ ending) = .error refused ∧
          BlamesRepetition items refused) := by
  rw [parse_eq_finish writable ends]
  exact ⟨fun _ listed => ⟨finish_of_isListedBy listed, rfl⟩, exists_finish_of_repeats⟩

/-- Values that look like other options, and an option whose value is given twice. -/
theorem deceptive_items :
    parse ["--self-test", "--output=--input=x", "-i-r", "-r", "=a", "--"] =
        .ok ⟨some "-r", some "=a", some "--input=x", true⟩ ∧
      ∃ refused, parse ["--input", "-", "-o=", "-i-"] = .error refused := by
  let listed : List Item :=
    [.flag, .option .output .longEquated "--input=x", .option .input .joined "-r",
      .option .root .apart "=a"]
  let repeated : List Item :=
    [.option .input .longApart "-", .option .output .equated "", .option .input .joined "-"]
  have lists : IsListedBy ⟨some "-r", some "=a", some "--input=x", true⟩ listed :=
    ⟨fun setting => by cases setting <;> rfl, rfl⟩
  have writable : ∀ item ∈ listed, item.IsWritable := by decide
  have writable' : ∀ item ∈ repeated, item.IsWritable := by decide
  have read := ((parse_items writable (.inr rfl)).1 _ lists).1
  obtain ⟨refused, failed, -⟩ :=
    (parse_items writable' (.inl rfl)).2 (.inl ⟨.input, by decide⟩)
  exact ⟨read, refused, failed⟩

end Options

end UnityBuild
