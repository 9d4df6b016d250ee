import Mathlib.Data.List.Basic
import Mathlib.Data.Nat.Digits.Defs
import SyntaxMode.Command.Options

/-!
# The language of arguments

Each argument is a path, an option as it should be, or an offence: an option with a value that
writes no positive number, an option that does not exist, or a path behind another one. What the
arguments read so far come to is kept in the record `Gathered`, which each argument that does not
offend extends (`comes_readFrom`). So arguments are read if and only if all their options are as
they should be and just one of them is a path, the last value of a setting counts, and otherwise
the first offence decides how reading fails (`Options.read_iff`).
-/

namespace SyntaxMode.Command

/-! ## Numbers -/

/-- The value of a decimal digit. -/
def digitValue (c : Char) : Nat := c.toNat - '0'.toNat

/-- Whether a text is a number in decimal digits, of which it has at least one. -/
def Decimal (digits : Text) (number : Nat) : Prop :=
  digits ≠ [] ∧ (∀ c ∈ digits, c.isDigit = true) ∧
    Nat.ofDigits 10 (digits.reverse.map digitValue) = number

/-- Whether a text writes a number: in decimal digits, perhaps after a plus sign. -/
def Writes (value : Text) (number : Nat) : Prop :=
  ∃ sign digits, value = sign ++ digits ∧ (sign = [] ∨ sign = ['+']) ∧ Decimal digits number

/-- A text without the plus sign that it may start with. -/
def unsigned : Text → Text
  | '+' :: digits => digits
  | digits => digits

/-- The value that is computed for digits, from the left, is the number that they write. -/
theorem digitsValue_eq (digits : Text) :
    digitsValue digits = Nat.ofDigits 10 (digits.reverse.map digitValue) := by
  rw [digitsValue, Nat.ofDigits_eq_foldr, List.foldr_map, List.foldr_reverse]
  refine congrArg (fun step => List.foldl step 0 digits) ?_
  funext value c
  exact Nat.add_comm ..

/-- A text writes a number if what follows its plus sign does in decimal digits. -/
theorem writes_iff {value : Text} {number : Nat} :
    Writes value number ↔ Decimal (unsigned value) number := by
  unfold unsigned
  constructor
  · rintro ⟨sign, digits, rfl, rfl | rfl, hdecimal⟩
    · rw [List.nil_append]
      split
      next digits =>
        -- A plus sign is no digit.
        have hplus := hdecimal.2.1 '+' List.mem_cons_self
        cases hplus
      next => exact hdecimal
    · exact hdecimal
  · split
    next digits => exact fun h => ⟨['+'], digits, rfl, .inr rfl, h⟩
    next => exact fun h => ⟨[], value, rfl, .inl rfl, h⟩

/-- **Positive numbers.** The number that is read from a text is the positive word that the text
writes. -/
theorem positive?_eq_some_iff {value : Text} {number : UInt32} :
    positive? value = some number ↔ Writes value number.toNat ∧ 0 < number := by
  have hpositive : positive? value =
      if unsigned value ≠ [] ∧ (unsigned value).all Char.isDigit ∧
          0 < digitsValue (unsigned value) ∧ digitsValue (unsigned value) < UInt32.size then
        some (UInt32.ofNat (digitsValue (unsigned value)))
      else none := rfl
  rw [hpositive, writes_iff, Option.ite_none_right_eq_some, Decimal, List.all_eq_true,
    ← digitsValue_eq, Option.some.injEq, UInt32.lt_iff_toNat_lt]
  constructor
  · rintro ⟨⟨hne, hall, hpos, hlt⟩, rfl⟩
    rw [UInt32.toNat_ofNat_of_lt' hlt]
    exact ⟨⟨hne, hall, rfl⟩, hpos⟩
  · rintro ⟨⟨hne, hall, hvalue⟩, hpos⟩
    rw [hvalue]
    exact ⟨⟨hne, hall, hpos, number.toNat_lt⟩, UInt32.ofNat_toNat⟩

/-! ## Arguments -/

/-- A number that an option sets. -/
inductive Setting where
  | indentUnit
  | tabSize
  deriving DecidableEq, Repr

namespace Setting

/-- The option that sets the number. -/
def option : Setting → String
  | .indentUnit => indentUnitOption
  | .tabSize => tabSizeOption

/-- The argument that the option is, with a value. -/
def argument (value : Text) : Setting → Argument
  | .indentUnit => .indentUnit value
  | .tabSize => .tabSize value

/-- The number in some settings. -/
def get (config : Config) : Setting → UInt32
  | .indentUnit => config.indentUnit
  | .tabSize => config.tabSize

/-- Some settings with another number. -/
def set (number : UInt32) (config : Config) : Setting → Config
  | .indentUnit => { config with indentUnit := number }
  | .tabSize => { config with tabSize := number }

/-- Whether an argument gives the option a value. -/
def Gives (setting : Setting) (argument : String) (value : Text) : Prop :=
  argument.toList = setting.option.toList ++ '=' :: value

/-- A setting has the number that it was set to. -/
theorem get_set_self (number : UInt32) (config : Config) (setting : Setting) :
    setting.get (setting.set number config) = number := by
  cases setting <;> rfl

/-- A setting keeps its number when the other one is set. -/
theorem get_set_of_ne {setting other : Setting} (h : other ≠ setting) (number : UInt32)
    (config : Config) : other.get (setting.set number config) = other.get config := by
  cases setting with
  | indentUnit =>
    cases other with
    | indentUnit => exact absurd rfl h
    | tabSize => rfl
  | tabSize =>
    cases other with
    | indentUnit => rfl
    | tabSize => exact absurd rfl h

end Setting

/-- Whether an argument is a path: it does not start like an option. -/
def isPath (argument : String) : Bool := !List.isPrefixOf ['-', '-'] argument.toList

/-- Whether an argument is an option as it should be. -/
inductive WellFormed (argument : String) : Prop where
  | json (h : argument = "--json")
  | number {setting : Setting} {value : Text} {number : UInt32}
      (hgives : setting.Gives argument value) (hwrites : Writes value number.toNat)
      (hpos : 0 < number)

/-- Whether an argument, behind other ones, makes reading fail, and in which way. -/
inductive Offends (form : String) (earlier : List String) (argument : String) :
    Failure → Prop where
  | number {setting : Setting} {value : Text} (hgives : setting.Gives argument value)
      (hvalue : ∀ number : UInt32, 0 < number → ¬ Writes value number.toNat) :
      Offends form earlier argument (.invalidOption setting.option (String.ofList value))
  | unknown (hoption : isPath argument = false) (hjson : argument ≠ "--json")
      (hgives : ∀ (setting : Setting) (value : Text), ¬ setting.Gives argument value) :
      Offends form earlier argument (.unknownOption argument)
  | path (hpath : isPath argument = true) (hearlier : ∃ other ∈ earlier, isPath other = true) :
      Offends form earlier argument (.usage form)

/-- Whether none of some arguments offends behind those before it. -/
def Inoffensive (form : String) (arguments : List String) : Prop :=
  ∀ before argument after failure, arguments = before ++ argument :: after →
    ¬ Offends form before argument failure

/-- Whether a number is the one that the last of some arguments for a setting gives it, or its
default if there is none. -/
def Last (setting : Setting) (arguments : List String) (number : UInt32) : Prop :=
  (∃ before argument value after, arguments = before ++ argument :: after ∧
    setting.Gives argument value ∧ Writes value number.toNat ∧
    ∀ other ∈ after, ∀ value, ¬ setting.Gives other value) ∨
  ((∀ argument ∈ arguments, ∀ value, ¬ setting.Gives argument value) ∧ number = setting.get {})

/-! ## What an argument is -/

section
variable {setting setting' : Setting} {argument : String} {value value' : Text}

/-- No other option and no other value stand in an argument. -/
theorem Setting.Gives.unique (h : setting.Gives argument value)
    (h' : setting'.Gives argument value') : setting = setting' ∧ value = value' := by
  have heq := h.symm.trans h'
  cases setting <;> cases setting'
  · exact ⟨rfl, (List.cons.inj (List.append_cancel_left heq)).2⟩
  · cases heq
  · cases heq
  · exact ⟨rfl, (List.cons.inj (List.append_cancel_left heq)).2⟩

/-- An argument for a setting is no path. -/
theorem Setting.Gives.isPath_eq_false (h : setting.Gives argument value) :
    isPath argument = false := by
  rw [isPath, h]
  cases setting <;> rfl

/-- An argument for a setting is not the one for JSON. -/
theorem Setting.Gives.ne_json (h : setting.Gives argument value) : argument ≠ "--json" := by
  rintro rfl
  cases setting <;> cases h

/-- The argument for JSON is no path. -/
theorem isPath_json : isPath "--json" = false := rfl

/-- The value that is read from an argument for an option is the one that the argument gives. -/
theorem optionValue?_eq_some_iff {setting : Setting} :
    optionValue? setting.option argument = some value ↔ setting.Gives argument value := by
  rw [optionValue?, List.isPrefixOf?_eq_some_iff_append_eq, Setting.Gives, List.append_assoc,
    eq_comm]
  rfl

/-- What there is to know of an argument. -/
inductive Argument.Known (argument : String) : Prop where
  | json (hargument : argument = "--json") (h : Argument.ofString argument = .json)
  | number (setting : Setting) (value : Text) (hgives : setting.Gives argument value)
      (h : Argument.ofString argument = setting.argument value)
  | unknown (hoption : isPath argument = false) (hjson : argument ≠ "--json")
      (hgives : ∀ (setting : Setting) (value : Text), ¬ setting.Gives argument value)
      (h : Argument.ofString argument = .unknown)
  | path (hpath : isPath argument = true) (h : Argument.ofString argument = .path)

/-- An argument is the one for JSON, one for a setting, an unknown option or a path, and is taken
for that. -/
theorem Argument.known (argument : String) : Argument.Known argument := by
  by_cases hjson : argument = "--json"
  · exact .json hjson (if_pos hjson)
  cases hindent : optionValue? indentUnitOption argument with
  | some value =>
    refine .number .indentUnit value (optionValue?_eq_some_iff.1 hindent) ?_
    rw [ofString, if_neg hjson, hindent]
    rfl
  | none =>
  cases htab : optionValue? tabSizeOption argument with
  | some value =>
    refine .number .tabSize value (optionValue?_eq_some_iff.1 htab) ?_
    rw [ofString, if_neg hjson, hindent, htab]
    rfl
  | none =>
  have hofString : ofString argument = if isPath argument then .path else .unknown := by
    rw [ofString, if_neg hjson, hindent, htab, isPath]
    cases List.isPrefixOf ['-', '-'] argument.toList <;> rfl
  cases hpath : isPath argument with
  | true => exact .path hpath (by rw [hofString, hpath]; rfl)
  | false =>
    refine .unknown hpath hjson (fun setting value hgives => ?_) (by rw [hofString, hpath]; rfl)
    have hvalue := optionValue?_eq_some_iff.2 hgives
    cases setting with
    | indentUnit => cases hindent.symm.trans hvalue
    | tabSize => cases htab.symm.trans hvalue

/-- An argument offends in one way only. -/
theorem Offends.unique {form : String} {earlier : List String} {failure failure' : Failure}
    (h : Offends form earlier argument failure) (h' : Offends form earlier argument failure') :
    failure = failure' := by
  cases h with
  | number hgives =>
    cases h' with
    | number hgives' =>
      obtain ⟨rfl, rfl⟩ := hgives.unique hgives'
      rfl
    | unknown _ _ hnone => exact absurd hgives (hnone _ _)
    | path hpath => cases hgives.isPath_eq_false.symm.trans hpath
  | unknown hoption _ hnone =>
    cases h' with
    | number hgives => exact absurd hgives (hnone _ _)
    | unknown => rfl
    | path hpath => cases hoption.symm.trans hpath
  | path hpath =>
    cases h' with
    | number hgives => cases hgives.isPath_eq_false.symm.trans hpath
    | unknown hoption => cases hoption.symm.trans hpath
    | path => rfl

/-- An option as it should be does not offend. -/
theorem WellFormed.not_offends (h : WellFormed argument) (hoption : isPath argument = false)
    {form : String} {earlier : List String} {failure : Failure} :
    ¬ Offends form earlier argument failure := by
  intro hoffends
  cases hoffends with
  | number hgives hvalue =>
    cases h with
    | json h => exact hgives.ne_json h
    | number hgives' hwrites hpos =>
      obtain ⟨-, rfl⟩ := hgives.unique hgives'
      exact hvalue _ hpos hwrites
  | unknown _ hjson hnone =>
    cases h with
    | json h => exact hjson h
    | number hgives => exact hnone _ _ hgives
  | path hpath => cases hoption.symm.trans hpath

/-- Of arguments in which every option is as it should be and at most one is a path none
offends. -/
theorem inoffensive_of_forall {form : String} {arguments : List String}
    (hoptions : ∀ argument ∈ arguments, isPath argument = false → WellFormed argument)
    (hpaths : (arguments.filter isPath).length ≤ 1) : Inoffensive form arguments := by
  rintro before argument after failure rfl hoffends
  cases hpath : isPath argument with
  | false => exact (hoptions argument (by simp) hpath).not_offends hpath hoffends
  | true =>
    cases hoffends with
    | number hgives => cases hgives.isPath_eq_false.symm.trans hpath
    | unknown hoption => cases hoption.symm.trans hpath
    | path _ hearlier =>
      obtain ⟨other, hother, hotherPath⟩ := hearlier
      have hpos := List.length_pos_of_mem (List.mem_filter.2 ⟨hother, hotherPath⟩)
      rw [List.filter_append, List.filter_cons_of_pos hpath, List.length_append,
        List.length_cons] at hpaths
      omega

end

/-! ## Reading -/

/-- What arguments that do not offend come to: the path among them, if there is one, and what their
options say. -/
structure Gathered (arguments : List String) (path? : Option String) (options : Options) :
    Prop where
  paths : arguments.filter isPath = path?.toList
  wellFormed : ∀ argument ∈ arguments, isPath argument = false → WellFormed argument
  json : options.json = true ↔ "--json" ∈ arguments
  last : ∀ setting, Last setting arguments (setting.get options.config)

/-- What arguments come to: a path and options, or the failure that the first offence is, or that
there is no path. -/
inductive Comes (form : String) : List String → Except Failure (String × Options) → Prop where
  | ok {arguments : List String} {path : String} {options : Options}
      (h : Gathered arguments (some path) options) : Comes form arguments (.ok (path, options))
  | noPath {arguments : List String} {options : Options} (h : Gathered arguments none options) :
      Comes form arguments (.error (.usage form))
  | offence {before after : List String} {argument : String} {path? : Option String}
      {options : Options} {failure : Failure} (h : Gathered before path? options)
      (hoffends : Offends form before argument failure) :
      Comes form (before ++ argument :: after) (.error failure)

section
variable {form : String} {arguments before : List String} {argument : String}
  {path? : Option String} {options : Options} {setting : Setting} {value : Text} {number : UInt32}

/-- An argument that is not for a setting leaves its number as it is. -/
theorem Last.append (h : Last setting arguments number)
    (hother : ∀ value, ¬ setting.Gives argument value) :
    Last setting (arguments ++ [argument]) number := by
  rcases h with ⟨before, given, value, after, rfl, hgives, hwrites, hafter⟩ | ⟨hnone, hdefault⟩
  · refine .inl ⟨before, given, value, after ++ [argument], by simp, hgives, hwrites, ?_⟩
    rw [List.forall_mem_append, List.forall_mem_singleton]
    exact ⟨hafter, hother⟩
  · refine .inr ⟨?_, hdefault⟩
    rw [List.forall_mem_append, List.forall_mem_singleton]
    exact ⟨hnone, hother⟩

namespace Gathered

/-- Without arguments there is no path, and the options are the defaults. -/
theorem nil : Gathered [] none {} where
  paths := rfl
  wellFormed := by simp
  json := by simp
  last setting := .inr ⟨by simp, rfl⟩

/-- Where the options among some arguments are as they should be and another argument is too, all
of them are. -/
theorem wellFormed_append (h : Gathered arguments path? options)
    (hargument : isPath argument = false → WellFormed argument) :
    ∀ other ∈ arguments ++ [argument], isPath other = false → WellFormed other := by
  rw [List.forall_mem_append, List.forall_mem_singleton]
  exact ⟨h.wellFormed, hargument⟩

/-- The argument for JSON asks for JSON, and changes nothing else. -/
theorem append_json (h : Gathered arguments path? options) :
    Gathered (arguments ++ ["--json"]) path? { options with json := true } where
  paths := by simp [h.paths, isPath_json]
  wellFormed := h.wellFormed_append fun _ => .json rfl
  json := by simp
  last setting := (h.last setting).append fun _ hgives => hgives.ne_json rfl

/-- An argument for a setting gives it its number, and changes nothing else. -/
theorem append_number (h : Gathered arguments path? options)
    (hgives : setting.Gives argument value) (hwrites : Writes value number.toNat)
    (hpos : 0 < number) :
    Gathered (arguments ++ [argument]) path?
      { options with config := setting.set number options.config } where
  paths := by simp [h.paths, hgives.isPath_eq_false]
  wellFormed := h.wellFormed_append fun _ => .number hgives hwrites hpos
  json := by simp [h.json, hgives.ne_json.symm]
  last other := by
    by_cases hother : other = setting
    · rw [hother, Setting.get_set_self]
      exact .inl ⟨arguments, argument, value, [], rfl, hgives, hwrites, by simp⟩
    · rw [Setting.get_set_of_ne hother]
      exact (h.last other).append fun _ hgives' => hother (hgives'.unique hgives).1

/-- The first path is the path, and changes nothing else. -/
theorem append_path (h : Gathered arguments none options) (hpath : isPath argument = true) :
    Gathered (arguments ++ [argument]) (some argument) options where
  paths := by simp [h.paths, hpath]
  wellFormed := h.wellFormed_append fun hoption => absurd hpath (by simp [hoption])
  json := by
    have hne : "--json" ≠ argument := by
      rintro rfl
      cases hpath
    simp [h.json, hne]
  last setting := (h.last setting).append fun _ hgives => by
    cases hgives.isPath_eq_false.symm.trans hpath

/-- None of the arguments that have been gathered offends. -/
theorem inoffensive (h : Gathered arguments path? options) : Inoffensive form arguments := by
  refine inoffensive_of_forall h.wellFormed ?_
  rw [h.paths]
  cases path? <;> simp

end Gathered

/-- Reading an option for a setting. -/
theorem readFrom_number (h : Argument.ofString argument = setting.argument value)
    (rest : List String) :
    Options.readFrom form path? options (argument :: rest) =
      (optionNumber setting.option value).bind fun number =>
        Options.readFrom form path?
          { options with config := setting.set number options.config } rest := by
  rw [Options.readFrom.eq_def]
  dsimp only
  rw [h]
  cases setting <;> rfl

/-- Reading goes on from what the arguments before have come to. -/
theorem comes_readFrom (h : Gathered before path? options) (rest : List String) :
    Comes form (before ++ rest) (Options.readFrom form path? options rest) := by
  induction rest generalizing before path? options with
  | nil =>
    rw [List.append_nil]
    cases path? with
    | some path => exact .ok h
    | none => exact .noPath h
  | cons argument rest ih =>
    have happend : before ++ argument :: rest = (before ++ [argument]) ++ rest := by simp
    cases Argument.known argument with
    | json hargument hread =>
      simp only [Options.readFrom, hread]
      rw [happend, hargument]
      exact ih h.append_json
    | number setting value hgives hread =>
      rw [readFrom_number hread, optionNumber]
      cases hnumber : positive? value with
      | none =>
        refine .offence h (.number hgives fun number hpos hwrites => ?_)
        cases hnumber.symm.trans (positive?_eq_some_iff.2 ⟨hwrites, hpos⟩)
      | some number =>
        obtain ⟨hwrites, hpos⟩ := positive?_eq_some_iff.1 hnumber
        rw [happend]
        exact ih (h.append_number hgives hwrites hpos)
    | unknown hoption hjson hgives hread =>
      simp only [Options.readFrom, hread]
      exact .offence h (.unknown hoption hjson hgives)
    | path hpath hread =>
      simp only [Options.readFrom, hread]
      cases path? with
      | none =>
        rw [happend]
        exact ih (h.append_path hpath)
      | some path =>
        have hmem : path ∈ before.filter isPath := by simp [h.paths]
        exact .offence h (.path hpath ⟨path, List.mem_filter.1 hmem⟩)

/-- What is read from arguments is what they come to. -/
theorem comes_read (form : String) (arguments : List String) :
    Comes form arguments (Options.read form arguments) :=
  comes_readFrom .nil arguments

/-! ## The first offence -/

/-- Arguments have only one first offence. -/
theorem Offends.first_unique {before' after after' : List String} {argument' : String}
    {failure failure' : Failure}
    (heq : before ++ argument :: after = before' ++ argument' :: after')
    (hbefore : Inoffensive form before) (hoffends : Offends form before argument failure)
    (hbefore' : Inoffensive form before') (hoffends' : Offends form before' argument' failure') :
    failure = failure' := by
  rcases List.append_eq_append_iff.1 heq with ⟨middle, hmiddle, hrest⟩ | ⟨middle, hmiddle, hrest⟩
  · cases middle with
    | nil =>
      cases hrest
      rw [List.append_nil] at hmiddle
      subst hmiddle
      exact hoffends.unique hoffends'
    | cons other middle =>
      cases hrest
      exact absurd hoffends (hbefore' before argument middle failure hmiddle)
  · cases middle with
    | nil =>
      cases hrest
      rw [List.append_nil] at hmiddle
      subst hmiddle
      exact hoffends.unique hoffends'
    | cons other middle =>
      cases hrest
      exact absurd hoffends' (hbefore before' argument' middle failure' hmiddle)

/-- What comes of arguments with an offence is the failure that the first one is. -/
theorem Comes.eq_error {after : List String} {failure : Failure}
    {outcome : Except Failure (String × Options)}
    (h : Comes form (before ++ argument :: after) outcome) (hbefore : Inoffensive form before)
    (hoffends : Offends form before argument failure) : outcome = .error failure := by
  generalize hall : before ++ argument :: after = all at h
  cases h with
  | ok h => exact absurd hoffends (h.inoffensive before argument after failure hall.symm)
  | noPath h => exact absurd hoffends (h.inoffensive before argument after failure hall.symm)
  | offence h hoffends' =>
    rw [Offends.first_unique hall hbefore hoffends h.inoffensive hoffends']

/-- What comes of options that are as they should be and just one path is not a failure. -/
theorem Comes.exists_eq_ok {outcome : Except Failure (String × Options)} {path : String}
    (h : Comes form arguments outcome)
    (hoptions : ∀ argument ∈ arguments, isPath argument = false → WellFormed argument)
    (hpaths : arguments.filter isPath = [path]) : ∃ found, outcome = .ok found := by
  cases h with
  | ok h => exact ⟨_, rfl⟩
  | noPath h => cases hpaths.symm.trans h.paths
  | offence h hoffends =>
    exact absurd hoffends (inoffensive_of_forall hoptions (by simp [hpaths]) _ _ _ _ rfl)

end

/-- **The language of arguments.** Arguments are read if and only if each of them that starts like
an option is an option as it should be, and just one does not start like an option. Then this one
is the path, the answer is in JSON if and only if an argument asks for it, and each setting has the
number that the last argument for it gives, or its default. Otherwise reading fails with the
failure that the first offence is, or with the form of the command if none of the arguments offends
and none is a path. -/
theorem Options.read_iff (form : String) (arguments : List String) :
    ((∃ path options, Options.read form arguments = .ok (path, options)) ↔
      (∀ argument ∈ arguments, isPath argument = false → WellFormed argument) ∧
        ∃ path, arguments.filter isPath = [path]) ∧
    (∀ path options, Options.read form arguments = .ok (path, options) →
      arguments.filter isPath = [path] ∧ (options.json = true ↔ "--json" ∈ arguments) ∧
        ∀ setting, Last setting arguments (setting.get options.config)) ∧
    ∀ failure, Options.read form arguments = .error failure ↔
      (∃ before argument after, arguments = before ++ argument :: after ∧
        Inoffensive form before ∧ Offends form before argument failure) ∨
      (Inoffensive form arguments ∧ arguments.filter isPath = [] ∧ failure = .usage form) := by
  have hcomes := comes_read form arguments
  have hok {path : String} {options : Options}
      (hread : Options.read form arguments = .ok (path, options)) :
      Gathered arguments (some path) options := by
    rw [hread] at hcomes
    cases hcomes with
    | ok h => exact h
  refine ⟨⟨?_, ?_⟩, ?_, fun failure => ⟨?_, ?_⟩⟩
  · rintro ⟨path, options, hread⟩
    exact ⟨(hok hread).wellFormed, path, (hok hread).paths⟩
  · rintro ⟨hoptions, path, hpaths⟩
    obtain ⟨⟨path, options⟩, hread⟩ := hcomes.exists_eq_ok hoptions hpaths
    exact ⟨path, options, hread⟩
  · intro path options hread
    exact ⟨(hok hread).paths, (hok hread).json, (hok hread).last⟩
  · intro hread
    rw [hread] at hcomes
    cases hcomes with
    | noPath h => exact .inr ⟨h.inoffensive, h.paths, rfl⟩
    | offence h hoffends => exact .inl ⟨_, _, _, rfl, h.inoffensive, hoffends⟩
  · rintro (⟨before, argument, after, rfl, hbefore, hoffends⟩ | ⟨hnone, hpaths, rfl⟩)
    · exact hcomes.eq_error hbefore hoffends
    · generalize Options.read form arguments = outcome at hcomes
      cases hcomes with
      | ok h => cases hpaths.symm.trans h.paths
      | noPath => rfl
      | offence h hoffends => exact absurd hoffends (hnone _ _ _ _ rfl)

end SyntaxMode.Command
