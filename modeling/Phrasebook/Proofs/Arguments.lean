import Phrasebook.CommandLine.Options

/-!
# Arguments and options

What a list of arguments gives, one setting after the other, and that the
options read from it are these settings: nothing is lost, nothing is given
twice, and the values of repeated options keep their order.
-/

namespace Phrasebook

/-- One thing that arguments give: the template, or the value of an option. -/
inductive Setting where
  | template (text : String)
  | option (name : OptionName) (value : String)

namespace Setting

def template? : Setting → Option String
  | template text => some text
  | option _ _ => none

def value? (name : OptionName) : Setting → Option String
  | template _ => none
  | option other value => if other = name then some value else none

end Setting

/-- The settings that arguments write out. Behind `--` there are templates. -/
inductive Writes : List String → List Setting → Prop
  | nil :
      Writes [] []
  | template {argument : String} {rest : List String}
      {settings : List Setting} :
      Argument.ofText argument = .template →
      Writes rest settings →
      Writes (argument :: rest) (.template argument :: settings)
  | attached {argument value : String} {name : OptionName}
      {rest : List String} {settings : List Setting} :
      Argument.ofText argument = .attached name value →
      Writes rest settings →
      Writes (argument :: rest) (.option name value :: settings)
  | separate {argument value : String} {name : OptionName}
      {rest : List String} {settings : List Setting} :
      Argument.ofText argument = .separate name →
      Argument.isValue value →
      Writes rest settings →
      Writes (argument :: value :: rest) (.option name value :: settings)
  | endOfOptions {argument : String} {rest : List String} :
      Argument.ofText argument = .endOfOptions →
      Writes (argument :: rest) (rest.map .template)

namespace Options

/-- Options that hold exactly what settings give. -/
structure Holds (settings : List Setting) (options : Options) : Prop where
  template :
    settings.filterMap Setting.template? = options.template.toList
  table :
    settings.filterMap (Setting.value? .table) = options.table.toList
  key :
    settings.filterMap (Setting.value? .key) = options.key.toList
  context :
    settings.filterMap (Setting.value? .context) = options.context.toList
  args :
    settings.filterMap (Setting.value? .arg) = options.args
  maxDepth :
    (settings.filterMap (Setting.value? .maxDepth)).map readSize? =
      options.maxDepth.toList.map some

def takeSetting (options : Options) : Setting → Option Options
  | .template text => options.takeTemplate text
  | .option name value => options.take name value

/-- What may be set once is set to the only value there is. -/
theorem toList_of_setOnce
    {α : Type} {old new : Option α} {value : α}
    (isSet : setOnce old value = some new) :
    new.toList = old.toList ++ [value] := by
  cases old with
  | none =>
      cases isSet
      rfl
  | some _ =>
      cases isSet

theorem eq_of_fileName?
    {value file : String} (isFile : fileName? value = some file) :
    file = value := by
  unfold fileName? at isFile
  by_cases isEmpty : value = ""
  · rw [if_pos isEmpty] at isFile
    cases isFile
  · rw [if_neg isEmpty] at isFile
    cases isFile
    rfl

/-- One more setting. Each field but the one of the setting stays as it is. -/
theorem Holds.take
    {settings : List Setting} {setting : Setting} {options next : Options}
    (holds : options.Holds settings)
    (taken : options.takeSetting setting = some next) :
    next.Holds (settings ++ [setting]) := by
  obtain ⟨template, table, key, context, args, maxDepth⟩ := holds
  cases setting with
  | template text =>
      obtain ⟨new, isSet, isNext⟩ := Option.bind_eq_some_iff.mp taken
      cases isNext
      have grown := toList_of_setOnce isSet
      constructor <;> simp_all [Setting.template?, Setting.value?]
  | option name value =>
      cases name with
      | table =>
          obtain ⟨file, isFile, rest⟩ := Option.bind_eq_some_iff.mp taken
          obtain ⟨new, isSet, isNext⟩ := Option.bind_eq_some_iff.mp rest
          obtain rfl := eq_of_fileName? isFile
          cases isNext
          have grown := toList_of_setOnce isSet
          constructor <;> simp_all [Setting.template?, Setting.value?]
      | key =>
          obtain ⟨new, isSet, isNext⟩ := Option.bind_eq_some_iff.mp taken
          cases isNext
          have grown := toList_of_setOnce isSet
          constructor <;> simp_all [Setting.template?, Setting.value?]
      | context =>
          obtain ⟨file, isFile, rest⟩ := Option.bind_eq_some_iff.mp taken
          obtain ⟨new, isSet, isNext⟩ := Option.bind_eq_some_iff.mp rest
          obtain rfl := eq_of_fileName? isFile
          cases isNext
          have grown := toList_of_setOnce isSet
          constructor <;> simp_all [Setting.template?, Setting.value?]
      | arg =>
          cases taken
          constructor <;> simp_all [Setting.template?, Setting.value?]
      | maxDepth =>
          obtain ⟨n, isSize, rest⟩ := Option.bind_eq_some_iff.mp taken
          obtain ⟨new, isSet, isNext⟩ := Option.bind_eq_some_iff.mp rest
          cases isNext
          have grown := toList_of_setOnce isSet
          constructor <;> simp_all [Setting.template?, Setting.value?]

/-- The settings from left to right. -/
theorem Holds.takeAll
    {before after : List Setting} {options last : Options}
    (holds : options.Holds before)
    (taken : after.foldlM takeSetting options = some last) :
    last.Holds (before ++ after) := by
  induction after generalizing before options with
  | nil =>
      cases taken
      rw [List.append_nil]
      exact holds
  | cons setting after inductionHypothesis =>
      rw [List.foldlM_cons] at taken
      obtain ⟨next, isNext, rest⟩ := Option.bind_eq_some_iff.mp taken
      have following := inductionHypothesis (holds.take isNext) rest
      rw [List.append_assoc, List.singleton_append] at following
      exact following

end Options

theorem readTemplates_eq
    (options : Options) (texts : List String) :
    readTemplates options texts =
      (texts.map Setting.template).foldlM Options.takeSetting options := by
  unfold readTemplates
  rw [List.foldlM_map]
  rfl

/-- The cases are what an argument may be. -/
theorem exists_settings_of_readArguments
    {options last : Options} {arguments : List String}
    (isRead : readArguments options arguments = some (.resolve last)) :
    ∃ settings, Writes arguments settings ∧
      settings.foldlM Options.takeSetting options = some last := by
  fun_induction readArguments options arguments with
  | case1 options =>
      cases isRead
      exact ⟨[], .nil, rfl⟩
  | case2 options argument rest isTemplate inductionHypothesis =>
      obtain ⟨next, taken, restRead⟩ := Option.bind_eq_some_iff.mp isRead
      obtain ⟨settings, writes, takenAll⟩ := inductionHypothesis next restRead
      refine ⟨.template argument :: settings, .template isTemplate writes, ?_⟩
      exact Option.bind_eq_some_iff.mpr ⟨next, taken, takenAll⟩
  | case3 options argument rest isHelp =>
      cases isRead
  | case4 options argument rest name value isAttached inductionHypothesis =>
      obtain ⟨next, taken, restRead⟩ := Option.bind_eq_some_iff.mp isRead
      obtain ⟨settings, writes, takenAll⟩ := inductionHypothesis next restRead
      refine ⟨.option name value :: settings, .attached isAttached writes, ?_⟩
      exact Option.bind_eq_some_iff.mpr ⟨next, taken, takenAll⟩
  | case5 options argument name isSeparate =>
      cases isRead
  | case6 options argument name isSeparate value rest isValue
      inductionHypothesis =>
      obtain ⟨next, taken, restRead⟩ := Option.bind_eq_some_iff.mp isRead
      obtain ⟨settings, writes, takenAll⟩ := inductionHypothesis next restRead
      refine ⟨.option name value :: settings,
        .separate isSeparate isValue writes, ?_⟩
      exact Option.bind_eq_some_iff.mpr ⟨next, taken, takenAll⟩
  | case7 options argument name isSeparate value rest notValue =>
      cases isRead
  | case8 options argument rest isEnd =>
      obtain ⟨next, taken, isLast⟩ := Option.map_eq_some_iff.mp isRead
      cases isLast
      rw [readTemplates_eq] at taken
      exact ⟨rest.map .template, .endOfOptions isEnd, taken⟩
  | case9 options argument rest isUnknown =>
      cases isRead

/-- The options of a list of arguments hold what it writes. -/
theorem Request.exists_settings
    {arguments : List String} {options : Options}
    (accepted : ofArguments? arguments = some (.resolve options)) :
    ∃ settings, Writes arguments settings ∧ options.Holds settings := by
  obtain ⟨settings, writes, takenAll⟩ :=
    exists_settings_of_readArguments accepted
  have nothing : Options.Holds [] {} := ⟨rfl, rfl, rfl, rfl, rfl, rfl⟩
  exact ⟨settings, writes, nothing.takeAll takenAll⟩

end Phrasebook
