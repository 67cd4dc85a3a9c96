import Mathlib
import Reckoner.CommandLine.Command

/-!
# The two readers of the configuration's name

The name of the configuration is looked for before the command line is read, by a scan for the first
word that announces it (`nameAmong_eq`). The command that is carried out also gets a name, the last
one that its options set. What is set is among what is announced, in the same order (`read_names`). A
name that is announced is not set if it stands behind two hyphens or as the value of an option; without
such names the two readers differ only about names that are set more than once.
-/
namespace Reckoner

namespace Config

/-! ## Announced names -/

/-- The name that a word announces, if the words `rest` follow it. -/
def announcement? (word : String) (rest : List String) : Option String :=
  if word.startsWith (nameOption ++ "=") then
    some (String.ofList (word.toList.drop (nameOption.length + 1)))
  else if word = nameOption then rest.head? else none

/-- The names that words announce, in order. A name that is a word of its own is also looked at as a
word that may announce one. -/
def announced : List String → List String
  | [] => []
  | word :: rest => (announcement? word rest).toList ++ announced rest

/-- The scan takes the first name that is announced. -/
theorem nameAmong_eq (words : List String) :
    nameAmong words = (announced words).headD defaultName := by
  induction words with
  | nil => rfl
  | cons word rest ih =>
    rw [announced, announcement?, nameAmong]
    by_cases joined : word.startsWith (nameOption ++ "=") = true
    · rw [if_pos joined, if_pos joined]
      rfl
    · rw [if_neg joined, if_neg joined]
      by_cases alone : word = nameOption
      · rw [if_pos alone, ih]
        cases rest.head? <;> rfl
      · rw [if_neg alone, ih]
        rfl

/-- A word that announces a name, be it joined to the word or a word of its own. -/
def Announces (word : String) : Prop :=
  word = nameOption ∨ word.startsWith (nameOption ++ "=") = true

theorem Announces.isPrefix {word : String} (h : Announces word) :
    nameOption.toList <+: word.toList := by
  cases h with
  | inl alone => rw [alone]
  | inr joined =>
    rw [String.startsWith_string_iff, String.toList_append] at joined
    exact (List.prefix_append _ _).trans joined

/-- Any other word announces nothing. -/
theorem announcement?_eq_none {word : String} (h : ¬ Announces word) (rest : List String) :
    announcement? word rest = none := by
  obtain ⟨alone, joined⟩ := not_or.mp h
  rw [announcement?, if_neg joined, if_neg alone]

theorem announced_append {front : List String} (h : ∀ word ∈ front, ¬ Announces word)
    (rest : List String) : announced (front ++ rest) = announced rest := by
  induction front with
  | nil => rfl
  | cons word front ih =>
    have hfront := ih fun w hw => h w (List.mem_cons_of_mem _ hw)
    rw [List.cons_append, announced, announcement?_eq_none (h word List.mem_cons_self), hfront]
    rfl

/-- Words among which every announcement is an option: no two hyphens end the options, and no value
of an option is an announcement. -/
structure Plain (words : List String) : Prop where
  /-- All options are read as such. -/
  open_ended : "--" ∉ words
  /-- What follows an option that takes a value announces nothing. -/
  values : words.IsChain fun option value =>
    option = "--config" ∨ option = "--out" → ¬ Announces value

theorem Plain.tail {word : String} {words : List String} (h : Plain (word :: words)) :
    Plain words :=
  ⟨fun mem => h.open_ended (List.mem_cons_of_mem _ mem), h.values.tail⟩

end Config

/-! ## The words of options -/

/-- A computation that succeeds has steps that succeed. -/
theorem ok_of_bind {ε α β : Type} {first : Except ε α} {next : α → Except ε β} {b : β}
    (h : first >>= next = .ok b) : ∃ a, first = .ok a ∧ next a = .ok b := by
  cases first with
  | error => cases h
  | ok a => exact ⟨a, rfl, h⟩

namespace OptionTable

variable {α : Type} {table : OptionTable α}

/-- A word is its name and, behind an equality sign, its value. -/
theorem toList_eq_split (word : String) :
    (∃ value, word.toList.dropWhile (· ≠ '=') = '=' :: value ∧
      word.toList = word.toList.takeWhile (· ≠ '=') ++ '=' :: value) ∨
    word.toList.dropWhile (· ≠ '=') = [] ∧ word.toList = word.toList.takeWhile (· ≠ '=') := by
  have hsplit := List.takeWhile_append_dropWhile (p := fun c => decide (c ≠ '=')) (l := word.toList)
  cases hvalue : word.toList.dropWhile (· ≠ '=') with
  | nil =>
    rw [hvalue, List.append_nil] at hsplit
    exact .inr ⟨rfl, hsplit.symm⟩
  | cons c value =>
    have hsign : c = '=' := by
      have := List.head?_dropWhile_not (fun c => decide (c ≠ '=')) word.toList
      rw [hvalue] at this
      simpa using this
    subst hsign
    rw [hvalue] at hsplit
    exact .inl ⟨value, rfl, hsplit.symm⟩

/-- What a word that is an option says. -/
theorem readOption_cases {word : String} {reading : Reading α}
    (h : table.readOption word = .ok reading) :
    (∃ setting, (word, .flag setting) ∈ table.long ∧ reading = ⟨[setting], none⟩) ∨
    (∃ name setting value, (name, .valued setting) ∈ table.long ∧
      word.toList = name.toList ++ '=' :: value ∧
      reading = ⟨[setting (String.ofList value)], none⟩) ∨
    (∃ setting, (word, .valued setting) ∈ table.long ∧ reading = ⟨[], some (word, setting)⟩) ∨
    ∃ settings, ¬ word.startsWith "--" = true ∧
      table.cluster (word.toList.drop 1) = .ok settings ∧ reading = ⟨settings, none⟩ := by
  have hmem : ∀ {name : String} {effect : Effect α}, table.long.lookup name = some effect →
      (name, effect) ∈ table.long := by
    intro name effect found
    obtain ⟨before, after, hlong, _⟩ := List.lookup_eq_some_iff.mp found
    rw [hlong]
    exact List.mem_append_right _ List.mem_cons_self
  simp only [readOption] at h
  cases hfound : table.long.lookup (String.ofList (word.toList.takeWhile (· ≠ '='))) with
  | none =>
    rw [hfound] at h
    by_cases long : word.startsWith "--" = true
    · simp only [if_pos long] at h
      cases h
    · simp only [if_neg long] at h
      cases hcluster : table.cluster (word.toList.drop 1) with
      | error complaint =>
        rw [hcluster] at h
        cases h
      | ok settings =>
        rw [hcluster] at h
        cases h
        exact .inr (.inr (.inr ⟨settings, long, rfl, rfl⟩))
  | some effect =>
    have hlong := hmem hfound
    rw [hfound] at h
    rcases toList_eq_split word with ⟨value, hvalue, hword⟩ | ⟨hvalue, hword⟩
    · rw [hvalue] at h
      cases effect with
      | flag setting => cases h
      | valued setting =>
        cases h
        refine .inr (.inl ⟨_, setting, value, hlong, ?_, rfl⟩)
        rw [String.toList_ofList]
        exact hword
    · rw [hvalue] at h
      rw [← hword, String.ofList_toList] at hlong
      cases effect with
      | flag setting =>
        cases h
        exact .inl ⟨setting, hlong, rfl⟩
      | valued setting =>
        cases h
        rw [← hword, String.ofList_toList]
        exact .inr (.inr (.inl ⟨setting, hlong, rfl⟩))

end OptionTable

/-- The name that a setting gives to the configuration. -/
def Setting.configName? : Setting → Option String
  | .config name => some name
  | _ => none

namespace Command

open Config

variable {c : Command}

/-- Two options of the commands take values; all others are flags that neither set the name of the
configuration nor announce it. -/
theorem mem_options {name : String} {effect : Effect Setting}
    (h : (name, effect) ∈ c.options.long) :
    (name = "--config" ∧ effect = .valued .config) ∨ (name = "--out" ∧ effect = .valued .out) ∨
      ∃ setting, effect = .flag setting ∧ setting.configName? = none ∧ ¬ Announces name := by
  have hflag : ∀ {flag : String}, ¬ nameOption.toList <+: flag.toList → ¬ Announces flag :=
    fun other announces => other announces.isPrefix
  -- the evaluation has all the options that there are
  have heval : (name, effect) ∈ eval.options.long := by
    cases c with
    | eval => exact h
    | _ => exact List.mem_append_left _ (by simpa [options] using h)
  simp only [options, List.cons_append, List.nil_append, List.mem_cons, List.not_mem_nil, or_false,
    Prod.mk.injEq] at heval
  rcases heval with hconfig | ⟨rfl, rfl⟩ | ⟨rfl, rfl⟩ | hout | ⟨rfl, rfl⟩ | ⟨rfl, rfl⟩
  · exact .inl hconfig
  · exact .inr (.inr ⟨_, rfl, rfl, hflag (by decide)⟩)
  · exact .inr (.inr ⟨_, rfl, rfl, hflag (by decide)⟩)
  · exact .inr (.inl hout)
  · exact .inr (.inr ⟨_, rfl, rfl, hflag (by decide)⟩)
  · exact .inr (.inr ⟨_, rfl, rfl, hflag (by decide)⟩)

theorem isOption_of_announces {word : String} (h : Announces word) :
    OptionTable.isOption word = true := by
  obtain ⟨rest, hrest⟩ := h.isPrefix
  rw [OptionTable.isOption, ← hrest]
  rfl

/-- An option of a command sets the name that it announces, unless its value is the next word. -/
theorem readOption_names {word : String} {reading : OptionTable.Reading Setting}
    (hword : OptionTable.isOption word = true) (h : c.options.readOption word = .ok reading) :
    (∃ settings, reading = ⟨settings, none⟩ ∧
      ∀ rest, settings.filterMap Setting.configName? = (announcement? word rest).toList) ∨
    (word = "--config" ∧ reading = ⟨[], some (word, .config)⟩) ∨
    (word = "--out" ∧ reading = ⟨[], some (word, .out)⟩) := by
  rcases OptionTable.readOption_cases h with ⟨setting, hlong, rfl⟩ |
    ⟨name, setting, value, hlong, hvalue, rfl⟩ | ⟨setting, hlong, rfl⟩ | ⟨settings, _, hcluster, _⟩
  · rcases mem_options hlong with ⟨_, ⟨⟩⟩ | ⟨_, ⟨⟩⟩ | ⟨_, heffect, hnone, other⟩
    cases heffect
    refine .inl ⟨_, rfl, fun rest => ?_⟩
    rw [announcement?_eq_none other]
    simp [hnone]
  · rcases mem_options hlong with ⟨rfl, heffect⟩ | ⟨rfl, heffect⟩ | ⟨_, ⟨⟩, _⟩
    · cases heffect
      refine .inl ⟨_, rfl, fun rest => ?_⟩
      have joined : word.startsWith (nameOption ++ "=") = true := by
        rw [String.startsWith_string_iff, hvalue]
        exact ⟨value, by simp [nameOption]⟩
      rw [announcement?, if_pos joined, hvalue]
      rfl
    · cases heffect
      refine .inl ⟨_, rfl, fun rest => ?_⟩
      have other : ¬ Announces word := by
        intro announces
        have hprefix := announces.isPrefix
        rw [hvalue] at hprefix
        simp [nameOption] at hprefix
      rw [announcement?_eq_none other]
      rfl
  · rcases mem_options hlong with ⟨hname, heffect⟩ | ⟨hname, heffect⟩ | ⟨_, ⟨⟩, _⟩
    · cases heffect
      exact .inr (.inl ⟨hname, rfl⟩)
    · cases heffect
      exact .inr (.inr ⟨hname, rfl⟩)
  · -- there are no short options, but an option has a letter behind its hyphen
    unfold OptionTable.isOption at hword
    split at hword
    · rename_i letter letters hletters
      rw [hletters] at hcluster
      simp [OptionTable.cluster, options] at hcluster
      cases hcluster
    · cases hword

/-- The names that a command is given are announced, in the same order; plain words announce no
others. -/
theorem read_names {words arguments : List String} {settings : List Setting}
    (h : c.options.read true words = .ok (settings, arguments)) :
    (settings.filterMap Setting.configName?).Sublist (announced words) ∧
      (Plain words → settings.filterMap Setting.configName? = announced words) := by
  fun_induction OptionTable.read c.options true words generalizing settings arguments with
  | case1 =>
    cases h
    exact ⟨.refl _, fun _ => rfl⟩
  | case2 words =>
    -- behind two hyphens nothing is set, whatever is announced there
    cases h
    exact ⟨List.nil_sublist _, fun plain => absurd List.mem_cons_self plain.open_ended⟩
  | case4 word words _ hword own hreading ih =>
    obtain ⟨⟨more, _⟩, hrest, hsettings⟩ := ok_of_bind h
    cases hsettings
    obtain ⟨hsub, hplain⟩ := ih hrest
    rcases readOption_names hword hreading with ⟨_, ⟨⟩, hown⟩ | ⟨_, ⟨⟩⟩ | ⟨_, ⟨⟩⟩
    rw [List.filterMap_append, hown words, announced]
    exact ⟨hsub.append_left _, fun plain => by rw [hplain plain.tail]⟩
  | case6 word _ hword own name setting hreading value words ih =>
    obtain ⟨⟨more, _⟩, hrest, hsettings⟩ := ok_of_bind h
    cases hsettings
    obtain ⟨hsub, hplain⟩ := ih hrest
    -- the scan also looks at the value; plain words announce nothing there
    have hvalue : Plain (word :: value :: words) → word = "--config" ∨ word = "--out" →
        announcement? value words = none := fun plain hoption =>
      announcement?_eq_none ((List.isChain_cons_cons.mp plain.values).1 hoption) words
    rcases readOption_names hword hreading with ⟨_, ⟨⟩, _⟩ | ⟨rfl, hread⟩ | ⟨rfl, hread⟩
    · cases hread
      have hhere : announcement? "--config" (value :: words) = some value := rfl
      constructor
      · exact (hsub.trans (List.sublist_append_right _ _)).cons_cons value
      · intro plain
        rw [announced, announced, hhere, hvalue plain (.inl rfl), ← hplain plain.tail.tail]
        rfl
    · cases hread
      have hhere : announcement? "--out" (value :: words) = none := rfl
      constructor
      · exact hsub.trans (List.sublist_append_right _ _)
      · intro plain
        rw [announced, announced, hhere, hvalue plain (.inr rfl), ← hplain plain.tail.tail]
        rfl
  | case7 word words _ hword _ ih =>
    obtain ⟨⟨more, rest⟩, hrest, hsettings⟩ := ok_of_bind h
    cases hsettings
    obtain ⟨hsub, hplain⟩ := ih hrest
    have other : ¬ Announces word := fun announces => hword (isOption_of_announces announces)
    rw [announced, announcement?_eq_none other]
    exact ⟨hsub, fun plain => hplain plain.tail⟩
  | case8 word words _ _ mixed => exact absurd rfl mixed
  | _ => cases h

end Command

/-! ## The command line -/

/-- The options in front of the command are flags, and they announce nothing. -/
theorem programOptions_readOption {word : String} {reading : OptionTable.Reading Unit}
    (h : programOptions.readOption word = .ok reading) :
    reading.open? = none ∧ ¬ Config.Announces word := by
  rcases OptionTable.readOption_cases h with ⟨setting, hlong, rfl⟩ |
    ⟨name, setting, value, hlong, _, rfl⟩ | ⟨setting, hlong, rfl⟩ | ⟨settings, short, _, rfl⟩
  · have hword : word = "--verbose" := by
      rw [programOptions, List.mem_singleton] at hlong
      exact congrArg Prod.fst hlong
    refine ⟨rfl, fun announces => ?_⟩
    have hprefix := announces.isPrefix
    rw [hword] at hprefix
    exact absurd hprefix (by decide)
  · simp [programOptions] at hlong
  · simp [programOptions] at hlong
  · refine ⟨rfl, fun announces => short ?_⟩
    have hhyphens : "--".toList <+: Config.nameOption.toList := by decide
    exact String.startsWith_string_iff.mpr (hhyphens.trans announces.isPrefix)

/-- In front of the command nothing is announced. -/
theorem programOptions_read {words rest : List String} {flags : List Unit}
    (h : programOptions.read false words = .ok (flags, rest)) :
    ∃ front, words = front ++ rest ∧ ∀ word ∈ front, ¬ Config.Announces word := by
  fun_induction OptionTable.read programOptions false words generalizing flags rest with
  | case1 =>
    cases h
    exact ⟨[], rfl, nofun⟩
  | case2 words =>
    cases h
    refine ⟨["--"], rfl, ?_⟩
    intro word hword announces
    rw [List.mem_singleton.mp hword] at announces
    exact absurd announces.isPrefix (by decide)
  | case4 word words _ hword own hreading ih =>
    obtain ⟨⟨more, _⟩, hrest, hsettings⟩ := ok_of_bind h
    cases hsettings
    obtain ⟨front, rfl, hfront⟩ := ih hrest
    exact ⟨word :: front, rfl,
      List.forall_mem_cons.mpr ⟨(programOptions_readOption hreading).2, hfront⟩⟩
  | case6 word _ hword own name setting hreading =>
    cases (programOptions_readOption hreading).1
  | case7 word words _ _ mixed => cases mixed
  | case8 word words =>
    cases h
    exact ⟨[], rfl, nofun⟩
  | _ => cases h

namespace Arguments

/-- Of the names that are set the last one counts. -/
theorem config_foldl_apply (settings : List Setting) (a : Arguments) :
    (settings.foldl apply a).config =
      (settings.filterMap Setting.configName?).getLastD a.config := by
  induction settings generalizing a with
  | nil => rfl
  | cons setting settings ih =>
    rw [List.foldl_cons, ih]
    cases setting with
    | config name =>
      have hnames : (Setting.config name :: settings).filterMap Setting.configName? =
          name :: settings.filterMap Setting.configName? := rfl
      rw [hnames, List.getLastD_cons]
      rfl
    | _ => rfl

theorem expression_foldl_apply (settings : List Setting) (a : Arguments) :
    (settings.foldl apply a).expression = a.expression := by
  induction settings generalizing a with
  | nil => rfl
  | cons setting settings ih =>
    rw [List.foldl_cons, ih]
    cases setting <;> rfl

/-- The arguments of a command come from its options and from one word. -/
theorem read_eq_ok {c : Command} {defaults : Defaults} {words : List String} {a : Arguments}
    (h : read c defaults words = .ok a) :
    ∃ settings expression, c.options.read true words = .ok (settings, [expression]) ∧
      a = settings.foldl apply (initial expression defaults) := by
  obtain ⟨⟨settings, arguments⟩, hread, hrest⟩ := ok_of_bind h
  match arguments, hrest with
  | [expression], hrest =>
    cases hrest
    exact ⟨settings, expression, hread, rfl⟩

end Arguments

namespace Invocation

open Config

/-- What is carried out has a command, and its arguments stand behind it. -/
theorem read_eq_ok {defaults : Defaults} {words : List String} {i : Invocation}
    (h : read defaults words = .ok i) :
    ∃ flags rest, programOptions.read false words = .ok (flags, i.command.name :: rest) ∧
      Arguments.read i.command defaults rest = .ok i.arguments := by
  obtain ⟨⟨flags, rest⟩, hflags, hrest⟩ := ok_of_bind h
  match rest, hrest with
  | name :: rest, hrest =>
    cases hcommand : Command.ofName? name with
    | none =>
      simp only [hcommand] at hrest
      obtain ⟨_, _, hthrow⟩ := ok_of_bind hrest
      cases hthrow
    | some command =>
      simp only [hcommand] at hrest
      obtain ⟨a, harguments, hi⟩ := ok_of_bind hrest
      cases hi
      have hname : command.name = name := by
        simpa using List.find?_some hcommand
      exact ⟨flags, rest, by rw [hname, hflags], harguments⟩

/-- **A command is given the last name among its options, and the configuration that is read is the
first one that is announced.** What is given is among what is announced, in the same order, and for
plain words nothing else is; so there the two names differ exactly if the first and the last one do. -/
theorem read_config {defaults : Defaults} {words : List String} {i : Invocation}
    (h : read defaults words = .ok i) (program : String) :
    ∃ front rest settings, words = front ++ i.command.name :: rest ∧
      i.command.options.read true rest = .ok (settings, [i.arguments.expression]) ∧
      i.arguments.config = (settings.filterMap Setting.configName?).getLastD defaultName ∧
      nameOf (program :: words) = (announced rest).headD defaultName ∧
      (settings.filterMap Setting.configName?).Sublist (announced rest) ∧
      (Plain rest → settings.filterMap Setting.configName? = announced rest ∧
        (i.arguments.config = nameOf (program :: words) ↔
          (announced rest).head? = (announced rest).getLast?)) := by
  obtain ⟨flags, rest, hflags, harguments⟩ := read_eq_ok h
  obtain ⟨front, hwords, hfront⟩ := programOptions_read hflags
  obtain ⟨settings, expression, hsettings, hset⟩ := Arguments.read_eq_ok harguments
  obtain ⟨hsub, hplain⟩ := Command.read_names hsettings
  have hexpression : i.arguments.expression = expression := by
    rw [hset, Arguments.expression_foldl_apply]
    rfl
  have hconfig : i.arguments.config =
      (settings.filterMap Setting.configName?).getLastD defaultName := by
    rw [hset, Arguments.config_foldl_apply]
    rfl
  -- neither what stands in front of the command nor its name announces anything
  have hcommand : ¬ Announces i.command.name := by
    intro announces
    have hprefix := announces.isPrefix
    cases hname : i.command <;> rw [hname] at hprefix <;> exact absurd hprefix (by decide)
  have hname : nameOf (program :: words) = (announced rest).headD defaultName := by
    have hnone : ∀ word ∈ front ++ [i.command.name], ¬ Announces word := by
      intro word hword
      rcases List.mem_append.mp hword with hword | hword
      · exact hfront word hword
      · rw [List.mem_singleton.mp hword]
        exact hcommand
    rw [nameOf, List.drop_one, List.tail_cons, nameAmong_eq, hwords, List.append_cons,
      announced_append hnone]
  refine ⟨front, rest, settings, hwords, hexpression ▸ hsettings, hconfig, hname, hsub, ?_⟩
  intro plain
  refine ⟨hplain plain, ?_⟩
  rw [hconfig, hname, hplain plain]
  cases announced rest with
  | nil => simp
  | cons name names => simp [List.getLast?_cons, eq_comm]

/-- One name among plain words. -/
theorem read_config_once :
    let words := ["eval", "--config", "a.json", "1"]
    let i : Invocation := ⟨false, .eval, ⟨"1", "a.json", none, "text", true⟩⟩
    read {} words = .ok i ∧
      ∃ front rest settings, words = front ++ i.command.name :: rest ∧
        i.command.options.read true rest = .ok (settings, [i.arguments.expression]) ∧
        i.arguments.config = (settings.filterMap Setting.configName?).getLastD defaultName ∧
        nameOf ("reckoner" :: words) = (announced rest).headD defaultName ∧
        (settings.filterMap Setting.configName?).Sublist (announced rest) ∧
        (Plain rest → settings.filterMap Setting.configName? = announced rest ∧
          (i.arguments.config = nameOf ("reckoner" :: words) ↔
            (announced rest).head? = (announced rest).getLast?)) := by
  intro words i
  have h : read {} words = .ok i := by cbv
  exact ⟨h, read_config h "reckoner"⟩

/-- A name that is set twice, and a name behind two hyphens: in neither case is the command given
the name of the configuration that is read. -/
theorem read_config_differs :
    (∃ i, read {} ["eval", "--config", "a.json", "--config", "b.json", "1"] = .ok i ∧
      i.arguments.config = "b.json" ∧
      nameOf ["reckoner", "eval", "--config", "a.json", "--config", "b.json", "1"] = "a.json") ∧
    ∃ i, read {} ["eval", "--", "--config=a.json"] = .ok i ∧
      i.arguments.config = ".arith.json" ∧
      nameOf ["reckoner", "eval", "--", "--config=a.json"] = "a.json" := by
  constructor
  · refine ⟨⟨false, .eval, ⟨"1", "b.json", none, "text", true⟩⟩, ?_, rfl, ?_⟩
    · cbv
    · decide +kernel
  · refine ⟨⟨false, .eval, ⟨"--config=a.json", ".arith.json", none, "text", true⟩⟩, ?_, rfl, ?_⟩
    · cbv
    · decide +kernel

end Invocation
end Reckoner
