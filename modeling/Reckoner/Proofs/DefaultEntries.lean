import Mathlib.Data.List.Nodup
import Reckoner.Proofs.Acceptance

/-!
# Defaults entry by entry

The defaults of a configuration are read in two passes: one looks up the names of the options that
can be switched on and off, the other takes all remaining entries, one after the other. What comes
out is what the entries say one by one (`Defaults.ofFields?_eq_some`): all of them must be acceptable,
no option may be switched on and off at once, and each parameter has the value that an entry gives to
it. So the order of the entries does not count, and an entry that is taken away takes nothing with it
but what it says itself.
-/
namespace Reckoner

open Text

theorem Assoc.get?_eq_some {κ α : Type} [DecidableEq κ] {entries : List (κ × α)} {key : κ} {value : α}
    (distinct : (entries.map Prod.fst).Nodup) :
    get? key entries = some value ↔ (key, value) ∈ entries := by
  refine ⟨mem_of_get?, fun h => ?_⟩
  induction entries with
  | nil => cases h
  | cons entry rest ih =>
    rw [List.map_cons, List.nodup_cons] at distinct
    obtain ⟨fresh, distinct⟩ := distinct
    rcases List.mem_cons.mp h with rfl | h
    · rw [get?, if_pos rfl]
    · have hne : entry.1 ≠ key := fun heq => fresh (heq ▸ List.mem_map_of_mem h)
      rw [get?, if_neg hne, ih distinct h]

theorem Json.text_inj {s s' : String} : Json.text s = .text s' ↔ s = s' := by
  rw [Json.text, Json.text, Json.string.injEq]
  exact ⟨letters_injective, congrArg letters⟩

variable {config other : Fields} {entry : List Letter × Json} {name : String} {d d' : Defaults}

/-! ## Options that can be switched on and off -/

/-- A field that is there, if at all, as a truth value has one. -/
theorem Fields.exists_flag? (h : ∀ value, (letters name, value) ∈ config → ∃ b, value = .bool b) :
    ∃ v, config.flag? name = some v := by
  cases hget : config.get? name with
  | none => exact ⟨none, by rw [flag?, hget]⟩
  | some value =>
    obtain ⟨b, rfl⟩ := h value (Assoc.mem_of_get? hget)
    exact ⟨some b, by rw [flag?, hget]⟩

/-- A truth value that is read off an object stands there, and no other value does. -/
theorem Fields.of_flag? (distinct : (config.map Prod.fst).Nodup) {v : Option Bool}
    (h : config.flag? name = some v) :
    (∀ value, (letters name, value) ∈ config → ∃ b, value = .bool b) ∧
      ∀ b, v = some b ↔ (letters name, .bool b) ∈ config := by
  have hmem : ∀ value, (letters name, value) ∈ config ↔ config.get? name = some value :=
    fun value => (Assoc.get?_eq_some distinct).symm
  simp only [hmem]
  unfold flag? at h
  split at h
  · cases h
    simp [*]
  · cases h
    simp [*]
  · cases h

namespace Toggle

variable {t : Toggle}

/-- The name that switches an option on, and the one that switches it off. -/
def side (t : Toggle) : Bool → List Letter
  | true => letters t.on
  | false => letters t.off

/-- An option is switched on and off at once. -/
def Contradicts (t : Toggle) (config : Fields) : Prop :=
  (t.side true, .bool true) ∈ config ∧ (t.side false, .bool true) ∈ config

theorem side_inj : ∀ t ∈ all, ∀ b b', t.side b = t.side b' → b = b' := by decide

theorem side_ne_verbose : ∀ t ∈ all, ∀ b, t.side b ≠ letters "--verbose" := by decide

theorem side_ne_out : ∀ t ∈ all, ∀ b, t.side b ≠ letters "--out" := by decide

theorem names_iff {name : List Letter} :
    all.any (·.names name) = true ↔ ∃ t ∈ all, ∃ b, name = t.side b := by
  simp [names, side, Bool.exists_bool, or_comm]

/-- An option is read if its names have truth values that do not contradict each other. -/
theorem exists_read? (distinct : (config.map Prod.fst).Nodup)
    (bools : ∀ side value, (t.side side, value) ∈ config → ∃ b, value = .bool b)
    (consistent : ¬ t.Contradicts config) : ∃ v, t.read? config = some v := by
  obtain ⟨on, hon⟩ : ∃ v, config.flag? t.on = some v := Fields.exists_flag? (bools true)
  obtain ⟨off, hoff⟩ : ∃ v, config.flag? t.off = some v := Fields.exists_flag? (bools false)
  have hboth : ¬ (on = some true ∧ off = some true) := by
    rw [(Fields.of_flag? distinct hon).2, (Fields.of_flag? distinct hoff).2]
    exact consistent
  simp only [read?, hon, hoff, Option.bind_eq_bind, Option.bind_some, if_neg hboth]
  split
  · exact ⟨_, rfl⟩
  · split <;> exact ⟨_, rfl⟩

/-- An option that is read is on or off because one of its names says so. -/
theorem of_read? (distinct : (config.map Prod.fst).Nodup) {v : Option Bool}
    (h : t.read? config = some v) :
    (∀ side value, (t.side side, value) ∈ config → ∃ b, value = .bool b) ∧
      ¬ t.Contradicts config ∧ ∀ b, v = some b ↔ (t.side b, .bool true) ∈ config := by
  simp only [read?, Option.bind_eq_bind, Option.bind_eq_some_iff] at h
  obtain ⟨on, hon, off, hoff, hv⟩ := h
  obtain ⟨onBool, hon⟩ := Fields.of_flag? distinct hon
  obtain ⟨offBool, hoff⟩ := Fields.of_flag? distinct hoff
  have hcontradicts : t.Contradicts config ↔ on = some true ∧ off = some true := by
    rw [hon, hoff]
    rfl
  refine ⟨?_, ?_, ?_⟩
  · rintro (_ | _)
    · exact offBool
    · exact onBool
  · rw [hcontradicts]
    intro hboth
    rw [if_pos hboth] at hv
    cases hv
  · have hside : ∀ b, (t.side b, .bool true) ∈ config ↔ (if b then on else off) = some true := by
      rintro (_ | _)
      · exact (hoff true).symm
      · exact (hon true).symm
    intro b
    rw [hside]
    split_ifs at hv with hboth hoffTrue honTrue
    · cases hv
      have honOther : on ≠ some true := fun honTrue => hboth ⟨honTrue, hoffTrue⟩
      cases b <;> simp [hoffTrue, honOther]
    · cases hv
      cases b <;> simp [hoffTrue, honTrue]
    · cases hv
      cases b <;> simp [hoffTrue, honTrue]

end Toggle

namespace Defaults

/-! ## All other options -/

/-- Defaults after one field has been taken in. The names of options that can be switched on and off
have been dealt with before. -/
inductive Takes (d : Defaults) : List Letter × Json → Defaults → Prop
  | toggle {t : Toggle} (known : t ∈ Toggle.all) (side : Bool) (value : Json) :
      Takes d (t.side side, value) d
  | verbose (b : Bool) : Takes d (letters "--verbose", .bool b) { d with verbose? := some b }
  | out {s : String} (known : (OutputFormat.ofName? s).isSome) :
      Takes d (letters "--out", .text s) { d with out? := some s }

theorem stringOption?_out {value : Json} {s : String} :
    (stringOption? "--out" value).bind ofLetters? = some s ↔
      value = .text s ∧ (OutputFormat.ofName? s).isSome := by
  cases value with
  | string ls =>
    constructor
    · intro h
      obtain ⟨ls', hls, hs⟩ := Option.bind_eq_some_iff.mp h
      rw [stringOption?, if_pos rfl] at hls
      split_ifs at hls with known
      · cases hls
        obtain rfl := ofLetters?_eq_some.mp hs
        rw [ofLetters?_letters, Option.bind_some] at known
        exact ⟨rfl, known⟩
    · rintro ⟨heq, known⟩
      cases heq
      simp [stringOption?, ofLetters?_letters, known]
  | _ => simp [stringOption?, Json.text]

/-- What can be taken, and what it does. -/
theorem take?_eq_some : d.take? entry = some d' ↔ d.Takes entry d' := by
  constructor
  · intro h
    obtain ⟨name, value⟩ := entry
    rw [take?] at h
    split_ifs at h with toggle verbose out
    · obtain ⟨t, known, side, rfl⟩ := Toggle.names_iff.mp toggle
      cases h
      exact .toggle known side value
    · obtain rfl : name = letters "--verbose" := verbose
      cases value with
      | bool b =>
        cases h
        exact .verbose b
      | _ => cases h
    · obtain rfl : name = letters "--out" := out
      obtain ⟨s, hs, rfl⟩ := Option.map_eq_some_iff.mp h
      rw [stringOption?_out] at hs
      obtain ⟨rfl, known⟩ := hs
      exact .out known
  · intro h
    cases h with
    | toggle known side value => rw [take?, if_pos (Toggle.names_iff.mpr ⟨_, known, side, rfl⟩)]
    | verbose b => rfl
    | @out s known =>
      have hs : (stringOption? "--out" (.text s)).bind ofLetters? = some s :=
        stringOption?_out.mpr ⟨rfl, known⟩
      simp only [take?, hs]
      rfl

/-- Defaults that have taken all entries of an object in, starting with what has been found out about
the options that can be switched on and off. -/
structure Taken (start d : Defaults) (config : Fields) : Prop where
  color : d.color? = start.color?
  useBuiltins : d.useBuiltins? = start.useBuiltins?
  verbose : ∀ b, d.verbose? = some b ↔ (letters "--verbose", .bool b) ∈ config
  out : ∀ s, d.out? = some s ↔ (letters "--out", .text s) ∈ config

/-- One more entry, with a name that has not been there yet. -/
theorem Taken.concat {start : Defaults} (h : Taken start d config) (step : d.Takes entry d')
    (fresh : entry.1 ∉ config.map Prod.fst) : Taken start d' (config ++ [entry]) := by
  obtain ⟨color, useBuiltins, verbose, out⟩ := h
  have absent : ∀ value, (entry.1, value) ∉ config := fun value hmem =>
    fresh (List.mem_map.mpr ⟨_, hmem, rfl⟩)
  have hout : letters "--out" ≠ letters "--verbose" := by decide
  cases step with
  | toggle known side value =>
    have hverbose := Toggle.side_ne_verbose _ known side
    have hout := Toggle.side_ne_out _ known side
    exact ⟨color, useBuiltins, by simp [verbose, hverbose.symm], by simp [out, hout.symm]⟩
  | verbose b =>
    exact ⟨color, useBuiltins, by simp [absent, eq_comm], by simp [out, hout]⟩
  | out known =>
    exact ⟨color, useBuiltins, by simp [verbose, hout.symm], by simp [absent, Json.text_inj, eq_comm]⟩

/-- The entries are taken one after the other, and each of them counts. -/
theorem of_foldlM_take? {start : Defaults} (hverbose : start.verbose? = none)
    (hout : start.out? = none) (distinct : (config.map Prod.fst).Nodup)
    (h : config.foldlM take? start = some d) :
    Taken start d config ∧ ∀ entry ∈ config, ∃ d₁ d₂, Takes d₁ entry d₂ := by
  -- on the last entry, whose name none of the others has
  induction config using List.reverseRecOn generalizing d with
  | nil =>
    cases h
    exact ⟨⟨rfl, rfl, by simp [hverbose], by simp [hout]⟩, nofun⟩
  | append_singleton config entry ih =>
    rw [List.map_append, List.nodup_append] at distinct
    obtain ⟨distinct, -, apart⟩ := distinct
    have fresh : entry.1 ∉ config.map Prod.fst := fun hmem => apart _ hmem _ (by simp) rfl
    rw [List.foldlM_append] at h
    obtain ⟨d₁, hfront, hlast⟩ := Option.bind_eq_some_iff.mp h
    obtain ⟨taken, all⟩ := ih distinct hfront
    have step : Takes d₁ entry d := take?_eq_some.mp (by simpa using hlast)
    refine ⟨taken.concat step fresh, fun entry' hmem => ?_⟩
    rcases List.mem_append.mp hmem with hmem | hmem
    · exact all entry' hmem
    · obtain rfl := List.mem_singleton.mp hmem
      exact ⟨d₁, d, step⟩

/-! ## Acceptable entries -/

/-- An entry that is acceptable by itself. -/
inductive Acceptable : List Letter × Json → Prop
  | toggle {t : Toggle} (known : t ∈ Toggle.all) (side b : Bool) : Acceptable (t.side side, .bool b)
  | verbose (b : Bool) : Acceptable (letters "--verbose", .bool b)
  | out {s : String} (known : (OutputFormat.ofName? s).isSome) : Acceptable (letters "--out", .text s)

theorem Acceptable.exists_takes (h : Acceptable entry) (d : Defaults) : ∃ d', d.Takes entry d' := by
  cases h with
  | toggle known side b => exact ⟨_, .toggle known side _⟩
  | verbose b => exact ⟨_, .verbose b⟩
  | out known => exact ⟨_, .out known⟩

theorem Acceptable.bool {t : Toggle} {side : Bool} {value : Json} (known : t ∈ Toggle.all)
    (h : Acceptable (t.side side, value)) : ∃ b, value = .bool b := by
  generalize hentry : (t.side side, value) = entry at h
  cases h with
  | toggle _ _ b => exact ⟨b, congrArg Prod.snd hentry⟩
  | verbose b => exact ⟨b, congrArg Prod.snd hentry⟩
  | out _ => exact absurd (congrArg Prod.fst hentry) (Toggle.side_ne_out t known side)

theorem Takes.acceptable (h : d.Takes entry d')
    (bools : ∀ t ∈ Toggle.all, ∀ side value, (t.side side, value) = entry → ∃ b, value = .bool b) :
    Acceptable entry := by
  cases h with
  | toggle known side value =>
    obtain ⟨b, rfl⟩ := bools _ known side value rfl
    exact .toggle known side b
  | verbose b => exact .verbose b
  | out known => exact .out known

theorem exists_foldlM_take? (h : ∀ entry ∈ config, Acceptable entry) (d : Defaults) :
    ∃ d', config.foldlM take? d = some d' := by
  induction config generalizing d with
  | nil => exact ⟨d, rfl⟩
  | cons entry config ih =>
    obtain ⟨first, others⟩ := List.forall_mem_cons.mp h
    obtain ⟨d₁, step⟩ := first.exists_takes d
    obtain ⟨d', hrest⟩ := ih others d₁
    refine ⟨d', ?_⟩
    rw [List.foldlM_cons, take?_eq_some.mpr step]
    exact hrest

/-! ## What an object says -/

/-- Defaults that say what the entries of an object say. -/
structure Reads (d : Defaults) (config : Fields) : Prop where
  color : ∀ b, d.color? = some b ↔ (Toggle.color.side b, .bool true) ∈ config
  useBuiltins : ∀ b, d.useBuiltins? = some b ↔ (Toggle.builtins.side b, .bool true) ∈ config
  verbose : ∀ b, d.verbose? = some b ↔ (letters "--verbose", .bool b) ∈ config
  out : ∀ s, d.out? = some s ↔ (letters "--out", .text s) ∈ config

theorem Reads.unique (h : d.Reads config) (h' : d'.Reads config) : d = d' := by
  obtain ⟨color, useBuiltins, verbose, out⟩ := d
  obtain ⟨color', useBuiltins', verbose', out'⟩ := d'
  congr 1
  · exact Option.ext fun b => (h.color b).trans (h'.color b).symm
  · exact Option.ext fun b => (h.useBuiltins b).trans (h'.useBuiltins b).symm
  · exact Option.ext fun b => (h.verbose b).trans (h'.verbose b).symm
  · exact Option.ext fun s => (h.out s).trans (h'.out s).symm

/-- All entries of an object are acceptable, and no option is switched on and off at once. -/
structure Consistent (config : Fields) : Prop where
  acceptable : ∀ entry ∈ config, Acceptable entry
  agree : ∀ t ∈ Toggle.all, ¬ t.Contradicts config

theorem of_ofFields? (distinct : (config.map Prod.fst).Nodup) (h : ofFields? config = some d) :
    Consistent config ∧ d.Reads config := by
  simp only [ofFields?, Option.bind_eq_bind, Option.bind_eq_some_iff] at h
  obtain ⟨color, hcolor, useBuiltins, hbuiltins, hfold⟩ := h
  obtain ⟨colorBools, colorAgrees, hcolor⟩ := Toggle.of_read? distinct hcolor
  obtain ⟨builtinsBools, builtinsAgrees, hbuiltins⟩ := Toggle.of_read? distinct hbuiltins
  obtain ⟨taken, all⟩ := of_foldlM_take? rfl rfl distinct hfold
  refine ⟨⟨fun entry hmem => ?_, ?_⟩, ?_⟩
  · have bools : ∀ t ∈ Toggle.all, ∀ side value, (t.side side, value) ∈ config →
        ∃ b, value = .bool b :=
      List.forall_mem_cons.mpr ⟨colorBools, List.forall_mem_singleton.mpr builtinsBools⟩
    obtain ⟨d₁, d₂, step⟩ := all entry hmem
    exact step.acceptable fun t known side value heq => bools t known side value (heq ▸ hmem)
  · exact List.forall_mem_cons.mpr ⟨colorAgrees, List.forall_mem_singleton.mpr builtinsAgrees⟩
  · refine ⟨fun b => ?_, fun b => ?_, taken.verbose, taken.out⟩
    · rw [taken.color, hcolor]
    · rw [taken.useBuiltins, hbuiltins]

theorem Consistent.exists_ofFields? (h : Consistent config) (distinct : (config.map Prod.fst).Nodup) :
    ∃ d, ofFields? config = some d := by
  have hread : ∀ t ∈ Toggle.all, ∃ v, t.read? config = some v := fun t known =>
    Toggle.exists_read? distinct (fun _ _ hmem => (h.acceptable _ hmem).bool known) (h.agree t known)
  obtain ⟨color, hcolor⟩ := hread .color (by decide)
  obtain ⟨useBuiltins, hbuiltins⟩ := hread .builtins (by decide)
  obtain ⟨d, hfold⟩ := exists_foldlM_take? h.acceptable { color? := color, useBuiltins? := useBuiltins }
  refine ⟨d, ?_⟩
  simp only [ofFields?, hcolor, hbuiltins, Option.bind_eq_bind, Option.bind_some]
  exact hfold

/-- **What an object says**, if it is acceptable, is what its entries say. -/
theorem ofFields?_eq_some (distinct : (config.map Prod.fst).Nodup) :
    ofFields? config = some d ↔ Consistent config ∧ d.Reads config := by
  refine ⟨of_ofFields? distinct, fun ⟨consistent, reads⟩ => ?_⟩
  obtain ⟨d', hd'⟩ := consistent.exists_ofFields? distinct
  rw [hd', (of_ofFields? distinct hd').2.unique reads]

theorem Consistent.of_subset (h : Consistent config) (subset : ∀ entry ∈ other, entry ∈ config) :
    Consistent other where
  acceptable entry hmem := h.acceptable entry (subset entry hmem)
  agree t known := fun ⟨on, off⟩ => h.agree t known ⟨subset _ on, subset _ off⟩

theorem Reads.of_same (h : d.Reads config) (same : ∀ entry, entry ∈ config ↔ entry ∈ other) :
    d.Reads other where
  color b := (h.color b).trans (same _)
  useBuiltins b := (h.useBuiltins b).trans (same _)
  verbose b := (h.verbose b).trans (same _)
  out s := (h.out s).trans (same _)

/-- The order of the entries does not count. -/
theorem ofFields?_perm (distinct : (config.map Prod.fst).Nodup) (h : other.Perm config) :
    ofFields? other = ofFields? config := by
  have distinct' : (other.map Prod.fst).Nodup := (h.map Prod.fst).nodup_iff.mpr distinct
  refine Option.ext fun d => ?_
  rw [ofFields?_eq_some distinct', ofFields?_eq_some distinct]
  constructor
  · rintro ⟨consistent, reads⟩
    exact ⟨consistent.of_subset fun _ => h.mem_iff.mpr, reads.of_same fun _ => h.mem_iff⟩
  · rintro ⟨consistent, reads⟩
    exact ⟨consistent.of_subset fun _ => h.mem_iff.mp, reads.of_same fun _ => h.mem_iff.symm⟩

/-- An entry alone contradicts nothing. -/
theorem exists_ofFields?_singleton :
    (∃ part, ofFields? [entry] = some part) ↔ Acceptable entry := by
  have distinct : ([entry].map Prod.fst).Nodup := List.nodup_singleton _
  constructor
  · rintro ⟨part, h⟩
    exact (of_ofFields? distinct h).1.acceptable entry List.mem_cons_self
  · intro h
    refine Consistent.exists_ofFields? ⟨by simpa using h, fun t known ⟨on, off⟩ => ?_⟩ distinct
    have hsame : t.side true = t.side false :=
      congrArg Prod.fst ((List.mem_singleton.mp on).trans (List.mem_singleton.mp off).symm)
    cases Toggle.side_inj t known _ _ hsame

/-! ## Parameters -/

/-- The value that defaults have for a parameter. -/
def valueOf? (d : Defaults) (parameter : String) : Option Json :=
  Assoc.get? parameter d.entries

/-- The parameter that an entry of some name is for. -/
def parameter? (name : List Letter) : Option String :=
  if Toggle.color.names name then some "color_flag"
  else if Toggle.builtins.names name then some "use_builtins"
  else if name = letters "--verbose" then some "verbose"
  else if name = letters "--out" then some "out"
  else none

/-- What an entry gives to a parameter. -/
inductive Gives : List Letter × Json → String → Json → Prop
  | color (b : Bool) : Gives (Toggle.color.side b, .bool true) "color_flag" (.bool b)
  | useBuiltins (b : Bool) : Gives (Toggle.builtins.side b, .bool true) "use_builtins" (.bool b)
  | verbose (b : Bool) : Gives (letters "--verbose", .bool b) "verbose" (.bool b)
  | out (s : String) : Gives (letters "--out", .text s) "out" (.text s)

variable {parameter : String} {value : Json}

theorem Gives.parameter?_eq (h : Gives entry parameter value) :
    parameter? entry.1 = some parameter := by
  cases h with
  | color b | useBuiltins b => cases b <;> rfl
  | verbose b => rfl
  | out s => rfl

theorem nodup_entries (d : Defaults) : (d.entries.map Prod.fst).Nodup := by
  obtain ⟨_ | color, _ | useBuiltins, _ | verbose, _ | out⟩ := d <;> simp [entries]

/-- Parameters have the values that entries give to them. -/
theorem Reads.valueOf?_eq_some (h : d.Reads config) :
    d.valueOf? parameter = some value ↔ ∃ entry ∈ config, Gives entry parameter value := by
  rw [valueOf?, Assoc.get?_eq_some d.nodup_entries]
  constructor
  · intro hmem
    simp only [entries, List.mem_append, Option.mem_toList, Option.map_eq_some_iff,
      Prod.mk.injEq] at hmem
    rcases hmem with ((⟨b, hb, rfl, rfl⟩ | ⟨s, hs, rfl, rfl⟩) | ⟨b, hb, rfl, rfl⟩) | ⟨b, hb, rfl, rfl⟩
    · exact ⟨_, (h.color b).mp hb, .color b⟩
    · exact ⟨_, (h.out s).mp hs, .out s⟩
    · exact ⟨_, (h.useBuiltins b).mp hb, .useBuiltins b⟩
    · exact ⟨_, (h.verbose b).mp hb, .verbose b⟩
  · rintro ⟨entry, hmem, gives⟩
    cases gives with
    | color b => simp [entries, (h.color b).mpr hmem]
    | useBuiltins b => simp [entries, (h.useBuiltins b).mpr hmem]
    | verbose b => simp [entries, (h.verbose b).mpr hmem]
    | out s => simp [entries, (h.out s).mpr hmem]

/-- What an entry gives as an object of its own. -/
theorem valueOf?_singleton (h : ofFields? [entry] = some d) :
    d.valueOf? parameter = some value ↔ Gives entry parameter value := by
  have distinct : ([entry].map Prod.fst).Nodup := List.nodup_singleton _
  rw [(of_ofFields? distinct h).2.valueOf?_eq_some]
  simp

/-- An entry that is taken away takes nothing with it but the parameter that it is for. -/
theorem ofFields?_erase (distinct : (config.map Prod.fst).Nodup) (h : ofFields? config = some d)
    (name : List Letter) : ∃ rest, ofFields? (Assoc.erase name config) = some rest ∧
      ∀ parameter, parameter? name ≠ some parameter →
        rest.valueOf? parameter = d.valueOf? parameter := by
  have hmem : ∀ entry, entry ∈ Assoc.erase name config ↔ entry ∈ config ∧ entry.1 ≠ name := by
    simp [Assoc.erase]
  have hdistinct : ((Assoc.erase name config).map Prod.fst).Nodup :=
    distinct.sublist (List.filter_sublist.map Prod.fst)
  obtain ⟨consistent, reads⟩ := of_ofFields? distinct h
  have hconsistent : Consistent (Assoc.erase name config) :=
    consistent.of_subset fun entry herased => ((hmem entry).mp herased).1
  obtain ⟨rest, hrest⟩ := hconsistent.exists_ofFields? hdistinct
  refine ⟨rest, hrest, fun parameter hother => Option.ext fun value => ?_⟩
  rw [(of_ofFields? hdistinct hrest).2.valueOf?_eq_some, reads.valueOf?_eq_some]
  constructor
  · rintro ⟨entry, herased, gives⟩
    exact ⟨entry, ((hmem entry).mp herased).1, gives⟩
  · rintro ⟨entry, hentry, gives⟩
    have hname : entry.1 ≠ name := by
      rintro rfl
      exact hother gives.parameter?_eq
    exact ⟨entry, (hmem entry).mpr ⟨hentry, hname⟩, gives⟩

/-- An acceptable entry that gives the output format gives one that exists. -/
theorem Gives.format (gives : Gives entry "out" value) (acceptable : Acceptable entry) :
    ∃ s format, value = .text s ∧ OutputFormat.ofName? s = some format := by
  generalize hparameter : "out" = parameter at gives
  cases gives with
  | out s =>
    generalize hentry : (letters "--out", Json.text s) = entry at acceptable
    cases acceptable with
    | toggle known side b =>
      exact absurd (congrArg Prod.fst hentry).symm (Toggle.side_ne_out _ known side)
    | verbose b =>
      have hname : letters "--out" = letters "--verbose" := congrArg Prod.fst hentry
      exact absurd hname (by decide)
    | out known =>
      obtain rfl := Json.text_inj.mp (congrArg Prod.snd hentry)
      obtain ⟨format, hformat⟩ := Option.isSome_iff_exists.mp known
      exact ⟨s, format, rfl, hformat⟩
  | _ => exact absurd hparameter (by decide)

/-- **Defaults are checked entry by entry.** An object of one entry is acceptable if the entry is, and
gives what the entry gives. Take an object in which each name stands once. It is acceptable if and
only if each of its entries is an acceptable object and no option is switched on and off at once. The
order of the entries does not count. What an acceptable object gives is what the objects of one entry
each give together; without the entry of one name it is still acceptable, and only the parameter that
this name is for can have changed; and the output format, if it gives one, is one that exists. -/
theorem ofFields?_entrywise (config : Fields) (distinct : (config.map Prod.fst).Nodup) :
    (∀ entry, ((∃ part, ofFields? [entry] = some part) ↔ Acceptable entry) ∧
      ∀ part, ofFields? [entry] = some part → ∀ parameter value,
        part.valueOf? parameter = some value ↔ Gives entry parameter value) ∧
    ((∃ d, ofFields? config = some d) ↔
      (∀ entry ∈ config, ∃ part, ofFields? [entry] = some part) ∧
        ∀ t ∈ Toggle.all, ¬ t.Contradicts config) ∧
    (∀ other : Fields, other.Perm config → ofFields? other = ofFields? config) ∧
    ∀ d, ofFields? config = some d →
      (∀ parameter value, d.valueOf? parameter = some value ↔
        ∃ entry ∈ config, ∃ part, ofFields? [entry] = some part ∧
          part.valueOf? parameter = some value) ∧
      (∀ name, ∃ rest, ofFields? (Assoc.erase name config) = some rest ∧
        ∀ parameter, parameter? name ≠ some parameter →
          rest.valueOf? parameter = d.valueOf? parameter) ∧
      ∀ value, d.valueOf? "out" = some value →
        ∃ s format, value = .text s ∧ OutputFormat.ofName? s = some format := by
  refine ⟨fun entry => ⟨exists_ofFields?_singleton, fun part h _ _ => valueOf?_singleton h⟩, ?_,
    fun other => ofFields?_perm distinct, fun d hd => ?_⟩
  · simp only [exists_ofFields?_singleton]
    constructor
    · rintro ⟨d, hd⟩
      obtain ⟨⟨acceptable, agree⟩, -⟩ := of_ofFields? distinct hd
      exact ⟨acceptable, agree⟩
    · rintro ⟨acceptable, agree⟩
      exact Consistent.exists_ofFields? ⟨acceptable, agree⟩ distinct
  · obtain ⟨consistent, reads⟩ := of_ofFields? distinct hd
    refine ⟨fun parameter value => ?_, ofFields?_erase distinct hd, fun value hvalue => ?_⟩
    · rw [reads.valueOf?_eq_some]
      constructor
      · rintro ⟨entry, hmem, gives⟩
        obtain ⟨part, h⟩ := exists_ofFields?_singleton.mpr (consistent.acceptable entry hmem)
        exact ⟨entry, hmem, part, h, (valueOf?_singleton h).mpr gives⟩
      · rintro ⟨entry, hmem, part, h, hvalue⟩
        exact ⟨entry, hmem, (valueOf?_singleton h).mp hvalue⟩
    · obtain ⟨entry, hmem, gives⟩ := reads.valueOf?_eq_some.mp hvalue
      exact gives.format (consistent.acceptable entry hmem)

/-- An option that is named twice, and a format in another spelling. -/
theorem ofFields?_entrywise_mixed :
    let config := [(letters "--no-color", .bool true), (letters "--color", .bool false),
      (letters "--out", .text " JSON "), (letters "--verbose", .bool true)]
    let d : Defaults := { color? := some false, verbose? := some true, out? := some " JSON " }
    (config.map Prod.fst).Nodup ∧ ofFields? config = some d ∧
      (∀ entry ∈ config, ∃ part, ofFields? [entry] = some part) ∧
      ofFields? config.reverse = some d ∧
      ∃ rest, ofFields? (Assoc.erase (letters "--no-color") config) = some rest ∧
        rest.valueOf? "out" = some (.text " JSON ") := by
  intro config d
  have distinct : (config.map Prod.fst).Nodup := by decide
  have hd : ofFields? config = some d := by decide
  obtain ⟨-, accepted, order, values⟩ := ofFields?_entrywise config distinct
  obtain ⟨-, erased, -⟩ := values d hd
  obtain ⟨rest, hrest, unchanged⟩ := erased (letters "--no-color")
  refine ⟨distinct, hd, (accepted.mp ⟨d, hd⟩).1, ?_, rest, hrest, ?_⟩
  · rw [order _ config.reverse_perm, hd]
  · rw [unchanged "out" (by decide)]
    rfl

end Defaults
end Reckoner
