import Mathlib.Data.List.Induction
import Mathlib.Logic.Relation
import PrismaZod.Proofs.Plan.Flags
import PrismaZod.Proofs.Run.Basic

/-!
# Where options come from

Options come from three layers: what a configuration holds, the overrides in their
order, and a default.  For each key the last override counts, or else what the
configuration holds, if it is a text; a list there counts as nothing, but an
override replaces it.  An output directory that is given apart wins over all of
these.  So overrides of different keys may change places, and those that a later
one replaces, or with keys that are not known, might as well not be there.
-/

namespace PrismaZod

/-- The text that the last of the pairs with a key sets. -/
def lastSet? (pairs : List (String × String)) (key : String) : Option String :=
  (pairs.filter (·.1 == key)).getLast?.map (·.2)

/-- The text of an option, if neither an override nor the configuration leaves it
to its default. -/
def RawConfig.chosen? (raw : RawConfig) (pairs : List (String × String)) (key : String) :
    Option String :=
  match lastSet? pairs key, raw.find? key with
  | some text, _ => some text
  | none, some (.single text) => some text
  | none, some (.list _) => none
  | none, none => none

/-- The configuration takes each option from the first layer that has it. -/
structure Config.Resolves (config : Config) (raw : RawConfig) (pairs : List (String × String))
    (output : Option String) : Prop where
  output : config.output =
    ⟨(output.or (raw.chosen? pairs "output")).getD "./generated/zod"⟩
  multipleFiles : config.multipleFiles = true ↔
    raw.chosen? pairs "multipleFiles" = some "true"
  coerceDate : config.coerceDate = false ↔ raw.chosen? pairs "coerceDate" = some "false"
  createInputTypes : config.createInputTypes = true ↔
    raw.chosen? pairs "createInputTypes" = some "true"

/-- Overrides after a change that does not show. -/
inductive Overrides.Change : List (String × String) → List (String × String) → Prop
  /-- Overrides of different keys change places. -/
  | swap (before after : List (String × String)) {first second : String × String} :
      first.1 ≠ second.1 →
        Change (before ++ first :: second :: after) (before ++ second :: first :: after)
  /-- An override that a later one replaces goes. -/
  | drop (before after : List (String × String)) {pair : String × String} :
      pair.1 ∈ after.map Prod.fst → Change (before ++ pair :: after) (before ++ after)
  /-- An override of an unknown key comes in. -/
  | add (before after : List (String × String)) {pair : String × String} :
      pair.1 ∉ RawConfig.knownKeys → Change (before ++ after) (before ++ pair :: after)

/-- Overrides after any such changes, made or taken back. -/
def Overrides.Alike : List (String × String) → List (String × String) → Prop :=
  Relation.EqvGen Change

section Last

variable {pairs other : List (String × String)} {key : String}

theorem lastSet?_append (first second : List (String × String)) (key : String) :
    lastSet? (first ++ second) key = (lastSet? second key).or (lastSet? first key) := by
  rw [lastSet?, List.filter_append, List.getLast?_append, Option.map_or, ← lastSet?, ← lastSet?]

theorem lastSet?_cons (pair : String × String) (pairs : List (String × String)) (key : String) :
    lastSet? (pair :: pairs) key =
      (lastSet? pairs key).or (if key = pair.1 then some pair.2 else none) := by
  rw [← List.singleton_append, lastSet?_append]
  congr 1
  by_cases same : key = pair.1
  · simp [lastSet?, same]
  · simp [lastSet?, same, Ne.symm same]

theorem lastSet?_eq_none_iff : lastSet? pairs key = none ↔ key ∉ pairs.map Prod.fst := by
  induction pairs with
  | nil => simp [lastSet?]
  | cons pair pairs ih => simp [lastSet?_cons, ih, and_comm]

theorem Overrides.Change.lastSet?_eq (change : Change pairs other)
    (known : key ∈ RawConfig.knownKeys) : lastSet? other key = lastSet? pairs key := by
  cases change with
  | @swap before after first second apart =>
      -- At most one of the two has the key, so it does not matter which comes last.
      simp only [lastSet?_append, lastSet?_cons]
      by_cases isFirst : key = first.1
      · have notSecond : key ≠ second.1 := isFirst ▸ apart
        simp [isFirst, apart]
      · simp [isFirst]
  | @drop before after pair replaced =>
      simp only [lastSet?_append, lastSet?_cons]
      by_cases same : key = pair.1
      · have later : lastSet? after key ≠ none := by
          rw [ne_eq, lastSet?_eq_none_iff, same]
          exact not_not_intro replaced
        obtain ⟨text, isLast⟩ := Option.ne_none_iff_exists'.mp later
        rw [isLast]
        rfl
      · simp [same]
  | @add before after pair unknown =>
      have apart : key ≠ pair.1 := ne_of_mem_of_not_mem known unknown
      simp [lastSet?_append, lastSet?_cons, apart]

theorem Overrides.Alike.lastSet?_eq (alike : Alike pairs other)
    (known : key ∈ RawConfig.knownKeys) : lastSet? other key = lastSet? pairs key := by
  induction alike with
  | rel _ _ change => exact change.lastSet?_eq known
  | refl _ => rfl
  | symm _ _ _ ih => exact ih.symm
  | trans _ _ _ _ _ first second => exact second.trans first

end Last

namespace RawConfig

variable {pairs other : List (String × String)}

theorem find?_override (raw : RawConfig) (pairs : List (String × String)) (key : String) :
    (raw.override pairs).find? key = ((lastSet? pairs key).map .single).or (raw.find? key) := by
  -- Entering pairs one by one, the last of them is on top.
  induction pairs using List.reverseRecOn with
  | nil => rfl
  | append_singleton pairs pair ih =>
      have entered : raw.override (pairs ++ [pair]) =
          (raw.override pairs).insert pair.1 (.single pair.2) := by
        rw [override, List.foldl_append]
        rfl
      rw [entered, Table.find?_insert, ih, lastSet?_append, lastSet?_cons]
      by_cases same : key = pair.1 <;> simp [same, lastSet?]

theorem text?_override (raw : RawConfig) (pairs : List (String × String)) (key : String) :
    (raw.override pairs).text? key = raw.chosen? pairs key := by
  rw [text?, find?_override, chosen?]
  cases lastSet? pairs key with
  | some text => rfl
  | none =>
      cases raw.find? key with
      | none => rfl
      | some value => cases value <;> rfl

end RawConfig

namespace Config

variable {pairs other : List (String × String)}

/-- What is resolved is determined. -/
theorem Resolves.eq {first second : Config} {raw : RawConfig} {output : Option String}
    (one : first.Resolves raw pairs output) (two : second.Resolves raw pairs output) :
    first = second := by
  have sameOutput : first.output = second.output := one.output.trans two.output.symm
  have sameFiles : first.multipleFiles = second.multipleFiles :=
    Bool.eq_iff_iff.mpr (one.multipleFiles.trans two.multipleFiles.symm)
  have sameDates : first.coerceDate = second.coerceDate := by
    have uncoerced := not_congr (one.coerceDate.trans two.coerceDate.symm)
    exact Bool.eq_iff_iff.mpr (by simpa using uncoerced)
  have sameInputs : first.createInputTypes = second.createInputTypes :=
    Bool.eq_iff_iff.mpr (one.createInputTypes.trans two.createInputTypes.symm)
  cases first
  cases second
  simp_all

theorem resolves_ofRaw (raw : RawConfig) (pairs : List (String × String))
    (output : Option String) : (ofRaw (raw.override pairs) output).Resolves raw pairs output where
  output := by rw [ofRaw, RawConfig.text?_override]; rfl
  multipleFiles := by simp [ofRaw, RawConfig.text?_override]
  coerceDate := by simp [ofRaw, RawConfig.text?_override]
  createInputTypes := by simp [ofRaw, RawConfig.text?_override]

theorem ofRaw_override_alike (alike : Overrides.Alike pairs other) (raw : RawConfig)
    (output : Option String) :
    ofRaw (raw.override other) output = ofRaw (raw.override pairs) output := by
  refine ofRaw_congr (fun key known => ?_) output
  rw [RawConfig.text?_override, RawConfig.text?_override, RawConfig.chosen?, RawConfig.chosen?,
    alike.lastSet?_eq known]

theorem resolves_iff {config : Config} {raw : RawConfig} {output : Option String} :
    config.Resolves raw pairs output ↔ config = ofRaw (raw.override pairs) output :=
  ⟨fun resolves => resolves.eq (resolves_ofRaw raw pairs output),
    fun same => same ▸ resolves_ofRaw raw pairs output⟩

end Config

/-! ## Runs -/

/-- The options that a configuration file holds on a disk; without one there are
none. -/
def Disk.fileOptions (disk : Disk) : Option Path → Except Failure RawConfig
  | none => .ok []
  | some path => disk.result (RawConfig.load path)

/-- The document that the command line is given holds the datamodel. -/
def Disk.Documents (disk : Disk) (schema : String) (input : List UInt8) (datamodel : Datamodel) :
    Prop :=
  ∃ text, disk.result (CommandLine.readDocument schema input) = .ok text ∧
    Datamodel.ofText text = .ok datamodel

theorem Disk.result_readOptions (disk : Disk) (arguments : CommandLine.GenerateArguments) :
    disk.result (CommandLine.readOptions arguments) =
      match disk.fileOptions arguments.config with
      | .error failure => .error (.ofFailure failure)
      | .ok raw => .ok (raw.override arguments.overrides) := by
  obtain ⟨schema, config, output, overrides⟩ := arguments
  cases config with
  | none => rfl
  | some path =>
      rw [result, CommandLine.readOptions, run_bind, onlyReads_load, fileOptions]
      cases disk.result (RawConfig.load path) <;> rfl

namespace Run

theorem asked_command_iff {disk : Disk} {arguments : CommandLine.GenerateArguments}
    {input : List UInt8} {datamodel : Datamodel} {config : Config} :
    (Run.command arguments input).asked disk = .ok (datamodel, config) ↔
      disk.Documents arguments.schema input datamodel ∧
        ∃ raw, disk.fileOptions arguments.config = .ok raw ∧
          config.Resolves raw arguments.overrides arguments.output := by
  simp only [Config.resolves_iff, Disk.Documents]
  rw [asked, Disk.askedFor, Disk.result_readOptions]
  cases disk.result (CommandLine.readDocument arguments.schema input) with
  | error report => simp
  | ok text =>
      cases decoded : Datamodel.ofText text with
      | error fault => simp [decoded]
      | ok whole =>
          cases disk.fileOptions arguments.config with
          | error failure => simp [decoded]
          | ok raw => simp [decoded, eq_comm]

theorem asked_request_iff {disk : Disk} {id parameters : Json} {datamodel : Datamodel}
    {config : Config} :
    (Run.request id parameters).asked disk = .ok (datamodel, config) ↔
      ∃ options, GeneratorOptions.ofParameters parameters = .ok options ∧
        datamodel = options.dmmf.datamodel ∧
        config.Resolves options.generator.config []
          (options.generator.output.bind (·.value)) := by
  simp only [Config.resolves_iff]
  rw [asked]
  cases GeneratorOptions.ofParameters parameters with
  | error fault => simp
  | ok options =>
      simp only [Except.ok.injEq, Prod.mk.injEq, exists_eq_left']
      exact and_congr eq_comm eq_comm

end Run

/-- Of every option the last override counts, or else a text that the configuration
has, or else the default, and an output directory given apart wins; so overrides that
are alike make the same configuration.  The command line and the requests to generate
take their configurations in this way, the latter without overrides. -/
theorem options_precedence (raw : RawConfig) {pairs other : List (String × String)}
    (alike : Overrides.Alike pairs other) (output : Option String) :
    (Config.ofRaw (raw.override pairs) output).Resolves raw pairs output ∧
      Config.ofRaw (raw.override other) output = Config.ofRaw (raw.override pairs) output ∧
      (∀ block : GeneratorBlock, (Config.ofGenerator block).Resolves block.config []
        (block.output.bind (·.value))) ∧
      ∀ (disk : Disk) (datamodel : Datamodel) (config : Config),
        (∀ arguments input,
          (Run.command arguments input).asked disk = .ok (datamodel, config) ↔
            disk.Documents arguments.schema input datamodel ∧
              ∃ held, disk.fileOptions arguments.config = .ok held ∧
                config.Resolves held arguments.overrides arguments.output) ∧
          ∀ id parameters,
            (Run.request id parameters).asked disk = .ok (datamodel, config) ↔
              ∃ options, GeneratorOptions.ofParameters parameters = .ok options ∧
                datamodel = options.dmmf.datamodel ∧
                config.Resolves options.generator.config []
                  (options.generator.output.bind (·.value)) := by
  refine ⟨Config.resolves_ofRaw raw pairs output, Config.ofRaw_override_alike alike raw output,
    fun block => Config.resolves_ofRaw block.config [] block.outputPath, ?_⟩
  intro disk datamodel config
  exact ⟨fun arguments input => Run.asked_command_iff, fun id parameters => Run.asked_request_iff⟩

/-- Two overrides are replaced by later ones, of which one takes the place of a list,
and an unknown key comes between these. -/
theorem options_precedence_replaced :
    let raw : RawConfig := [("coerceDate", .list ["true"]), ("output", .single "from-file")]
    let pairs := [("multipleFiles", "false"), ("coerceDate", "true"), ("multipleFiles", "true"),
      ("coerceDate", "false")]
    let other := [("coerceDate", "false"), ("prettier", "true"), ("multipleFiles", "true")]
    Overrides.Alike pairs other ∧
      (Config.ofRaw (raw.override pairs) none).Resolves raw pairs none ∧
      Config.ofRaw (raw.override other) none = Config.ofRaw (raw.override pairs) none ∧
      Config.ofRaw (raw.override other) none = ⟨⟨"from-file"⟩, true, false, false⟩ := by
  intro raw pairs other
  have replaced : Overrides.Alike pairs (pairs.drop 2) :=
    .trans _ _ _ (.rel _ _ (.drop [] (pairs.drop 1) (by decide)))
      (.rel _ _ (.drop [] (pairs.drop 2) (by decide)))
  have moved : Overrides.Alike (pairs.drop 2)
      [("coerceDate", "false"), ("multipleFiles", "true")] :=
    .rel _ _ (.swap [] [] (by decide))
  have extended : Overrides.Alike [("coerceDate", "false"), ("multipleFiles", "true")] other :=
    .rel _ _ (.add [("coerceDate", "false")] [("multipleFiles", "true")] (by decide))
  have alike : Overrides.Alike pairs other := .trans _ _ _ replaced (.trans _ _ _ moved extended)
  obtain ⟨resolves, same, -⟩ := options_precedence raw alike none
  exact ⟨alike, resolves, same, by decide⟩

end PrismaZod
