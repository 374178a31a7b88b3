import EarlyBreak.CommandLine.Run
import EarlyBreak.Proofs.Cache.Decoding
import EarlyBreak.Proofs.Json.Records
import EarlyBreak.Proofs.Json.Texts
import Mathlib.Data.String.Basic

/-! Configurations that are printed and loaded again.  Whatever document a configuration came from,
its record has every field of it, and the record is read from its printed lines as it was.
-/

namespace EarlyBreak

namespace PathOverride

variable {rule other : PathOverride} {rules front : List PathOverride} {value : Json}

/-- Whether the keys of rules increase, so that none of them comes twice. -/
def Increasing (rules : List PathOverride) : Prop := rules.Pairwise (·.key < ·.key)

theorem mem_insert (member : other ∈ insert rule rules) : other = rule ∨ other ∈ rules := by
  induction rules with
  | nil => exact .inl (List.mem_singleton.mp member)
  | cons first rest ih =>
      rw [insert] at member
      split at member
      case isTrue =>
        rcases List.mem_cons.mp member with same | later
        · exact .inl same
        · exact .inr (List.mem_cons_of_mem first later)
      case isFalse =>
        split at member
        case isTrue => exact List.mem_cons.mp member
        case isFalse =>
          rcases List.mem_cons.mp member with rfl | later
          · exact .inr List.mem_cons_self
          · exact (ih later).imp_right (List.mem_cons_of_mem first)

/-- A rule takes the place of the one with its key, or stands where its key belongs. -/
theorem increasing_insert (increasing : Increasing rules) (rule : PathOverride)
    : Increasing (insert rule rules) := by
  induction rules with
  | nil => exact List.pairwise_singleton _ rule
  | cons first rest ih =>
      obtain ⟨before, others⟩ := List.pairwise_cons.mp increasing
      rw [insert]
      split
      case isTrue same =>
        refine List.pairwise_cons.mpr ⟨fun later member => ?_, others⟩
        rw [same]
        exact before later member
      case isFalse different =>
        split
        case isTrue less =>
          refine List.pairwise_cons.mpr ⟨fun later member => ?_, increasing⟩
          rcases List.mem_cons.mp member with rfl | member
          · exact less
          · exact lt_trans less (before later member)
        case isFalse notLess =>
          have greater : first.key < rule.key :=
            lt_of_le_of_ne (not_lt.mp notLess) fun same => different same.symm
          refine List.pairwise_cons.mpr ⟨fun later member => ?_, ih others⟩
          rcases mem_insert member with rfl | member
          · exact greater
          · exact before later member

/-- Rules that are read stand in the order of their keys, as each is inserted at its place. -/
theorem increasing_of_ofRecord? (read : ofRecord? value = some rules) : Increasing rules := by
  have folded : ∀ (rules front : List PathOverride), Increasing front →
      Increasing (rules.foldl (fun sorted rule => insert rule sorted) front) := by
    intro rules
    induction rules with
    | nil => exact fun _ increasing => increasing
    | cons rule rest ih => exact fun _ increasing => ih _ (increasing_insert increasing rule)
  unfold ofRecord? at read
  split at read
  case h_1 =>
    obtain ⟨given, -, same⟩ := Option.bind_eq_some_iff.mp read
    obtain rfl := Option.some.inj same
    exact folded given [] .nil
  case h_2 => cases read

/-- A rule whose key is greater than all others is added at the end. -/
theorem insert_of_forall_lt (greater : ∀ other ∈ rules, other.key < rule.key)
    : insert rule rules = rules ++ [rule] := by
  induction rules with
  | nil => rfl
  | cons first rest ih =>
      obtain ⟨here, others⟩ := List.forall_mem_cons.mp greater
      rw [insert, if_neg (ne_of_gt here), if_neg (not_lt_of_gt here), ih others, List.cons_append]

/-- Rules in the order of their keys are inserted one behind the other. -/
theorem foldl_insert (increasing : Increasing (front ++ rules))
    : rules.foldl (fun sorted rule => insert rule sorted) front = front ++ rules := by
  induction rules generalizing front with
  | nil => rw [List.foldl_nil, List.append_nil]
  | cons rule rest ih =>
      have greater : ∀ other ∈ front, other.key < rule.key := by
        intro other member
        exact (List.pairwise_append.mp increasing).2.2 other member rule List.mem_cons_self
      have moved : front ++ rule :: rest = (front ++ [rule]) ++ rest := by simp
      rw [moved] at increasing ⊢
      rw [List.foldl_cons, insert_of_forall_lt greater, ih increasing]

/-- Rules with increasing keys are read from the object that they are written as. -/
theorem ofRecord?_object (increasing : Increasing rules)
    : ofRecord? (.object (rules.map fun rule => (rule.key, .string rule.value))) = some rules := by
  have given : (rules.map fun rule => (rule.key, Json.string rule.value)).mapM
      (fun member : String × Json => do return (⟨member.1, ← member.2.text?⟩ : PathOverride))
      = some rules := by
    rw [List.mapM_map]
    exact (Json.mapM_eq_some_map (f := id) fun _ _ => rfl).trans (by rw [List.map_id])
  have sorted : rules.foldl (fun sorted rule => insert rule sorted) [] = rules :=
    foldl_insert increasing
  simp only [ofRecord?]
  rw [given]
  exact congrArg some sorted

end PathOverride

/-- Whether a path is the one that its text spells. -/
def Path.IsText (p : Path) : Prop := ofString p.text = p

/-- A path that is read is a text. -/
theorem Path.isText_of_ofJson? {value : Json} {p : Path} (read : ofJson? value = some p)
    : p.IsText := by
  obtain ⟨s, -, rfl⟩ := Option.map_eq_some_iff.mp read
  exact congrArg ofString (Text.ofBytesLossy_toBytes s)

theorem Path.ofJson?_toJson {p : Path} (isText : p.IsText) : ofJson? p.toJson = some p :=
  congrArg some isText

theorem ConfigFormat.fields?_json (keys : List String) (value : Json)
    : ConfigFormat.json.fields? keys value = value.fields? keys .refused := rfl

/-- A strategy is read by its name, in either format. -/
theorem Strategy.ofRecord?_name (format : ConfigFormat) (strategy : Strategy)
    : ofRecord? format (.string strategy.name) = some strategy := by
  cases strategy <;> rfl

namespace PredictionConfig

variable {format : ConfigFormat} {value : Json} {config : PredictionConfig}

/-- What a record that was read has: a folder that is a text, and numbers of 64 bits. -/
structure Fits (config : PredictionConfig) : Prop where
  cacheDir : ∀ path ∈ config.cacheDir, path.IsText
  longParseWarning : config.longParseWarning < Nat.pow 2 64
  concurrency : config.concurrency < Nat.pow 2 64

theorem fits_default : Fits {} :=
  ⟨nofun, by decide, by decide⟩

theorem fits_of_ofRecord? (read : ofRecord? format value = some config) : config.Fits := by
  simp only [ofRecord?, bind, Option.bind_eq_some_iff] at read
  obtain ⟨fields, -, read⟩ := read
  split at read
  case h_1 cacheDir longParseWarning concurrency =>
    simp only [Option.bind_eq_some_iff, pure, Option.some.injEq] at read
    obtain ⟨folder, cached, warning, warned, count, counted, rfl⟩ := read
    refine ⟨fun path given => ?_, ?_, ?_⟩
    · obtain ⟨json, -, -, read⟩ := Json.exists_of_optional? cached path given
      exact Path.isText_of_ofJson? read
    · exact Json.of_defaulted? (P := (· < Nat.pow 2 64)) warned (by decide)
        fun _ => Json.lt_of_natBelow?
    · exact Json.of_defaulted? (P := (· < Nat.pow 2 64)) counted (by decide)
        fun _ => Json.lt_of_natBelow?
  case h_2 => cases read

/-- The fields that are printed are the fields that are read. -/
theorem fields?_toRecord (config : PredictionConfig)
    : ConfigFormat.json.fields? keys config.toRecord
      = some [some ((config.cacheDir.map Path.toJson).getD .null),
          some (.int config.longParseWarning), some (.int config.concurrency)] := by
  rw [ConfigFormat.fields?_json, toRecord, Json.fields?_object (by simp) (.inr (by simp [keys]))]
  cases config.cacheDir <;> simp [keys, List.lookup_cons]

/-- What is read depends on the fields. -/
theorem ofRecord?_of_fields {cacheDir longParseWarning concurrency : Option Json}
    (fields : format.fields? keys value = some [cacheDir, longParseWarning, concurrency])
    : ofRecord? format value = do
        return {
          cacheDir := ← Json.optional? Path.ofJson? cacheDir
          longParseWarning := ← Json.defaulted? 10000 Json.word64? longParseWarning
          concurrency := ← Json.defaulted? 16 Json.word64? concurrency } := by
  rw [ofRecord?, fields]
  rfl

/-- A configuration of predictions is read from what is printed of it, if its numbers fit. -/
theorem ofRecord?_toRecord (fits : config.Fits)
    : ofRecord? .json config.toRecord = some config := by
  have cacheDir : Json.optional? Path.ofJson? (some ((config.cacheDir.map Path.toJson).getD .null))
      = some config.cacheDir := by
    cases known : config.cacheDir with
    | none => rfl
    | some path => exact congrArg some (Path.ofJson?_toJson (fits.cacheDir path known))
  rw [ofRecord?_of_fields (fields?_toRecord config), cacheDir, Json.defaulted?_some,
    Json.defaulted?_some, Json.word64?_int fits.longParseWarning,
    Json.word64?_int fits.concurrency]
  rfl

/-- And there are only values in it that a text keeps. -/
theorem isExact_toRecord (fits : config.Fits) : config.toRecord.IsExact := by
  have numbers := And.intro (Json.isWord_natCast fits.longParseWarning)
    (Json.isWord_natCast fits.concurrency)
  rw [toRecord]
  cases config.cacheDir <;> exact ⟨trivial, numbers.1, numbers.2, trivial⟩

end PredictionConfig

namespace LoggingConfig

/-- A record is read from what is written of it. -/
theorem ofRecord?_toRecord (config : LoggingConfig)
    : ofRecord? .json config.toRecord = some config := by
  have fields : ConfigFormat.json.fields? keys config.toRecord
      = some [some (.string config.level), some (.bool config.json)] := by
    rw [ConfigFormat.fields?_json, toRecord,
      Json.fields?_object (by simp) (.inr (by simp [keys]))]
    simp [keys, List.lookup_cons]
  rw [ofRecord?, fields]
  rfl

end LoggingConfig

namespace LaunchConfig

variable {format : ConfigFormat} {value : Json} {config : LaunchConfig} {text : String}

/-- What a configuration that was read has: paths that are texts, rules in order of their keys, and
numbers of 64 bits.
-/
structure Fits (config : LaunchConfig) : Prop where
  rootPath : config.rootPath.IsText
  pathOverrides : PathOverride.Increasing config.pathOverrides
  prediction : config.prediction.Fits

theorem fits_of_ofRecord? (read : ofRecord? format value = some config) : config.Fits := by
  simp only [ofRecord?, bind, Option.bind_eq_some_iff] at read
  obtain ⟨fields, -, read⟩ := read
  split at read
  case h_1 rootPath outFiles strategy pathOverrides prediction logging =>
    simp only [Option.bind_eq_some_iff, pure, Option.some.injEq] at read
    obtain ⟨root, rooted, _, -, _, -, rules, ruled, nested, predicted, _, -, rfl⟩ := read
    refine ⟨?_, ?_, ?_⟩
    · cases rootPath with
      | none => cases rooted
      | some json => exact Path.isText_of_ofJson? rooted
    · exact Json.of_defaulted? ruled .nil fun _ => PathOverride.increasing_of_ofRecord?
    · exact Json.of_defaulted? predicted PredictionConfig.fits_default
        fun _ => PredictionConfig.fits_of_ofRecord?
  case h_2 => cases read

theorem fields?_toRecord (config : LaunchConfig)
    : ConfigFormat.json.fields? keys config.toRecord
      = some [some config.rootPath.toJson, some (.array (config.outFiles.map .string)),
          some (.string config.strategy.name),
          some (.object (config.pathOverrides.map fun rule => (rule.key, .string rule.value))),
          some config.prediction.toRecord, some config.logging.toRecord] := by
  rw [ConfigFormat.fields?_json, toRecord, Json.fields?_object (by simp) (.inr (by simp [keys]))]
  simp [keys, List.lookup_cons]

/-- A configuration that was read is read again from its record. -/
theorem ofRecord?_toRecord (fits : config.Fits)
    : ofRecord? .json config.toRecord = some config := by
  simp only [ofRecord?, fields?_toRecord, Option.bind_eq_bind, Option.bind_some,
    Json.required?_some, Json.defaulted?_some, Path.ofJson?_toJson fits.rootPath,
    Json.texts?_array, Strategy.ofRecord?_name, PathOverride.ofRecord?_object fits.pathOverrides,
    PredictionConfig.ofRecord?_toRecord fits.prediction, LoggingConfig.ofRecord?_toRecord,
    Option.pure_def]

theorem isExact_toRecord (fits : config.Fits) : config.toRecord.IsExact := by
  have outFiles : Json.AreItemsExact (config.outFiles.map .string) := by
    refine Json.areItemsExact_iff.mpr fun item member => ?_
    obtain ⟨pattern, -, rfl⟩ := List.mem_map.mp member
    exact trivial
  have pathOverrides : Json.AreMembersExact
      (config.pathOverrides.map fun rule => (rule.key, .string rule.value)) := by
    refine Json.areMembersExact_iff.mpr fun rule member => ?_
    obtain ⟨rule, -, rfl⟩ := List.mem_map.mp member
    exact trivial
  have prediction := PredictionConfig.isExact_toRecord fits.prediction
  have logging : config.logging.toRecord.IsExact := ⟨trivial, trivial, trivial⟩
  exact ⟨trivial, outFiles, trivial, pathOverrides, prediction, logging, trivial⟩

/-- A value is loaded exactly if it can be read as a configuration which is accepted. -/
theorem ofValue_eq_ok_iff {fault : ConfigError} {value : Option Json}
    : ofValue format fault value = .ok config
      ↔ value.bind (ofRecord? format) = some config ∧ config.validate = .ok () := by
  rw [ofValue]
  cases value.bind (ofRecord? format) with
  | none => exact ⟨nofun, nofun⟩
  | some read =>
      rw [Option.some.injEq]
      constructor
      · intro loaded
        cases valid : read.validate with
        | error fault => simp [valid, Except.map] at loaded
        | ok =>
            simp only [valid, Except.map, Except.ok.injEq] at loaded
            exact ⟨loaded, loaded ▸ valid⟩
      · rintro ⟨rfl, valid⟩
        simp only [valid, Except.map]

/-- What a text gives was read from a record, and is valid. -/
theorem fits_of_ofText (loaded : ofText format text = .ok config)
    : config.Fits ∧ config.validate = .ok () := by
  cases format
  all_goals
    obtain ⟨read, valid⟩ := ofValue_eq_ok_iff.mp loaded
    obtain ⟨value, -, read⟩ := Option.bind_eq_some_iff.mp read
    exact ⟨fits_of_ofRecord? read, valid⟩

/-- The lines of the record give the configuration again, whatever blanks follow them. -/
theorem ofText_indented {blank : String} (fits : config.Fits) (valid : config.validate = .ok ())
    (blanks : Json.IsBlank blank.toList)
    : ofText .json (config.toRecord.indented ++ blank) = .ok config := by
  have parsed := Json.parse?_indented (isExact_toRecord fits) blanks
  rw [ofText, ofValue_eq_ok_iff, parsed]
  exact ⟨ofRecord?_toRecord fits, valid⟩

/-- A configuration that a text of any format gives is given again by its record in lines, and by
all that the command prints which shows a file with this configuration.
-/
theorem printed_again (loaded : ofText format text = .ok config)
    : ofText .json config.toRecord.indented = .ok config
      ∧ ∀ tree now path, load tree (Path.ofString path) = .ok config →
        ofText .json (CommandLine.Command.run tree now (.config path)).output = .ok config := by
  obtain ⟨fits, valid⟩ := fits_of_ofText loaded
  refine ⟨?_, fun tree now path found => ?_⟩
  · have again : ofText .json (config.toRecord.indented ++ "") = .ok config :=
      ofText_indented fits valid nofun
    rwa [String.append_empty] at again
  · have shown : CommandLine.loadConfig tree (Path.ofString path) = .ok config := by
      rw [CommandLine.loadConfig, found]
      rfl
    have output : (CommandLine.Command.run tree now (.config path)).output
        = config.toRecord.indented ++ "\n" := by
      rw [CommandLine.Command.run, shown]
      simp [CommandLine.outcomeOf, CommandLine.Outcome.ofLines]
    rw [output]
    exact ofText_indented fits valid (List.forall_mem_singleton.mpr rfl)

/-- A file with a text gives the configuration that the text gives. -/
theorem load_of_node? {tree : FileTree} {path : Path} {document : String} {modified : Int}
    (node : tree.node? path = .ok (.file document.toUTF8 modified))
    (named : formatOf? path = some format)
    : load tree path = ofText format document := by
  have text : tree.readText? path = .ok document := by
    simp only [FileTree.readText?, FileTree.read?, node, bind, Except.bind, pure, Except.pure,
      Cache.fromUTF8?_toUTF8]
  simp only [load, text, named]

/-- A document whose rules stand out of order and whose texts need escapes. -/
def sampleDocument : String :=
  "rootPath = \"/w\"\noutFiles = ['!é\"']\n"
    ++ "[sourceMapPathOverrides]\nb = \"\"\na = \"x\\n\\u0001\"\n"
    ++ "[prediction]\nlongParseWarningMs = 9223372036854775807\n"

/-- The configuration that the document gives. -/
def sampleLoaded : LaunchConfig where
  rootPath := Path.ofString "/w"
  outFiles := ["!é\""]
  pathOverrides := [⟨"a", "x\n\x01"⟩, ⟨"b", ""⟩]
  prediction := { longParseWarning := 9223372036854775807 }

/-- A tree with one file, which has the contents. -/
def sampleFolder (contents : ByteArray) : FileTree :=
  ⟨.folder [(Text.toBytes "l.toml", .file contents 0)], []⟩

theorem load_sampleFolder (document : String)
    : load (sampleFolder document.toUTF8) (Path.ofString "/l.toml") = ofText .toml document := by
  have node : ∀ contents,
      (sampleFolder contents).node? (Path.ofString "/l.toml") = .ok (.file contents 0) := by
    intro contents
    cbv
  have format : formatOf? (Path.ofString "/l.toml") = some .toml := by cbv
  exact load_of_node? (node _) format

theorem printed_again_sample
    : load (sampleFolder sampleDocument.toUTF8) (Path.ofString "/l.toml") = .ok sampleLoaded
      ∧ ofText .json sampleLoaded.toRecord.indented = .ok sampleLoaded
      ∧ ofText .json (CommandLine.Command.run (sampleFolder sampleDocument.toUTF8) 0
          (.config "/l.toml")).output = .ok sampleLoaded := by
  have loaded : ofText .toml sampleDocument = .ok sampleLoaded := by decide +kernel
  have found := (load_sampleFolder sampleDocument).trans loaded
  obtain ⟨again, shown⟩ := printed_again loaded
  exact ⟨found, again, shown _ 0 _ found⟩

end LaunchConfig

end EarlyBreak
