import TenantStore.Config.Document
import TenantStore.Proofs.Files
import TenantStore.Proofs.Spans
import TenantStore.Proofs.Toml.Documents

namespace TenantStore

/-!
# Configurations read back from their files

A configuration is written as three plain tables, in which unset options are
left out. Reading them takes the defaults for these, so a configuration that
was saved is loaded again as it was (`Config.load_save`). The one thing that a
file cannot hold is a number of connections that has no signed 64 bits.
-/

/-! ## Files -/

namespace Files

/-- Whether a file can be written under a path: a folder is there for it, and none in its place. -/
def isWritable (files : Files) (path : FilePath) : Bool :=
  !files.isFolder (files.locate path) && files.isFolder (files.locate path).dropLast

/-- A file that can be written is written. -/
theorem write_of_isWritable
    {files : Files}
    {path : FilePath}
    (writable : files.isWritable path = true)
    (bytes : ByteArray) :
    files.write path bytes = .ok (files.put (files.locate path) (.file bytes)) := by
  simp only [isWritable, Bool.and_eq_true, Bool.not_eq_true'] at writable
  rw [write, if_neg (by simp [writable])]

/-- What was written is read. -/
theorem read_write
    {files saved : Files}
    {path : FilePath}
    {bytes : ByteArray}
    (run : files.write path bytes = .ok saved) :
    saved.read path = .ok bytes := by
  obtain ⟨noFolder, rfl⟩ := write_eq_ok run
  have notRoot : (files.locate path).isEmpty = false := by
    cases located : files.locate path with
    | nil => simp [isFolder, nodeAt?, located] at noFolder
    | cons part parts => rfl
  have same : (files.put (files.locate path) (.file bytes)).locate path = files.locate path := rfl
  rw [read, node?, same, nodeAt?, notRoot, put, Dict.get?_insert, if_pos rfl]
  rfl

end Files

/-! ## Names -/

/-- A name that validation accepts is the name of a level. -/
theorem LogLevel.exists_of_named
    {name : String}
    (isNamed : (LogLevel.named.lookup name).isNone = false) :
    ∃ level : LogLevel, level.name = name := by
  cases found : LogLevel.named.lookup name with
  | none => simp [found] at isNamed
  | some level =>
      obtain ⟨front, back, named_eq, _⟩ := List.lookup_eq_some_iff.mp found
      have all : ∀ entry ∈ LogLevel.named, entry.2.name = entry.1 := by decide
      exact ⟨level, all (name, level) (by simp [named_eq])⟩

/-- A level is read back from its name. -/
theorem LogLevel.parse_name (level : LogLevel) : LogLevel.parse level.name = .ok level := by
  cases level <;> decide

@[simp] theorem Toml.text?_text (value : String) : (Toml.text value).text? = some value :=
  rfl

@[simp] theorem Toml.nat?_nat (value : Nat) : (Toml.integer value).nat? = some value :=
  rfl

/-- An engine is known by its name. -/
theorem Engine.variant?_name (engine : Engine) :
    (Toml.text engine.name).variant? Engine.named = some engine := by
  cases engine <;> decide

/-! ## The document -/

open Toml

/-- A line with a text. -/
def textLine (key text : String) : Assignment where
  key := key
  spelling := (writeText text).toList
  value := .text text

/-- A line with a truth value. -/
def flagLine (key : String) (value : Bool) : Assignment where
  key := key
  spelling := (Config.writeFlag value).toList
  value := .bool value

/-- A line with a natural number. -/
def numberLine (key : String) (number : UInt64) : Assignment where
  key := key
  spelling := Text.decimal number.toNat
  value := .integer number.toNat

/-- A truth value is spelled by the word that is written for it. -/
theorem spells_writeFlag (value : Bool) :
    Spells (Config.writeFlag value).toList (.bool value) := by
  cases value with
  | false => exact spells_false
  | true => exact spells_true

section Lines

variable {key : String} (bare : isBare key = true)

include bare

/-- Every text can be written: what a string cannot hold is escaped. -/
theorem textLine_readable (text : String) : (textLine key text).IsReadable where
  bare := bare
  spells := by
    simp only [textLine]
    exact spells_writeText text

/-- A line with a truth value is readable. -/
theorem flagLine_readable (value : Bool) : (flagLine key value).IsReadable :=
  ⟨bare, spells_writeFlag value⟩

/-- A number below the bound can be read back, which a larger one cannot. -/
theorem numberLine_readable {number : UInt64} (small : number.toNat < 0x8000000000000000) :
    (numberLine key number).IsReadable :=
  ⟨bare, spells_decimal small⟩

end Lines

namespace StoreConfig

/-- Whether every number of a configuration has a signed one of 64 bits. -/
def Fits (config : StoreConfig) : Prop :=
  ∀ number, config.maxOpenConns = some number → number.toNat < 0x8000000000000000

/-- The table of the store. -/
def table (config : StoreConfig) : PlainTable where
  key := "store"
  lines :=
    (config.engine.map (fun engine => textLine "engine" engine.name)).toList ++
      textLine "data_dir" config.dataDir ::
        (config.maxOpenConns.map (numberLine "max_open_conns")).toList ++
      [textLine "busy_timeout" config.busyTimeout.text]

/-- The table of the store is readable, with each of its options set or not. -/
theorem table_readable {config : StoreConfig} (fits : config.Fits) :
    config.table.IsReadable where
  bare := by
    simp only [table]
    decide
  lines := by
    intro assignment member
    simp only [table, List.mem_append, Option.mem_toList, Option.map_eq_some_iff, List.mem_cons,
      List.not_mem_nil, or_false] at member
    rcases member with (⟨engine, _, rfl⟩ | rfl | ⟨number, found, rfl⟩) | rfl
    · exact textLine_readable (by decide) engine.name
    · exact textLine_readable (by decide) config.dataDir
    · exact numberLine_readable (by decide) (fits number found)
    · exact textLine_readable (by decide) config.busyTimeout.text
  distinct := by
    cases engine : config.engine with
    | none => cases connections : config.maxOpenConns with
      | none => simp [table, engine, connections, textLine]
      | some number => simp [table, engine, connections, textLine, numberLine]
    | some chosen => cases connections : config.maxOpenConns with
      | none => simp [table, engine, connections, textLine]
      | some number => simp [table, engine, connections, textLine, numberLine]

/-- The configuration of the store is read back from its table. -/
theorem ofToml?_table (config : StoreConfig) :
    ofToml? config.table.entry.2 = some config := by
  obtain ⟨engine, dataDir, connections, timeout⟩ := config
  have span : spanOfToml? (.text timeout.text) = some timeout := Span.ofText?_text timeout
  have variant (engine : Engine) : variant? Engine.named (.text engine.name) = some engine :=
    engine.variant?_name
  cases engine <;> cases connections <;>
    simp [ofToml?, table, PlainTable.entry, Assignment.entry, Toml.fields?, Toml.get,
      List.lookup_cons, textLine, numberLine, span, variant]

end StoreConfig

namespace LoggingConfig

/-- The table of logging. -/
def table (config : LoggingConfig) : PlainTable where
  key := "logging"
  lines := [textLine "level" config.level, flagLine "json_format" config.jsonFormat,
    flagLine "with_target" config.withTarget]

theorem table_readable (config : LoggingConfig) : config.table.IsReadable where
  bare := by
    simp only [table]
    decide
  lines := by
    simp only [table, List.forall_mem_cons]
    exact ⟨textLine_readable (by decide) config.level,
      flagLine_readable (by decide) config.jsonFormat,
      flagLine_readable (by decide) config.withTarget, by simp⟩
  distinct := by simp [table, textLine, flagLine]

/-- The configuration of logging is read back from its table. -/
theorem ofToml?_table (config : LoggingConfig) :
    ofToml? config.table.entry.2 = some config :=
  rfl

end LoggingConfig

namespace MetricsConfig

/-- The table of metrics. -/
def table (config : MetricsConfig) : PlainTable where
  key := "metrics"
  lines := [flagLine "enabled" config.enabled]

theorem table_readable (config : MetricsConfig) : config.table.IsReadable where
  bare := by
    simp only [table]
    decide
  lines := by
    simp only [table, List.forall_mem_cons]
    exact ⟨flagLine_readable (by decide) config.enabled, by simp⟩
  distinct := by simp [table]

/-- The switch of the metrics is read back from its table. -/
theorem ofToml?_table (config : MetricsConfig) :
    ofToml? config.table.entry.2 = some config :=
  rfl

end MetricsConfig

namespace Config

/-- The tables of a configuration. -/
def tables (config : Config) : List PlainTable :=
  [config.store.table, config.logging.table, config.metrics.table]

/-- What is written for a text is its line. -/
theorem toList_writeLine_text (key text : String) :
    (writeLine key (writeText text)).toList = (textLine key text).chars := by
  simp [writeLine, textLine, Assignment.chars]

/-- What is written for a truth value is its line. -/
theorem toList_writeLine_flag (key : String) (value : Bool) :
    (writeLine key (writeFlag value)).toList = (flagLine key value).chars := by
  simp [writeLine, flagLine, Assignment.chars]

/-- What is written for a number is its line. -/
theorem toList_writeLine_number (key : String) (number : UInt64) :
    (writeLine key (Text.showNat number.toNat)).toList = (numberLine key number).chars := by
  simp [writeLine, numberLine, Assignment.chars, Text.showNat]

/-- An option is written as its line, or not at all. -/
theorem writeOption?_eq
    {key : String}
    {write : α → Option String}
    {line : α → Assignment}
    {option : Option α}
    (written : ∀ value, option = some value →
      ∃ text, write value = some text ∧ (writeLine key text).toList = (line value).chars) :
    ∃ text, writeOption? key write option = some text ∧
      text.toList = (option.map line).toList.flatMap Assignment.chars := by
  cases option with
  | none => exact ⟨"", rfl, rfl⟩
  | some value =>
      obtain ⟨text, text_eq, chars_eq⟩ := written value rfl
      refine ⟨writeLine key text, by simp [writeOption?, text_eq], ?_⟩
      simp [chars_eq]

/-- A configuration is written as its tables. -/
theorem document?_eq {config : Config} (fits : config.store.Fits) :
    ∃ document, config.document? = some document ∧
      document.toList = (PlainTable.document config.tables).flatMap Item.chars := by
  obtain ⟨engine, engine_eq, engineChars⟩ := @writeOption?_eq Engine "engine"
    (fun engine => some (writeText engine.name)) (fun engine => textLine "engine" engine.name)
    config.store.engine (fun engine _ => ⟨_, rfl, toList_writeLine_text _ _⟩)
  obtain ⟨connections, connections_eq, connectionsChars⟩ := @writeOption?_eq UInt64
    "max_open_conns" writeNumber? (numberLine "max_open_conns") config.store.maxOpenConns
    (fun number found => ⟨_, if_pos (fits number found), toList_writeLine_number _ _⟩)
  refine ⟨_, by rw [document?, engine_eq, connections_eq]; rfl, ?_⟩
  simp [String.join, engineChars, connectionsChars, tables, PlainTable.document, PlainTable.items,
    StoreConfig.table, LoggingConfig.table, MetricsConfig.table, Item.chars, List.flatMap_map,
    toList_writeLine_text, toList_writeLine_flag]

/-- Only a number of connections can be too large to be written. -/
theorem fits_of_document? {config : Config} {document : String}
    (written : config.document? = some document) :
    config.store.Fits := by
  intro number found
  by_contra large
  have unwritten : writeOption? "max_open_conns" writeNumber? config.store.maxOpenConns = none := by
    rw [found, writeOption?, writeNumber?, if_neg large, Option.map_none]
  rw [document?, unwritten] at written
  simp at written

/-- A document is read as the configuration that it was written for. -/
theorem ofDocument?_eq
    {config : Config}
    (fits : config.store.Fits)
    {document : String}
    (written : config.document? = some document) :
    ofDocument? document = some config := by
  obtain ⟨same, same_eq, chars_eq⟩ := document?_eq fits
  obtain rfl : same = document := Option.some.inj (same_eq.symm.trans written)
  have readable : ∀ table ∈ config.tables, table.IsReadable := by
    simp only [tables, List.forall_mem_cons]
    exact ⟨StoreConfig.table_readable fits, LoggingConfig.table_readable _,
      MetricsConfig.table_readable _, by simp⟩
  have distinct : (config.tables.map PlainTable.key).Nodup := by
    simp [tables, StoreConfig.table, LoggingConfig.table, MetricsConfig.table]
  have store : Toml.get (config.tables.map PlainTable.entry) "store" StoreConfig.ofToml? {} =
      some config.store :=
    StoreConfig.ofToml?_table config.store
  have logging : Toml.get (config.tables.map PlainTable.entry) "logging"
      LoggingConfig.ofToml? {} = some config.logging :=
    LoggingConfig.ofToml?_table config.logging
  have metrics : Toml.get (config.tables.map PlainTable.entry) "metrics"
      MetricsConfig.ofToml? {} = some config.metrics :=
    MetricsConfig.ofToml?_table config.metrics
  rw [ofDocument?, PlainTable.parse?_document readable distinct chars_eq]
  simp only [Option.bind_eq_bind, Option.bind_some, store, logging, metrics]

/-! ## Saving and loading -/

/-- What a valid configuration names as its level is one. -/
theorem setup_of_validate {config : Config} (valid : config.validate = .ok ()) :
    ∃ setup, config.logging.setup = .ok setup ∧ setup.level.name = config.logging.level := by
  simp only [validate] at valid
  split at valid
  · cases valid
  · split at valid
    · cases valid
    · split at valid
      · cases valid
      · rename_i isNamed
        obtain ⟨level, name_eq⟩ := LogLevel.exists_of_named (by simpa using isNamed)
        refine ⟨_, by rw [LoggingConfig.setup, ← name_eq, LogLevel.parse_name], name_eq⟩

/-- A configuration is saved if its document can be written. -/
theorem save_eq
    {config : Config}
    {files : Files}
    {path : FilePath}
    (writable : files.isWritable path = true)
    {document : String}
    (written : config.document? = some document) :
    config.save files path =
      .ok (files.put (files.locate path) (.file document.toUTF8)) := by
  rw [save, written]
  simp only [Files.write_of_isWritable writable]

/-- What is loaded after saving a valid configuration is this configuration. -/
theorem load_of_save
    {config : Config}
    (valid : config.validate = .ok ())
    {files saved : Files}
    {path : FilePath}
    (run : config.save files path = .ok saved) :
    load saved path = .ok config := by
  rw [save] at run
  split at run
  · cases run
  · rename_i document written
    split at run
    · rename_i writtenFiles writeRun
      obtain rfl := Except.ok.inj run
      have decoded : String.fromUTF8? document.toUTF8 = some document :=
        dif_pos document.isValidUTF8
      have read := ofDocument?_eq (fits_of_document? written) written
      simp only [load, Files.read_write writeRun, decoded, read, validated, valid, bind,
        Except.bind, Except.map]
    · cases run

/--
A valid configuration can be saved to a writable path unless its number of
connections has no signed 64 bits, and is loaded from there as it was, with a
setup of logging at the level that it names.
-/
theorem load_save
    {config : Config}
    (valid : config.validate = .ok ())
    {files : Files}
    {path : FilePath}
    (writable : files.isWritable path = true) :
    ((∃ saved, config.save files path = .ok saved) ↔
        ∀ number, config.store.maxOpenConns = some number →
          number.toNat ≤ 0x7FFFFFFFFFFFFFFF) ∧
      ∀ saved, config.save files path = .ok saved →
        load saved path = .ok config ∧
          ∃ setup, config.logging.setup = .ok setup ∧
            setup.level.name = config.logging.level := by
  refine ⟨⟨?_, ?_⟩, fun saved run => ⟨load_of_save valid run, setup_of_validate valid⟩⟩
  · rintro ⟨saved, run⟩ number found
    rw [save] at run
    split at run
    · cases run
    · rename_i document written
      exact Nat.le_of_lt_succ (fits_of_document? written number found)
  · intro small
    have fits : config.store.Fits :=
      fun number found => Nat.lt_succ_of_le (small number found)
    obtain ⟨document, written, _⟩ := document?_eq fits
    exact ⟨_, save_eq writable written⟩

/-- A configuration whose folder is named with line ends, backslashes and all quotes. -/
def quotedConfig : Config where
  store := {
    dataDir := "it's \"a\\b\"\r\n\x01\"\"\"\"'''\u00e9"
    maxOpenConns := some 9223372036854775807
    busyTimeout := { seconds := 31557661, nanos := 1002003 }
  }
  logging := { level := "warn", jsonFormat := true }

/-- A folder to save configurations in. -/
def savingFiles : Files where
  nodes := .ofList [("/etc", .folder)]

/-- A folder with quotes, control characters and a line break in its name is saved and loaded. -/
theorem load_save_quoted :
    ∃ saved, quotedConfig.save savingFiles "/etc/store.toml" = .ok saved ∧
      load saved "/etc/store.toml" = .ok quotedConfig := by
  have valid : quotedConfig.validate = .ok () := by decide
  have writable : savingFiles.isWritable "/etc/store.toml" = true := by decide +kernel
  have both := load_save valid writable
  obtain ⟨saved, run⟩ := both.1.mpr (by
    intro number found
    obtain rfl := Option.some.inj found
    decide)
  exact ⟨saved, run, (both.2 saved run).1⟩

end Config

end TenantStore
