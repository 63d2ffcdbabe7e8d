import Wordbook.Creator
import Wordbook.Dialect
import Wordbook.Row.Layout

/-!
# Configurations

What an import needs to know: how rows are laid out, the reference data, and for
each language a provider with the creators that are bound to the columns.

* `Config.check`: the faults of a configuration that is well formed.
-/

namespace Wordbook

/-- A creator, bound to the columns of its text and of its dialects. -/
structure CreatorConfig where
  tag : String
  grammar : Grammar
  column : Nat
  dialectColumn : Option Nat
  deriving DecidableEq, Repr

/-- The dialects and creators of one language. -/
structure ProviderConfig where
  language : String
  orthographyId : Int64
  defaultDialects : SortedSet Int64
  dialects : SortedMap String Int64
  creators : List CreatorConfig
  deriving DecidableEq

/-- A part of speech with its slots, in the order in which they are declared. -/
structure PosConfig where
  id : Int64
  tag : String
  slots : List Slot
  deriving DecidableEq, Repr

/-- The reference data that a configuration brings along. -/
structure ReferenceConfig where
  languages : List Language
  partsOfSpeech : List PosConfig
  deriving DecidableEq, Repr

structure Config where
  separator : Char
  columnCount : Nat
  minColumnCount : Nat
  /-- The numbers of lines to pass over, counted from 1. -/
  skipLines : SortedSet Nat
  posColumn : Nat
  reference : ReferenceConfig
  providers : List ProviderConfig
  deriving DecidableEq

/-- What contradicts itself in a configuration. -/
inductive ConfigFault where
  | noColumns
  | minColumnsAboveCount (least count : Nat)
  | posColumnOutside (column : Nat)
  | skipsLineZero
  | noProviders
  | noCreators (language : String)
  | twoCreators (language tag : String)
  | creatorColumnOutside (language tag : String) (column : Nat)
  deriving DecidableEq, Repr

def ConfigFault.message : ConfigFault → String
  | noColumns => "columnCount must be at least 1"
  | minColumnsAboveCount least count => s!"minColumnCount {least} exceeds columnCount {count}"
  | posColumnOutside column => s!"posColumn {column} is outside the row"
  | skipsLineZero => "skipLines are 1-based"
  | noProviders => "at least one provider is required"
  | noCreators language => s!"provider '{language}' has no creators"
  | twoCreators language tag => s!"provider '{language}' has two creators for '{tag}'"
  | creatorColumnOutside language tag column =>
    s!"creator '{tag}' of '{language}' uses column {column} outside the row"

/-- Why there is no configuration to work with. -/
inductive ConfigError where
  /-- None is named, neither in the command line nor in the environment. -/
  | missing
  | unreadable (path reason : String)
  /-- The file does not hold a configuration in JSON. -/
  | malformed
  | invalid (fault : ConfigFault)
  deriving DecidableEq, Repr

def ConfigError.message : ConfigError → String
  | missing => "no configuration given (use --config or LEXLOAD_CONFIG)"
  | unreadable path reason => s!"failed to read config {path}: {reason}"
  | malformed => "invalid config JSON: not a configuration"
  | invalid fault => s!"invalid config: {fault.message}"

/-- The creator of a configuration, not yet initialised. -/
def CreatorConfig.build (c : CreatorConfig) : Creator := Creator.new c.tag c.column c.grammar

/-- The columns that a creator reads. -/
def CreatorConfig.columns (c : CreatorConfig) : List Nat := c.column :: c.dialectColumn.toList

def ProviderConfig.toDialects (p : ProviderConfig) : Dialects := ⟨p.dialects, p.defaultDialects⟩

namespace Config

def layout (c : Config) : Row.Layout := ⟨c.separator, c.columnCount, c.minColumnCount⟩

/-- The parts of speech that some provider has a creator for. -/
def configuredPos (c : Config) : SortedSet String :=
  SortedSet.ofList (c.providers.flatMap fun p => p.creators.map (·.tag))

/-- The first fault of a creator, behind others of the same provider with the tags `seen`. -/
def creatorFault? (columnCount : Nat) (language : String) (seen : List String)
    (c : CreatorConfig) : Option ConfigFault :=
  if seen.contains c.tag then some (.twoCreators language c.tag)
  else (c.columns.find? (columnCount ≤ ·)).map (.creatorColumnOutside language c.tag)

/-- The first fault of the creators of a provider, behind others with the tags `seen`. -/
def creatorsFault? (columnCount : Nat) (language : String) :
    List String → List CreatorConfig → Option ConfigFault
  | _, [] => none
  | seen, c :: cs =>
    match creatorFault? columnCount language seen c with
    | some fault => some fault
    | none => creatorsFault? columnCount language (c.tag :: seen) cs

def providerFault? (columnCount : Nat) (p : ProviderConfig) : Option ConfigFault :=
  if p.creators.isEmpty then some (.noCreators p.language)
  else creatorsFault? columnCount p.language [] p.creators

/-- The first fault of a configuration. -/
def fault? (c : Config) : Option ConfigFault :=
  if c.columnCount = 0 then some .noColumns
  else if c.columnCount < c.minColumnCount then
    some (.minColumnsAboveCount c.minColumnCount c.columnCount)
  else if c.columnCount ≤ c.posColumn then some (.posColumnOutside c.posColumn)
  else if 0 ∈ c.skipLines then some .skipsLineZero
  else if c.providers.isEmpty then some .noProviders
  else c.providers.findSome? (providerFault? c.columnCount)

/-- The configuration itself, if it does not contradict itself. -/
def check (c : Config) : Except ConfigError Config :=
  match c.fault? with
  | some fault => .error (.invalid fault)
  | none => .ok c

end Config

end Wordbook
