import Wordbook.Reference

/-!
# Providers

A provider is one language with its dialects and its creators, which are
initialised. `Config.resolve` sets up the providers of a configuration from the
reference data, or tells the first fault in it.
-/

namespace Wordbook

/-- A creator with the column of the dialects of its variants. -/
structure BoundCreator where
  creator : Creator
  dialectColumn : Option Nat

structure Provider where
  language : Language
  orthographyId : Int64
  dialects : Dialects
  /-- The creators, of which `creator?` finds the first one for a tag, where a map from tags to
  creators would keep the last. In a provider of a configuration that has passed its check no tag is
  repeated (`ConfigFault.twoCreators`), so there the two are the same. -/
  creators : List BoundCreator

namespace Provider

/-- The creator for a part of speech. -/
def creator? (p : Provider) (tag : String) : Option BoundCreator :=
  p.creators.find? (·.creator.tag == tag)

/-- The name of a provider in the diagnostics about a part of speech. -/
def label (p : Provider) (tag : String) : String := s!"{p.language.code}/{tag}"

end Provider

/-- A creator that is initialised with the paradigm of its part of speech. -/
def CreatorConfig.resolve (table : Paradigm.Table) (c : CreatorConfig) :
    Except SetupError BoundCreator := do
  let creator ← c.build.initialise (← table.require c.tag)
  return ⟨creator, c.dialectColumn⟩

def ProviderConfig.resolve (reference : Reference) (table : Paradigm.Table) (p : ProviderConfig) :
    Except SetupError Provider :=
  match reference.language? p.language with
  | none => .error (.unknownLanguage p.language)
  | some language => do
    let creators ← p.creators.mapM (CreatorConfig.resolve table)
    return ⟨language, p.orthographyId, p.toDialects, creators⟩

/-- Adds the paradigm of a part of speech to others. -/
def Reference.addParadigm (reference : Reference) (table : Paradigm.Table) (tag : String) :
    Except SetupError Paradigm.Table :=
  match reference.paradigm? tag with
  | some paradigm => .ok (table.add paradigm)
  | none => .error (.noSlots tag)

/-- The paradigms of some parts of speech, all of which need one. -/
def Reference.paradigms (reference : Reference) (tags : List String) :
    Except SetupError Paradigm.Table :=
  tags.foldlM reference.addParadigm ∅

/-- The providers of a configuration. A part of speech without slots is told before any other fault,
and the smallest tag of such before the others. -/
def Config.resolve (c : Config) (reference : Reference) : Except SetupError (List Provider) := do
  let table ← reference.paradigms c.configuredPos.toList
  c.providers.mapM (ProviderConfig.resolve reference table)

end Wordbook
