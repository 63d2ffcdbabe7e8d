import Wordbook.Config

/-!
# Reference data

The languages and the paradigms that a configuration brings along, by code and
by tag. Of two entries with the same code or tag the later one counts.
-/

namespace Wordbook

structure Reference where
  languages : SortedMap String Language
  partsOfSpeech : SortedMap String PosConfig
  deriving DecidableEq

namespace Reference

def ofConfig (c : ReferenceConfig) : Reference :=
  ⟨SortedMap.ofList (c.languages.map fun l => (l.code, l)),
    SortedMap.ofList (c.partsOfSpeech.map fun p => (p.tag, p))⟩

def language? (r : Reference) (code : String) : Option Language := r.languages.get? code

/-- The paradigm of a part of speech, if it is known and has slots. -/
def paradigm? (r : Reference) (tag : String) : Option Paradigm := do
  let p ← r.partsOfSpeech.get? tag
  (Paradigm.ofSlots ⟨p.id, p.tag⟩ p.slots).toOption

end Reference

end Wordbook
