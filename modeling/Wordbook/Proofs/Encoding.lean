import Mathlib.Tactic.SplitIfs
import Wordbook.Proofs.Except
import Wordbook.Source

/-!
# Encodings

Whether bytes can be decoded hangs on the label of their encoding alone. Bytes
without a label always can: neither of the encodings that are guessed is looked
up. Nothing is asked of the encodings that are.

* `Codecs.Knows`: the labels that there are;
* `Source.exists_decode_iff`: which labels bytes can be decoded with;
* `Source.decode_of_readUtf8?`: what is made of UTF-8.
-/

namespace Wordbook

namespace Codecs

variable (codecs : Codecs)

/-- The labels that are not looked up. -/
def plainLabels : List String :=
  ["utf-8", "utf8", "ascii", "iso-8859-1", "latin-1", "latin1", "windows-1252", "cp1252"]

/-- The label of an encoding, in upper or lower case. -/
def Knows (label : String) : Prop :=
  (∃ plain ∈ plainLabels, plain.toList = Text.lower label.toList) ∨
    ∃ decoder, codecs.forLabel? (Text.lower label.toList) = some decoder

theorem exists_decoder?_iff {name : List Char} :
    (∃ decoder, codecs.decoder? name = some decoder) ↔
      (∃ plain ∈ plainLabels, plain.toList = name) ∨
        ∃ decoder, codecs.forLabel? name = some decoder := by
  have hplain {names : List String} (hnames : names ⊆ plainLabels)
      (hname : names.any (·.toList == name)) : ∃ plain ∈ plainLabels, plain.toList = name := by
    obtain ⟨plain, hmem, heq⟩ := List.any_eq_true.1 hname
    exact ⟨plain, hnames hmem, eq_of_beq heq⟩
  unfold decoder?
  split_ifs with hutf8 hlatin hwindows
  · exact iff_of_true ⟨_, rfl⟩ (.inl (hplain (by decide) hutf8))
  · exact iff_of_true ⟨_, rfl⟩ (.inl (hplain (by decide) hlatin))
  · exact iff_of_true ⟨_, rfl⟩ (.inl (hplain (by decide) hwindows))
  · have hnone : ¬∃ plain ∈ plainLabels, plain.toList = name := by
      simp only [List.any_eq_true, beq_iff_eq] at hutf8 hlatin hwindows
      rintro ⟨plain, hmem, heq⟩
      rcases List.mem_append.1 (show plain ∈ ["utf-8", "utf8", "ascii"] ++
        (["iso-8859-1", "latin-1", "latin1"] ++ ["windows-1252", "cp1252"]) from hmem)
        with hmem | hmem
      · exact hutf8 ⟨plain, hmem, heq⟩
      · exact (List.mem_append.1 hmem).elim (fun hmem => hlatin ⟨plain, hmem, heq⟩)
          fun hmem => hwindows ⟨plain, hmem, heq⟩
    rw [or_iff_right hnone]

/-- What is guessed is the label of an encoding, whatever is detected. -/
theorem knows_guess (bytes : List UInt8) : codecs.Knows (codecs.guess bytes) := by
  unfold guess
  split_ifs
  · exact .inl ⟨"utf-8", by decide, by decide⟩
  · exact .inl ⟨"iso-8859-1", by decide, by decide⟩
  · exact .inl ⟨"windows-1252", by decide, by decide⟩

theorem guess_of_readUtf8? {bytes : List UInt8} {t : List Char}
    (h : Text.readUtf8? bytes = some t) : codecs.guess bytes = "utf-8" := by
  rw [guess, h]
  rfl

end Codecs

theorem Text.readUtf8_of_readUtf8? {bytes : List UInt8} {t : List Char}
    (h : readUtf8? bytes = some t) : readUtf8 bytes = t := by
  have hdecode : ∀ cs : List (Option Char), cs.all Option.isSome →
      cs.map (fun c => c.getD replacementChar) = cs.filterMap id := by
    intro cs hcs
    induction cs with
    | nil => rfl
    | cons c cs ih =>
      rw [List.all_cons, Bool.and_eq_true] at hcs
      obtain ⟨c, rfl⟩ := Option.isSome_iff_exists.1 hcs.1
      rw [List.map_cons, ih hcs.2]
      rfl
  unfold readUtf8? at h
  dsimp only at h
  split at h
  · rename_i hall
    exact (hdecode _ hall).trans (Option.some.inj h)
  · nomatch h

namespace Source

variable {codecs : Codecs} {bytes : List UInt8}

theorem exists_decodeAs_iff (bytes : List UInt8) {label : String} :
    (∃ t, decodeAs codecs label.toList bytes = .ok t) ↔ codecs.Knows label := by
  rw [Codecs.Knows, ← codecs.exists_decoder?_iff, decodeAs]
  cases codecs.decoder? (Text.lower label.toList) <;> simp

/-- Bytes can be decoded if the encoding that is named for them is known. -/
theorem exists_decode_iff {encoding : Option String} :
    (∃ source, decode codecs bytes encoding = .ok source) ↔
      ∀ label ∈ encoding, codecs.Knows label := by
  have hdecode : (∃ source, decode codecs bytes encoding = .ok source) ↔
      codecs.Knows (encoding.getD (codecs.guess bytes)) := by
    rw [← exists_decodeAs_iff bytes]
    simp [decode, map_eq_ok_iff]
  rw [hdecode]
  cases encoding with
  | none => exact iff_of_true (codecs.knows_guess bytes) nofun
  | some label => simp

/-- Without a label, UTF-8 is found to be UTF-8. -/
theorem decode_of_readUtf8? {t : List Char} (h : Text.readUtf8? bytes = some t) :
    decode codecs bytes none = .ok ⟨String.ofList (dropMark t), "utf-8"⟩ := by
  have hread : decodeAs codecs "utf-8".toList bytes = .ok (dropMark (Text.readUtf8 bytes)) := rfl
  rw [decode, Option.getD_none, codecs.guess_of_readUtf8? h]
  rw [hread, Text.readUtf8_of_readUtf8? h]
  rfl

end Source

end Wordbook
