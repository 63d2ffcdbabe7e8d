import Wordbook.Text.Lower
import Wordbook.Text.Split
import Wordbook.Text.Utf8

/-!
# Source files

The bytes of a source file, decoded, and cut into numbered lines. UTF-8 is read
here. Other encodings are not: their labels, their decoders and the guess which
of them some bytes are in are a parameter (`Codecs`), of which nothing is asked.

* `Codecs.decoder?`: the decoder that a label stands for;
* `Codecs.guess`: the label of bytes that come without one;
* `Source.decode`: an encoding that is named is used, or else the one guessed;
* `Source.numberedLines`: every line with its number, blank lines included, so
  that the numbers are those of the file.
-/

namespace Wordbook

/-- A source file that cannot be read. -/
inductive SourceError where
  /-- The file cannot be opened or read, for the reason that the system gives. -/
  | unreadable (path reason : String)
  /-- No known encoding has this label. -/
  | unknownEncoding (label : String)
  deriving DecidableEq, Repr

def SourceError.message : SourceError → String
  | unreadable path reason => s!"failed to read {path}: {reason}"
  | unknownEncoding label => s!"failed to decode input as {label}"

/-- The text of some bytes in an encoding. There is one for any bytes. -/
abbrev Decoder := List UInt8 → List Char

/-- The encodings that a library for them knows, and its guess which one some bytes are in. -/
structure Codecs where
  /-- The decoder of the encoding that has a label. -/
  forLabel? : List Char → Option Decoder
  iso8859x15 : Decoder
  windows1252 : Decoder
  /-- The name of the character set that is detected in bytes. -/
  detect : List UInt8 → String

namespace Codecs

variable (codecs : Codecs)

/-- The decoder for a label in lower case. The plain names of UTF-8 and of the two encodings for
western European languages are not looked up, and the names of Latin-1 mean ISO-8859-15. -/
def decoder? (label : List Char) : Option Decoder :=
  if ["utf-8", "utf8", "ascii"].any (·.toList == label) then some Text.readUtf8
  else if ["iso-8859-1", "latin-1", "latin1"].any (·.toList == label) then some codecs.iso8859x15
  else if ["windows-1252", "cp1252"].any (·.toList == label) then some codecs.windows1252
  else codecs.forLabel? label

/-- The label of the encoding that bytes are read in if none is named. Whatever is detected in bytes
that are not UTF-8, it is one of two. -/
def guess (bytes : List UInt8) : String :=
  if (Text.readUtf8? bytes).isSome then "utf-8"
  else if ["iso-8859-1", "iso-8859-15", "latin-1", "latin1"].any
    (·.toList == Text.lower (codecs.detect bytes).toList) then "iso-8859-1"
  else "windows-1252"

end Codecs

/-- A decoded source, with the label of the encoding that was used. -/
structure Source where
  content : String
  encoding : String
  deriving DecidableEq, Repr

namespace Source

/-- A text without a byte order mark at its start. -/
def dropMark : List Char → List Char
  | '\uFEFF' :: t => t
  | t => t

/-- The text of the bytes in the encoding with this label, in upper or lower case. -/
def decodeAs (codecs : Codecs) (label : List Char) (bytes : List UInt8) :
    Except SourceError (List Char) :=
  let name := Text.lower label
  match codecs.decoder? name with
  | some read => .ok (dropMark (read bytes))
  | none => .error (.unknownEncoding (String.ofList name))

/-- The source that the bytes hold, in the encoding that is named, or else in the one guessed. -/
def decode (codecs : Codecs) (bytes : List UInt8) (encoding : Option String) :
    Except SourceError Source :=
  let label := encoding.getD (codecs.guess bytes)
  (decodeAs codecs label.toList bytes).map fun t => ⟨String.ofList t, label⟩

/-- The lines of a source with their numbers, counted from 1. -/
def numberedLines (source : Source) : List (Nat × List Char) :=
  (Text.lines source.content.toList).zipIdx 1 |>.map fun (line, number) => (number, line)

end Source

end Wordbook
