import Homelab.Text.Lines
import Homelab.Text.Utf8

/-!
# Texts that are read in pieces

A long text is not read at once: its bytes come in chunks of one size, and they are
handed on as pieces of so many characters each.  Where a chunk is no text, the pieces
that can be made of the chunks before it are read all the same, so a reader that stops
there never learns of the fault.
-/

namespace Homelab
namespace Text

/-- The number of bytes in a chunk. -/
def chunkLength : Nat := 8192

/-- The number of characters in a piece. -/
def pieceLength : Nat := 4096

/-- What can be read of a text: its characters, and behind how many of them there is
what fault, if there is one. -/
structure Pieces where
  chars : List Char
  broken : Option (Nat × ByteFault)

/-- A text without a fault. -/
def Pieces.whole (cs : List Char) : Pieces := ⟨cs, none⟩

/-- How far a fault in bytes is from their beginning when it is found: only what follows
its last byte tells that a character does not go on, and only the end of all bytes that
one is not finished. -/
def ByteFault.foundAt (total : Nat) (f : ByteFault) : Nat :=
  match f.kind with
  | .startByte => f.position
  | .continuationByte => f.position + f.bytes.length
  | .endOfData => (total + chunkLength - 1) / chunkLength * chunkLength

/-- The text that bytes are, in pieces; the place of a fault is told from the first byte
that had to wait for its chunk. -/
def Pieces.ofBytes (bytes : List UInt8) : Pieces :=
  match decodeFrom 0 bytes with
  | (cs, none) => ⟨plainNewlines cs, none⟩
  | (cs, some fault) =>
      let before := fault.foundAt bytes.length / chunkLength * chunkLength
      let (read, waiting) := decodeFrom 0 (bytes.take before)
      let held := if read.getLast? = some '\r' then read.dropLast else read
      let first := (waiting.map ByteFault.position).getD (min before bytes.length)
      ⟨plainNewlines cs,
        some ((plainNewlines held).length / pieceLength * pieceLength,
          { fault with position := fault.position - first })⟩

end Text
end Homelab
