/-!
# Copy chunks: bulk data in pieces

The lines of a bulk load are sent in pieces. A piece is full, and is sent, as soon as a line brings it to the limit, so that every
piece consists of whole lines; what remains at the end is one more piece unless it is empty.
-/

namespace Intake

namespace CopyChunks

/-- The size in bytes at which a piece is full. -/
def limit : Nat := 1048576

/-- The pieces of some lines, where `piece` has been begun. -/
def collect (limit : Nat) (piece : String) : List String → List String
  | [] => if piece.isEmpty then [] else [piece]
  | line :: lines =>
    let piece := piece ++ line
    if limit ≤ piece.utf8ByteSize then piece :: collect limit "" lines else collect limit piece lines

/-- The pieces of some lines. -/
def ofLines (lines : List String) : List String := collect limit "" lines

end CopyChunks

end Intake
