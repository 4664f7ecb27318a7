/-! # Spans

A **span** points into a source text by byte offset and length. Errors that name a place of
the text carry one; a place given by a needle is its first occurrence.

* `Span.after`, `Span.before`, `Span.join` — the empty spans at either end and the cover of two.
* `findSpan` — the span of the first occurrence of a needle, none for an empty or absent one.
-/

namespace SwiftSchema

/-- A **span** of a text: byte offset and length. -/
structure Span where
  offset : Nat
  length : Nat
  deriving DecidableEq, Repr

namespace Span

/-- The byte offset just past a span. -/
def stop (s : Span) : Nat := s.offset + s.length

/-- The empty span at the start of a span. -/
def before (s : Span) : Span := ⟨s.offset, 0⟩

/-- The empty span at the end of a span. -/
def after (s : Span) : Span := ⟨s.stop, 0⟩

/-- The span from the start of one span to the end of another. -/
def join (s t : Span) : Span := ⟨s.offset, t.stop - s.offset⟩

/-- The span between two offsets. -/
def between (start stop : Nat) : Span := ⟨start, stop - start⟩

end Span

/-- The first offset at which a byte string occurs in another. -/
def firstOffset (needle : List UInt8) : List UInt8 → Nat → Option Nat
  | [], i => if needle.isEmpty then some i else none
  | hay@(_ :: rest), i => if needle.isPrefixOf hay then some i else firstOffset needle rest (i + 1)

/-- The span of the first occurrence of a needle; none when it is empty or absent. -/
def findSpan (src needle : String) : Option Span :=
  if needle.isEmpty then none
  else (firstOffset needle.toUTF8.toList src.toUTF8.toList 0).map (⟨·, needle.utf8ByteSize⟩)

end SwiftSchema
