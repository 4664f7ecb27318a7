import Mathlib
import SwiftSchema.Source.Error

/-! # Byte offsets of lines and columns

A JSON reading error names its place by line and column, both counted from 1, the column in
bytes. The error points one byte into the text there: at the start of the line plus the column
less one, where line `k + 1` starts right after the text's `k`-th line feed, or at the end of
the text when it has fewer. A place past the text, and line 0, point nowhere. So every span a
JSON error carries lies inside the text.

* `LineStartsAt` — where a line starts, said by the line feeds of the text; it names one
  offset for each line (`LineStartsAt.unique`).
* `lineStart_eq` — the scan that counts line feeds stops where the line starts.
* `offsetOf_eq_some_iff_lineStartsAt` — the offset of a line and column, exactly.
-/

namespace SwiftSchema

/-! ## Bytes of a text -/

theorem length_toList_loop (bs : ByteArray) :
    ∀ (n i : Nat) (r : List UInt8), bs.size - i = n →
      (ByteArray.toList.loop bs i r).length = r.length + (bs.size - i)
  | 0, i, r, h => by
    rw [ByteArray.toList.loop, if_neg (by omega)]
    simp [h]
  | n + 1, i, r, h => by
    rw [ByteArray.toList.loop, if_pos (by omega), length_toList_loop bs n (i + 1) _ (by omega)]
    simp only [List.length_cons]
    omega

/-- A text has as many bytes as its UTF-8 size. -/
theorem length_toUTF8_toList (s : String) : s.toUTF8.toList.length = s.utf8ByteSize := by
  rw [ByteArray.toList, length_toList_loop _ _ 0 [] rfl]
  simp

/-! ## Where a line starts -/

/-- Line `k + 1` of a text **starts at** byte `i`: at `0` for the first line, right after the
`k`-th line feed of the text, or at its end when the text has fewer than `k` line feeds. -/
def LineStartsAt (bytes : List UInt8) (k i : Nat) : Prop :=
  (k = 0 ∧ i = 0) ∨
    (∃ p, bytes[p]? = some 10 ∧ (bytes.take p).count 10 + 1 = k ∧ i = p + 1) ∨
    (bytes.count 10 < k ∧ i = bytes.length)

variable {bytes : List UInt8} {k i j p : Nat}

theorem count_take_succ_of_lineFeed (hp : bytes[p]? = some 10) :
    (bytes.take (p + 1)).count 10 = (bytes.take p).count 10 + 1 := by
  rw [List.take_add_one, hp]
  simp

/-- A line feed counts in every longer prefix. -/
theorem count_take_lt_of_lineFeed (hp : bytes[p]? = some 10) (hq : p < j) :
    (bytes.take p).count 10 < (bytes.take j).count 10 :=
  calc (bytes.take p).count 10 < (bytes.take (p + 1)).count 10 := by
        rw [count_take_succ_of_lineFeed hp]
        exact Nat.lt_succ_self _
    _ ≤ (bytes.take j).count 10 := (List.take_sublist_take_left hq).count_le 10

/-- A line feed counts in the whole text. -/
theorem count_take_lt_count_of_lineFeed (hp : bytes[p]? = some 10) :
    (bytes.take p).count 10 < bytes.count 10 := by
  have hlen : p < bytes.length := (List.getElem?_eq_some_iff.mp hp).1
  simpa using count_take_lt_of_lineFeed hp hlen

namespace LineStartsAt

/-- A line has one start. -/
theorem unique (h₁ : LineStartsAt bytes k i) (h₂ : LineStartsAt bytes k j) : i = j := by
  rcases h₁ with ⟨rfl, rfl⟩ | ⟨p, hp, hcp, rfl⟩ | ⟨hc, rfl⟩
  · -- the first line: no line feed has fewer than none before it
    rcases h₂ with ⟨-, rfl⟩ | ⟨q, -, hcq, -⟩ | ⟨hc', -⟩ <;> omega
  · -- right after a line feed: no other one has as many before it, and the text has more
    rcases h₂ with ⟨rfl, -⟩ | ⟨q, hq, hcq, rfl⟩ | ⟨hc', -⟩
    · omega
    · rcases Nat.lt_trichotomy p q with hpq | rfl | hqp
      · have := count_take_lt_of_lineFeed hp hpq
        omega
      · rfl
      · have := count_take_lt_of_lineFeed hq hqp
        omega
    · have := count_take_lt_count_of_lineFeed hp
      omega
  · -- the end of a text with fewer line feeds
    rcases h₂ with ⟨rfl, -⟩ | ⟨q, hq, hcq, -⟩ | ⟨-, rfl⟩
    · omega
    · have := count_take_lt_count_of_lineFeed hq
      omega
    · rfl

/-- A line other than the first starts a byte later in a text one byte longer in front, whose
line feeds before it are one more when that byte is a line feed. -/
theorem cons {b : UInt8} {rest : List UInt8} (hk : k ≠ 0)
    (h : LineStartsAt rest (if b = 10 then k - 1 else k) i) : LineStartsAt (b :: rest) k (i + 1) := by
  by_cases hb : b = 10
  · rw [if_pos hb] at h
    subst hb
    rcases h with ⟨hk1, rfl⟩ | ⟨p, hp, hcount, rfl⟩ | ⟨hcount, rfl⟩
    · exact .inr (.inl ⟨0, rfl, by simp; omega, rfl⟩)
    · refine .inr (.inl ⟨p + 1, by simpa using hp, ?_, rfl⟩)
      simp
      omega
    · refine .inr (.inr ⟨?_, by simp⟩)
      simp
      omega
  · rw [if_neg hb] at h
    have hb' : (b == 10) = false := beq_false_of_ne hb
    rcases h with ⟨hk0, -⟩ | ⟨p, hp, hcount, rfl⟩ | ⟨hcount, rfl⟩
    · exact absurd hk0 hk
    · refine .inr (.inl ⟨p + 1, by simpa using hp, ?_, rfl⟩)
      simpa [List.count_cons, hb'] using hcount
    · exact .inr (.inr ⟨by simpa [List.count_cons, hb'] using hcount, by simp⟩)

end LineStartsAt

/-- **The scan stops where the line starts**: counting down line feeds from byte `i` on, the scan
ends `s` bytes later, where `s` is the start of the line within the bytes it reads. -/
theorem lineStart_eq :
    ∀ (bytes : List UInt8) (k i : Nat),
      ∃ s, LineStartsAt bytes k s ∧ offsetOf.lineStart bytes k i = i + s
  | [], k, i => by
    refine ⟨0, ?_, rfl⟩
    by_cases hk : k = 0
    · exact .inl ⟨hk, rfl⟩
    · exact .inr (.inr ⟨by simp; omega, rfl⟩)
  | b :: rest, k, i => by
    by_cases hk : k = 0
    · exact ⟨0, .inl ⟨hk, rfl⟩, by simp [offsetOf.lineStart, hk]⟩
    · obtain ⟨s, hs, heq⟩ := lineStart_eq rest (if b = 10 then k - 1 else k) (i + 1)
      refine ⟨s + 1, hs.cons hk, ?_⟩
      rw [offsetOf.lineStart, if_neg hk, heq]
      omega

/-! ## The offset of a line and column -/

/-- Line 0 points nowhere. -/
theorem offsetOf_zero (src : String) (column : Nat) : offsetOf src 0 column = none := rfl

/-- **The offset of a line and column**: line `line + 1` starts right after the `line`-th line
feed, and the column, counted from 1, moves on from there; the offset is given exactly when it
lies inside the text. -/
theorem offsetOf_succ_eq_some_iff (src : String) (line column o : Nat) :
    offsetOf src (line + 1) column = some o ↔
      ∃ start, LineStartsAt src.toUTF8.toList line start ∧ o = start + (column - 1) ∧
        o < src.utf8ByteSize := by
  obtain ⟨s, hs, heq⟩ := lineStart_eq src.toUTF8.toList line 0
  simp only [offsetOf, Nat.add_one_ne_zero, if_false, Nat.add_sub_cancel, heq, Nat.zero_add,
    length_toUTF8_toList]
  constructor
  · intro h
    split_ifs at h with hlt
    obtain rfl := Option.some.inj h
    exact ⟨s, hs, rfl, hlt⟩
  · rintro ⟨start, hstart, rfl, hlt⟩
    obtain rfl := hs.unique hstart
    simp [hlt]

/-- An offset that a line and column give lies inside the text. -/
theorem lt_of_offsetOf_eq_some {src : String} {line column o : Nat}
    (h : offsetOf src line column = some o) : o < src.utf8ByteSize := by
  cases line with
  | zero => cases h
  | succ line =>
    obtain ⟨_, _, _, hlt⟩ := (offsetOf_succ_eq_some_iff src line column o).mp h
    exact hlt

/-- **Offsets of lines and columns.** Line `line + 1` gives the byte offset of its start, right
after the `line`-th line feed or at the end of a text with fewer, plus the column less one, and
only when that lies inside the text; line 0 gives none. Hence the one-byte span of every JSON
reading error lies inside the text. -/
theorem offsetOf_eq_some_iff_lineStartsAt :
    (∀ (src : String) (line column o : Nat),
      offsetOf src (line + 1) column = some o ↔
        ∃ start, LineStartsAt src.toUTF8.toList line start ∧ o = start + (column - 1) ∧
          o < src.utf8ByteSize) ∧
    (∀ (src : String) (column : Nat), offsetOf src 0 column = none) ∧
    ∀ (ctx : Source) (e : Json.ReadError),
      ∀ span ∈ (Source.jsonError ctx e).span?, span.stop ≤ ctx.src.utf8ByteSize := by
  refine ⟨offsetOf_succ_eq_some_iff, offsetOf_zero, fun ctx e span hspan => ?_⟩
  simp only [Source.jsonError, LoadError.span?, Option.mem_def, Option.map_eq_some_iff] at hspan
  obtain ⟨o, ho, rfl⟩ := hspan
  exact lt_of_offsetOf_eq_some ho

/-- In `{`, a line feed, `  "a": 1`, a line feed and `}`, line 2 starts after the first line
feed, at byte 2, and its column 3 is byte 4. -/
theorem offsetOf_second_line :
    LineStartsAt "\x7b\n  \"a\": 1\n\x7d".toUTF8.toList 1 2 ∧
      offsetOf "\x7b\n  \"a\": 1\n\x7d" 2 3 = some 4 := by
  have hstart : LineStartsAt "\x7b\n  \"a\": 1\n\x7d".toUTF8.toList 1 2 :=
    .inr (.inl ⟨1, by cbv, by cbv, rfl⟩)
  exact ⟨hstart, (offsetOf_eq_some_iff_lineStartsAt.1 _ 1 3 4).mpr ⟨2, hstart, rfl, by decide⟩⟩

end SwiftSchema
