import LineCensus.Proofs.Line.Padding
import LineCensus.Proofs.Line.Reachable
import LineCensus.Proofs.Text.LossyLines

/-!
# `Proofs.Tally.Bytes` — the tally of a file and the tally of its text

A file is cut at its line feeds before it is decoded, and a text after. The tallies agree: the lines are
the same but for a carriage return at the very end, which is dropped from a file and kept in a text
(`lines_decodeLossy`), and a line is of the same kind with and without it where no delimiter holds one
(`classify_append_blank`).

## Contents

* `countLines_append_return` — a carriage return more at the end of the last line;
* `countBytes_eq_countText` — the tallies of a file and of its text.
-/

namespace LineCensus

open Text

variable {cs : List Construct}

/-- A carriage return at the end of the last line does not count. -/
theorem countLines_append_return (h : ∀ c ∈ cs, c.Avoids ['\r']) (front : List (List Char))
    (last : List Char) :
    countLines cs none (front ++ [last ++ ['\r']]) = countLines cs none (front ++ [last]) := by
  have hlast : classify cs (stateAfter cs none front) (last ++ ['\r']) =
      classify cs (stateAfter cs none front) last :=
    classify_append_blank (Reachable.fresh.after_lines front).genuine h (by decide) last
  rw [countLines, countLines, kindsOf_append, kindsOf_append]
  simp only [kindsOf, hlast]

/-- **A file counts as its text does**, its bytes well formed or not: if no delimiter of the language holds
a carriage return, and for every language if the file does not end with one. -/
theorem countBytes_eq_countText {bytes : List UInt8}
    (h : (∀ c ∈ cs, c.Avoids ['\r']) ∨ bytes.getLast? ≠ some 0x0D) :
    countBytes cs bytes = countText cs (decodeLossy bytes) := by
  rw [countBytes, countText]
  obtain hsame | ⟨hreturn, front, last, htext, hfile⟩ := lines_decodeLossy bytes
  · rw [hsame]
  · obtain havoids | hend := h
    · rw [htext, hfile, countLines_append_return havoids]
    · exact absurd hreturn hend

/-- Two files with a character cut short before a line feed: one ends with a carriage return, in the other
a delimiter is one. -/
theorem countBytes_eq_countText_cut_short :
    ((∀ c ∈ [Construct.doubleQuoted], c.Avoids ['\r']) ∧
      countBytes [.doubleQuoted] [0x22, 0xE2, 0x82, 0x0A, 0x22, 0x0D] =
        countText [.doubleQuoted] (decodeLossy [0x22, 0xE2, 0x82, 0x0A, 0x22, 0x0D])) ∧
    [0x0D, 0xE2, 0x82, 0x0D, 0x0A, 0xF0].getLast? ≠ some (0x0D : UInt8) ∧
      countBytes [.blockComment ['\r'] ['\r', '\n']] [0x0D, 0xE2, 0x82, 0x0D, 0x0A, 0xF0] =
        countText [.blockComment ['\r'] ['\r', '\n']]
          (decodeLossy [0x0D, 0xE2, 0x82, 0x0D, 0x0A, 0xF0]) := by
  have havoids : ∀ c ∈ [Construct.doubleQuoted], c.Avoids ['\r'] := by
    intro c hc
    obtain rfl := List.mem_singleton.mp hc
    intro ch hch
    obtain rfl := List.mem_singleton.mp hch
    decide
  have hend : [0x0D, 0xE2, 0x82, 0x0D, 0x0A, 0xF0].getLast? ≠ some (0x0D : UInt8) := by decide
  exact ⟨⟨havoids, countBytes_eq_countText (.inl havoids)⟩, hend, countBytes_eq_countText (.inr hend)⟩

end LineCensus
