import LineCensus.Proofs.Text.LossyLines
import Mathlib.Data.List.Forall2

/-!
# `Proofs.Text.Lines` — what the lines of a text and of a file are

A sequence is cut behind each separator, and of each piece its line is what is left without the end: the
longest of the ends that a line may have. A text and a file differ in these ends only. In a file a lone
carriage return is an end too, which shows at the very end alone, since any other piece ends with a line feed.

Both are said here as relations, apart from the functions that search for separators and drop characters from
the back.

## Contents

* `CutBehind` — the pieces of a sequence (`cutBehind_terminated`);
* `WithoutEnd` — a line and its piece;
* `LinesOfText`, `LinesOfFile` — the lines that a text has, and those that bytes have
  (`linesOfText_lines`, `linesOfFile_map`).
-/

namespace LineCensus

open Text

/-! ## Pieces -/

/-- A sequence and its pieces: each ends with the separator, which is nowhere else in it. What follows the last
separator is a piece too, if it is anything. -/
inductive CutBehind {α : Type} (sep : α) : List α → List (List α) → Prop where
  | nil : CutBehind sep [] []
  | last {s : List α} : s ≠ [] → sep ∉ s → CutBehind sep s [s]
  | piece {s rest : List α} {pieces : List (List α)} :
      sep ∉ s → CutBehind sep rest pieces → CutBehind sep (s ++ sep :: rest) ((s ++ [sep]) :: pieces)

theorem cutBehind_terminated {α : Type} [BEq α] [LawfulBEq α] (sep : α) (s : List α) :
    CutBehind sep s (terminated sep s) := by
  induction s using separated_induction sep with
  | last s hs =>
    by_cases hne : s = []
    · subst hne
      exact .nil
    · rw [terminated_of_not_mem hs hne]
      exact .last hne hs
  | piece s rest hs ih =>
    rw [terminated_append_cons hs]
    exact .piece hs ih

/-! ## Ends of lines -/

variable {c : Char} {s line : List Char} {ends : List (List Char)}

/-- A line is its piece without the longest of the ends that the piece has. -/
def WithoutEnd (ends : List (List Char)) (piece line : List Char) : Prop :=
  ∃ e ∈ ends, piece = line ++ e ∧ ∀ other ∈ ends, other <:+ piece → other.length ≤ e.length

/-- The ends that the lines of a text have. -/
def textEnds : List (List Char) := [[], ['\n'], ['\r', '\n']]

/-- The ends that the lines of a file have. -/
def fileEnds : List (List Char) := [[], ['\r'], ['\n'], ['\r', '\n']]

theorem mem_fileEnds_iff : s ∈ fileEnds ↔ s = [] ∨ s = ['\r'] ∨ s = ['\n'] ∨ s = ['\r', '\n'] := by
  simp [fileEnds]

/-- A text ends with the last character of what it ends with. -/
theorem getLast?_of_suffix {e : List Char} (h : e ++ [c] <:+ s) : s.getLast? = some c := by
  obtain ⟨front, rfl⟩ := h
  rw [← List.append_assoc]
  exact List.getLast?_concat

theorem getLast?_of_suffix_concat {d : Char} (h : [c, d] <:+ s ++ [d]) : s.getLast? = some c := by
  obtain ⟨front, h⟩ := h
  have hfront : front ++ [c] = s := by
    rw [show [c, d] = [c] ++ [d] from rfl, ← List.append_assoc] at h
    exact List.append_cancel_right h
  rw [← hfront]
  exact List.getLast?_concat

/-- Dropping a character from the back takes it off, or leaves a text that does not end with it. -/
theorem stripLast_spec (c : Char) (s : List Char) :
    s = stripLast c s ++ [c] ∨ s.getLast? ≠ some c ∧ stripLast c s = s := by
  by_cases hlast : s.getLast? = some c
  · left
    rw [stripLast, if_pos hlast, List.dropLast_append_getLast? c hlast]
  · right
    exact ⟨hlast, stripLast_of_ne hlast⟩

/-- In front of a line feed a carriage return belongs to the end. -/
theorem withoutEnd_of_feed (hends : ends ⊆ fileEnds) (hfeed : ['\n'] ∈ ends)
    (hboth : ['\r', '\n'] ∈ ends) (s : List Char) :
    WithoutEnd ends (s ++ ['\n']) (stripLast '\r' s) := by
  obtain hreturn | ⟨hreturn, hsame⟩ := stripLast_spec '\r' s
  · refine ⟨['\r', '\n'], hboth, ?_, fun other hother _ => ?_⟩
    · conv_lhs => rw [hreturn]
      exact List.append_assoc _ _ _
    · obtain rfl | rfl | rfl | rfl := mem_fileEnds_iff.mp (hends hother) <;> decide
  · refine ⟨['\n'], hfeed, by rw [hsame], fun other hother hsuffix => ?_⟩
    obtain rfl | rfl | rfl | rfl := mem_fileEnds_iff.mp (hends hother)
    · decide
    · decide
    · decide
    · exact absurd (getLast?_of_suffix_concat hsuffix) hreturn

theorem withoutEnd_stripLineEnd (s : List Char) :
    WithoutEnd textEnds s (stripLineEnd s) := by
  by_cases hlast : s.getLast? = some '\n'
  · have hline : stripLineEnd s = stripLast '\r' s.dropLast := if_pos hlast
    have hends : WithoutEnd textEnds (s.dropLast ++ ['\n']) (stripLast '\r' s.dropLast) :=
      withoutEnd_of_feed (by decide) (by decide) (by decide) s.dropLast
    rwa [List.dropLast_append_getLast? '\n' hlast, ← hline] at hends
  · have hline : stripLineEnd s = s := if_neg hlast
    refine ⟨[], by decide, by rw [hline, List.append_nil], fun other hother hsuffix => ?_⟩
    -- any other end ends with a line feed
    simp only [textEnds, List.mem_cons, List.not_mem_nil, or_false] at hother
    obtain rfl | rfl | rfl := hother
    · exact Nat.le_refl 0
    · exact absurd (getLast?_of_suffix (e := []) hsuffix) hlast
    · exact absurd (getLast?_of_suffix (e := ['\r']) hsuffix) hlast

theorem withoutEnd_lineOfBytes (piece : List UInt8) :
    WithoutEnd fileEnds (decodeLossy piece) (lineOfBytes piece) := by
  rw [lineOfBytes]
  obtain hfeed | ⟨hfeed, hsame⟩ := stripLast_spec '\n' (decodeLossy piece)
  · conv => arg 2; rw [hfeed]
    exact withoutEnd_of_feed (List.Subset.refl _) (by decide) (by decide) _
  · rw [hsame]
    obtain hreturn | ⟨hreturn, hsame⟩ := stripLast_spec '\r' (decodeLossy piece)
    · refine ⟨['\r'], by decide, hreturn, fun other hother hsuffix => ?_⟩
      obtain rfl | rfl | rfl | rfl := mem_fileEnds_iff.mp hother
      · decide
      · decide
      · decide
      · exact absurd (getLast?_of_suffix (e := ['\r']) hsuffix) hfeed
    · refine ⟨[], by decide, by rw [hsame, List.append_nil], fun other hother hsuffix => ?_⟩
      obtain rfl | rfl | rfl | rfl := mem_fileEnds_iff.mp hother
      · exact Nat.le_refl 0
      · exact absurd (getLast?_of_suffix (e := []) hsuffix) hreturn
      · exact absurd (getLast?_of_suffix (e := []) hsuffix) hfeed
      · exact absurd (getLast?_of_suffix (e := ['\r']) hsuffix) hfeed

/-! ## Lines -/

/-- The lines of a text: each ends with a line feed, and a carriage return before that is no part of it. -/
def LinesOfText (text : List Char) (lines : List (List Char)) : Prop :=
  ∃ pieces, CutBehind '\n' text pieces ∧
    List.Forall₂ (WithoutEnd textEnds) pieces lines

/-- The lines of a file: its bytes are cut behind line feeds, and the pieces decoded. -/
def LinesOfFile (bytes : List UInt8) (lines : List (List Char)) : Prop :=
  ∃ pieces, CutBehind 10 bytes pieces ∧
    List.Forall₂ (fun piece => WithoutEnd fileEnds (decodeLossy piece)) pieces lines

theorem linesOfText_lines (text : List Char) : LinesOfText text (lines text) :=
  ⟨terminated '\n' text, cutBehind_terminated '\n' text,
    List.forall₂_map_right_iff.mpr (List.forall₂_same.mpr fun s _ => withoutEnd_stripLineEnd s)⟩

theorem linesOfFile_map (bytes : List UInt8) : LinesOfFile bytes ((terminated 10 bytes).map lineOfBytes) :=
  ⟨terminated 10 bytes, cutBehind_terminated 10 bytes,
    List.forall₂_map_right_iff.mpr (List.forall₂_same.mpr fun piece _ => withoutEnd_lineOfBytes piece)⟩

end LineCensus
