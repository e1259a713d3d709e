import DefUse.Proofs.TextWords
import Mathlib.Data.List.TakeWhile

/-!
# Lines of a text

A text is cut where its separators are. The main statements say how lines are taken off the front of a
text, that texts which neither hold nor end in a line break are the lines of their join, and that the lines
are those which one pass over the characters finds.
-/

namespace DefUse.Text

/-! ## Lines -/

theorem dropReturn_eq_self {line : List Char} (h : '\r' ∉ line) : dropReturn line = line := by
  unfold dropReturn
  rw [if_neg]
  intro hlast
  exact h (List.mem_of_getLast? hlast)

theorem dropReturn_append_return (line : List Char) : dropReturn (line ++ ['\r']) = line := by
  simp [dropReturn]

theorem endedLines_append (pieces : List (List Char)) {others : List (List Char)} (h : others ≠ []) :
    endedLines (pieces ++ others) = pieces.map dropReturn ++ endedLines others := by
  induction pieces with
  | nil => rfl
  | cons piece pieces ih =>
    obtain ⟨next, rest, hrest⟩ := List.exists_cons_of_ne_nil (List.append_ne_nil_of_right_ne_nil pieces h)
    rw [List.cons_append, hrest, endedLines, ← hrest, ih]
    rfl

/-- A line feed ends all pieces before it. -/
theorem lines_append_lineFeed_cons (text rest : List Char) :
    lines (text ++ '\n' :: rest) = (pieces (· == '\n') text).map dropReturn ++ lines rest := by
  unfold lines
  rw [pieces_append_separator rfl, endedLines_append _ (pieces_ne_nil _ rest)]

section Lines

variable {line : List Char} (hline : '\n' ∉ line)

include hline

theorem beq_lineFeed_eq_false : ∀ c ∈ line, (c == '\n') = false := by
  intro c hc
  rw [beq_eq_false_iff_ne]
  rintro rfl
  exact hline hc

/-- A line feed ends the first line. -/
theorem lines_append_lineFeed (rest : List Char) :
    lines (line ++ '\n' :: rest) = dropReturn line :: lines rest := by
  rw [lines_append_lineFeed_cons, pieces_eq_singleton (beq_lineFeed_eq_false hline)]
  rfl

/-- A carriage return before the line feed goes with it. -/
theorem lines_append_return (rest : List Char) :
    lines (line ++ '\r' :: '\n' :: rest) = line :: lines rest := by
  have hreturn : '\n' ∉ line ++ ['\r'] := by simp [hline]
  calc lines (line ++ '\r' :: '\n' :: rest)
      = lines ((line ++ ['\r']) ++ '\n' :: rest) := by rw [List.append_assoc, List.singleton_append]
    _ = dropReturn (line ++ ['\r']) :: lines rest := lines_append_lineFeed hreturn rest
    _ = line :: lines rest := by rw [dropReturn_append_return]

/-- What no line feed ends is the last line, unless it is empty. -/
theorem lines_eq_singleton (hne : line ≠ []) : lines line = [line] := by
  unfold lines
  rw [pieces_eq_singleton (beq_lineFeed_eq_false hline), endedLines, if_neg (by simpa using hne)]

end Lines

/-- Nonempty texts without line breaks are the lines of the text in which they are joined by line feeds. -/
theorem lines_intercalate {texts : List (List Char)}
    (h : ∀ text ∈ texts, text ≠ [] ∧ '\n' ∉ text ∧ '\r' ∉ text) :
    lines (['\n'].intercalate texts) = texts := by
  induction texts with
  | nil => rfl
  | cons first texts ih =>
    rw [List.forall_mem_cons] at h
    obtain ⟨⟨hne, hfeed, hreturn⟩, hothers⟩ := h
    cases texts with
    | nil => rw [List.intercalate_singleton, lines_eq_singleton hfeed hne]
    | cons second texts =>
      rw [List.intercalate_cons_cons, List.append_assoc, List.singleton_append,
        lines_append_lineFeed hfeed, dropReturn_eq_self hreturn, ih hothers]

/-! ## Lines cut off one character after another -/

/-- The lines of a text, one character after another. A line ends at a line feed, alone or behind a carriage
return, and otherwise where the text ends. -/
def cutLines : List Char → List (List Char)
  | [] => []
  | '\n' :: rest => [] :: cutLines rest
  | '\r' :: '\n' :: rest => [] :: cutLines rest
  | c :: rest =>
    match cutLines rest with
    | [] => [[c]]
    | line :: others => (c :: line) :: others

theorem exists_eq_lineFeed_cons {text next : List Char} {others : List (List Char)}
    (h : pieces (· == '\n') text = [] :: next :: others) : ∃ rest, text = '\n' :: rest := by
  cases text with
  | nil => simp [pieces] at h
  | cons c rest =>
    unfold pieces at h
    split at h
    · rename_i hc
      exact ⟨rest, by rw [beq_iff_eq.1 hc]⟩
    · split at h <;> simp at h

theorem dropReturn_cons {c : Char} {line : List Char} (h : line = [] → c ≠ '\r') :
    dropReturn (c :: line) = c :: dropReturn line := by
  cases line with
  | nil => simp [dropReturn, h rfl]
  | cons d line =>
    simp only [dropReturn, List.getLast?_cons_cons, List.dropLast_cons_cons]
    split <;> rfl

/-- A character that starts no line break stands at the front of the first line. -/
theorem lines_cons {c : Char} {rest : List Char} (hfeed : c ≠ '\n')
    (hreturn : ∀ after, c = '\r' → rest ≠ '\n' :: after) :
    lines (c :: rest) =
      match lines rest with
      | [] => [[c]]
      | line :: others => (c :: line) :: others := by
  unfold lines
  rw [pieces, if_neg (by simpa using hfeed)]
  cases hpieces : pieces (· == '\n') rest with
  | nil => exact absurd hpieces (pieces_ne_nil _ rest)
  | cons first others =>
    cases others with
    | nil => cases first <;> rfl
    | cons next others =>
      have hfirst : first = [] → c ≠ '\r' := by
        rintro rfl hc
        obtain ⟨after, hafter⟩ := exists_eq_lineFeed_cons hpieces
        exact hreturn after hc hafter
      simp only [endedLines, dropReturn_cons hfirst]

theorem lines_eq_cutLines (text : List Char) : lines text = cutLines text := by
  have hnil : '\n' ∉ ([] : List Char) := List.not_mem_nil
  fun_induction cutLines text with
  | case1 => rfl
  | case2 rest ih => exact (lines_append_lineFeed hnil rest).trans (congrArg _ ih)
  | case3 rest ih => exact (lines_append_return hnil rest).trans (congrArg _ ih)
  | case4 c rest hfeed hreturn hrest ih =>
    rw [lines_cons hfeed hreturn, ih, hrest]
  | case5 c rest hfeed hreturn line others hrest ih =>
    rw [lines_cons hfeed hreturn, ih, hrest]

theorem lineFeed_not_mem_of_mem_cutLines {text line : List Char} (h : line ∈ cutLines text) :
    '\n' ∉ line := by
  fun_induction cutLines text generalizing line with
  | case1 => simp at h
  | case2 rest ih =>
    rcases List.mem_cons.1 h with rfl | h
    · exact List.not_mem_nil
    · exact ih h
  | case3 rest ih =>
    rcases List.mem_cons.1 h with rfl | h
    · exact List.not_mem_nil
    · exact ih h
  | case4 c rest hfeed hreturn hrest ih =>
    obtain rfl := List.mem_singleton.1 h
    simpa using Ne.symm hfeed
  | case5 c rest hfeed hreturn first others hrest ih =>
    rw [hrest] at ih
    rcases List.mem_cons.1 h with rfl | h
    · rw [List.mem_cons, not_or]
      exact ⟨Ne.symm hfeed, ih List.mem_cons_self⟩
    · exact ih (List.mem_cons_of_mem first h)

/-! ## Blanks at the ends -/

/-- There is nothing to trim if no blank stands at either end. -/
theorem trim_eq_self {text : List Char} (hfirst : ∀ c, text.head? = some c → isBlank c = false)
    (hlast : ∀ c, text.getLast? = some c → isBlank c = false) : trim text = text := by
  have hdrop (chars : List Char) (hhead : ∀ c, chars.head? = some c → isBlank c = false) :
      chars.dropWhile isBlank = chars := by
    cases chars with
    | nil => rfl
    | cons c rest => rw [List.dropWhile_cons_of_neg (by simp [hhead c rfl])]
  unfold trim
  rw [hdrop text hfirst, hdrop text.reverse (by simpa [List.head?_reverse] using hlast), List.reverse_reverse]

/-- Trimming takes blanks away at both ends and nothing else. -/
theorem exists_eq_blanks_append_trim (text : List Char) :
    ∃ lead trail, text = lead ++ (trim text ++ trail) ∧ (∀ c ∈ lead, isBlank c = true) ∧
      ∀ c ∈ trail, isBlank c = true := by
  refine ⟨text.takeWhile isBlank, ((text.dropWhile isBlank).reverse.takeWhile isBlank).reverse, ?_,
    fun c ↦ List.mem_takeWhile_imp, fun c hc ↦ List.mem_takeWhile_imp (List.mem_reverse.1 hc)⟩
  rw [trim, ← List.reverse_append, List.takeWhile_append_dropWhile, List.reverse_reverse,
    List.takeWhile_append_dropWhile]

theorem dropWhile_isBlank_trim (text : List Char) : (trim text).dropWhile isBlank = trim text := by
  cases htrim : trim text with
  | nil => rfl
  | cons c rest =>
    -- What is left starts where the text starts past its first blanks.
    have hhead : (text.dropWhile isBlank).head? = some c := by
      have hprefix : trim text <+: text.dropWhile isBlank := by
        rw [trim, ← List.reverse_suffix, List.reverse_reverse]
        exact List.dropWhile_suffix isBlank
      rw [htrim] at hprefix
      obtain ⟨others, hothers⟩ := hprefix
      rw [← hothers]
      rfl
    have hblank := List.head?_dropWhile_not isBlank text
    rw [hhead] at hblank
    rw [List.dropWhile_cons_of_neg (by simpa using hblank)]

end DefUse.Text
