import DefUse.Text.Blank

/-!
# Segments and words of a text

A text is cut into pieces at its separators, and its segments are the pieces that are not empty; where the
separators are the blanks, they are its words. The main statements say that segments are the longest stretches
without separators, that texts are the segments of their join, that a separator cuts the segments of a text in two,
that blanks at the ends of a text do not matter to its words, and how a word is taken off its front.
-/

namespace DefUse.Text

/-! ## Pieces -/

theorem pieces_eq_splitOnP (separates : Char → Bool) (text : List Char) :
    pieces separates text = text.splitOnP separates := by
  induction text with
  | nil => rfl
  | cons c text ih =>
    rw [pieces, ih, List.splitOnP_cons_eq_if_modifyHead]
    split
    · rfl
    · cases hsplit : text.splitOnP separates with
      | nil => exact absurd hsplit (List.splitOnP_ne_nil separates text)
      | cons first others => rfl

theorem pieces_append_separator {separates : Char → Bool} {separator : Char}
    (hseparator : separates separator = true) (first second : List Char) :
    pieces separates (first ++ separator :: second) = pieces separates first ++ pieces separates second := by
  simp only [pieces_eq_splitOnP]
  exact List.splitOnP_append_cons first second hseparator

theorem pieces_eq_singleton {separates : Char → Bool} {text : List Char} (htext : ∀ c ∈ text, separates c = false) :
    pieces separates text = [text] := by
  rw [pieces_eq_splitOnP, List.splitOnP_eq_singleton htext]

/-! ## The first separator -/

theorem splitFirst_eq_none {separator : Char} {text : List Char} (h : splitFirst separator text = none) :
    separator ∉ text := by
  induction text with
  | nil => simp
  | cons c rest ih =>
    rw [splitFirst] at h
    split at h
    · simp at h
    · rename_i hc
      rw [Option.map_eq_none_iff] at h
      simp [Ne.symm hc, ih h]

theorem splitFirst_eq_some {separator : Char} {text line rest : List Char}
    (h : splitFirst separator text = some (line, rest)) :
    separator ∉ line ∧ text = line ++ separator :: rest := by
  induction text generalizing line with
  | nil => simp [splitFirst] at h
  | cons c others ih =>
    rw [splitFirst] at h
    split at h
    · rename_i hc
      obtain ⟨rfl, rfl⟩ := Prod.mk.inj (Option.some.inj h)
      simp [hc]
    · rename_i hc
      obtain ⟨⟨first, behind⟩, hparts, heq⟩ := Option.map_eq_some_iff.1 h
      obtain ⟨rfl, rfl⟩ := Prod.mk.inj heq
      obtain ⟨hfirst, rfl⟩ := ih hparts
      simp [Ne.symm hc, hfirst]

/-! ## Segments -/

/-- A piece is a segment of a text if it is a nonempty stretch without separators that cannot be made longer. -/
def IsSegment (separates : Char → Bool) (piece text : List Char) : Prop :=
  ∃ before after, text = before ++ (piece ++ after) ∧ piece ≠ [] ∧ (∀ c ∈ piece, separates c = false) ∧
    (∀ c, before.getLast? = some c → separates c = true) ∧ ∀ c, after.head? = some c → separates c = true

section Segments

variable {separates : Char → Bool}

/-- A text has no separator, or it has a first one. -/
theorem separatedInduction {motive : List Char → Prop}
    (plain : ∀ text, (∀ c ∈ text, separates c = false) → motive text)
    (separated : ∀ first separator rest, (∀ c ∈ first, separates c = false) → separates separator = true →
      motive rest → motive (first ++ separator :: rest)) (text : List Char) : motive text := by
  -- The part that has been seen without a separator is carried along.
  have hall (first : List Char) (hfirst : ∀ c ∈ first, separates c = false) : motive (first ++ text) := by
    induction text generalizing first with
    | nil =>
      rw [List.append_nil]
      exact plain first hfirst
    | cons c rest ih =>
      by_cases hc : separates c = true
      · exact separated first c rest hfirst hc (ih [] (by simp))
      · rw [List.append_cons]
        refine ih (first ++ [c]) (List.forall_mem_append.2 ⟨hfirst, ?_⟩)
        simpa using hc
  exact hall [] (by simp)

theorem segments_append_separator {separator : Char} (hseparator : separates separator = true)
    (before after : List Char) :
    segments separates (before ++ separator :: after) = segments separates before ++ segments separates after := by
  unfold segments
  rw [pieces_append_separator hseparator, List.filter_append]

theorem segments_eq_singleton {text : List Char} (hne : text ≠ []) (htext : ∀ c ∈ text, separates c = false) :
    segments separates text = [text] := by
  unfold segments
  rw [pieces_eq_singleton htext, List.filter_cons_of_pos (by simpa using hne), List.filter_nil]

/-- Behind a separator the segments of a text are those of the whole. -/
theorem IsSegment.append_left {piece text : List Char} (h : IsSegment separates piece text) (first : List Char)
    {separator : Char} (hseparator : separates separator = true) :
    IsSegment separates piece (first ++ separator :: text) := by
  obtain ⟨before, after, rfl, hne, hpiece, hbefore, hafter⟩ := h
  refine ⟨first ++ separator :: before, after, by simp, hne, hpiece, fun c hc ↦ ?_, hafter⟩
  rw [List.getLast?_append, List.getLast?_cons, Option.some_or, Option.some.injEq] at hc
  cases hlast : before.getLast? with
  | none =>
    rw [hlast, Option.getD_none] at hc
    exact hc ▸ hseparator
  | some last =>
    rw [hlast, Option.getD_some] at hc
    exact hc ▸ hbefore last hlast

/-- A text without separators has no segment but itself. -/
theorem eq_of_mem_segments {piece text : List Char} (htext : ∀ c ∈ text, separates c = false)
    (h : piece ∈ segments separates text) : piece = text ∧ piece ≠ [] := by
  obtain ⟨hmem, hne⟩ := List.mem_filter.1 h
  rw [pieces_eq_singleton htext, List.mem_singleton] at hmem
  exact ⟨hmem, by simpa using hne⟩

theorem isSegment_of_mem_segments {piece text : List Char} (h : piece ∈ segments separates text) :
    IsSegment separates piece text := by
  induction text using separatedInduction with
  | plain text htext =>
    obtain ⟨rfl, hne⟩ := eq_of_mem_segments htext h
    exact ⟨[], [], by simp, hne, htext, by simp, by simp⟩
  | separated first separator rest hfirst hseparator ih =>
    rw [segments_append_separator hseparator, List.mem_append] at h
    cases h with
    | inl h =>
      obtain ⟨rfl, hne⟩ := eq_of_mem_segments hfirst h
      exact ⟨[], separator :: rest, by simp, hne, hfirst, by simp, by simp [hseparator]⟩
    | inr h => exact (ih h).append_left first hseparator

theorem mem_segments_append {piece after : List Char} (hne : piece ≠ [])
    (hpiece : ∀ c ∈ piece, separates c = false) (hafter : ∀ c, after.head? = some c → separates c = true) :
    piece ∈ segments separates (piece ++ after) := by
  have hself : piece ∈ segments separates piece := by
    rw [segments_eq_singleton hne hpiece]
    exact List.mem_singleton_self piece
  cases after with
  | nil => rwa [List.append_nil]
  | cons c rest =>
    rw [segments_append_separator (hafter c rfl)]
    exact List.mem_append_left _ hself

theorem mem_segments_iff {piece text : List Char} :
    piece ∈ segments separates text ↔ IsSegment separates piece text := by
  refine ⟨isSegment_of_mem_segments, ?_⟩
  rintro ⟨before, after, rfl, hne, hpiece, hbefore, hafter⟩
  have hmem : piece ∈ segments separates (piece ++ after) := mem_segments_append hne hpiece hafter
  cases hlast : before.getLast? with
  | none =>
    rw [List.getLast?_eq_none_iff.1 hlast]
    exact hmem
  | some separator =>
    obtain ⟨first, rfl⟩ := List.getLast?_eq_some_iff.1 hlast
    rw [List.append_assoc, List.singleton_append, segments_append_separator (hbefore separator hlast)]
    exact List.mem_append_right _ hmem

/-- Nonempty texts without separators are the segments of the text in which a separator joins them. -/
theorem segments_intercalate {separator : Char} (hseparator : separates separator = true)
    {texts : List (List Char)} (h : ∀ text ∈ texts, text ≠ [] ∧ ∀ c ∈ text, separates c = false) :
    segments separates ([separator].intercalate texts) = texts := by
  induction texts with
  | nil => rfl
  | cons first texts ih =>
    rw [List.forall_mem_cons] at h
    obtain ⟨⟨hne, hfirst⟩, hothers⟩ := h
    have hone : segments separates first = [first] := segments_eq_singleton hne hfirst
    cases texts with
    | nil => rw [List.intercalate_singleton, hone]
    | cons second texts =>
      rw [List.intercalate_cons_cons, List.append_assoc, List.singleton_append,
        segments_append_separator hseparator, hone, ih hothers, List.singleton_append]

end Segments

/-! ## Words -/

/-- A blank cuts the words of a text in two. -/
theorem words_append_blank_cons {blank : Char} (hblank : isBlank blank = true) (before after : List Char) :
    words (before ++ blank :: after) = words before ++ words after :=
  segments_append_separator hblank before after

theorem words_singleton {word : List Char} (hne : word ≠ []) (hword : ∀ c ∈ word, isBlank c = false) :
    words word = [word] :=
  segments_eq_singleton hne hword

section Blanks

variable {blanks : List Char} (hblanks : ∀ c ∈ blanks, isBlank c = true)

include hblanks

theorem words_blanks_append (text : List Char) : words (blanks ++ text) = words text := by
  induction blanks with
  | nil => rfl
  | cons c blanks ih =>
    rw [List.forall_mem_cons] at hblanks
    calc words (c :: blanks ++ text)
        = words ([] ++ c :: (blanks ++ text)) := rfl
      _ = words [] ++ words (blanks ++ text) := words_append_blank_cons hblanks.1 [] (blanks ++ text)
      _ = words text := by rw [ih hblanks.2]; rfl

theorem words_blanks : words blanks = [] := by
  calc words blanks = words (blanks ++ []) := by rw [List.append_nil]
    _ = words [] := words_blanks_append hblanks []
    _ = [] := rfl

theorem words_append_blanks (text : List Char) : words (text ++ blanks) = words text := by
  cases blanks with
  | nil => rw [List.append_nil]
  | cons c rest =>
    rw [List.forall_mem_cons] at hblanks
    rw [words_append_blank_cons hblanks.1, words_blanks hblanks.2, List.append_nil]

end Blanks

/-- A word ends where the text ends or a blank follows. -/
theorem words_word_append {word : List Char} (hne : word ≠ []) (hword : ∀ c ∈ word, isBlank c = false)
    {rest : List Char} (hrest : ∀ c, rest.head? = some c → isBlank c = true) :
    words (word ++ rest) = word :: words rest := by
  cases rest with
  | nil =>
    rw [List.append_nil, words_singleton hne hword]
    rfl
  | cons c rest =>
    have hblank : isBlank c = true := hrest c rfl
    calc words (word ++ c :: rest)
        = words word ++ words rest := words_append_blank_cons hblank word rest
      _ = word :: words (c :: rest) := by
        rw [words_singleton hne hword, ← List.nil_append (c :: rest), words_append_blank_cons hblank]
        rfl

end DefUse.Text
