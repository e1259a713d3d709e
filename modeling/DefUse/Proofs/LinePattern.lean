import DefUse.Proofs.ScriptPrinting

/-!
# The pattern of a script line

A line is a name and possibly an id behind it, between blanks, with a comment at its end. This module states
that form as a pattern with groups, whatever the order in which a search tries the ways to match it. The main
statement is that the scan of a line finds the two groups exactly if the line matches the pattern, so that
there is never more than one way to fill them.
-/

namespace DefUse

/-- Patterns of texts. A group has a number by which its part of the text is known. -/
inductive Pattern where
  | char (accepts : Char → Bool)
  | many (accepts : Char → Bool)
  | andThen (first second : Pattern)
  | optional (pattern : Pattern)
  | group (number : Nat) (pattern : Pattern)

namespace Pattern

/-- The whole text matches the pattern, and the groups capture these parts of it. A group that is not used
captures nothing. -/
def Matches : Pattern → List Char → List (Nat × List Char) → Prop
  | .char accepts, text, captures => (∃ c, accepts c = true ∧ text = [c]) ∧ captures = []
  | .many accepts, text, captures => (∀ c ∈ text, accepts c = true) ∧ captures = []
  | .andThen first second, text, captures =>
    ∃ before after, text = before ++ after ∧ ∃ inBefore inAfter, captures = inBefore ++ inAfter ∧
      first.Matches before inBefore ∧ second.Matches after inAfter
  | .optional pattern, text, captures => text = [] ∧ captures = [] ∨ pattern.Matches text captures
  | .group number pattern, text, captures =>
    ∃ inside, captures = (number, text) :: inside ∧ pattern.Matches text inside

/-- A character of one kind, then any number of characters of another. -/
def oneThenMany (first others : Char → Bool) : Pattern := .andThen (.char first) (.many others)

section Matches

variable {text : List Char} {captures : List (Nat × List Char)}

theorem matches_andThen_iff {first second : Pattern} :
    (andThen first second).Matches text captures ↔
      ∃ before after, text = before ++ after ∧ ∃ inBefore inAfter, captures = inBefore ++ inAfter ∧
        first.Matches before inBefore ∧ second.Matches after inAfter :=
  Iff.rfl

theorem matches_many_iff {accepts : Char → Bool} :
    (many accepts).Matches text captures ↔ (∀ c ∈ text, accepts c = true) ∧ captures = [] :=
  Iff.rfl

theorem matches_optional_iff {pattern : Pattern} :
    (optional pattern).Matches text captures ↔
      text = [] ∧ captures = [] ∨ pattern.Matches text captures :=
  Iff.rfl

theorem matches_group_iff {number : Nat} {pattern : Pattern} :
    (group number pattern).Matches text captures ↔
      ∃ inside, captures = (number, text) :: inside ∧ pattern.Matches text inside :=
  Iff.rfl

theorem matches_oneThenMany_iff {first others : Char → Bool} :
    (oneThenMany first others).Matches text captures ↔
      (∃ c rest, text = c :: rest ∧ first c = true ∧ ∀ d ∈ rest, others d = true) ∧ captures = [] := by
  constructor
  · rintro ⟨before, after, rfl, inBefore, inAfter, rfl, ⟨⟨c, hc, rfl⟩, rfl⟩, hafter, rfl⟩
    exact ⟨⟨c, after, rfl, hc, hafter⟩, rfl⟩
  · rintro ⟨⟨c, rest, rfl, hc, hrest⟩, rfl⟩
    exact ⟨[c], rest, rfl, [], [], rfl, ⟨⟨c, hc, rfl⟩, rfl⟩, hrest, rfl⟩

theorem matches_oneOrMore_iff {accepts : Char → Bool} :
    (oneThenMany accepts accepts).Matches text captures ↔
      (text ≠ [] ∧ ∀ c ∈ text, accepts c = true) ∧ captures = [] := by
  rw [matches_oneThenMany_iff]
  refine and_congr_left fun _ ↦ ?_
  cases text with
  | nil => simp
  | cons c rest => simp

end Matches

end Pattern

/-! ## Characters -/

namespace Text

/-- No character lies in ranges of both of two properties that nowhere meet. -/
theorem inRanges_eq_false_of_apart {ranges others : List (Nat × Nat)}
    (hapart : ∀ range ∈ ranges, ∀ other ∈ others, range.2 < other.1 ∨ other.2 < range.1) {c : Char}
    (hc : inRanges ranges c = true) : inRanges others c = false := by
  rw [Bool.eq_false_iff]
  intro hother
  obtain ⟨range, hrange, hlow, hhigh⟩ := (inRanges_iff ranges c).1 hc
  obtain ⟨other, hmem, hlow', hhigh'⟩ := (inRanges_iff others c).1 hother
  have hmeet := hapart range hrange other hmem
  omega

theorem isBlank_eq_false_of_isWord {c : Char} (hc : isWord c = true) : isBlank c = false :=
  inRanges_eq_false_of_apart (by decide +kernel) hc

theorem isWord_of_isAlpha {c : Char} (hc : c.isAlpha = true) : isWord c = true := by
  have hcase : c.isUpper = true ∨ c.isLower = true := Bool.or_eq_true_iff.1 hc
  rw [isWord, inRanges_iff]
  rcases hcase with hupper | hlower
  · have hrange : 'A'.val ≤ c.val ∧ c.val ≤ 'Z'.val := of_decide_eq_true hupper
    exact ⟨(0x41, 0x5A), by decide, hrange⟩
  · have hrange := Bool.and_eq_true_iff.1 hlower
    exact ⟨(0x61, 0x7A), by decide, of_decide_eq_true hrange.1, of_decide_eq_true hrange.2⟩

end Text

namespace Script

theorem isNameChar_of_isAlpha {c : Char} (hc : c.isAlpha = true) : isNameChar c = true := by
  rw [isNameChar, Text.isWord_of_isAlpha hc, Bool.true_or]

theorem isOriginChar_of_isNameChar {c : Char} (hc : isNameChar c = true) : isOriginChar c = true := by
  rw [isOriginChar_iff]
  rw [isNameChar, Bool.or_eq_true, decide_eq_true_eq] at hc
  rcases hc with hword | rfl
  · refine ⟨Text.isBlank_eq_false_of_isWord hword, ?_⟩
    rintro rfl
    exact absurd hword (by decide +kernel)
  · decide

/-! ## Lines taken apart -/

/-- A name of a call: a plain letter, then characters of names. -/
def isCallName : List Char → Bool
  | [] => false
  | first :: others => first.isAlpha && others.all isNameChar

/-- What stands behind the name of a call. -/
def Follows : Option (List Char) → List Char → Prop
  | none, tail => isEnd tail = true
  | some origin, tail =>
    ∃ gap rest, tail = gap ++ (origin ++ rest) ∧ (gap ≠ [] ∧ ∀ c ∈ gap, Text.isBlank c = true) ∧
      (origin ≠ [] ∧ ∀ c ∈ origin, isOriginChar c = true) ∧ isEnd rest = true

/-- The line has this name and, if there is one, this origin, and nothing else but blanks and a comment. -/
def IsCall (name : List Char) (origin : Option (List Char)) (text : List Char) : Prop :=
  ∃ lead tail, text = lead ++ (name ++ tail) ∧ (∀ c ∈ lead, Text.isBlank c = true) ∧
    isCallName name = true ∧ Follows origin tail

theorem isName_iff (name : List Char) : IsName name ↔ isCallName name = true := by
  cases name with
  | nil => simp [IsName, isCallName]
  | cons first others =>
    simp only [IsName, isCallName, List.head?_cons, Option.any_some, List.forall_mem_cons, Bool.and_eq_true,
      List.all_eq_true]
    constructor
    · intro h
      exact ⟨h.1, fun c hc ↦ (h.2.2 c hc).1⟩
    · intro h
      have hchars {c : Char} (hc : isNameChar c = true) : isNameChar c = true ∧ Text.isBlank c = false :=
        ⟨hc, ((isOriginChar_iff c).1 (isOriginChar_of_isNameChar hc)).1⟩
      exact ⟨h.1, hchars (isNameChar_of_isAlpha h.1), fun c hc ↦ hchars (h.2 c hc)⟩

section Parts

variable {text : List Char}

theorem isEnd_append {blanks : List Char} (hblanks : ∀ c ∈ blanks, Text.isBlank c = true)
    (text : List Char) : isEnd (blanks ++ text) = isEnd text := by
  rw [isEnd, List.dropWhile_append_of_pos hblanks, ← isEnd]

/-- The end of a line is no part of an origin. -/
theorem isOriginChar_eq_false_of_isEnd (hend : isEnd text = true) {c : Char} (hc : text.head? = some c) :
    isOriginChar c = false := by
  rw [Bool.eq_false_iff, Ne, isOriginChar_iff]
  rintro ⟨hblank, hsign⟩
  cases text with
  | nil => simp at hc
  | cons d rest =>
    obtain rfl : d = c := by simpa using hc
    rw [isEnd, List.dropWhile_cons_of_neg (by simp [hblank])] at hend
    exact hsign (by simpa using hend)

theorem isEnd_eq_false_of_isOriginChar {c : Char} (hc : isOriginChar c = true) (rest : List Char) :
    isEnd (c :: rest) = false := by
  rw [Bool.eq_false_iff]
  intro hend
  rw [isOriginChar_eq_false_of_isEnd hend rfl] at hc
  exact Bool.false_ne_true hc

/-- Before the end of a line comes something that can be part of an origin, after blanks. -/
theorem isOriginChar_of_isEnd_eq_false (hgoes : isEnd text = false) :
    ∃ c rest, text.dropWhile Text.isBlank = c :: rest ∧ isOriginChar c = true := by
  unfold isEnd at hgoes
  cases hstart : text.dropWhile Text.isBlank with
  | nil => simp [hstart] at hgoes
  | cons c rest =>
    have hblank := List.head?_dropWhile_not Text.isBlank text
    rw [hstart] at hblank hgoes
    exact ⟨c, rest, rfl, (isOriginChar_iff c).2 ⟨by simpa using hblank, by simpa using hgoes⟩⟩

theorem takeWhile_dropWhile_append {accepts : Char → Bool} {part rest : List Char}
    (hpart : ∀ c ∈ part, accepts c = true) (hrest : ∀ c, rest.head? = some c → accepts c = false) :
    (part ++ rest).takeWhile accepts = part ∧ (part ++ rest).dropWhile accepts = rest := by
  rw [List.takeWhile_append_of_pos hpart, List.dropWhile_append_of_pos hpart]
  cases rest with
  | nil => exact ⟨List.append_nil part, rfl⟩
  | cons c rest => simp [hrest c rfl]

end Parts

/-! ## The scan -/

theorem Follows.isOriginChar_head {origin : Option (List Char)} {tail : List Char} (h : Follows origin tail)
    {c : Char} (hc : tail.head? = some c) : isOriginChar c = false := by
  cases origin with
  | none => exact isOriginChar_eq_false_of_isEnd h hc
  | some origin =>
    obtain ⟨gap, rest, rfl, ⟨hne, hgap⟩, -, -⟩ := h
    cases gap with
    | nil => exact absurd rfl hne
    | cons d gap =>
      obtain rfl : d = c := by simpa using hc
      simp [isOriginChar, hgap d List.mem_cons_self]

theorem scanOrigin_of_follows {origin : Option (List Char)} {tail : List Char} (h : Follows origin tail) :
    scanOrigin tail = some origin := by
  cases origin with
  | none =>
    have hend : isEnd tail = true := h
    rw [scanOrigin, if_pos hend]
  | some origin =>
    obtain ⟨gap, rest, rfl, ⟨hne, hgap⟩, ⟨horigin, hchars⟩, hend⟩ := h
    have hstop := takeWhile_dropWhile_append hchars fun c ↦ isOriginChar_eq_false_of_isEnd hend
    cases gap with
    | nil => exact absurd rfl hne
    | cons blank gap =>
      cases origin with
      | nil => exact absurd rfl horigin
      | cons first others =>
        have hfirst := hchars first List.mem_cons_self
        have hblank := ((isOriginChar_iff first).1 hfirst).1
        have hgoes : isEnd (blank :: gap ++ (first :: others ++ rest)) = false := by
          rw [isEnd_append hgap]
          exact isEnd_eq_false_of_isOriginChar hfirst (others ++ rest)
        have hstart : (blank :: gap ++ (first :: others ++ rest)).dropWhile Text.isBlank =
            first :: others ++ rest := by
          rw [List.dropWhile_append_of_pos hgap, List.cons_append,
            List.dropWhile_cons_of_neg (by simp [hblank])]
        have hhead : (blank :: gap ++ (first :: others ++ rest)).head?.any Text.isBlank = true :=
          hgap blank List.mem_cons_self
        rw [scanOrigin, hgoes, if_neg Bool.false_ne_true, if_pos hhead]
        simp only [hstart, hstop, hend, if_true]

theorem follows_of_scanOrigin {origin : Option (List Char)} {tail : List Char}
    (h : scanOrigin tail = some origin) : Follows origin tail := by
  unfold scanOrigin at h
  split at h
  · rename_i hend
    obtain rfl : none = origin := by simpa using h
    exact hend
  · rename_i hgoes
    obtain ⟨c, rest, hstart, hc⟩ := isOriginChar_of_isEnd_eq_false (Bool.eq_false_iff.2 hgoes)
    split at h
    · rename_i hhead
      simp only at h
      split at h
      · rename_i hend
        obtain rfl := Option.some.inj h
        refine ⟨tail.takeWhile Text.isBlank, (tail.dropWhile Text.isBlank).dropWhile isOriginChar, ?_,
          ⟨?_, fun c ↦ List.mem_takeWhile_imp⟩, ⟨?_, fun c ↦ List.mem_takeWhile_imp⟩, hend⟩
        · rw [List.takeWhile_append_dropWhile, List.takeWhile_append_dropWhile]
        · cases tail with
          | nil => simp at hhead
          | cons d tail => simp [show Text.isBlank d = true from hhead]
        · simp [hstart, hc]
      · simp at h
    · simp at h

theorem scanOrigin_eq_some_iff {origin : Option (List Char)} {tail : List Char} :
    scanOrigin tail = some origin ↔ Follows origin tail :=
  ⟨follows_of_scanOrigin, scanOrigin_of_follows⟩

theorem scanLine_blanks_append {blanks : List Char} (hblanks : ∀ c ∈ blanks, Text.isBlank c = true)
    (text : List Char) : scanLine (blanks ++ text) = scanLine text := by
  unfold scanLine
  rw [List.dropWhile_append_of_pos hblanks]

theorem isCall_of_scanLine {name : List Char} {origin : Option (List Char)} {text : List Char}
    (h : scanLine text = some (name, origin)) : IsCall name origin text := by
  unfold scanLine at h
  simp only at h
  split at h
  · rename_i hhead
    obtain ⟨found, hscan, heq⟩ := Option.map_eq_some_iff.1 h
    obtain ⟨rfl, rfl⟩ := Prod.mk.inj heq
    refine ⟨text.takeWhile Text.isBlank, (text.dropWhile Text.isBlank).dropWhile isNameChar, ?_,
      fun c ↦ List.mem_takeWhile_imp, ?_, scanOrigin_eq_some_iff.1 hscan⟩
    · rw [List.takeWhile_append_dropWhile, List.takeWhile_append_dropWhile]
    · cases hstart : text.dropWhile Text.isBlank with
      | nil => simp [hstart] at hhead
      | cons first others =>
        have hfirst : first.isAlpha = true := by simpa [hstart] using hhead
        rw [List.takeWhile_cons_of_pos (isNameChar_of_isAlpha hfirst), isCallName, hfirst, Bool.true_and,
          List.all_eq_true]
        exact fun c ↦ List.mem_takeWhile_imp
  · simp at h

theorem scanLine_of_isCall {name : List Char} {origin : Option (List Char)} {text : List Char}
    (h : IsCall name origin text) : scanLine text = some (name, origin) := by
  obtain ⟨lead, tail, rfl, hlead, hname, hfollows⟩ := h
  have hstop (c : Char) (hc : tail.head? = some c) : isNameChar c = false := by
    rw [Bool.eq_false_iff]
    intro hchar
    exact Bool.false_ne_true ((hfollows.isOriginChar_head hc).symm.trans (isOriginChar_of_isNameChar hchar))
  rw [scanLine_blanks_append hlead, scanLine_append ((isName_iff name).2 hname) hstop,
    scanOrigin_eq_some_iff.2 hfollows, Option.map_some]

/-- The scan of a line finds a name and an origin exactly if the line has them and nothing else. -/
theorem scanLine_eq_some_iff {name : List Char} {origin : Option (List Char)} {text : List Char} :
    scanLine text = some (name, origin) ↔ IsCall name origin text :=
  ⟨isCall_of_scanLine, scanLine_of_isCall⟩

/-! ## The pattern -/

def namePattern : Pattern := .group 1 (.oneThenMany Char.isAlpha isNameChar)

def originPattern : Pattern :=
  .optional (.andThen (.oneThenMany Text.isBlank Text.isBlank)
    (.group 2 (.oneThenMany isOriginChar isOriginChar)))

def endPattern : Pattern :=
  .andThen (.many Text.isBlank) (.optional (.oneThenMany (· == '#') (· != '\n')))

/-- Blanks, a name, an origin behind more blanks if there is one, and blanks and a comment at the end. -/
def linePattern : Pattern :=
  .andThen (.many Text.isBlank) (.andThen namePattern (.andThen originPattern endPattern))

/-- The parts that the groups of a line capture: the name is the first, and the origin is the second. -/
def captures (name : List Char) (origin : Option (List Char)) : List (Nat × List Char) :=
  (1, name) :: (origin.map fun origin ↦ (2, origin)).toList

theorem matches_namePattern_iff {text : List Char} {captured : List (Nat × List Char)} :
    namePattern.Matches text captured ↔ isCallName text = true ∧ captured = [(1, text)] := by
  simp only [namePattern, Pattern.matches_group_iff, Pattern.matches_oneThenMany_iff]
  constructor
  · rintro ⟨inside, rfl, ⟨first, others, rfl, hfirst, hothers⟩, rfl⟩
    exact ⟨by simpa [isCallName, hfirst] using hothers, rfl⟩
  · rintro ⟨hname, rfl⟩
    cases text with
    | nil => simp [isCallName] at hname
    | cons first others =>
      rw [isCallName, Bool.and_eq_true, List.all_eq_true] at hname
      exact ⟨[], rfl, ⟨first, others, rfl, hname⟩, rfl⟩

theorem matches_originPattern_iff {text : List Char} {captured : List (Nat × List Char)} :
    originPattern.Matches text captured ↔
      (text = [] ∧ captured = []) ∨
        ∃ gap origin, text = gap ++ origin ∧ (gap ≠ [] ∧ ∀ c ∈ gap, Text.isBlank c = true) ∧
          (origin ≠ [] ∧ ∀ c ∈ origin, isOriginChar c = true) ∧ captured = [(2, origin)] := by
  simp only [originPattern, Pattern.matches_optional_iff, Pattern.matches_andThen_iff,
    Pattern.matches_group_iff, Pattern.matches_oneOrMore_iff]
  refine or_congr_right ?_
  constructor
  · rintro ⟨gap, origin, rfl, _, _, rfl, ⟨hgap, rfl⟩, _, rfl, horigin, rfl⟩
    exact ⟨gap, origin, rfl, hgap, horigin, rfl⟩
  · rintro ⟨gap, origin, rfl, hgap, horigin, rfl⟩
    exact ⟨gap, origin, rfl, [], [(2, origin)], rfl, ⟨hgap, rfl⟩, [], rfl, horigin, rfl⟩

theorem matches_endPattern_iff {text : List Char} (hline : '\n' ∉ text) {captured : List (Nat × List Char)} :
    endPattern.Matches text captured ↔ isEnd text = true ∧ captured = [] := by
  simp only [endPattern, Pattern.matches_andThen_iff, Pattern.matches_many_iff,
    Pattern.matches_optional_iff, Pattern.matches_oneThenMany_iff]
  constructor
  · rintro ⟨blanks, rest, rfl, _, _, rfl, ⟨hblanks, rfl⟩, ⟨rfl, rfl⟩ | ⟨⟨sign, rest, rfl, hsign, -⟩, rfl⟩⟩
    · exact ⟨isEnd_append hblanks [], rfl⟩
    · obtain rfl : sign = '#' := by simpa using hsign
      exact ⟨isEnd_append hblanks ('#' :: rest), rfl⟩
  · rintro ⟨hend, rfl⟩
    refine ⟨text.takeWhile Text.isBlank, text.dropWhile Text.isBlank,
      List.takeWhile_append_dropWhile.symm, [], [], rfl, ⟨fun c ↦ List.mem_takeWhile_imp, rfl⟩, ?_⟩
    unfold isEnd at hend
    cases hstart : text.dropWhile Text.isBlank with
    | nil => exact .inl ⟨rfl, rfl⟩
    | cons sign rest =>
      rw [hstart] at hend
      refine .inr ⟨⟨sign, rest, rfl, by simpa using hend, fun c hc ↦ ?_⟩, rfl⟩
      have hmem : c ∈ text :=
        (List.dropWhile_sublist Text.isBlank).subset (hstart ▸ List.mem_cons_of_mem sign hc)
      rw [bne_iff_ne]
      rintro rfl
      exact hline hmem

/-- Behind the name, the second group captures the origin if there is one. -/
theorem matches_origin_andThen_end_iff {tail : List Char} (hline : '\n' ∉ tail)
    {captured : List (Nat × List Char)} :
    (Pattern.andThen originPattern endPattern).Matches tail captured ↔
      ∃ origin, captured = (Option.map (fun origin ↦ (2, origin)) origin).toList ∧ Follows origin tail := by
  simp only [Pattern.matches_andThen_iff, matches_originPattern_iff]
  constructor
  · rintro ⟨middle, rest, rfl, inMiddle, inRest, rfl, hmiddle, hmatches⟩
    have hrest : '\n' ∉ rest := fun hmem ↦ hline (List.mem_append_right middle hmem)
    obtain ⟨hend, rfl⟩ := (matches_endPattern_iff hrest).1 hmatches
    rcases hmiddle with ⟨rfl, rfl⟩ | ⟨gap, origin, rfl, hgap, horigin, rfl⟩
    · exact ⟨none, rfl, hend⟩
    · exact ⟨some origin, rfl, gap, rest, List.append_assoc gap origin rest, hgap, horigin, hend⟩
  · rintro ⟨origin, rfl, hfollows⟩
    cases origin with
    | none =>
      have hend := (matches_endPattern_iff hline).2 ⟨hfollows, rfl⟩
      exact ⟨[], tail, rfl, [], [], rfl, .inl ⟨rfl, rfl⟩, hend⟩
    | some origin =>
      obtain ⟨gap, rest, rfl, hgap, horigin, hend⟩ := hfollows
      have hrest : '\n' ∉ rest := fun hmem ↦ hline (by simp [hmem])
      exact ⟨gap ++ origin, rest, (List.append_assoc gap origin rest).symm, [(2, origin)], [], rfl,
        .inr ⟨gap, origin, rfl, hgap, horigin, rfl⟩, (matches_endPattern_iff hrest).2 ⟨hend, rfl⟩⟩

/-- A line matches exactly if it has a name and possibly an origin and nothing else, and these are what the
groups capture. -/
theorem matches_linePattern_iff {text : List Char} (hline : '\n' ∉ text) {captured : List (Nat × List Char)} :
    linePattern.Matches text captured ↔
      ∃ name origin, captured = captures name origin ∧ IsCall name origin text := by
  rw [linePattern, Pattern.matches_andThen_iff]
  constructor
  · rintro ⟨lead, _, rfl, _, _, rfl, ⟨hlead, rfl⟩, name, tail, rfl, inName, inTail, rfl, hmatches, hbehind⟩
    obtain ⟨hname, rfl⟩ := matches_namePattern_iff.1 hmatches
    have htail : '\n' ∉ tail := fun hmem ↦ hline (by simp [hmem])
    obtain ⟨origin, rfl, hfollows⟩ := (matches_origin_andThen_end_iff htail).1 hbehind
    exact ⟨name, origin, rfl, lead, tail, rfl, hlead, hname, hfollows⟩
  · rintro ⟨name, origin, rfl, lead, tail, rfl, hlead, hname, hfollows⟩
    have htail : '\n' ∉ tail := fun hmem ↦ hline (by simp [hmem])
    have hbehind := (matches_origin_andThen_end_iff htail).2 ⟨origin, rfl, hfollows⟩
    exact ⟨lead, name ++ tail, rfl, [], captures name origin, rfl, ⟨hlead, rfl⟩, name, tail, rfl,
      [(1, name)], _, rfl, matches_namePattern_iff.2 ⟨hname, rfl⟩, hbehind⟩

end Script

end DefUse
