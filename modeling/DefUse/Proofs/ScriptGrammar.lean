import DefUse.Proofs.LinePattern
import DefUse.Proofs.TextWords

/-!
# The grammar of scripts

A line of a script can also be read without scanning for its parts: drop what follows the first sign of a
comment and look at the words that are left. No words say nothing, a name and at most one more word are a
call, and everything else is malformed. The main statement is that reading a script gives the steps of its
calls, or the problem of the first line that has one, exactly as this reading of its lines says, and that the
calls are the lines that match the pattern of a script line.
-/

namespace DefUse

namespace Script

/-! ## Words before the comment -/

/-- The line up to the first sign of a comment. -/
def uncommented (line : List Char) : List Char := line.takeWhile (· != '#')

/-- The words of a line before its comment. -/
def lineWords (line : List Char) : List (List Char) := Text.words (uncommented line)

/-- What a line says. -/
inductive Reading where
  | nothing
  | call (name : List Char) (origin : Option (List Char))
  | malformed
deriving DecidableEq

/-- The reading of a line by its words. -/
def reading (line : List Char) : Reading :=
  match lineWords line with
  | [] => .nothing
  | [name] => if isCallName name then .call name none else .malformed
  | [name, origin] => if isCallName name then .call name (some origin) else .malformed
  | _ => .malformed

/-- The problem of a numbered line, if it has one. -/
def lineProblem (line : List Char × Nat) : Option Problem :=
  match reading line.1 with
  | .nothing => none
  | .malformed => some (.scriptLine line.2 (String.ofList (Text.trim line.1)))
  | .call name _ =>
    match Command.ofName? (String.ofList name) with
    | none => some (.unknownCommand (String.ofList name) (Command.suggestion (String.ofList name)))
    | some _ => none

/-- The step of a numbered line, if it has one. -/
def lineStep (line : List Char × Nat) : Option Step :=
  match reading line.1 with
  | .call name origin =>
    (Command.ofName? (String.ofList name)).map fun command ↦ ⟨command, line.2, origin.map String.ofList⟩
  | _ => none

/-- The problem of the first line that has one, or else the steps of all lines. -/
def readByWords (source : String) : Except Problem (List Step) :=
  let lines := (Text.cutLines source.toList).zipIdx 1
  match lines.findSome? lineProblem with
  | some problem => .error problem
  | none => .ok (lines.filterMap lineStep)

section Words

variable {text : List Char}

theorem uncommented_append {part : List Char} (hpart : '#' ∉ part) (rest : List Char) :
    uncommented (part ++ rest) = part ++ uncommented rest := by
  refine List.takeWhile_append_of_pos fun c hc ↦ bne_iff_ne.2 ?_
  rintro rfl
  exact hpart hc

theorem uncommented_eq_self (htext : '#' ∉ text) : uncommented text = text := by
  calc uncommented text = uncommented (text ++ []) := by rw [List.append_nil]
    _ = text ++ uncommented [] := uncommented_append htext []
    _ = text := List.append_nil text

theorem sign_not_mem_of_isBlank {blanks : List Char} (hblanks : ∀ c ∈ blanks, Text.isBlank c = true) :
    '#' ∉ blanks := by
  intro hmem
  exact absurd (hblanks '#' hmem) (by decide)

theorem sign_not_mem_of_isOriginChar {word : List Char} (hword : ∀ c ∈ word, isOriginChar c = true) :
    '#' ∉ word := by
  intro hmem
  exact absurd (hword '#' hmem) (by decide)

theorem lineWords_blanks_append {blanks : List Char} (hblanks : ∀ c ∈ blanks, Text.isBlank c = true)
    (text : List Char) : lineWords (blanks ++ text) = lineWords text := by
  unfold lineWords
  rw [uncommented_append (sign_not_mem_of_isBlank hblanks), Text.words_blanks_append hblanks]

theorem lineWords_append_blanks {blanks : List Char} (hblanks : ∀ c ∈ blanks, Text.isBlank c = true)
    (text : List Char) : lineWords (text ++ blanks) = lineWords text := by
  unfold lineWords
  by_cases hsign : '#' ∈ text
  · -- The blanks are part of the comment.
    obtain ⟨before, after, rfl, hbefore⟩ := List.eq_append_cons_of_mem hsign
    rw [List.append_assoc, uncommented_append hbefore, uncommented_append hbefore]
    rfl
  · rw [uncommented_append hsign, uncommented_eq_self (sign_not_mem_of_isBlank hblanks),
      uncommented_eq_self hsign, Text.words_append_blanks hblanks]

theorem lineWords_trim (line : List Char) : lineWords (Text.trim line) = lineWords line := by
  obtain ⟨lead, trail, hline, hlead, htrail⟩ := Text.exists_eq_blanks_append_trim line
  calc lineWords (Text.trim line)
      = lineWords (Text.trim line ++ trail) := (lineWords_append_blanks htrail _).symm
    _ = lineWords (lead ++ (Text.trim line ++ trail)) := (lineWords_blanks_append hlead _).symm
    _ = lineWords line := by rw [← hline]

/-- The first word of a line, and the words that follow it. -/
theorem lineWords_append {lead word rest : List Char} (hlead : ∀ c ∈ lead, Text.isBlank c = true)
    (hne : word ≠ []) (hword : ∀ c ∈ word, isOriginChar c = true)
    (hrest : ∀ c, rest.head? = some c → isOriginChar c = false) :
    lineWords (lead ++ (word ++ rest)) = word :: lineWords rest := by
  have hblank (c : Char) (hc : c ∈ word) : Text.isBlank c = false := ((isOriginChar_iff c).1 (hword c hc)).1
  have hstop (c : Char) (hc : (uncommented rest).head? = some c) : Text.isBlank c = true := by
    cases rest with
    | nil => simp [uncommented] at hc
    | cons d rest =>
      by_cases hsign : d = '#'
      · simp [uncommented, hsign] at hc
      · obtain rfl : d = c := by simpa [uncommented, hsign] using hc
        simpa [isOriginChar, hsign] using hrest d rfl
  rw [lineWords_blanks_append hlead, lineWords, uncommented_append (sign_not_mem_of_isOriginChar hword),
    Text.words_word_append hne hblank hstop]
  rfl

theorem lineWords_of_isEnd (hend : isEnd text = true) : lineWords text = [] := by
  have hskip : lineWords text = lineWords (text.dropWhile Text.isBlank) := by
    conv_lhs => rw [← List.takeWhile_append_dropWhile (p := Text.isBlank) (l := text)]
    exact lineWords_blanks_append (fun c ↦ List.mem_takeWhile_imp) _
  rw [hskip]
  unfold isEnd at hend
  cases hstart : text.dropWhile Text.isBlank with
  | nil => rfl
  | cons c rest =>
    rw [hstart] at hend
    obtain rfl : c = '#' := by simpa using hend
    rfl

/-- Before the end of a line comes a word. -/
theorem exists_word_of_isEnd_eq_false (hgoes : isEnd text = false) :
    ∃ lead word rest, text = lead ++ (word ++ rest) ∧ (∀ c ∈ lead, Text.isBlank c = true) ∧
      (word ≠ [] ∧ ∀ c ∈ word, isOriginChar c = true) ∧
      ∀ c, rest.head? = some c → isOriginChar c = false := by
  obtain ⟨c, others, hstart, hc⟩ := isOriginChar_of_isEnd_eq_false hgoes
  refine ⟨text.takeWhile Text.isBlank, (text.dropWhile Text.isBlank).takeWhile isOriginChar,
    (text.dropWhile Text.isBlank).dropWhile isOriginChar, ?_, fun c ↦ List.mem_takeWhile_imp,
    ⟨?_, fun c ↦ List.mem_takeWhile_imp⟩, fun d hd ↦ ?_⟩
  · rw [List.takeWhile_append_dropWhile, List.takeWhile_append_dropWhile]
  · simp [hstart, hc]
  · have hnot := List.head?_dropWhile_not isOriginChar (text.dropWhile Text.isBlank)
    rw [hd] at hnot
    simpa using hnot

theorem lineWords_eq_nil_iff : lineWords text = [] ↔ isEnd text = true := by
  refine ⟨fun h ↦ ?_, lineWords_of_isEnd⟩
  rw [← Bool.not_eq_false]
  intro hgoes
  obtain ⟨lead, word, rest, rfl, hlead, ⟨hne, hword⟩, hrest⟩ := exists_word_of_isEnd_eq_false hgoes
  rw [lineWords_append hlead hne hword hrest] at h
  exact List.cons_ne_nil _ _ h

theorem lineWords_eq_cons_iff {word : List Char} {others : List (List Char)} :
    lineWords text = word :: others ↔
      ∃ lead rest, text = lead ++ (word ++ rest) ∧ (∀ c ∈ lead, Text.isBlank c = true) ∧
        (word ≠ [] ∧ ∀ c ∈ word, isOriginChar c = true) ∧
        (∀ c, rest.head? = some c → isOriginChar c = false) ∧ lineWords rest = others := by
  constructor
  · intro h
    have hgoes : isEnd text = false := by
      rw [Bool.eq_false_iff, Ne, ← lineWords_eq_nil_iff, h]
      exact List.cons_ne_nil word others
    obtain ⟨lead, first, rest, rfl, hlead, hfirst, hrest⟩ := exists_word_of_isEnd_eq_false hgoes
    rw [lineWords_append hlead hfirst.1 hfirst.2 hrest] at h
    obtain ⟨rfl, rfl⟩ := List.cons.inj h
    exact ⟨lead, rest, rfl, hlead, hfirst, hrest, rfl⟩
  · rintro ⟨lead, rest, rfl, hlead, ⟨hne, hword⟩, hrest, rfl⟩
    exact lineWords_append hlead hne hword hrest

end Words

/-! ## Readings of lines -/

theorem reading_eq_call_iff {line name : List Char} {origin : Option (List Char)} :
    reading line = .call name origin ↔ lineWords line = name :: origin.toList ∧ isCallName name = true := by
  constructor
  · fun_cases reading line with
    | case1 hwords => simp
    | case2 first hwords hfirst =>
      intro h
      obtain ⟨rfl, rfl⟩ := Reading.call.inj h
      exact ⟨hwords, hfirst⟩
    | case3 first hwords hfirst => simp
    | case4 first second hwords hfirst =>
      intro h
      obtain ⟨rfl, rfl⟩ := Reading.call.inj h
      exact ⟨hwords, hfirst⟩
    | case5 first second hwords hfirst => simp
    | case6 hnone hone htwo => simp
  · rintro ⟨hwords, hname⟩
    cases origin with
    | none => simp [reading, hwords, hname]
    | some origin => simp [reading, hwords, hname]

theorem reading_trim (line : List Char) : reading (Text.trim line) = reading line := by
  unfold reading
  rw [lineWords_trim]

theorem reading_eq_nothing_iff {line : List Char} : reading line = .nothing ↔ isEnd line = true := by
  rw [← lineWords_eq_nil_iff]
  fun_cases reading line with
  | case1 hwords => simp [hwords]
  | case2 first hwords hfirst => simp [hwords]
  | case3 first hwords hfirst => simp [hwords]
  | case4 first second hwords hfirst => simp [hwords]
  | case5 first second hwords hfirst => simp [hwords]
  | case6 hnone hone htwo => simpa using hnone

/-- What follows a name is the same by its parts and by its words. -/
theorem follows_iff_lineWords {origin : Option (List Char)} {tail : List Char} :
    Follows origin tail ↔
      (∀ c, tail.head? = some c → isOriginChar c = false) ∧ lineWords tail = origin.toList := by
  constructor
  · intro hfollows
    refine ⟨fun c ↦ hfollows.isOriginChar_head, ?_⟩
    cases origin with
    | none => exact lineWords_of_isEnd hfollows
    | some origin =>
      obtain ⟨gap, rest, rfl, ⟨-, hgap⟩, ⟨hne, horigin⟩, hend⟩ := hfollows
      rw [lineWords_append hgap hne horigin fun c ↦ isOriginChar_eq_false_of_isEnd hend,
        lineWords_of_isEnd hend, Option.toList_some]
  · rintro ⟨hhead, hwords⟩
    cases origin with
    | none => exact lineWords_eq_nil_iff.1 hwords
    | some origin =>
      obtain ⟨gap, rest, rfl, hgap, ⟨hne, horigin⟩, -, hrest⟩ := lineWords_eq_cons_iff.1 hwords
      refine ⟨gap, rest, rfl, ⟨?_, hgap⟩, ⟨hne, horigin⟩, lineWords_eq_nil_iff.1 hrest⟩
      -- Without a gap the word would go on where the name ends.
      rintro rfl
      obtain ⟨c, others, rfl⟩ := List.exists_cons_of_ne_nil hne
      exact Bool.false_ne_true ((hhead c rfl).symm.trans (horigin c List.mem_cons_self))

theorem isOriginChar_of_isCallName {name : List Char} (hname : isCallName name = true) :
    name ≠ [] ∧ ∀ c ∈ name, isOriginChar c = true := by
  refine ⟨?_, fun c hc ↦ isOriginChar_of_isNameChar (((isName_iff name).2 hname).2 c hc).1⟩
  rintro rfl
  contradiction

/-- A line has a name and possibly an origin, and nothing else, exactly if its words read as this call. -/
theorem isCall_iff_reading {name : List Char} {origin : Option (List Char)} {text : List Char} :
    IsCall name origin text ↔ reading text = .call name origin := by
  rw [reading_eq_call_iff, lineWords_eq_cons_iff]
  constructor
  · rintro ⟨lead, tail, rfl, hlead, hname, hfollows⟩
    obtain ⟨hhead, hwords⟩ := follows_iff_lineWords.1 hfollows
    exact ⟨⟨lead, tail, rfl, hlead, isOriginChar_of_isCallName hname, hhead, hwords⟩, hname⟩
  · rintro ⟨⟨lead, tail, rfl, hlead, -, hhead, hwords⟩, hname⟩
    exact ⟨lead, tail, rfl, hlead, hname, follows_iff_lineWords.2 ⟨hhead, hwords⟩⟩

/-! ## Steps and problems -/

theorem isEnd_trim (line : List Char) :
    isEnd (Text.trim line) = ((Text.trim line).isEmpty || (Text.trim line).head? = some '#') := by
  rw [isEnd, Text.dropWhile_isBlank_trim]
  cases Text.trim line with
  | nil => rfl
  | cons c rest => simp

/-- Reading a line gives its problem, or else its step if it has one. -/
theorem readLine_eq (number : Nat) (line : List Char) :
    readLine number line =
      match lineProblem (line, number) with
      | some problem => .error problem
      | none => .ok (lineStep (line, number)) := by
  unfold readLine lineProblem lineStep
  simp only [← isEnd_trim, ← reading_eq_nothing_iff, reading_trim]
  cases hreading : reading line with
  | nothing => rfl
  | malformed =>
    have hscan : scanLine (Text.trim line) = none := by
      rw [Option.eq_none_iff_forall_ne_some]
      rintro ⟨name, origin⟩ hscan
      rw [scanLine_eq_some_iff, isCall_iff_reading, reading_trim, hreading] at hscan
      contradiction
    simp [hscan]
  | call name origin =>
    have hscan : scanLine (Text.trim line) = some (name, origin) := by
      rw [scanLine_eq_some_iff, isCall_iff_reading, reading_trim, hreading]
    simp only [hscan, reduceCtorEq, if_false, Command.ofName]
    cases Command.ofName? (String.ofList name) with
    | none => rfl
    | some command => rfl

theorem readLines_eq (lines : List (List Char × Nat)) :
    readLines lines =
      match lines.findSome? lineProblem with
      | some problem => .error problem
      | none => .ok (lines.filterMap lineStep) := by
  induction lines with
  | nil => rfl
  | cons line rest ih =>
    rw [readLines, readLine_eq, ih, List.findSome?_cons, List.filterMap_cons]
    cases hproblem : lineProblem line with
    | some problem => rfl
    | none =>
      cases hrest : rest.findSome? lineProblem with
      | some problem => rfl
      | none => cases hstep : lineStep line <;> rfl

/-- The words of the lines of a script tell its steps and its first problem, and the lines with a call are
those that match the pattern. -/
theorem ofText_eq_readByWords (source : String) :
    ofText source = readByWords source ∧
      ∀ line ∈ Text.cutLines source.toList, ∀ captured,
        linePattern.Matches (Text.trim line) captured ↔
          ∃ name origin, captured = captures name origin ∧ reading line = .call name origin := by
  constructor
  · rw [ofText, readLines_eq, Text.lines_eq_cutLines]
    rfl
  · intro line hline captured
    have htrim : '\n' ∉ Text.trim line := by
      obtain ⟨lead, trail, heq, -, -⟩ := Text.exists_eq_blanks_append_trim line
      intro hmem
      apply Text.lineFeed_not_mem_of_mem_cutLines hline
      rw [heq]
      exact List.mem_append_right lead (List.mem_append_left trail hmem)
    simp only [matches_linePattern_iff htrim, isCall_iff_reading, reading_trim]

/-- A comment behind a name and behind an id, a break of either kind, blanks that are not plain spaces, and a
carriage return that ends no line. -/
def mixedSource : String := "erase#now\r\n\n\u3000link\u00a0e1#x\n\r"

def mixedLine : List Char := "\u3000link\u00a0e1#x".toList

theorem ofText_eq_readByWords_mixed :
    mixedLine ∈ Text.cutLines mixedSource.toList ∧
      ofText mixedSource = .ok [⟨.erase, 1, none⟩, ⟨.link, 3, some "e1"⟩] ∧
      linePattern.Matches (Text.trim mixedLine) (captures "link".toList (some "e1".toList)) := by
  have hmem : mixedLine ∈ Text.cutLines mixedSource.toList := by decide
  have hreading : reading mixedLine = .call "link".toList (some "e1".toList) := by decide +kernel
  have hsteps : readByWords mixedSource = .ok [⟨.erase, 1, none⟩, ⟨.link, 3, some "e1"⟩] := by rfl
  obtain ⟨hread, hmatches⟩ := ofText_eq_readByWords mixedSource
  exact ⟨hmem, hread.trans hsteps, (hmatches mixedLine hmem _).2 ⟨_, _, rfl, hreading⟩⟩

end Script

end DefUse
