import DefUse.Proofs.Origin
import DefUse.Proofs.TextLines
import DefUse.Proofs.Vocabulary
import DefUse.Script

/-!
# Printed scripts

A command is printed by its name, and an origin behind it after one space. The main statement is that reading
gives back what was printed, numbered by lines, for all origins that are nonempty and hold neither blanks nor
the sign of a comment; that scripts can express no other origins; and that binding keeps the steps and drops
the origins that are not needed.
-/

namespace DefUse

/-- A success passes through a bind if both parts succeed. -/
theorem except_bind_eq_ok_iff {ε α β : Type} {first : Except ε α} {next : α → Except ε β} {result : β} :
    (first >>= next) = .ok result ↔ ∃ value, first = .ok value ∧ next value = .ok result := by
  cases first with
  | error problem => simp [bind, Except.bind]
  | ok value => simp [bind, Except.bind]

namespace Step

/-- The operation of a step, with the origin only if the command needs one. -/
def operation (step : Step) : Operation :=
  ⟨step.command, if step.command.needsOrigin then step.origin else none⟩

/-- The listing has the origin of the step, if the command needs one. -/
def Binds (listing : Listing) (step : Step) : Prop :=
  step.command.needsOrigin = true → (step.origin.bind listing.element?).isSome = true

theorem bind_eq_ok_iff {listing : Listing} {step : Step} {operation : Operation} :
    step.command.bind listing step.origin = .ok operation ↔
      step.Binds listing ∧ operation = step.operation := by
  rw [Command.bind_eq_ok_iff]
  cases hneeds : step.command.needsOrigin with
  | false => simp [Binds, Step.operation, hneeds]
  | true => simp [Binds, Step.operation, hneeds, and_comm]

end Step

namespace Script

/-- What can be printed behind a command: a nonempty text without blanks and without the sign of a
comment. -/
def IsOrigin (origin : String) : Prop :=
  origin ≠ "" ∧ ∀ c ∈ origin.toList, Text.isBlank c = false ∧ c ≠ '#'

/-- A line with a name and the id behind it, if there is one. -/
def line (name : String) : Option ElementId → String
  | none => name
  | some origin => name ++ " " ++ origin

/-- Commands and origins, one of each a line. -/
def print (calls : List (Command × Option ElementId)) : String :=
  "\n".intercalate (calls.map fun call ↦ line call.1.name call.2)

/-- Commands and origins as the steps of numbered lines. -/
def numbered (first : Nat) (calls : List (Command × Option ElementId)) : List Step :=
  (calls.zipIdx first).map fun (call, number) ↦ ⟨call.1, number, call.2⟩

/-! ## Characters of names and origins -/

/-- A name starts with a plain letter and holds nothing that ends it. -/
def IsName (name : List Char) : Prop :=
  name.head?.any Char.isAlpha = true ∧ ∀ c ∈ name, isNameChar c = true ∧ Text.isBlank c = false

theorem isName_name (command : Command) : IsName command.name.toList := by
  have hall : (Command.all.all fun known ↦ known.name.toList.head?.any Char.isAlpha &&
      known.name.toList.all fun c ↦ isNameChar c && !Text.isBlank c) = true := by
    decide +kernel
  have hmem : command ∈ Command.all := by
    cases command with
    | erase => decide
    | unslice => decide
    | link => decide
    | goTo kind => cases kind <;> decide
    | highlight mode kind => cases mode <;> cases kind <;> decide
  have hname := List.all_eq_true.1 hall command hmem
  simpa only [IsName, Bool.and_eq_true, List.all_eq_true, Bool.not_eq_true'] using hname

theorem isOriginChar_iff (c : Char) : isOriginChar c = true ↔ Text.isBlank c = false ∧ c ≠ '#' := by
  simp [isOriginChar]

theorem isOrigin_iff_all (origin : String) :
    IsOrigin origin ↔ origin ≠ "" ∧ origin.toList.all isOriginChar = true := by
  simp only [IsOrigin, List.all_eq_true, isOriginChar_iff]

instance (origin : String) : Decidable (IsOrigin origin) := decidable_of_iff' _ (isOrigin_iff_all origin)

/-! ## Lines that are read back -/

section Scan

variable {name origin : List Char}

theorem IsName.dropWhile_isBlank (hname : IsName name) (rest : List Char) :
    (name ++ rest).dropWhile Text.isBlank = name ++ rest := by
  cases name with
  | nil => simp [IsName] at hname
  | cons first others =>
    have hfirst := (hname.2 first List.mem_cons_self).2
    rw [List.cons_append, List.dropWhile_cons_of_neg (by simp [hfirst])]

/-- A name is read up to a character that no name has. -/
theorem scanLine_append (hname : IsName name) {rest : List Char}
    (hrest : ∀ c, rest.head? = some c → isNameChar c = false) :
    scanLine (name ++ rest) = (scanOrigin rest).map fun origin ↦ (name, origin) := by
  have hchars : ∀ c ∈ name, isNameChar c = true := fun c hc ↦ (hname.2 c hc).1
  have hhead : (name ++ rest).head?.any Char.isAlpha = true := by
    cases name with
    | nil => simp [IsName] at hname
    | cons first others => exact hname.1
  have hstop : rest.takeWhile isNameChar = [] ∧ rest.dropWhile isNameChar = rest := by
    cases rest with
    | nil => exact ⟨rfl, rfl⟩
    | cons c others => simp [hrest c rfl]
  unfold scanLine
  simp only [hname.dropWhile_isBlank, hhead, if_true, List.takeWhile_append_of_pos hchars,
    List.dropWhile_append_of_pos hchars, hstop, List.append_nil]

theorem scanOrigin_space (hne : origin ≠ []) (horigin : ∀ c ∈ origin, isOriginChar c = true) :
    scanOrigin (' ' :: origin) = some (some origin) := by
  have hblank : Text.isBlank ' ' = true := by decide
  have hstart : (' ' :: origin).dropWhile Text.isBlank = origin := by
    rw [List.dropWhile_cons_of_pos hblank]
    cases origin with
    | nil => rfl
    | cons c others =>
      have hc := (isOriginChar_iff c).1 (horigin c List.mem_cons_self)
      rw [List.dropWhile_cons_of_neg (by simp [hc.1])]
  have hgoes : isEnd (' ' :: origin) = false := by
    unfold isEnd
    rw [hstart]
    cases origin with
    | nil => exact absurd rfl hne
    | cons c others => simpa using ((isOriginChar_iff c).1 (horigin c List.mem_cons_self)).2
  have hends : isEnd (origin.dropWhile isOriginChar) = true := by
    rw [List.dropWhile_eq_nil_iff.2 horigin]
    rfl
  unfold scanOrigin
  simp only [hgoes, hstart, hends, List.takeWhile_eq_self_iff.2 horigin]
  simp [hblank]

end Scan

theorem toList_line_some (name : String) (origin : ElementId) :
    (line name (some origin)).toList = name.toList ++ ' ' :: origin.toList := by
  simp [line]

/-- A printed line starts with the first letter of its name. -/
theorem head?_line (command : Command) (origin : Option ElementId) :
    ∃ first, (line command.name origin).toList.head? = some first ∧ Text.isBlank first = false ∧
      first ≠ '#' := by
  have hname := isName_name command
  cases hletters : command.name.toList with
  | nil => simp [hletters, IsName] at hname
  | cons first others =>
    rw [hletters] at hname
    have hfirst := (hname.2 first List.mem_cons_self).2
    have hcomment : first ≠ '#' := by
      rintro rfl
      exact Bool.false_ne_true hname.1
    cases origin with
    | none => exact ⟨first, by rw [line, hletters]; rfl, hfirst, hcomment⟩
    | some id => exact ⟨first, by rw [toList_line_some, hletters]; rfl, hfirst, hcomment⟩

section Line

variable (command : Command) {origin : Option ElementId} (horigin : ∀ id, origin = some id → IsOrigin id)

include horigin

/-- A printed line holds no blank but the space behind its name. -/
theorem eq_space_of_mem_line {c : Char} (hc : c ∈ (line command.name origin).toList)
    (hblank : Text.isBlank c = true) : c = ' ' := by
  have hname (h : c ∈ command.name.toList) : Text.isBlank c = false := ((isName_name command).2 c h).2
  cases origin with
  | none => simp [hname hc] at hblank
  | some id =>
    rw [toList_line_some, List.mem_append, List.mem_cons] at hc
    rcases hc with hc | hc | hc
    · simp [hname hc] at hblank
    · exact hc
    · simp [((horigin id rfl).2 c hc).1] at hblank

theorem line_isLine : (line command.name origin).toList ≠ [] ∧
    '\n' ∉ (line command.name origin).toList ∧ '\r' ∉ (line command.name origin).toList := by
  refine ⟨fun hnil ↦ ?_, fun hc ↦ ?_, fun hc ↦ ?_⟩
  · obtain ⟨first, hhead, _⟩ := head?_line command origin
    simp [hnil] at hhead
  · exact absurd (eq_space_of_mem_line command horigin hc (by decide)) (by decide)
  · exact absurd (eq_space_of_mem_line command horigin hc (by decide)) (by decide)

theorem getLast?_line {c : Char} (hlast : (line command.name origin).toList.getLast? = some c) :
    Text.isBlank c = false := by
  cases origin with
  | none => exact ((isName_name command).2 c (List.mem_of_getLast? hlast)).2
  | some id =>
    obtain ⟨hne, hchars⟩ := horigin id rfl
    rw [toList_line_some, List.getLast?_append_cons] at hlast
    cases hid : id.toList with
    | nil => exact absurd (String.toList_eq_nil_iff.1 hid) hne
    | cons first others =>
      rw [hid, List.getLast?_cons_cons, ← hid] at hlast
      exact (hchars c (List.mem_of_getLast? hlast)).1

theorem trim_line : Text.trim (line command.name origin).toList = (line command.name origin).toList := by
  refine Text.trim_eq_self (fun c hc ↦ ?_) fun c hlast ↦ getLast?_line command horigin hlast
  obtain ⟨first, hhead, hblank, _⟩ := head?_line command origin
  obtain rfl : first = c := Option.some.inj (hhead.symm.trans hc)
  exact hblank

theorem scanLine_line : scanLine (line command.name origin).toList =
    some (command.name.toList, origin.map String.toList) := by
  cases origin with
  | none =>
    have hend : ∀ c, ([] : List Char).head? = some c → isNameChar c = false := by simp
    have h := scanLine_append (isName_name command) hend
    rwa [List.append_nil] at h
  | some id =>
    obtain ⟨hne, hchars⟩ := horigin id rfl
    have hfit : ∀ c ∈ id.toList, isOriginChar c = true := fun c hc ↦ (isOriginChar_iff c).2 (hchars c hc)
    have hspace : ∀ c, (' ' :: id.toList).head? = some c → isNameChar c = false := by
      intro c hc
      obtain rfl : ' ' = c := Option.some.inj hc
      decide +kernel
    rw [toList_line_some, scanLine_append (isName_name command) hspace,
      scanOrigin_space (mt String.toList_eq_nil_iff.1 hne) hfit]
    rfl

/-- Reading a printed line gives its command and its origin. -/
theorem readLine_line (number : Nat) :
    readLine number (line command.name origin).toList = .ok (some ⟨command, number, origin⟩) := by
  have hstep : ((line command.name origin).toList.isEmpty ||
      decide ((line command.name origin).toList.head? = some '#')) = false := by
    obtain ⟨first, hhead, _, hcomment⟩ := head?_line command origin
    cases hline : (line command.name origin).toList with
    | nil => simp [hline] at hhead
    | cons c rest =>
      rw [hline] at hhead
      obtain rfl : c = first := Option.some.inj hhead
      simpa using hcomment
  have hid : (origin.map String.toList).map String.ofList = origin := by
    cases origin <;> simp
  unfold readLine
  simp only [trim_line command horigin, hstep, scanLine_line command horigin, Bool.false_eq_true, if_false,
    String.ofList_toList, Command.ofName_name, hid]
  rfl

end Line

/-! ## Printed scripts -/

theorem readLines_numbered (calls : List (Command × Option ElementId))
    (horigins : ∀ call ∈ calls, ∀ id, call.2 = some id → IsOrigin id) (first : Nat) :
    readLines ((calls.map fun call ↦ (line call.1.name call.2).toList).zipIdx first) =
      .ok (numbered first calls) := by
  induction calls generalizing first with
  | nil => rfl
  | cons call calls ih =>
    rw [List.forall_mem_cons] at horigins
    rw [List.map_cons, List.zipIdx_cons, readLines, readLine_line call.1 horigins.1, ih horigins.2]
    rfl

theorem ofText_print (calls : List (Command × Option ElementId))
    (horigins : ∀ call ∈ calls, ∀ id, call.2 = some id → IsOrigin id) :
    ofText (print calls) = .ok (numbered 1 calls) := by
  have hlines : Text.lines (print calls).toList =
      calls.map fun call ↦ (line call.1.name call.2).toList := by
    unfold print
    rw [String.toList_intercalate, List.map_map]
    refine Text.lines_intercalate fun text htext ↦ ?_
    obtain ⟨call, hcall, rfl⟩ := List.mem_map.1 htext
    exact line_isLine call.1 (horigins call hcall)
  unfold ofText
  rw [hlines, readLines_numbered calls horigins]

/-! ## Origins that are read -/

section Read

variable {text origin : List Char}

theorem scanOrigin_eq_some_some (h : scanOrigin text = some (some origin)) :
    isEnd text = false ∧ origin = (text.dropWhile Text.isBlank).takeWhile isOriginChar := by
  cases hend : isEnd text with
  | true => simp [scanOrigin, hend] at h
  | false =>
    simp only [scanOrigin, hend, Bool.false_eq_true, if_false, Option.ite_none_right_eq_some,
      Option.some.injEq] at h
    exact ⟨rfl, h.2.2.symm⟩

/-- Whatever is read behind a name is an origin that can be printed. -/
theorem isOrigin_of_scanOrigin (h : scanOrigin text = some (some origin)) :
    IsOrigin (String.ofList origin) := by
  obtain ⟨hgoes, rfl⟩ := scanOrigin_eq_some_some h
  refine ⟨?_, fun c hc ↦ ?_⟩
  · rw [Ne, String.ofList_eq_empty_iff]
    unfold isEnd at hgoes
    -- Past the blanks stands a character, and it starts no comment.
    cases hstart : text.dropWhile Text.isBlank with
    | nil => simp [hstart] at hgoes
    | cons c rest =>
      have hblank := List.head?_dropWhile_not Text.isBlank text
      rw [hstart] at hblank hgoes
      have hc : isOriginChar c = true :=
        (isOriginChar_iff c).2 ⟨by simpa using hblank, by simpa using hgoes⟩
      simp [hc]
  · rw [String.toList_ofList] at hc
    exact (isOriginChar_iff c).1 (List.mem_takeWhile_imp hc)

theorem isOrigin_of_scanLine {name : List Char} (h : scanLine text = some (name, some origin)) :
    IsOrigin (String.ofList origin) := by
  simp only [scanLine, Option.ite_none_right_eq_some, Option.map_eq_some_iff, Prod.mk.injEq] at h
  obtain ⟨_, found, hscan, _, rfl⟩ := h
  exact isOrigin_of_scanOrigin hscan

theorem isOrigin_of_readLine {number : Nat} {step : Step} (h : readLine number text = .ok (some step))
    {id : ElementId} (hid : step.origin = some id) : IsOrigin id := by
  unfold readLine at h
  simp only at h
  split at h
  · simp at h
  · split at h
    · simp at h
    · rename_i hscan
      obtain ⟨command, _, hstep⟩ := except_bind_eq_ok_iff.1 h
      simp only [Except.ok.injEq, Option.some.injEq] at hstep
      subst hstep
      obtain ⟨chars, rfl, rfl⟩ := Option.map_eq_some_iff.1 hid
      exact isOrigin_of_scanLine hscan

theorem isOrigin_of_readLines {lines : List (List Char × Nat)} {steps : List Step}
    (h : readLines lines = .ok steps) {step : Step} (hstep : step ∈ steps) {id : ElementId}
    (hid : step.origin = some id) : IsOrigin id := by
  induction lines generalizing steps with
  | nil =>
    obtain rfl : [] = steps := Except.ok.inj h
    simp at hstep
  | cons numbered lines ih =>
    obtain ⟨first, hfirst, h⟩ := except_bind_eq_ok_iff.1 h
    obtain ⟨others, hothers, h⟩ := except_bind_eq_ok_iff.1 h
    obtain rfl : first.toList ++ others = steps := Except.ok.inj h
    rcases List.mem_append.1 hstep with hmem | hmem
    · rw [Option.mem_toList.1 hmem] at hfirst
      exact isOrigin_of_readLine hfirst hid
    · exact ih hothers hmem

end Read

/-! ## Binding -/

/-- All steps bind if each does, and they bind to their operations in order. -/
theorem bind_eq_ok_iff {listing : Listing} {steps : List Step} {operations : List Operation} :
    bind listing steps = .ok operations ↔
      (∀ step ∈ steps, step.Binds listing) ∧ operations = steps.map Step.operation := by
  induction steps generalizing operations with
  | nil =>
    constructor
    · intro h
      exact ⟨by simp, (Except.ok.inj h).symm⟩
    · rintro ⟨_, rfl⟩
      rfl
  | cons step steps ih =>
    rw [List.forall_mem_cons, List.map_cons]
    constructor
    · intro h
      obtain ⟨operation, hfirst, h⟩ := except_bind_eq_ok_iff.1 h
      obtain ⟨others, hothers, h⟩ := except_bind_eq_ok_iff.1 h
      obtain rfl : operation :: others = operations := Except.ok.inj h
      obtain ⟨hbinds, rfl⟩ := Step.bind_eq_ok_iff.1 hfirst
      obtain ⟨hall, rfl⟩ := ih.1 hothers
      exact ⟨⟨hbinds, hall⟩, rfl⟩
    · rintro ⟨⟨hbinds, hall⟩, rfl⟩
      rw [bind, Step.bind_eq_ok_iff.2 ⟨hbinds, rfl⟩, ih.2 ⟨hall, rfl⟩]
      rfl

/-- A printed script is read back with its lines numbered from one. For a single line, what stands behind the
name comes back as the origin exactly if it is an origin that can be printed. A script that binds gives one
operation a step, in order, and keeps the origins of those commands that need one. -/
theorem ofText_print_exact :
    (∀ calls : List (Command × Option ElementId),
      (∀ call ∈ calls, ∀ id, call.2 = some id → IsOrigin id) →
      ofText (print calls) = .ok (numbered 1 calls)) ∧
    (∀ (command : Command) (origin : String),
      ofText (line command.name (some origin)) = .ok [⟨command, 1, some origin⟩] ↔ IsOrigin origin) ∧
    ∀ (listing : Listing) (steps : List Step) (operations : List Operation),
      bind listing steps = .ok operations ↔
        (∀ step ∈ steps, step.Binds listing) ∧ operations = steps.map Step.operation := by
  refine ⟨ofText_print, fun command origin ↦ ⟨fun h ↦ ?_, fun horigin ↦ ?_⟩, fun _ _ _ ↦ bind_eq_ok_iff⟩
  · exact isOrigin_of_readLines h List.mem_cons_self rfl
  · have h := ofText_print [(command, some origin)] (by simpa using horigin)
    rwa [print, List.map_singleton, String.intercalate_singleton] at h

/-- Two commands are read back, one of them with an origin that it does not need. A comment is not read back
as an origin, and binding to the sample drops the origin that is not needed. -/
theorem ofText_print_exact_sample :
    ofText (print [(.link, some "d"), (.unslice, some "ü-1")]) =
      .ok [⟨.link, 1, some "d"⟩, ⟨.unslice, 2, some "ü-1"⟩] ∧
    ofText (line (Command.name .link) (some "d#")) ≠ .ok [⟨.link, 1, some "d#"⟩] ∧
    bind Listing.sampleListing [⟨.link, 1, some "d"⟩, ⟨.unslice, 2, some "ü-1"⟩] =
      .ok [⟨.link, some "d"⟩, ⟨.unslice, none⟩] := by
  obtain ⟨hread, hexact, hbind⟩ := ofText_print_exact
  refine ⟨?_, ?_, ?_⟩
  · refine hread _ fun call hcall id hid ↦ ?_
    have hfit : IsOrigin "d" ∧ IsOrigin "ü-1" := by
      decide +kernel
    simp only [List.mem_cons, List.not_mem_nil, or_false] at hcall
    rcases hcall with rfl | rfl
    · rw [← Option.some.inj hid]
      exact hfit.1
    · rw [← Option.some.inj hid]
      exact hfit.2
  · rw [Ne, hexact]
    decide +kernel
  · refine (hbind _ _ _).2 ⟨?_, rfl⟩
    unfold Step.Binds
    decide +kernel

end Script

end DefUse
