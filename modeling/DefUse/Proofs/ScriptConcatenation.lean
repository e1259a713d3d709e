import DefUse.Proofs.Scrolling
import DefUse.Proofs.ScriptPrinting
import DefUse.Proofs.TextWords

/-!
# Scripts one after another

A script can be read piece by piece between its line feeds: neither a carriage return at the end of a piece nor
an empty last piece makes a difference to its steps. So the pieces of two scripts that are joined by a line
feed are those of the first and then those of the second, which stand further down. The main statement is that
the joined script reads as the first and then as the second, with the lines of the second counted on, and that
a replay of it goes on with the second from where the first has ended.
-/

namespace DefUse

/-! ## Pieces of a joined text -/

namespace Text

theorem length_pieces (separator : Char) (text : List Char) :
    (pieces (· == separator) text).length = text.count separator + 1 := by
  induction text with
  | nil => rfl
  | cons c rest ih =>
    rw [pieces, List.count_cons]
    split
    · rw [List.length_cons, ih]
    · cases hrest : pieces (· == separator) rest with
      | nil => exact absurd hrest (pieces_ne_nil _ rest)
      | cons first others =>
        rw [← ih, hrest]
        rfl

theorem trim_concat_blank {c : Char} (hc : isBlank c = true) (text : List Char) :
    trim (text ++ [c]) = trim text := by
  unfold trim
  rw [List.dropWhile_append]
  split
  · rename_i hblank
    rw [List.isEmpty_iff.1 hblank, List.dropWhile_cons_of_pos hc]
    rfl
  · rw [List.reverse_append, List.reverse_singleton, List.singleton_append, List.dropWhile_cons_of_pos hc]

theorem trim_dropReturn (line : List Char) : trim (dropReturn line) = trim line := by
  unfold dropReturn
  split
  · rename_i hlast
    obtain ⟨start, rfl⟩ := List.getLast?_eq_some_iff.1 hlast
    rw [List.dropLast_concat, trim_concat_blank (by decide)]
  · rfl

end Text

/-- The step as many lines further down. -/
def Step.moveDown (count : Nat) (step : Step) : Step := { step with line := step.line + count }

/-- The problem as many lines further down, if it has a line. -/
def Problem.moveDown (count : Nat) : Problem → Problem
  | .scriptLine line content => .scriptLine (line + count) content
  | problem => problem

namespace Script

/-! ## Reading piece by piece -/

theorem readLine_dropReturn (number : Nat) (line : List Char) :
    readLine number (Text.dropReturn line) = readLine number line := by
  unfold readLine
  rw [Text.trim_dropReturn]

theorem readLines_endedLines (pieces : List (List Char)) (first : Nat) :
    readLines ((Text.endedLines pieces).zipIdx first) = readLines (pieces.zipIdx first) := by
  induction pieces using Text.endedLines.induct generalizing first with
  | case1 => rfl
  | case2 last hlast =>
    obtain rfl := List.isEmpty_iff.1 hlast
    rfl
  | case3 last hlast => rw [Text.endedLines, if_neg hlast]
  | case4 line next rest ih =>
    rw [Text.endedLines, List.zipIdx_cons, List.zipIdx_cons, readLines, readLines, readLine_dropReturn, ih]

theorem ofText_eq_readLines_pieces (source : String) :
    ofText source = readLines ((Text.pieces (· == '\n') source.toList).zipIdx 1) :=
  readLines_endedLines _ 1

theorem readLines_append (first second : List (List Char × Nat)) :
    readLines (first ++ second) =
      readLines first >>= fun steps ↦ readLines second >>= fun others ↦ .ok (steps ++ others) := by
  induction first with
  | nil =>
    rw [List.nil_append]
    cases hsecond : readLines second <;> rfl
  | cons line first ih =>
    rw [List.cons_append, readLines, ih, readLines]
    cases readLine line.2 line.1 with
    | error problem => rfl
    | ok step =>
      cases readLines first with
      | error problem => rfl
      | ok steps =>
        cases readLines second with
        | error problem => rfl
        | ok others => exact congrArg Except.ok (List.append_assoc ..).symm

/-! ## Reading further down -/

/-- What is read, as many lines further down. -/
def moveDown (count : Nat) : Except Problem (List Step) → Except Problem (List Step)
  | .ok steps => .ok (steps.map (Step.moveDown count))
  | .error problem => .error (problem.moveDown count)

theorem readLine_add (number count : Nat) (line : List Char) :
    readLine (number + count) line =
      match readLine number line with
      | .ok step => .ok (step.map (Step.moveDown count))
      | .error problem => .error (problem.moveDown count) := by
  unfold readLine
  simp only
  split
  · rfl
  · cases scanLine (Text.trim line) with
    | none => rfl
    | some call =>
      rcases call with ⟨name, origin⟩
      simp only [Command.ofName]
      cases Command.ofName? (String.ofList name) <;> rfl

theorem readLines_zipIdx_add (lines : List (List Char)) (first count : Nat) :
    readLines (lines.zipIdx (first + count)) = moveDown count (readLines (lines.zipIdx first)) := by
  induction lines generalizing first with
  | nil => rfl
  | cons line lines ih =>
    have hnext : readLines (lines.zipIdx (first + count + 1)) =
        moveDown count (readLines (lines.zipIdx (first + 1))) := by
      rw [Nat.add_right_comm, ih]
    rw [List.zipIdx_cons, List.zipIdx_cons, readLines, readLines, readLine_add, hnext]
    cases readLine first line with
    | error problem => rfl
    | ok step =>
      cases readLines (lines.zipIdx (first + 1)) with
      | error problem => rfl
      | ok steps =>
        refine congrArg Except.ok ?_
        cases step <;> simp

/-- The joined script reads as the first script, and if that has no problem also as the second, further down. -/
theorem ofText_append_lineFeed (first second : String) :
    ofText (first ++ "\n" ++ second) =
      ofText first >>= fun steps ↦
        moveDown (first.toList.count '\n' + 1) (ofText second) >>= fun others ↦ .ok (steps ++ others) := by
  have htext : (first ++ "\n" ++ second).toList = first.toList ++ '\n' :: second.toList := by
    simp
  have hpieces : Text.pieces (· == '\n') (first.toList ++ '\n' :: second.toList) =
      Text.pieces (· == '\n') first.toList ++ Text.pieces (· == '\n') second.toList :=
    Text.pieces_append_separator rfl first.toList second.toList
  simp only [ofText_eq_readLines_pieces, htext, hpieces, List.zipIdx_append, readLines_append,
    Text.length_pieces, readLines_zipIdx_add]

/-! ## Replaying what is joined -/

theorem bind_append_moveDown_iff {listing : Listing} {steps others : List Step} {count : Nat}
    {operations : List Operation} :
    bind listing (steps ++ others.map (Step.moveDown count)) = .ok operations ↔
      ∃ before after, bind listing steps = .ok before ∧ bind listing others = .ok after ∧
        operations = before ++ after := by
  have hmoved : (others.map (Step.moveDown count)).map Step.operation = others.map Step.operation := by
    rw [List.map_map]
    rfl
  simp only [bind_eq_ok_iff, List.forall_mem_append, List.forall_mem_map, List.map_append, hmoved]
  constructor
  · rintro ⟨⟨hsteps, hothers⟩, rfl⟩
    exact ⟨_, _, ⟨hsteps, rfl⟩, ⟨hothers, rfl⟩, rfl⟩
  · rintro ⟨before, after, ⟨hsteps, rfl⟩, ⟨hothers, rfl⟩, rfl⟩
    exact ⟨⟨hsteps, hothers⟩, rfl⟩

end Script

theorem Operation.trace_append (listing : Listing) (duration : UInt64) (view : View)
    (before after : List Operation) :
    trace listing duration view (before ++ after) =
      trace listing duration view before ++ trace listing duration
        (before.foldl (fun view operation ↦ (operation.apply listing duration view).view) view) after := by
  induction before generalizing view with
  | nil => rfl
  | cons operation before ih =>
    rw [List.cons_append, trace, ih]
    rfl

theorem Operation.trace_initial_append (listing : Listing) (duration : UInt64)
    (before after : List Operation) :
    trace listing duration .initial (before ++ after) =
      trace listing duration .initial before ++
        trace listing duration (replay listing duration before).view after := by
  rw [trace_append, view_replay]

namespace Script

/-- If the first of two scripts has a problem, the joined script has it too; if only the second has one, the
joined script has that, with its line counted on. Otherwise the joined script has the steps of both, those of
the second with their lines counted on. Wherever these bind, both scripts bind, and the replay takes the steps
of the second from the view that the first has ended in. Each step of the replay ends where the operations up to
it end. -/
theorem joined_script_reads_in_turn (first second : String) :
    (∀ problem, ofText first = .error problem → ofText (first ++ "\n" ++ second) = .error problem) ∧
    (∀ steps problem, ofText first = .ok steps → ofText second = .error problem →
      ofText (first ++ "\n" ++ second) = .error (problem.moveDown (first.toList.count '\n' + 1))) ∧
    ∀ steps others, ofText first = .ok steps → ofText second = .ok others →
      ofText (first ++ "\n" ++ second) =
        .ok (steps ++ others.map (Step.moveDown (first.toList.count '\n' + 1))) ∧
      ∀ listing operations,
        bind listing (steps ++ others.map (Step.moveDown (first.toList.count '\n' + 1))) = .ok operations →
        ∃ before after, bind listing steps = .ok before ∧ bind listing others = .ok after ∧
          operations = before ++ after ∧ ∀ duration,
            Operation.trace listing duration .initial operations =
              Operation.trace listing duration .initial before ++
                Operation.trace listing duration (Operation.replay listing duration before).view after ∧
            ∀ place, (Operation.trace listing duration .initial operations)[place]? =
              operations[place]?.map fun operation ↦
                (operation, Operation.replay listing duration (operations.take (place + 1))) := by
  have hjoined := ofText_append_lineFeed first second
  refine ⟨fun problem hfirst ↦ ?_, fun steps problem hfirst hsecond ↦ ?_, fun steps others hfirst hsecond ↦ ?_⟩
  · rw [hfirst] at hjoined
    exact hjoined
  · rw [hfirst, hsecond] at hjoined
    exact hjoined
  · rw [hfirst, hsecond] at hjoined
    refine ⟨hjoined, fun listing operations hbind ↦ ?_⟩
    obtain ⟨before, after, hbefore, hafter, rfl⟩ := bind_append_moveDown_iff.1 hbind
    exact ⟨before, after, hbefore, hafter, rfl, fun duration ↦
      ⟨Operation.trace_initial_append listing duration before after,
        Operation.getElem?_trace_replay listing duration (before ++ after)⟩⟩

/-- The first script ends in a carriage return that no line feed follows, and the second starts with an empty
line. What is wrong in a third is found in front of the second and behind the first. The second script marks
the use as well, and leaves the row hidden that the first has hidden. -/
theorem joined_script_reads_in_turn_sample :
    let first := "# slice\nsli-var g\r"
    let second := "\nlink u"
    let broken := "\nlink d u # twice"
    let shown (steps : List (Operation × Transition)) :=
      steps.map fun step ↦ (step.1, step.2.view.marked, step.2.view.hiddenRows, step.2.scroll)
    let sliced : Operation := ⟨.highlight .slice .binding, some "g"⟩
    let linked : Operation := ⟨.link, some "u"⟩
    ofText (broken ++ "\n" ++ second) = .error (.scriptLine 2 "link d u # twice") ∧
    ofText (first ++ "\n" ++ broken) = .error (.scriptLine 4 "link d u # twice") ∧
    ofText (first ++ "\n" ++ second) =
      .ok [⟨.highlight .slice .binding, 2, some "g"⟩, ⟨.link, 4, some "u"⟩] ∧
    bind Listing.sampleListing [⟨.highlight .slice .binding, 2, some "g"⟩] = .ok [sliced] ∧
    bind Listing.sampleListing [⟨.link, 2, some "u"⟩] = .ok [linked] ∧
    shown (Operation.trace Listing.sampleListing 200 .initial [sliced]) =
      [(sliced, [("d", .definition), ("u", .use)], [2], none)] ∧
    shown (Operation.trace Listing.sampleListing 200
        (Operation.replay Listing.sampleListing 200 [sliced]).view [linked]) =
      [(linked, [("d", .definition), ("u", .definition)], [2], none)] ∧
    shown (Operation.trace Listing.sampleListing 200 .initial [sliced, linked]) =
      [(sliced, [("d", .definition), ("u", .use)], [2], none),
        (linked, [("d", .definition), ("u", .definition)], [2], none)] := by
  intro first second broken shown sliced linked
  have hfirst : ofText first = .ok [⟨.highlight .slice .binding, 2, some "g"⟩] := by decide +kernel
  have hsecond : ofText second = .ok [⟨.link, 2, some "u"⟩] := by decide +kernel
  have hbroken : ofText broken = .error (.scriptLine 2 "link d u # twice") := by decide +kernel
  have hbind : bind Listing.sampleListing
      [⟨.highlight .slice .binding, 2, some "g"⟩, ⟨.link, 4, some "u"⟩] = .ok [sliced, linked] := by
    decide +kernel
  have hslice : bind Listing.sampleListing [⟨.highlight .slice .binding, 2, some "g"⟩] = .ok [sliced] := by
    decide +kernel
  have hcount : first.toList.count '\n' + 1 = 2 := by decide +kernel
  have hbehind := (joined_script_reads_in_turn first broken).2.1 _ _ hfirst hbroken
  obtain ⟨hjoined, hreplay⟩ := (joined_script_reads_in_turn first second).2.2 _ _ hfirst hsecond
  rw [hcount] at hbehind hjoined hreplay
  obtain ⟨before, after, hbefore, hafter, hboth, htrace⟩ := hreplay Listing.sampleListing _ hbind
  obtain rfl := Except.ok.inj (hslice.symm.trans hbefore)
  obtain rfl : [linked] = after := (List.cons.inj hboth).2
  have hsliced : shown (Operation.trace Listing.sampleListing 200 .initial [sliced]) =
      [(sliced, [("d", .definition), ("u", .use)], [2], none)] := by
    decide +kernel
  have hlinked : shown (Operation.trace Listing.sampleListing 200
      (Operation.replay Listing.sampleListing 200 [sliced]).view [linked]) =
        [(linked, [("d", .definition), ("u", .definition)], [2], none)] := by
    decide +kernel
  refine ⟨(joined_script_reads_in_turn broken second).1 _ hbroken, hbehind, hjoined, hslice, hafter, hsliced,
    hlinked, ?_⟩
  calc shown (Operation.trace Listing.sampleListing 200 .initial [sliced, linked])
      = shown (Operation.trace Listing.sampleListing 200 .initial [sliced]) ++
          shown (Operation.trace Listing.sampleListing 200
            (Operation.replay Listing.sampleListing 200 [sliced]).view [linked]) := by
        rw [(htrace 200).1]
        exact List.map_append
    _ = _ := by
        rw [hsliced, hlinked]
        rfl

end Script

end DefUse
