import DefUse.Operation
import DefUse.Proofs.Rebuilding
import DefUse.Proofs.TextWords

/-!
# Names and tokens

Commands and tags are closed lists, and texts are looked up among their names and tokens. The main statements say
that a class text has exactly the tags whose tokens are among its words, that a command is found by its name alone,
and that any other text is answered with the one name that has the same letters and digits, if there is one.
-/

namespace DefUse

/-! ## Tokens of tags -/

theorem Role.code_of_ofCode? {code : String} {role : Role} (h : Role.ofCode? code = some role) :
    role.code = code := by
  unfold Role.ofCode? at h
  split at h
  · obtain rfl := Option.some.inj h
    rfl
  · obtain rfl := Option.some.inj h
    rfl
  · contradiction

namespace Tag

theorem mem_ordered (tag : Tag) : tag ∈ ordered := by
  cases tag with
  | fact kind role => cases kind <;> cases role <;> decide
  | linked role => cases role <;> decide
  | navigable kind role => cases kind <;> cases role <;> decide

theorem mem_all (tag : Tag) : tag ∈ all := by
  have hall : ∀ tag ∈ ordered, tag ∈ all := by decide
  exact hall tag (mem_ordered tag)

theorem ofToken?_token (tag : Tag) : ofToken? tag.token = some tag := by
  have hall : ∀ tag ∈ ordered, ofToken? tag.token = some tag := by decide +kernel
  exact hall tag (mem_ordered tag)

theorem token_injective : Function.Injective token := by
  intro tag other h
  have hread : some tag = some other := by rw [← ofToken?_token tag, h, ofToken?_token other]
  exact Option.some.inj hread

theorem token_of_ofHead? {head : String} {role : Role} {tag : Tag} (h : ofHead? head role = some tag) :
    tag.token = head ++ "-" ++ role.code := by
  unfold ofHead? at h
  split at h
  case h_7 => contradiction
  all_goals
    obtain rfl := Option.some.inj h
    rfl

/-- A tag keeps both parts around the first hyphen, so that its token joins them again. -/
theorem token_of_ofToken? {token : String} {tag : Tag} (h : ofToken? token = some tag) : tag.token = token := by
  unfold ofToken? at h
  split at h
  · obtain rfl := Option.some.inj h
    rfl
  · obtain rfl := Option.some.inj h
    rfl
  · split at h
    · contradiction
    · rename_i head tail hsplit
      have htoken : token = String.ofList head ++ "-" ++ String.ofList tail := by
        rw [← String.ofList_toList (s := token), (Text.splitFirst_eq_some hsplit).2, String.append_assoc]
        simp
      obtain ⟨role, hrole, hhead⟩ := Option.bind_eq_some_iff.1 h
      rw [token_of_ofHead? hhead, Role.code_of_ofCode? hrole, htoken]

theorem ofToken?_eq_some_iff {token : String} {tag : Tag} : ofToken? token = some tag ↔ token = tag.token := by
  refine ⟨fun h ↦ (token_of_ofToken? h).symm, ?_⟩
  rintro rfl
  exact ofToken?_token tag

theorem mem_ofClass_iff {classes : String} {tag : Tag} :
    tag ∈ ofClass classes ↔ Text.IsSegment Text.isBlank tag.token.toList classes.toList := by
  rw [← Text.mem_segments_iff]
  unfold ofClass
  rw [List.mem_filter, and_iff_right (mem_ordered tag), List.contains_iff_mem, List.mem_filterMap]
  constructor
  · rintro ⟨word, hword, htoken⟩
    rwa [← ofToken?_eq_some_iff.1 htoken, String.toList_ofList]
  · intro h
    exact ⟨_, h, by rw [String.ofList_toList, ofToken?_token]⟩

/-- A class text has the tags whose tokens are among the words that its blanks leave, and nothing else of the text
matters: two class texts have the same tags exactly if the same tokens are among their words. A text by itself spells
a tag exactly if it is the token of the tag. -/
theorem ofClass_exact :
    (∀ (classes : String) (tag : Tag),
      tag ∈ ofClass classes ↔ Text.IsSegment Text.isBlank tag.token.toList classes.toList) ∧
    (∀ classes others : String, ofClass classes = ofClass others ↔
      ∀ tag : Tag, Text.IsSegment Text.isBlank tag.token.toList classes.toList ↔
        Text.IsSegment Text.isBlank tag.token.toList others.toList) ∧
    ∀ (token : String) (tag : Tag), ofToken? token = some tag ↔ token = tag.token := by
  refine ⟨fun _ _ ↦ mem_ofClass_iff, fun classes others ↦ ?_, fun _ _ ↦ ofToken?_eq_some_iff⟩
  rw [ofClass_eq_iff]
  simp only [mem_ofClass_iff]

example : ofClass "insert ENV-DEF\u3000USE-tag ENV-DEF" = ofClass "\tUSE-tag  ENV-DEF ENV-DEF-USE" := by
  decide +kernel

end Tag

/-! ## Names of commands -/

/-- Texts that differ at most in the case of letters and in characters that are neither letters nor digits. -/
inductive Text.Respells : List Char → List Char → Prop where
  | nil : Respells [] []
  | cons {c d : Char} {text other : List Char} (hc : c.isAlphanum = true) (hd : d.isAlphanum = true)
      (hcase : c.toLower = d.toLower) (h : Respells text other) : Respells (c :: text) (d :: other)
  | left {c : Char} {text other : List Char} (hc : c.isAlphanum = false) (h : Respells text other) :
      Respells (c :: text) other
  | right {d : Char} {text other : List Char} (hd : d.isAlphanum = false) (h : Respells text other) :
      Respells text (d :: other)

namespace Command

open Text (Respells)

theorem mem_all (command : Command) : command ∈ all := by
  cases command with
  | erase => decide
  | goTo kind => cases kind <;> decide
  | highlight mode kind => cases mode <;> cases kind <;> decide
  | link => decide
  | unslice => decide

/-- No two names differ only in case and hyphens. -/
theorem eq_of_skeleton_name_eq {command other : Command} (h : skeleton command.name = skeleton other.name) :
    command = other := by
  have hall : ∀ command ∈ all, ∀ other ∈ all, skeleton command.name = skeleton other.name → command = other := by
    decide +kernel
  exact hall command (mem_all command) other (mem_all other) h

theorem name_injective : Function.Injective name := fun _ _ h ↦ eq_of_skeleton_name_eq (congrArg skeleton h)

theorem ofName?_eq_some_iff {name : String} {command : Command} :
    ofName? name = some command ↔ name = command.name := by
  unfold ofName?
  rw [find?_eq_some_iff_key fun _ _ _ _ h ↦ name_injective h, eq_comm (b := command.name)]
  exact and_iff_right (mem_all command)

theorem ofName?_eq_none_iff {name : String} : ofName? name = none ↔ ∀ command : Command, name ≠ command.name := by
  rw [Option.eq_none_iff_forall_ne_some]
  simp only [ne_eq, ofName?_eq_some_iff]

theorem ofName_eq_ok_iff {name : String} {command : Command} :
    ofName name = .ok command ↔ name = command.name := by
  rw [← ofName?_eq_some_iff]
  unfold ofName
  cases ofName? name <;> simp

theorem ofName_name (command : Command) : ofName command.name = .ok command := ofName_eq_ok_iff.2 rfl

theorem ofName_eq_error_iff {name : String} {problem : Problem} :
    ofName name = .error problem ↔
      (∀ command : Command, name ≠ command.name) ∧ problem = .unknownCommand name (suggestion name) := by
  rw [← ofName?_eq_none_iff]
  unfold ofName
  cases ofName? name <;> simp [eq_comm]

/-! ## Suggestions -/

theorem skeleton_ofList_cons (c : Char) (text : List Char) :
    skeleton (String.ofList (c :: text)) =
      if c.isAlphanum then c.toLower :: skeleton (String.ofList text) else skeleton (String.ofList text) := by
  unfold skeleton
  rw [String.toList_ofList, String.toList_ofList, List.filter_cons]
  split <;> rfl

theorem respells_nil_of_skeleton_eq {other : List Char} (h : skeleton (String.ofList other) = []) :
    Respells [] other := by
  induction other with
  | nil => exact .nil
  | cons d other ih =>
    rw [skeleton_ofList_cons] at h
    split at h
    · contradiction
    · rename_i hd
      exact .right (by simpa using hd) (ih h)

/-- Up to its first letter or digit a text can be passed over. -/
theorem respells_cons_of_skeleton_eq {c : Char} {text other : List Char} (hc : c.isAlphanum = true)
    (h : skeleton (String.ofList other) = c.toLower :: skeleton (String.ofList text))
    (hrest : ∀ rest, skeleton (String.ofList text) = skeleton (String.ofList rest) → Respells text rest) :
    Respells (c :: text) other := by
  induction other with
  | nil => exact absurd h.symm (List.cons_ne_nil _ _)
  | cons d other ih =>
    rw [skeleton_ofList_cons] at h
    split at h
    · rename_i hd
      obtain ⟨hcase, hskeleton⟩ := List.cons.inj h
      exact .cons hc hd hcase.symm (hrest other hskeleton.symm)
    · rename_i hd
      exact .right (by simpa using hd) (ih h)

/-- What is left of two texts is the same exactly if the texts respell each other. -/
theorem skeleton_eq_iff_respells {text other : List Char} :
    skeleton (String.ofList text) = skeleton (String.ofList other) ↔ Respells text other := by
  constructor
  · intro h
    induction text generalizing other with
    | nil => exact respells_nil_of_skeleton_eq h.symm
    | cons c text ih =>
      rw [skeleton_ofList_cons] at h
      split at h
      · rename_i hc
        exact respells_cons_of_skeleton_eq hc h.symm fun _ ↦ ih
      · rename_i hc
        exact .left (by simpa using hc) (ih h)
  · intro h
    induction h with
    | nil => rfl
    | cons hc hd hcase _ ih =>
      rw [skeleton_ofList_cons, skeleton_ofList_cons, if_pos hc, if_pos hd, hcase, ih]
    | left hc _ ih => rw [skeleton_ofList_cons, if_neg (by simp [hc]), ih]
    | right hd _ ih => rw [skeleton_ofList_cons, if_neg (by simp [hd]), ih]

theorem suggestion_eq_some_iff {name known : String} :
    suggestion name = some known ↔
      ∃ command : Command, skeleton command.name = skeleton name ∧ command.name = known := by
  unfold suggestion
  rw [List.find?_map, Option.map_eq_some_iff]
  refine exists_congr fun command ↦ and_congr_left fun _ ↦ ?_
  have hfound : all.find? (fun known ↦ skeleton known.name == skeleton name) = some command ↔
      command ∈ all ∧ skeleton command.name = skeleton name :=
    find?_eq_some_iff_key fun _ _ _ _ h ↦ eq_of_skeleton_name_eq h
  exact hfound.trans (and_iff_right (mem_all command))

theorem suggestion_eq_none_iff {name : String} :
    suggestion name = none ↔ ¬∃ command : Command, skeleton command.name = skeleton name := by
  rw [Option.eq_none_iff_forall_ne_some]
  constructor
  · rintro h ⟨command, hskeleton⟩
    exact h command.name (suggestion_eq_some_iff.2 ⟨command, hskeleton, rfl⟩)
  · intro h known hknown
    obtain ⟨command, hskeleton, -⟩ := suggestion_eq_some_iff.1 hknown
    exact h ⟨command, hskeleton⟩

/-- A text finds a command exactly if it is the name of the command. Any other text is a problem that tells the text
and suggests the name of the one command whose name has the same letters and digits in the same order, in whatever
case, or nothing if no name does. So a suggestion is found when it is taken, and texts that respell each other are
answered with the same one. -/
theorem ofName_exact :
    (∀ name other : String, skeleton name = skeleton other ↔ Respells name.toList other.toList) ∧
    (∀ (name : String) (command : Command), ofName name = .ok command ↔ name = command.name) ∧
    (∀ name : String, (∀ command : Command, name ≠ command.name) → ∃ suggested : Option String,
      ofName name = .error (.unknownCommand name suggested) ∧
      (∀ known, suggested = some known ↔ ∃ command : Command,
        (skeleton command.name = skeleton name ∧
          ∀ other : Command, skeleton other.name = skeleton name → other = command) ∧ command.name = known) ∧
      (suggested = none ↔ ¬∃ command : Command, skeleton command.name = skeleton name) ∧
      ∀ known, suggested = some known → ∃ command, ofName known = .ok command) ∧
    ∀ name other : String, (∀ command : Command, name ≠ command.name) →
      (∀ command : Command, other ≠ command.name) → Respells name.toList other.toList →
      ∃ suggested : Option String, ofName name = .error (.unknownCommand name suggested) ∧
        ofName other = .error (.unknownCommand other suggested) := by
  have hskeleton (name other : String) :
      skeleton name = skeleton other ↔ Respells name.toList other.toList := by
    rw [← skeleton_eq_iff_respells, String.ofList_toList, String.ofList_toList]
  refine ⟨hskeleton, fun _ _ ↦ ofName_eq_ok_iff, fun name hname ↦ ?_, fun name other hname hother h ↦ ?_⟩
  · refine ⟨suggestion name, ofName_eq_error_iff.2 ⟨hname, rfl⟩, fun known ↦ ?_, suggestion_eq_none_iff,
      fun known hknown ↦ ?_⟩
    · rw [suggestion_eq_some_iff]
      refine exists_congr fun command ↦ and_congr_left fun _ ↦ ?_
      exact (and_iff_left_of_imp fun hcommand other hother ↦
        eq_of_skeleton_name_eq (hother.trans hcommand.symm)).symm
    · obtain ⟨command, -, rfl⟩ := suggestion_eq_some_iff.1 hknown
      exact ⟨command, ofName_name command⟩
  · have hsame : suggestion name = suggestion other := by
      unfold suggestion
      rw [(hskeleton name other).2 h]
    refine ⟨suggestion name, ofName_eq_error_iff.2 ⟨hname, rfl⟩, ofName_eq_error_iff.2 ⟨hother, ?_⟩⟩
    rw [hsame]

/-- Two spellings of a name that find nothing, one of them with a letter that is not plain. -/
theorem ofName_exact_misspelled :
    (∀ command : Command, "SEL_VAR" ≠ command.name) ∧ (∀ command : Command, "selé-Var" ≠ command.name) ∧
      Respells "SEL_VAR".toList "selé-Var".toList ∧
      ofName "SEL_VAR" = .error (.unknownCommand "SEL_VAR" (some "sel-var")) ∧
      ofName "selé-Var" = .error (.unknownCommand "selé-Var" (some "sel-var")) := by
  have hfirst : ∀ command : Command, "SEL_VAR" ≠ command.name := ofName?_eq_none_iff.1 (by decide +kernel)
  have hsecond : ∀ command : Command, "selé-Var" ≠ command.name := ofName?_eq_none_iff.1 (by decide +kernel)
  obtain ⟨hskeleton, -, hunknown, hsame⟩ := ofName_exact
  have hrespells : Respells "SEL_VAR".toList "selé-Var".toList :=
    (hskeleton "SEL_VAR" "selé-Var").1 (by decide +kernel)
  obtain ⟨suggested, herror, hsuggested, -⟩ := hunknown "SEL_VAR" hfirst
  have hname : skeleton (name (.highlight .selected .binding)) = skeleton "SEL_VAR" := by decide +kernel
  obtain rfl := (hsuggested "sel-var").2
    ⟨.highlight .selected .binding, ⟨hname, fun _ h ↦ eq_of_skeleton_name_eq (h.trans hname.symm)⟩, rfl⟩
  obtain ⟨other, hother, hboth⟩ := hsame "SEL_VAR" "selé-Var" hfirst hsecond hrespells
  obtain ⟨-, rfl⟩ := Problem.unknownCommand.inj (Except.error.inj (herror.symm.trans hother))
  exact ⟨hfirst, hsecond, hrespells, herror, hboth⟩

end Command

end DefUse
