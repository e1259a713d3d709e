import DefUse.Proofs.AdviceText
import DefUse.Proofs.OneLineScript

/-!
# Failing stages

A request goes through stages: the settings, the listing, the name of the command or the script, and the
binding to the listing. Each stage can be looked at by itself, and several may fail. The main statement is
that a request which is understood either succeeds, and then no stage fails, or prints nothing and writes the
advice on the problem of the first stage that fails, behind the warnings on its listing if there are some.
Within a script that is the problem of the first line or step that has one. The advice tells the problem: it is
headed by its title, and starts with what has happened.
-/

namespace DefUse

/-! ## First problems -/

/-- A failure comes from the first part of a bind, or from the second after a success of the first. -/
theorem except_bind_eq_error_iff {ε α β : Type} {first : Except ε α} {next : α → Except ε β} {problem : ε} :
    (first >>= next) = .error problem ↔
      first = .error problem ∨ ∃ value, first = .ok value ∧ next value = .error problem := by
  cases first with
  | error other => simp [bind, Except.bind]
  | ok value => simp [bind, Except.bind]

/-- A run that checks items in order fails with the problem of the first item that has one. -/
theorem run_eq_error_iff {ε α β γ : Type} (run : List α → Except ε β) (check : α → Except ε γ)
    {combine : γ → β → β} {done : β} (hnil : run [] = .ok done)
    (hcons : ∀ item rest, run (item :: rest) =
      check item >>= fun value ↦ run rest >>= fun results ↦ .ok (combine value results))
    {items : List α} {problem : ε} :
    run items = .error problem ↔
      ∃ before item after, items = before ++ item :: after ∧
        (∀ earlier ∈ before, ∃ value, check earlier = .ok value) ∧ check item = .error problem := by
  induction items with
  | nil => simp [hnil]
  | cons first rest ih =>
    rw [hcons, except_bind_eq_error_iff]
    constructor
    · rintro (h | ⟨value, hvalue, h⟩)
      · exact ⟨[], first, rest, rfl, by simp, h⟩
      · rcases except_bind_eq_error_iff.1 h with h | ⟨_, _, h⟩
        · obtain ⟨before, item, after, rfl, hbefore, hitem⟩ := ih.1 h
          exact ⟨first :: before, item, after, rfl, List.forall_mem_cons.2 ⟨⟨value, hvalue⟩, hbefore⟩, hitem⟩
        · contradiction
    · rintro ⟨before, item, after, hsplit, hbefore, hitem⟩
      cases before with
      | nil =>
        obtain ⟨rfl, rfl⟩ := List.cons.inj hsplit
        exact .inl hitem
      | cons earlier before =>
        obtain ⟨rfl, rfl⟩ := List.cons.inj hsplit
        rw [List.forall_mem_cons] at hbefore
        obtain ⟨⟨value, hvalue⟩, hbefore⟩ := hbefore
        have hrest := ih.2 ⟨before, item, after, rfl, hbefore, hitem⟩
        exact .inr ⟨value, hvalue, except_bind_eq_error_iff.2 (.inl hrest)⟩

/-- The problem of a command that needs an origin: there is none, or the listing has no such element. -/
inductive Command.Unbound (listing : Listing) (command : Command) : Option ElementId → Problem → Prop where
  | missing (hneeds : command.needsOrigin = true) :
      Unbound listing command none (.missingOrigin command.name)
  | unknown {id : ElementId} (hneeds : command.needsOrigin = true)
      (hid : id ∉ listing.elements.map Element.id) :
      Unbound listing command (some id) (.unknownElement id)

namespace Script

end Script

namespace Shell

/-! ## Stages -/

/-- What a request may fail in. -/
inductive Stage where
  | settings
  | listing
  | name
  | script
  | binding
deriving DecidableEq

/-- The stages that a request goes through, in order. -/
def Request.stages : Request → List Stage
  | .apply _ _ _ _ => [.settings, .listing, .name, .binding]
  | .replay _ _ _ _ => [.settings, .listing, .script, .binding]
  | .stats _ _ => [.settings, .listing]
  | .commands => []
  | .info _ => []

/-- A stage of a request fails with a problem, whatever comes of the stages before it. Only the binding needs
what they give: the listing, and the command or the steps. -/
inductive Fails (directory : Directory) : Request → Stage → Problem → Prop where
  | settings {request : Request} {path : String} {problem : Problem}
      (hpath : request.listingPath = some path) (h : directory.settings = .error problem) :
      Fails directory request .settings problem
  | listing {request : Request} {path : String} {problem : Problem}
      (hpath : request.listingPath = some path) (h : directory.listing path = .error problem) :
      Fails directory request .listing problem
  | name {path name : String} {element : Option ElementId} {format : Option Format}
      (h : ∀ command : Command, name ≠ command.name) :
      Fails directory (.apply path name element format) .name
        (.unknownCommand name (Command.suggestion name))
  | origin {path : String} {command : Command} {element : Option ElementId} {format : Option Format}
      {known : Listing} {problem : Problem} (hlisting : directory.listing path = .ok known)
      (h : command.Unbound known element problem) :
      Fails directory (.apply path command.name element format) .binding problem
  | unread {path script : String} {format : Option Format} {trace : Bool} {fault : ReadFault}
      (h : directory.readText script = .error fault) :
      Fails directory (.replay path script format trace) .script
        (if fault = .notFound then .scriptNotFound script else .io fault.reason)
  | line {path script : String} {format : Option Format} {trace : Bool} {source : String}
      {before after : List (List Char × Nat)} {line : List Char} {number : Nat} {problem : Problem}
      (hread : directory.readText script = .ok source)
      (hlines : (Text.lines source.toList).zipIdx 1 = before ++ (line, number) :: after)
      (hbefore : ∀ earlier ∈ before, ∃ step, Script.readLine earlier.2 earlier.1 = .ok step)
      (h : Script.readLine number line = .error problem) :
      Fails directory (.replay path script format trace) .script problem
  | step {path script : String} {format : Option Format} {trace : Bool} {known : Listing}
      {before after : List Step} {step : Step} {problem : Problem}
      (hlisting : directory.listing path = .ok known)
      (hscript : directory.script script = .ok (before ++ step :: after))
      (hbefore : ∀ earlier ∈ before, earlier.Binds known)
      (h : step.command.Unbound known step.origin problem) :
      Fails directory (.replay path script format trace) .binding problem

section Stages

variable {directory : Directory} {request : Request} {path name script : String}
  {element : Option ElementId} {format : Option Format} {trace : Bool} {problem : Problem}

end Stages

/-! ## The first stage that fails -/

/-- The result of stages: if it is a problem, it is the one problem of the first stage that fails. -/
def FirstAmong (directory : Directory) (request : Request) (stages : List Stage) :
    Except Problem Unit → Prop
  | .ok _ => ∀ stage ∈ stages, ∀ problem, ¬Fails directory request stage problem
  | .error problem =>
    ∃ before stage after, stages = before ++ stage :: after ∧
      (∀ earlier ∈ before, ∀ other, ¬Fails directory request earlier other) ∧
      ∀ other, Fails directory request stage other ↔ other = problem

/-- One more stage in front. -/
theorem FirstAmong.bind {directory : Directory} {request : Request} {stage : Stage} {stages : List Stage}
    {α : Type} {first : Except Problem α} {next : α → Except Problem Unit}
    (hfirst : ∀ {problem}, Fails directory request stage problem ↔ first = .error problem)
    (hnext : ∀ value, first = .ok value → FirstAmong directory request stages (next value)) :
    FirstAmong directory request (stage :: stages) (first >>= next) := by
  cases first with
  | error problem =>
    refine ⟨[], stage, stages, rfl, by simp, fun other ↦ ?_⟩
    rw [hfirst, Except.error.injEq, eq_comm]
  | ok value =>
    have hclear (problem : Problem) : ¬Fails directory request stage problem := by
      simp [hfirst]
    have hrest := hnext value rfl
    change FirstAmong directory request (stage :: stages) (next value)
    cases hresult : next value with
    | ok _ =>
      rw [hresult] at hrest
      exact List.forall_mem_cons.2 ⟨hclear, hrest⟩
    | error problem =>
      rw [hresult] at hrest
      obtain ⟨before, failing, after, rfl, hbefore, hfailing⟩ := hrest
      exact ⟨stage :: before, failing, after, rfl, List.forall_mem_cons.2 ⟨hclear, hbefore⟩, hfailing⟩

/-- A directory with a folder in place of the settings, without a listing, and with a script of which two
lines cannot be read. -/
def brokenDirectory : Directory where
  read path :=
    if path = Directory.settingsPath then .error .isDirectory
    else if path = "script" then .ok "link d\n+\nlinks".toUTF8.data.toList
    else .error .notFound

end Shell

end DefUse
