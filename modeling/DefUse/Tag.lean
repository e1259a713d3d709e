import DefUse.Text.Blank

/-!
# Tags on the elements of a listing

A tag says that an element defines or uses a fact. Facts come in four kinds, of which two can be
navigated, and a definition and its uses may be linked by tags of their own. Every tag has one written
token; a class text is read as the set of the tags among its words.
-/

namespace DefUse

/-- The two sides of a fact. -/
inductive Role where
  | definition
  | use
deriving DecidableEq

inductive FactKind where
  | callSite
  | condition
  | value
  | binding
deriving DecidableEq

/-- The kinds of facts whose definitions one can go to. -/
inductive NavKind where
  | value
  | binding
deriving DecidableEq

inductive Tag where
  | fact (kind : FactKind) (role : Role)
  | linked (role : Role)
  | navigable (kind : NavKind) (role : Role)
deriving DecidableEq

namespace Role

def all : List Role := [.definition, .use]

def name : Role → String
  | .definition => "def"
  | .use => "use"

/-- How a token spells the role. -/
def code : Role → String
  | .definition => "DEF"
  | .use => "USE"

/-- The role that a token spells behind its hyphen. -/
def ofCode? : String → Option Role
  | "DEF" => some .definition
  | "USE" => some .use
  | _ => none

end Role

namespace FactKind

/-- The kinds in the order of the menu. -/
def all : List FactKind := [.binding, .value, .callSite, .condition]

/-- The kinds in the order of the statistics. -/
def ordered : List FactKind := [.callSite, .condition, .value, .binding]

def label : FactKind → String
  | .callSite => "Callsites"
  | .condition => "Conditions"
  | .value => "Values"
  | .binding => "Variables"

/-- How a command name spells the kind. -/
def short : FactKind → String
  | .callSite => "call"
  | .condition => "con"
  | .value => "val"
  | .binding => "var"

/-- How a token spells the kind. -/
def code : FactKind → String
  | .callSite => "CALL"
  | .condition => "CON"
  | .value => "VAL"
  | .binding => "ENV"

/-- How the statistics spell the kind. -/
def key : FactKind → String
  | .callSite => "call-site"
  | .condition => "condition"
  | .value => "value"
  | .binding => "variable"

end FactKind

namespace NavKind

/-- The kinds in the order of the menu. -/
def all : List NavKind := [.binding, .value]

def factKind : NavKind → FactKind
  | .value => .value
  | .binding => .binding

def label : NavKind → String
  | .value => "Value Def"
  | .binding => "Variable Def"

def key (kind : NavKind) : String := kind.factKind.key

/-- How a token spells the kind. -/
def code (kind : NavKind) : String := "D" ++ kind.factKind.code

end NavKind

namespace Tag

def role : Tag → Role
  | .fact _ role => role
  | .linked role => role
  | .navigable _ role => role

def token : Tag → String
  | .fact kind role => kind.code ++ "-" ++ role.code
  | .linked role => role.code ++ "-tag"
  | .navigable kind role => kind.code ++ "-" ++ role.code

/-- The whole vocabulary: facts, navigable facts, links. -/
def all : List Tag :=
  (FactKind.all.flatMap fun kind ↦ Role.all.map (.fact kind)) ++
    (NavKind.all.flatMap fun kind ↦ Role.all.map (.navigable kind)) ++ Role.all.map .linked

/-- The vocabulary in the order in which an element lists its tags. -/
def ordered : List Tag :=
  (FactKind.ordered.flatMap fun kind ↦ Role.all.map (.fact kind)) ++ Role.all.map .linked ++
    ([.value, .binding].flatMap fun kind ↦ Role.all.map (.navigable kind))

/-- The tag that a token spells before its hyphen, together with a role. -/
def ofHead? (head : String) (role : Role) : Option Tag :=
  match head with
  | "CALL" => some (.fact .callSite role)
  | "CON" => some (.fact .condition role)
  | "DENV" => some (.navigable .binding role)
  | "DVAL" => some (.navigable .value role)
  | "ENV" => some (.fact .binding role)
  | "VAL" => some (.fact .value role)
  | _ => none

/-- The tag that a token spells. Links have words of their own; any other token is a kind and a role around
the first hyphen. -/
def ofToken? (token : String) : Option Tag :=
  match token with
  | "DEF-tag" => some (.linked .definition)
  | "USE-tag" => some (.linked .use)
  | _ =>
    match Text.splitFirst '-' token.toList with
    | none => none
    | some (head, tail) => (Role.ofCode? (String.ofList tail)).bind (ofHead? (String.ofList head))

/-- The tags among the words of a class text, each once and in order. -/
def ofClass (text : String) : List Tag :=
  let named := (Text.words text.toList).filterMap fun word ↦ ofToken? (String.ofList word)
  ordered.filter (named.contains ·)

end Tag

/-- The tags of the definitions and of the uses that belong together. -/
structure TagPair where
  definition : Tag
  use : Tag
deriving DecidableEq

namespace TagPair

def fact (kind : FactKind) : TagPair := ⟨.fact kind .definition, .fact kind .use⟩

def navigable (kind : NavKind) : TagPair := ⟨.navigable kind .definition, .navigable kind .use⟩

def linked : TagPair := ⟨.linked .definition, .linked .use⟩

end TagPair

end DefUse
