import GenKill.Property

/-!
# Systems of flow values

A system holds the gen, kill and out sets of one analysis over a common
universe.  The operations here keep every value inside that universe; values
written directly into a property can leave it, which `validate` detects.
-/

namespace GenKill

structure System where
  facts : Universe
  gen : Property
  kill : Property
  out : Property

/-- What an analysis defines at a node: the facts that it makes, and those that
it loses. -/
inductive System.Role where
  | gen
  | kill

/-- Refuses a set that belongs to another universe. -/
def Universe.check (facts : Universe) (set : FactSet) : Except Error Unit :=
  if set.facts = none ∨ set.facts = some facts then .ok ()
  else .error (.setOutside set.text)

/-- The set as a set of the universe: the set of no universe becomes the empty
one. -/
def Universe.adopt (facts : Universe) (set : FactSet) : FactSet :=
  if set.facts = none then facts.empty else set

/-- A system without definitions, in which every out set is `initial`. -/
def Universe.system (facts : Universe) (initial : FactSet) :
    Except Error System :=
  match facts.check initial with
  | .error error => .error (.within "invalid initial out value" error)
  | .ok () =>
      .ok {
        facts
        gen := { name := "gen", default := facts.empty }
        kill := { name := "kill", default := facts.empty }
        out := { name := "out", default := facts.adopt initial } }

namespace System

/-- The context of a failure at a node. -/
def place (property : Text) (site : Site) : Text :=
  property ++ " set of node " ++ site.name.quote

def Role.text : Role → Text
  | .gen => "gen"
  | .kill => "kill"

/-- The system with another gen or kill set at a node. -/
def withSet (system : System) (site : Site) (value : FactSet) : Role → System
  | .gen => { system with gen := system.gen.set site value }
  | .kill => { system with kill := system.kill.set site value }

/-- Makes the elements the gen or kill set of a node. -/
def define (role : Role) (system : System) (site : Site)
    (elements : List Text) : Except Error System :=
  match system.facts.set elements with
  | .error error => .error (.within (place role.text site) error)
  | .ok value => .ok (system.withSet site value role)

def defineGen : System → Site → List Text → Except Error System := define .gen

def defineKill : System → Site → List Text → Except Error System := define .kill

def setOut (system : System) (site : Site) (value : FactSet) :
    Except Error System :=
  match system.facts.check value with
  | .error error => .error (.within (place "out" site) error)
  | .ok () =>
      .ok { system with out := system.out.set site (system.facts.adopt value) }

/-- Forgets the out sets; gen and kill are kept. -/
def reset (system : System) : System := { system with out := system.out.clear }

/-- The first value of a list of entries that lies outside of the universe. -/
def validateValues (facts : Universe) (name : Text) :
    List (Site × FactSet) → Except Error Unit
  | [] => .ok ()
  | (site, value) :: rest =>
      match facts.check value with
      | .error error => .error (.within (place name site) error)
      | .ok () => validateValues facts name rest

def validateProperty (facts : Universe) (property : Property) :
    Except Error Unit :=
  match facts.check property.default with
  | .error error =>
      .error (.within ("default " ++ property.name ++ " set") error)
  | .ok () => validateValues facts property.name property.values.entries

/-- Checks that every value belongs to the universe. -/
def validate (system : System) : Except Error Unit :=
  match validateProperty system.facts system.gen with
  | .error error => .error error
  | .ok () =>
      match validateProperty system.facts system.kill with
      | .error error => .error error
      | .ok () => validateProperty system.facts system.out

def reportLine (system : System) (site : Site) : Text :=
  site.name ++ "\tgen=" ++ (system.gen.get site).text ++ "\tkill=" ++
    (system.kill.get site).text ++ "\tout=" ++ (system.out.get site).text

/-- One line for each node of a graph. -/
def report (system : System) (graph : Graph) : Text :=
  Text.join "\n" (graph.sites.map system.reportLine)

end System

end GenKill
