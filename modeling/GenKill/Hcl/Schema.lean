import GenKill.Hcl.Eval

/-!
# Schemas

A schema says which arguments and blocks a body may have.  Everything that does
not fit is complained about; what does fit can still be read.
-/

namespace GenKill.Hcl

structure Schema where
  /-- The names of the arguments, and whether each is required. -/
  arguments : List (Text × Bool)
  /-- The types of the blocks, each with the number of its labels. -/
  blocks : List (Text × Nat) := []

namespace Body

def definitions : Body → List Definition
  | .mk definitions _ => definitions

def blocks : Body → List Block
  | .mk _ blocks => blocks

def expr? (body : Body) (name : Text) : Option Expr :=
  (body.definitions.find? fun definition => definition.name = name).map
    Definition.expr

end Body

namespace Block

def type : Block → Text
  | .mk type _ _ => type

def labels : Block → List Text
  | .mk _ labels _ => labels

def body : Block → Body
  | .mk _ _ body => body

end Block

namespace Schema

/-- The complaint about a block, if it does not fit. -/
def blockComplaint? (schema : Schema) (block : Block) : Option Text :=
  match schema.blocks.lookup block.type with
  | none => some "Unsupported block type"
  | some count =>
      if count < block.labels.length then
        some ("Extraneous label for " ++ block.type)
      else if block.labels.length < count then
        some ("Missing label for " ++ block.type)
      else none

def complaints (schema : Schema) (body : Body) : List Text :=
  let missing : List Text := schema.arguments.filterMap fun (name, required) =>
    if required && (body.expr? name).isNone then
      some "Missing required argument"
    else none
  let unsupported : List Text := body.definitions.filterMap fun definition =>
    if (schema.arguments.lookup definition.name).isNone then
      some "Unsupported argument"
    else none
  missing ++ unsupported ++ body.blocks.filterMap schema.blockComplaint?

/-- The blocks of a type that fit. -/
def accepted (schema : Schema) (body : Body) (type : Text) : List Block :=
  body.blocks.filter fun block =>
    block.type = type && (schema.blockComplaint? block).isNone

end Schema

/-! ### Arguments -/

/-- What has been read, and the complaints about it. -/
structure Reading (α : Type) where
  value : α
  complaints : List Text := []

/-- Reads the value of an argument; the value is `fallback` if there is none
that fits. -/
def Expr.read {α : Type} (expr : Expr) (kind : Kind) (fallback : α)
    (read : Value → Option α) : Reading α :=
  let outcome := expr.eval {}
  match (outcome.value.convert kind).bind read with
  | some value => ⟨value, outcome.complaints⟩
  | none => ⟨fallback, outcome.complaints.concat "Unsuitable value type"⟩

def Value.text? : Value → Option Text
  | .string text => some text
  | _ => none

/-- The texts of a list; a null is no list at all. -/
def Value.texts? : Value → Option (Option (List Text))
  | .null _ => some none
  | .list _ items => (items.mapM Value.text?).map some
  | _ => none

/-- A text argument; nothing if it is not given. -/
def Body.readText (body : Body) (name : Text) : Reading Text :=
  match body.expr? name with
  | some expr => expr.read .string [] Value.text?
  | none => ⟨[], []⟩

def Body.readTexts (body : Body) (name : Text) : Reading (Option (List Text)) :=
  match body.expr? name with
  | some expr => expr.read (.list .string) none Value.texts?
  | none => ⟨none, []⟩

end GenKill.Hcl
