import GenKill.Hcl.Value

/-!
# Expressions
-/

namespace GenKill.Hcl

inductive UnaryOp where
  | negate
  | complement

inductive BinaryOp where
  | disjunction
  | conjunction
  | equal
  | notEqual
  | less
  | lessEqual
  | greater
  | greaterEqual
  | add
  | subtract
  | multiply
  | divide
  | modulo

mutual

inductive Expr where
  | literal (value : Value)
  | variable (name : Text)
  /-- The element that the innermost splat visits. -/
  | item
  /-- A function call; there are no functions, so its arguments do not
  matter. -/
  | call
  | group (inner : Expr)
  /-- Parts whose texts are joined. -/
  | template (parts : List Expr)
  /-- The texts of the elements of a tuple, joined. -/
  | concat (tuple : Expr)
  | unary (op : UnaryOp) (operand : Expr)
  | binary (op : BinaryOp) (left right : Expr)
  | conditional (condition yes no : Expr)
  | tuple (items : List Expr)
  | object (entries : List Entry)
  /-- A tuple with a value for each element of a source; `guards` holds at most
  one condition. -/
  | forTuple (key : Option Text) (name : Text) (source value : Expr)
      (guards : List Expr)
  /-- An object with an entry for each element; `grouped` collects the values of
  equal keys. -/
  | forObject (key : Option Text) (name : Text) (source label value : Expr)
      (guards : List Expr) (grouped : Bool)
  | splat (source each : Expr)
  | attribute (source : Expr) (name : Text)
  | index (source key : Expr)

inductive Entry where
  /-- An entry; a key that is `bare` may be a name that stands for itself. -/
  | mk (bare : Bool) (key value : Expr)

end

/-- An attribute of a body: its name and its expression. -/
structure Definition where
  name : Text
  expr : Expr

mutual

inductive Body where
  | mk (definitions : List Definition) (blocks : List Block)

inductive Block where
  | mk (type : Text) (labels : List Text) (body : Body)

end

namespace Expr

/-- A variable followed by attributes and constant indices only. -/
def isReference : Expr → Bool
  | .variable _ => true
  | .attribute source _ => source.isReference
  | .index source (.literal _) => source.isReference
  | _ => false

/-- The name that a bare key consists of. -/
def keyword? : Expr → Option Text
  | .variable name => some name
  | .literal (.null _) => some "null"
  | .literal (.bool true) => some "true"
  | .literal (.bool false) => some "false"
  | _ => none

/-- The text of a template without sequences. -/
def constant? : Expr → Option Value
  | .literal value => some value
  | .template [.literal value] => some value
  | _ => none

end Expr

end GenKill.Hcl
