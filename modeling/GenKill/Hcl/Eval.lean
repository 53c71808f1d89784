import GenKill.Hcl.Expr

/-!
# Evaluation

Evaluation always gives a value; what went wrong is listed beside it, one
summary for each complaint.  A value that could not be computed is unknown, and
what depends on it is unknown too, without a complaint of its own.  There are no
variables but those of loops, and no functions.
-/

namespace GenKill.Hcl

/-- The names that are in scope.  Outside of all loops there is no scope for
variables at all. -/
structure Scope where
  bound : Option (List (Text × Value)) := none
  item : Option Value := none

/-- A value and the complaints about it. -/
structure Outcome where
  value : Value
  complaints : List Text := []

namespace Outcome

/-- Nothing but a complaint. -/
def failed (complaint : Text) : Outcome := ⟨.unresolved, [complaint]⟩

/-- Nothing but a value of a kind, with one more complaint. -/
def refused (kind : Kind) (complaints : List Text) (complaint : Text) :
    Outcome :=
  ⟨.unknown kind, complaints ++ [complaint]⟩

/-- Puts earlier complaints in front. -/
def after (outcome : Outcome) (earlier : List Text) : Outcome :=
  { outcome with complaints := earlier ++ outcome.complaints }

end Outcome

namespace Scope

/-- The scope of one round of a loop. -/
def bind (scope : Scope) (key : Option Text) (name : Text)
    (keyValue value : Value) : Scope :=
  let named := match key with
    | some key => if key = name then [] else [(key, keyValue)]
    | none => []
  { scope with bound := some ((name, value) :: named ++ scope.bound.getD []) }

def lookup (scope : Scope) (name : Text) : Outcome :=
  match scope.bound with
  | none => .failed "Variables not allowed"
  | some bound =>
      match bound.lookup name with
      | some value => ⟨value, []⟩
      | none => .failed "Unknown variable"

end Scope

/-! ### Operators -/

namespace BinaryOp

/-- The kind of the operands. -/
def operands : BinaryOp → Kind
  | disjunction | conjunction => .bool
  | equal | notEqual => .any
  | _ => .number

/-- The kind of the result. -/
def result : BinaryOp → Kind
  | add | subtract | multiply | divide | modulo => .number
  | _ => .bool

def arithmetic (result : Option Number) : Option Value := result.map .number

/-- The result for operands that have been converted; none if the operation
fails. -/
def apply (op : BinaryOp) (left right : Value) : Option Value :=
  match op, left, right with
  | .equal, left, right => some (ofVerdict (left.equal right))
  | .notEqual, left, right => some (ofVerdict ((left.equal right).map not))
  | _, .null _, _ => none
  | _, _, .null _ => none
  | op, .unknown _, _ => some (.unknown op.result)
  | op, _, .unknown _ => some (.unknown op.result)
  | .disjunction, .bool left, .bool right => some (.bool (left || right))
  | .conjunction, .bool left, .bool right => some (.bool (left && right))
  | .less, .number left, .number right =>
      some (.bool (left.compare right == .lt))
  | .lessEqual, .number left, .number right =>
      some (.bool (left.compare right != .gt))
  | .greater, .number left, .number right =>
      some (.bool (left.compare right == .gt))
  | .greaterEqual, .number left, .number right =>
      some (.bool (left.compare right != .lt))
  | .add, .number left, .number right => arithmetic (left.add right)
  | .subtract, .number left, .number right => arithmetic (left.sub right)
  | .multiply, .number left, .number right => arithmetic (left.mul right)
  | .divide, .number left, .number right => arithmetic (left.div right)
  | .modulo, .number left, .number right => arithmetic (left.mod right)
  | _, _, _ => none
where
  ofVerdict : Value.Verdict → Value
    | some verdict => .bool verdict
    | none => .unknown .bool

end BinaryOp

namespace Outcome

/-- The complaint about an operand that cannot be converted. -/
def invalidOperand (converted : Option Value) : List Text :=
  if converted.isNone then ["Invalid operand"] else []

def binary (op : BinaryOp) (left right : Outcome) : Outcome :=
  let first := left.value.convert op.operands
  let second := right.value.convert op.operands
  let complaints :=
    left.complaints ++ right.complaints ++ invalidOperand first ++
      invalidOperand second
  match complaints, first, second with
  | [], some first, some second =>
      match op.apply first second with
      | some value => ⟨value, []⟩
      | none => ⟨.unknown op.result, ["Operation failed"]⟩
  | _, _, _ => ⟨.unknown op.result, complaints⟩

def unary (op : UnaryOp) (operand : Outcome) : Outcome :=
  let kind := match op with
    | .negate => Kind.number
    | .complement => Kind.bool
  let converted := operand.value.convert kind
  let complaints := operand.complaints ++ invalidOperand converted
  match complaints, op, converted with
  | [], .negate, some (.number value) => ⟨.number value.neg, []⟩
  | [], .complement, some (.bool value) => ⟨.bool !value, []⟩
  | [], _, some (.null _) => ⟨.unknown kind, ["Operation failed"]⟩
  | _, _, _ => ⟨.unknown kind, complaints⟩

/-! ### Choices -/

/-- The kind that the branches of a choice have in common.  A bare null takes
the other's kind. -/
def commonKind (yes no : Value) : Option Kind :=
  match yes, no with
  | .null .any, no => some no.kind
  | yes, .null .any => some yes.kind
  | yes, no => yes.kind.join no.kind

/-- The chosen branch, converted to the common kind. -/
def chosen (kind : Kind) (complaints : List Text) (branch : Outcome) :
    Outcome :=
  match branch.value.convert kind with
  | some value => ⟨value, complaints ++ branch.complaints⟩
  | none =>
      refused kind (complaints ++ branch.complaints)
        "Inconsistent conditional result types"

def choice (condition yes no : Outcome) : Outcome :=
  match commonKind yes.value no.value with
  | none => .failed "Inconsistent conditional result types"
  | some kind =>
      match condition.value with
      | .null _ => refused kind condition.complaints "Null condition"
      | .unknown _ => ⟨.unknown kind, condition.complaints⟩
      | value =>
          match value.convert .bool with
          | some (.bool true) => chosen kind condition.complaints yes
          | some (.bool false) => chosen kind condition.complaints no
          | _ => refused kind condition.complaints "Incorrect condition type"

/-! ### Parts of values -/

/-- The attribute of an object or the element of a map. -/
def member (source : Value) (name : Text) : Outcome :=
  match source with
  | .null _ => .failed "Attempt to get attribute from null value"
  | .object entries =>
      match entries.lookup name with
      | some value => ⟨value, []⟩
      | none => .failed "Unsupported attribute"
  | .map _ entries =>
      match entries.lookup name.normal with
      | some value => ⟨value, []⟩
      | none => .failed "Missing map element"
  | .unknown .any => ⟨.unresolved, []⟩
  | .unknown (.map element) => ⟨.unknown element, []⟩
  | .unknown (.object attributes) =>
      match attributes.lookup name with
      | some kind => ⟨.unknown kind, []⟩
      | none => .failed "Unsupported attribute"
  | _ => .failed "Unsupported attribute"

/-- The element of a sequence at a position. -/
def element (items : List Value) (key : Value) (missing : Kind) : Outcome :=
  match key.convert .number with
  | some (.number number) =>
      match number.toIndex?.bind fun index => items[index]? with
      | some value => ⟨value, []⟩
      | none => .failed "Invalid index"
  | some _ => ⟨.unknown missing, []⟩
  | none => .failed "Invalid index"

/-- The entry of a map or an object with a key. -/
def entry (entries : List (Text × Value)) (key : Value) (missing : Kind) :
    Outcome :=
  match key.convert .string with
  | some (.string name) =>
      match entries.lookup name with
      | some value => ⟨value, []⟩
      | none => .failed "Invalid index"
  | some _ => ⟨.unknown missing, []⟩
  | none => .failed "Invalid index"

/-- The kind of the elements of an unknown collection, and of its keys. -/
def elementKinds? : Kind → Option (Kind × Kind)
  | .list element => some (element, .number)
  | .map element => some (element, .string)
  | .tuple _ => some (.any, .number)
  | .object _ => some (.any, .string)
  | _ => none

def index (source key : Value) : Outcome :=
  match source, key with
  | .null _, _ => .failed "Attempt to index null value"
  | _, .null _ => .failed "Invalid index"
  | .unknown .any, _ => ⟨.unresolved, []⟩
  | _, .unknown .any => ⟨.unresolved, []⟩
  | .list kind items, key => element items key kind
  | .tuple items, key => element items key .any
  | .map kind entries, key => entry entries key kind
  | .object entries, key => entry entries key .any
  | .unknown kind, key =>
      match elementKinds? kind with
      | some (element, keyKind) =>
          if (key.convert keyKind).isSome then ⟨.unknown element, []⟩
          else .failed "Invalid index"
      | none => .failed "Invalid index"
  | _, _ => .failed "Invalid index"

/-! ### Templates -/

/-- The text of one part, or why it has none. -/
inductive Piece where
  | text (text : Text)
  | unknown
  | invalid

def pieceOf (value : Value) : Piece :=
  match value with
  | .null _ => .invalid
  | .unknown _ => .unknown
  | value =>
      match value.convert .string with
      | some (.string text) => .text text
      | _ => .invalid

/-- The text of a template as far as it has been read. -/
structure Joined where
  text : Text := []
  known : Bool := true
  complaints : List Text := []

/-- Adds a part.  After a complaint the text does not grow any more. -/
def Joined.add (joined : Joined) (part : Outcome) : Joined :=
  let complaints := joined.complaints ++ part.complaints
  match pieceOf part.value with
  | .text text =>
      { joined with
        complaints
        text :=
          if joined.known && complaints.isEmpty then joined.text ++ text
          else joined.text }
  | .unknown => { joined with complaints, known := false }
  | .invalid =>
      { joined with
        complaints := complaints.concat "Invalid template interpolation value" }

/-- The texts of the parts, joined. -/
def joined (parts : List Outcome) : Outcome :=
  let joined := parts.foldl Joined.add {}
  ⟨if joined.known then .ofText joined.text else .unknown .string,
    joined.complaints⟩

/-- The texts of the elements of a tuple, joined up to the first that is
unknown. -/
def concatenation (complaints : List Text) : Text → List Value → Outcome
  | text, [] => ⟨.ofText text, complaints⟩
  | text, item :: rest =>
      match pieceOf item with
      | .text more => concatenation complaints (text ++ more) rest
      | .unknown => ⟨.unknown .string, complaints⟩
      | .invalid =>
          concatenation
            (complaints.concat "Invalid template interpolation value") text rest

def concat (tuple : Outcome) : Outcome :=
  match tuple.value with
  | .tuple items => concatenation tuple.complaints [] items
  | _ => ⟨.unknown .string, tuple.complaints⟩

/-! ### Objects -/

/-- An entry: the outcomes of its key and of its value. -/
abbrev EntryOutcome := Outcome × Outcome

/-- The key of an entry as text, or the complaint about it; an empty list for an
unknown key. -/
def keyText (key : Outcome) : Except (List Text) Text :=
  if !key.complaints.isEmpty then .error []
  else match key.value with
    | .null _ => .error ["Null value as key"]
    | value =>
        match value.convert .string with
        | some (.string text) => .ok text
        | some _ => .error []
        | none => .error ["Incorrect key type"]

def object (entries : List EntryOutcome) : Outcome :=
  let complaints := entries.flatMap fun (key, value) =>
    key.complaints ++ value.complaints ++ match keyText key with
      | .error complaints => complaints
      | .ok _ => []
  let named :=
    entries.map fun (key, value) =>
      (keyText key).map fun text => (text, value.value)
  match named.mapM id with
  | .ok named => ⟨.ofEntries named, complaints⟩
  | .error _ => ⟨.unresolved, complaints⟩

/-! ### Loops -/

/-- What a loop runs over; otherwise the outcome of the loop. -/
def source (outcome : Outcome) : Except Outcome (List (Value × Value)) :=
  match outcome.value with
  | .null _ =>
      .error (refused .any outcome.complaints "Iteration over null value")
  | .unknown (.bool) | .unknown (.number) | .unknown (.string) =>
      .error (refused .any outcome.complaints
        "Iteration over non-iterable value")
  | .unknown _ => .error ⟨.unresolved, outcome.complaints⟩
  | value =>
      match value.elements? with
      | some elements => .ok elements
      | none =>
          .error (refused .any outcome.complaints
            "Iteration over non-iterable value")

/-- The condition of a loop, tried once with nothing known about the variables:
the complaints if it can never hold. -/
def unusableGuard (guard : Outcome) : Option (List Text) :=
  match guard.value with
  | .null _ => some (guard.complaints.concat "Condition is null")
  | value =>
      if (value.convert .bool).isNone then
        some (guard.complaints.concat "Invalid 'for' condition")
      else if guard.complaints.isEmpty then none
      else some guard.complaints

/-- Whether an element takes part in a loop; `none` if that is not known. -/
inductive Inclusion where
  | included
  | excluded
  | undecided
  | invalid

def inclusion (guard : Value) : Inclusion :=
  match guard with
  | .null _ => .invalid
  | guard =>
      match guard.convert .bool with
      | some (.bool true) => .included
      | some (.bool false) => .excluded
      | some _ => .undecided
      | none => .invalid

/-- What the rounds of a loop have collected; it is known until a round cannot
be decided. -/
structure Rounds (α : Type) where
  known : Bool := true
  complaints : List Text := []
  /-- In reverse. -/
  collected : List α := []

namespace Rounds

variable {α : Type}

def complain (rounds : Rounds α) (complaints : List Text) : Rounds α :=
  { rounds with complaints := rounds.complaints ++ complaints }

/-- A round that cannot be decided; of several only the first says why. -/
def undecided (rounds : Rounds α) (complaints : List Text) : Rounds α :=
  { rounds with
    known := false
    complaints :=
      rounds.complaints ++ (if rounds.known then complaints else []) }

def collect (rounds : Rounds α) (value : α) : Rounds α :=
  { rounds with collected := value :: rounds.collected }

/-- Runs a round if its conditions, of which there is at most one, hold. -/
def guarded (rounds : Rounds α) (guards : List Outcome)
    (round : Rounds α → Rounds α) : Rounds α :=
  match guards with
  | [] => round rounds
  | guard :: _ =>
      let rounds := rounds.complain guard.complaints
      match inclusion guard.value with
      | .included => round rounds
      | .excluded => rounds
      | .undecided => rounds.undecided []
      | .invalid => rounds.undecided ["Invalid 'for' condition"]

end Rounds

/-- The label of an entry that a loop makes. -/
def label (value : Value) : Except (List Text) Text :=
  match value with
  | .null _ => .error ["Invalid object key"]
  | .unknown _ => .error []
  | value =>
      match value.convert .string with
      | some (.string text) => .ok text
      | _ => .error ["Invalid object key"]

/-- Adds an entry; without grouping the first of two equal keys stays. -/
def addEntry (grouped : Bool) (rounds : Rounds (Text × Value)) (key : Text)
    (value : Outcome) : Rounds (Text × Value) :=
  let rounds := rounds.complain value.complaints
  if !grouped && rounds.collected.any fun (other, _) => other = key then
    rounds.complain ["Duplicate object key"]
  else rounds.collect (key, value.value)

/-- The values of equal keys, collected in tuples. -/
def groups (entries : List (Text × Value)) : List (Text × Value) :=
  entries.map fun (key, _) =>
    (key, .tuple
      (entries.filterMap fun (other, value) =>
        if other = key then some value else none))

/-- The elements of a splat's source: a value that is no sequence counts as one
element. -/
def splatItems : Value → Except Outcome (List Value)
  | .tuple items => .ok items
  | .list _ items => .ok items
  | .null (.tuple _) | .null (.list _) => .error (.failed "Splat of null value")
  | .null _ => .error ⟨.tuple [], []⟩
  | .unknown kind =>
      .error ⟨if kind == .any then .unresolved else .unknown .any, []⟩
  | value => .ok [value]

/-- The result of a splat: a list for a list, as long as the elements are of one
kind. -/
def splatResult (source : Value) (items : List Outcome) : Outcome :=
  let complaints := items.flatMap Outcome.complaints
  let values := items.map Outcome.value
  if !complaints.isEmpty then ⟨.unresolved, complaints⟩
  else match source, values with
    | .list _ _, first :: rest =>
        if rest.all fun value => value.kind == first.kind then
          ⟨.list first.kind values, []⟩
        else ⟨.tuple values, []⟩
    | .list kind _, [] => ⟨.list kind [], []⟩
    | _, _ => ⟨.tuple values, []⟩

end Outcome

/-! ### Expressions -/

open Outcome

mutual

def Expr.eval (scope : Scope) : Expr → Outcome
  | .literal value => ⟨value, []⟩
  | .variable name => scope.lookup name
  | .item => ⟨scope.item.getD .unresolved, []⟩
  | .call => .failed "Function calls not allowed"
  | .group inner => inner.eval scope
  | .template parts => joined (evalAll scope parts)
  | .concat tuple => concat (tuple.eval scope)
  | .unary op operand => unary op (operand.eval scope)
  | .binary op left right => binary op (left.eval scope) (right.eval scope)
  | .conditional condition yes no =>
      choice (condition.eval scope) (yes.eval scope) (no.eval scope)
  | .tuple items =>
      let outcomes := evalAll scope items
      ⟨.tuple (outcomes.map Outcome.value), outcomes.flatMap Outcome.complaints⟩
  | .object entries => object (evalEntries scope entries)
  | .attribute source name =>
      let outcome := source.eval scope
      (member outcome.value name).after outcome.complaints
  | .index source key =>
      let outcome := source.eval scope
      let keyOutcome := key.eval scope
      (index outcome.value keyOutcome.value).after
        (outcome.complaints ++ keyOutcome.complaints)
  | .splat source each =>
      let outcome := source.eval scope
      if !outcome.complaints.isEmpty then ⟨.unresolved, outcome.complaints⟩
      else match splatItems outcome.value with
        | .error result => result
        | .ok items =>
            splatResult outcome.value
              (items.map fun element =>
                each.eval { scope with item := some element })
  | .forTuple key name source value guards =>
      let outcome := source.eval scope
      match Outcome.source outcome with
      | .error result => result
      | .ok elements =>
          let trial :=
            evalAll (scope.bind key name .unresolved .unresolved) guards
          match trial.findSome? unusableGuard with
          | some complaints => ⟨.unresolved, outcome.complaints ++ complaints⟩
          | none =>
              let rounds := elements.foldl
                (fun (rounds : Rounds Value) (keyValue, element) =>
                  let inner := scope.bind key name keyValue element
                  rounds.guarded (evalAll inner guards) fun rounds =>
                    let result := value.eval inner
                    (rounds.complain result.complaints).collect result.value)
                {}
              let result :=
                if rounds.known then .tuple rounds.collected.reverse
                else .unresolved
              ⟨result, outcome.complaints ++ rounds.complaints⟩
  | .forObject key name source label value guards grouped =>
      let outcome := source.eval scope
      match Outcome.source outcome with
      | .error result => result
      | .ok elements =>
          let trial :=
            evalAll (scope.bind key name .unresolved .unresolved) guards
          match trial.findSome? unusableGuard with
          | some complaints => ⟨.unresolved, outcome.complaints ++ complaints⟩
          | none =>
              let rounds := elements.foldl
                (fun (rounds : Rounds (Text × Value)) (keyValue, element) =>
                  let inner := scope.bind key name keyValue element
                  rounds.guarded (evalAll inner guards) fun rounds =>
                    let labelOutcome := label.eval inner
                    let rounds := rounds.complain labelOutcome.complaints
                    match Outcome.label labelOutcome.value with
                    | .error complaints => rounds.undecided complaints
                    | .ok text =>
                        addEntry grouped rounds text (value.eval inner))
                {}
              let entries := rounds.collected.reverse
              let result :=
                if rounds.known then
                  .ofEntries (if grouped then groups entries else entries)
                else .unresolved
              ⟨result, outcome.complaints ++ rounds.complaints⟩

def evalAll (scope : Scope) : List Expr → List Outcome
  | [] => []
  | expr :: rest => expr.eval scope :: evalAll scope rest

def evalEntries (scope : Scope) : List Entry → List EntryOutcome
  | [] => []
  | .mk bare key value :: rest =>
      let keyOutcome :=
        if bare && key.isReference && key.keyword?.isNone then
          .failed "Ambiguous attribute key"
        else match bare, key.keyword? with
          | true, some name => ⟨.ofText name, []⟩
          | _, _ => key.eval scope
      (keyOutcome, value.eval scope) :: evalEntries scope rest

end

end GenKill.Hcl
