import GenKill.Number
import GenKill.Text.Normal

/-!
# Values of expressions

Values are typed.  A value whose evaluation failed is unknown, of a type that
may itself be unknown (`Kind.any`); nulls have a type as well.  Strings are
always in composed normal form.
-/

namespace GenKill.Hcl

/-- The type of a value. -/
inductive Kind where
  | any
  | bool
  | number
  | string
  | list (element : Kind)
  | map (element : Kind)
  | tuple (elements : List Kind)
  | object (attributes : List (Text × Kind))
  deriving BEq

inductive Value where
  | null (kind : Kind)
  | unknown (kind : Kind)
  | bool (value : Bool)
  | number (value : Number)
  | string (value : Text)
  | list (element : Kind) (items : List Value)
  | map (element : Kind) (entries : List (Text × Value))
  | tuple (items : List Value)
  | object (entries : List (Text × Value))

namespace Value

/-- Nothing is known about the value. -/
def unresolved : Value := .unknown .any

def ofText (text : Text) : Value := .string text.normal

/-- Entries in key order; of two with one key the later counts. -/
def ofEntries (entries : List (Text × Value)) : Value :=
  .object (entries.foldl
    (fun table (key, value) => Entries.insert key.normal value table) [])

mutual

def kind : Value → Kind
  | .null kind => kind
  | .unknown kind => kind
  | .bool _ => .bool
  | .number _ => .number
  | .string _ => .string
  | .list element _ => .list element
  | .map element _ => .map element
  | .tuple items => .tuple (kinds items)
  | .object entries => .object (entryKinds entries)

def kinds : List Value → List Kind
  | [] => []
  | item :: rest => item.kind :: kinds rest

def entryKinds : List (Text × Value) → List (Text × Kind)
  | [] => []
  | (key, value) :: rest => (key, value.kind) :: entryKinds rest

end

/-- The elements that a value can be iterated over, each with its key. -/
def elements? : Value → Option (List (Value × Value))
  | .list _ items => some (numbered items)
  | .tuple items => some (numbered items)
  | .map _ entries => some (named entries)
  | .object entries => some (named entries)
  | _ => none
where
  numbered (items : List Value) : List (Value × Value) :=
    items.mapIdx fun index item => (.number (.ofIndex index), item)
  named (entries : List (Text × Value)) : List (Value × Value) :=
    entries.map fun (key, value) => (.string key, value)

end Value

/-! ### Conversion -/

namespace Kind

def isPrimitive : Kind → Bool
  | .bool | .number | .string => true
  | _ => false

mutual

/-- Whether values of a kind may be converted to another kind. -/
def converts : Kind → Kind → Bool
  | _, .any => true
  | .any, _ => true
  | .list element, .list element' => element.converts element'
  | .map element, .map element' => element.converts element'
  | .tuple elements, .list element => allConvert elements element
  | .tuple elements, .tuple elements' => eachConverts elements elements'
  | .object attributes, .map element => attributesConvert attributes element
  | .object attributes, .object attributes' =>
      attributes'.all fun (key, _) => (attributes.lookup key).isSome
  | .map _, .object _ => true
  | source, target =>
      source == target || source.isPrimitive && target.isPrimitive &&
        (source == .string || target == .string)

def allConvert : List Kind → Kind → Bool
  | [], _ => true
  | kind :: rest, target => kind.converts target && allConvert rest target

def eachConverts : List Kind → List Kind → Bool
  | [], [] => true
  | kind :: rest, target :: targets =>
      kind.converts target && eachConverts rest targets
  | _, _ => false

def attributesConvert : List (Text × Kind) → Kind → Bool
  | [], _ => true
  | (_, kind) :: rest, target =>
      kind.converts target && attributesConvert rest target

end

/-- How deeply a kind nests. -/
def depth : Kind → Nat
  | .list element => element.depth + 1
  | .map element => element.depth + 1
  | .tuple elements => depths elements + 1
  | .object attributes => attributeDepths attributes + 1
  | _ => 1
where
  depths : List Kind → Nat
    | [] => 0
    | kind :: rest => max kind.depth (depths rest)
  attributeDepths : List (Text × Kind) → Nat
    | [] => 0
    | (_, kind) :: rest => max kind.depth (attributeDepths rest)

/-- The first kind of a list that all others convert to, `any` being the last
choice and strings the first. -/
def preferred (kinds : List Kind) : Option Kind :=
  let candidates := kinds.filter (· == .string) ++
    kinds.filter (fun kind => !(kind == .string) && !(kind == .any)) ++
    kinds.filter (· == .any)
  candidates.find? fun target => kinds.all fun kind => kind.converts target

def isTuple : Kind → Bool
  | .tuple _ => true
  | _ => false

def isObject : Kind → Bool
  | .object _ => true
  | _ => false

def isList : Kind → Bool
  | .list _ => true
  | _ => false

def isMap : Kind → Bool
  | .map _ => true
  | _ => false

def tupleElements : Kind → List Kind
  | .tuple elements => elements
  | .list element => [element]
  | _ => []

def objectAttributes : Kind → List (Text × Kind)
  | .object attributes => attributes
  | .map element => [([], element)]
  | _ => []

/-- The kinds at each position of lists of one length. -/
def columns : Nat → List (List Kind) → List (List Kind)
  | 0, _ => []
  | count + 1, rows =>
      rows.filterMap List.head? :: columns count (rows.map List.tail)

/-- A kind that values of all the given kinds can be converted to. -/
def unify : Nat → List Kind → Option Kind
  | 0, _ => none
  | fuel + 1, kinds =>
      let plain := kinds.filter fun kind => !(kind == .any)
      let mixed := plain.length < kinds.length
      let toList := ((unify fuel (plain.flatMap tupleElements)).map Kind.list)
      let toMap :=
        ((unify fuel (plain.flatMap fun kind =>
          kind.objectAttributes.map Prod.snd)).map Kind.map)
      match plain with
      | [] => if kinds.isEmpty then none else some .any
      | first :: rest =>
          if rest.all (· == first) && !mixed then some first
          else if plain.all isTuple then
            if mixed then some .any
            else
              let width := first.tupleElements.length
              if rest.all fun kind => kind.tupleElements.length = width then
                match (columns width (plain.map tupleElements)).mapM
                  (unify fuel) with
                | some elements => some (.tuple elements)
                | none => toList
              else toList
          else if plain.all isObject then
            if mixed then some .any
            else
              let keys := first.objectAttributes.map Prod.fst
              if rest.all fun kind =>
                  kind.objectAttributes.map Prod.fst = keys then
                match (columns keys.length (plain.map fun kind =>
                    kind.objectAttributes.map Prod.snd)).mapM (unify fuel) with
                | some elements => some (.object (keys.zip elements))
                | none => toMap
              else toMap
          else if plain.all fun kind => kind.isList || kind.isTuple then
            if mixed then some .any else toList
          else if plain.all fun kind => kind.isMap || kind.isObject then
            if mixed then some .any else toMap
          else preferred kinds

/-- A kind that two kinds convert to. -/
def join (left right : Kind) : Option Kind :=
  unify (left.depth + right.depth + 1) [left, right]

end Kind

namespace Value

/-- The texts that stand for truth values. -/
def boolOfText? (text : Text) : Option Bool :=
  if text = "true" ∨ text = "1" then some true
  else if text = "false" ∨ text = "0" then some false
  else none

mutual

/-- The value as a value of another kind. -/
def convert (target : Kind) (value : Value) : Option Value :=
  match value, target with
  | value, .any => some value
  | .null kind, target =>
      if kind.converts target then some (.null target) else none
  | .unknown kind, target =>
      if kind.converts target then some (.unknown target) else none
  | .bool value, .bool => some (.bool value)
  | .bool value, .string => some (.string (Text.ofBool value))
  | .number value, .number => some (.number value)
  | .number value, .string => some (.string value.text)
  | .string value, .string => some (.string value)
  | .string value, .bool => (boolOfText? value).map .bool
  | .string value, .number => (Number.ofText? value).map .number
  | .list _ items, .list element =>
      (convertAll element items).map (.list element)
  | .tuple items, .list element =>
      (convertAll element items).map (.list element)
  | .tuple items, .tuple kinds => (convertEach kinds items).map .tuple
  | .map _ entries, .map element =>
      (convertEntries element entries).map (.map element)
  | .object entries, .map element =>
      (convertEntries element entries).map (.map element)
  | .object entries, .object attributes =>
      (convertAttributes attributes entries).map .object
  | .map _ entries, .object attributes =>
      (convertAttributes attributes entries).map .object
  | _, _ => none

def convertAll (target : Kind) : List Value → Option (List Value)
  | [] => some []
  | item :: rest =>
      match convert target item, convertAll target rest with
      | some item, some rest => some (item :: rest)
      | _, _ => none

def convertEach : List Kind → List Value → Option (List Value)
  | [], [] => some []
  | kind :: kinds, item :: rest =>
      match convert kind item, convertEach kinds rest with
      | some item, some rest => some (item :: rest)
      | _, _ => none
  | _, _ => none

def convertEntries (target : Kind) :
    List (Text × Value) → Option (List (Text × Value))
  | [] => some []
  | (key, value) :: rest =>
      match convert target value, convertEntries target rest with
      | some value, some rest => some ((key, value) :: rest)
      | _, _ => none

/-- The entries that the attributes ask for. -/
def convertAttributes (attributes : List (Text × Kind)) :
    List (Text × Value) → Option (List (Text × Value))
  | [] => some []
  | (key, value) :: rest =>
      match attributes.lookup key, convertAttributes attributes rest with
      | some kind, some rest =>
          (convert kind value).map fun value => (key, value) :: rest
      | none, some rest => some rest
      | _, none => none

end

/-! ### Comparison -/

/-- Three-valued truth: none if it depends on something unknown. -/
abbrev Verdict := Option Bool

mutual

/-- The kind of the value is known throughout. -/
def kindIsKnown : Value → Bool
  | .unknown .any => false
  | .list _ items => allKindsKnown items
  | .tuple items => allKindsKnown items
  | .map _ entries => entryKindsKnown entries
  | .object entries => entryKindsKnown entries
  | _ => true

def allKindsKnown : List Value → Bool
  | [] => true
  | item :: rest => item.kindIsKnown && allKindsKnown rest

def entryKindsKnown : List (Text × Value) → Bool
  | [] => true
  | (_, value) :: rest => value.kindIsKnown && entryKindsKnown rest

end

mutual

/-- Equality of values: nulls equal each other, and values of different kinds
differ. -/
def equal : Value → Value → Verdict
  | .unknown _, .unknown _ => none
  | .unknown kind, other => if unequalKinds kind other then some false else none
  | other, .unknown kind => if unequalKinds kind other then some false else none
  | .null _, .null _ => some true
  | .null _, _ => some false
  | _, .null _ => some false
  | .bool left, .bool right => some (left == right)
  | .number left, .number right => some (left.compare right == .eq)
  | .string left, .string right => some (left == right)
  | .list element items, .list element' items' =>
      if !allKindsKnown items || !allKindsKnown items' then none
      else if element == element' then equalAll items items' else some false
  | .tuple items, .tuple items' =>
      if !allKindsKnown items || !allKindsKnown items' then none
      else if kinds items == kinds items' then equalAll items items'
      else some false
  | .map element entries, .map element' entries' =>
      if !entryKindsKnown entries || !entryKindsKnown entries' then none
      else if element == element' then equalEntries entries entries'
      else some false
  | .object entries, .object entries' =>
      if !entryKindsKnown entries || !entryKindsKnown entries' then none
      else if entryKinds entries == entryKinds entries' then
        equalEntries entries entries'
      else some false
  | left, right =>
      if left.kindIsKnown && right.kindIsKnown then some false else none

def equalAll : List Value → List Value → Verdict
  | [], [] => some true
  | item :: rest, item' :: rest' =>
      match equal item item' with
      | some false => some false
      | verdict =>
          match equalAll rest rest' with
          | some false => some false
          | some true => verdict
          | none => none
  | _, _ => some false

def equalEntries : List (Text × Value) → List (Text × Value) → Verdict
  | [], [] => some true
  | (key, value) :: rest, (key', value') :: rest' =>
      if key ≠ key' then some false
      else match equal value value' with
        | some false => some false
        | verdict =>
            match equalEntries rest rest' with
            | some false => some false
            | some true => verdict
            | none => none
  | _, _ => some false

/-- A known value differs from every value of an unknown one's kind. -/
def unequalKinds (kind : Kind) (known : Value) : Bool :=
  match known with
  | .null _ => false
  | known => !(kind == .any) && !(kind == known.kind)

end

end Value

end GenKill.Hcl
