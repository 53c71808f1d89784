import GenKill.Settings.Value
import GenKill.Settings.Yaml.Node

/-!
# Settings in YAML

The value of a node, by its tag, or by its text if it has neither a tag nor
quotes.  Only the first document of a text counts.
-/

namespace GenKill.Settings.Yaml

/-! ### Scalars -/

def nullWords : List Text := ["", "~", "null", "Null", "NULL"]

def trueWords : List Text :=
  ["y", "Y", "yes", "Yes", "YES", "true", "True", "TRUE", "on", "On", "ON"]

def falseWords : List Text :=
  ["n", "N", "no", "No", "NO", "false", "False", "FALSE", "off", "Off", "OFF"]

def infiniteWords : List Text :=
  [".inf", ".Inf", ".INF", "+.inf", "+.Inf", "+.INF"]

def negativeInfiniteWords : List Text := ["-.inf", "-.Inf", "-.INF"]

def undefinedWords : List Text := [".nan", ".NaN", ".NAN"]

def isDigit (byte : UInt8) : Bool := 48 ≤ byte && byte ≤ 57

/-- A number that may have a sign, a point and an exponent, with a digit
somewhere. -/
def isDecimal (text : Text) : Bool :=
  let unsigned := match text with
    | 43 :: rest => rest
    | 45 :: rest => rest
    | _ => text
  let whole := unsigned.takeWhile isDigit
  let (fraction, rest) := match unsigned.dropWhile isDigit with
    | 46 :: rest => (rest.takeWhile isDigit, rest.dropWhile isDigit)
    | rest => ([], rest)
  let exponentFits := match rest with
    | [] => true
    | mark :: 43 :: digits => isExponent mark digits
    | mark :: 45 :: digits => isExponent mark digits
    | mark :: digits => isExponent mark digits
  !(whole.isEmpty && fraction.isEmpty) && exponentFits
where
  isExponent (mark : UInt8) (digits : Text) : Bool :=
    (mark = 101 || mark = 69) && !digits.isEmpty && digits.all isDigit

/-- A whole number; underscores do not count. -/
def integer? (text : Text) : Option Value :=
  let plain := text.filter fun byte => byte ≠ 95
  match Integer.ofText plain, Integer.natural 0xffffffffffffffff plain with
  | .ok value, _ => some (.integer value)
  | .error _, .ok value => some (.whole value)
  | .error _, .error _ => none

/-- A number that is not whole.  Underscores do not count, unless it starts with
a point. -/
def number? (text : Text) : Option Value :=
  let plain :=
    if text.head? = some 46 then text else text.filter fun byte => byte ≠ 95
  if isDecimal plain then (Number.doubleOfText? plain).map .number else none

/-- The words that stand for numbers. -/
def numberWord? (text : Text) : Option Value :=
  if text ∈ infiniteWords then some (.infinite false)
  else if text ∈ negativeInfiniteWords then some (.infinite true)
  else if text ∈ undefinedWords then some .undefined
  else none

/-- The words that stand for truth values. -/
def truthWord? (text : Text) : Option Value :=
  if text ∈ trueWords then some (.truth true)
  else if text ∈ falseWords then some (.truth false)
  else none

/-- The value of a scalar by its text. -/
def resolve (text : Text) : Value :=
  if text ∈ nullWords then .null
  else match truthWord? text, numberWord? text, text.head? with
    | some value, _, _ => value
    | none, some value, _ => value
    | none, none, some first =>
        if isDigit first || first = 43 || first = 45 then
          (integer? text <|> number? text).getD (.text text)
        else if first = 46 then (number? text).getD (.text text)
        else .text text
    | none, none, none => .text text

/-- The tags that are known have a text in common. -/
def knownTag (name : Text) : Text := "tag:yaml.org,2002:" ++ name

/-- The value of a scalar by its tag; other tags than those below leave it a
text. -/
def tagged (tag text : Text) : Option Value :=
  if tag = knownTag "null" then if text ∈ nullWords then some .null else none
  else if tag = knownTag "bool" then truthWord? text
  else if tag = knownTag "int" then integer? text
  else if tag = knownTag "float" then
    match numberWord? text, integer? text with
    | some value, _ => some value
    | none, some (.integer value) => some (.whole value)
    | none, _ => number? text
  else some (.text text)

/-! ### Nodes -/

namespace Node

/-- A key that stands for the entries of its value. -/
def isMerge : Node → Bool
  | .scalar text tag isPlain =>
      text = "<<" &&
        (tag = [] && isPlain || tag = "!" || tag = knownTag "merge")
  | _ => false

/-- The text of a key; collections are not keys. -/
def name? : Node → Option Text
  | .scalar text tag isPlain =>
      if tag = [] then some (if isPlain ∧ text ∈ nullWords then [] else text)
      else (tagged tag text).map fun _ => text
  | _ => none

/-- The entries of the records that a value holds; of several the first counts
most. -/
def merged : Value → Option (List (Text × Value))
  | .record entries => some entries
  | .list items => items.reverse.foldlM (fun entries item => match item with
      | .record more => some (entries ++ more)
      | _ => none) []
  | _ => none

mutual

def value : Node → Option Value
  | .scalar text tag isPlain =>
      if tag ≠ [] then tagged tag text
      else some (if isPlain then resolve text else .text text)
  | .list items => (values items).map .list
  | .record entries => (entryValues entries).map .record

def values : List Node → Option (List Value)
  | [] => some []
  | item :: rest =>
      match item.value, values rest with
      | some first, some more => some (first :: more)
      | _, _ => none

def entryValues : List (Node × Node) → Option (List (Text × Value))
  | [] => some []
  | (key, node) :: rest =>
      match node.value, entryValues rest with
      | some found, some more =>
          if key.isMerge then (merged found).map fun entries => entries ++ more
          else key.name?.map fun name => (name, found) :: more
      | _, _ => none

end

end Node

/-! ### Texts -/

/-- Control characters are refused. -/
def isAllowed (character : Char) : Bool :=
  let point := character.toNat
  point = 9 || point = 10 || point = 13 || 0x20 ≤ point && point ≤ 0x7e ||
    point = 0x85 || 0xa0 ≤ point && point ≤ 0xfffd || 0x10000 ≤ point

/-- The record that a text holds; nothing and null stand for an empty one. -/
def read (source : Text) : Option Value :=
  let source := (source.dropStart? [0xef, 0xbb, 0xbf]).getD source
  if !source.isUtf8 || !source.shown.all isAllowed then none
  else match (document (tokens source.shown)).bind Node.value with
    | some (.record entries) => some (.record entries)
    | some .null => some (.record [])
    | _ => none

end GenKill.Settings.Yaml
