import GenKill.Text

/-!
# Floating-point numbers

Numbers are binary floating-point numbers with a precision of their own, in
bits.  Every result is the exact one rounded to the nearest number of its
precision, ties to even.  Their text has the fewest digits that read back as the
same number, and never an exponent.
-/

namespace GenKill

inductive Magnitude where
  /-- `mantissa * 2 ^ exponent` -/
  | finite (mantissa : Nat) (exponent : Int)
  | infinite
  deriving DecidableEq

structure Number where
  negative : Bool
  magnitude : Magnitude
  precision : Nat
  deriving DecidableEq

namespace Number

/-- The number of binary digits. -/
def bitLength (number : Nat) : Nat :=
  if number = 0 then 0 else Nat.log2 number + 1

/-- `mantissa * 2 ^ exponent` with at most `precision` digits.  `sticky` says
that the exact value is a little larger, which only decides ties. -/
def roundMagnitude (precision : Nat) (mantissa : Nat) (exponent : Int)
    (sticky : Bool) : Magnitude :=
  let excess := bitLength mantissa - precision
  if excess = 0 then .finite mantissa exponent
  else
    let quotient := mantissa >>> excess
    let remainder := mantissa - quotient <<< excess
    let half := 1 <<< (excess - 1)
    let up := half < remainder ∨ remainder = half ∧ (sticky ∨ quotient % 2 = 1)
    .finite (if up then quotient + 1 else quotient) (exponent + excess)

def rounded (negative : Bool) (precision mantissa : Nat) (exponent : Int)
    (sticky : Bool := false) : Number :=
  ⟨negative, roundMagnitude precision mantissa exponent sticky, precision⟩

/-- The precision that numbers are written with. -/
def standardPrecision : Nat := 512

/-- The precision of the numbers that take eight bytes. -/
def doublePrecision : Nat := 53

/-- The precision of positions in a sequence. -/
def indexPrecision : Nat := 64

def ofIndex (index : Nat) : Number := ⟨false, .finite index 0, indexPrecision⟩

def isZero (number : Number) : Bool :=
  match number.magnitude with
  | .finite mantissa _ => mantissa = 0
  | .infinite => false

def neg (number : Number) : Number :=
  { number with negative := !number.negative }

/-- The mantissas of two finite values for their smaller exponent. -/
def align (mantissa : Nat) (exponent : Int) (mantissa' : Nat)
    (exponent' : Int) : Nat × Nat × Int :=
  let least := min exponent exponent'
  (mantissa <<< (exponent - least).toNat,
    mantissa' <<< (exponent' - least).toNat, least)

/-- The sum at a given precision; none for infinities of opposite signs. -/
def addAt (precision : Nat) (left right : Number) : Option Number :=
  match left.magnitude, right.magnitude with
  | .infinite, .infinite =>
      if left.negative = right.negative then some { left with precision }
      else none
  | .infinite, _ => some { left with precision }
  | _, .infinite => some { right with precision }
  | .finite mantissa exponent, .finite mantissa' exponent' =>
      let (first, second, least) := align mantissa exponent mantissa' exponent'
      if left.negative = right.negative then
        some (rounded left.negative precision (first + second) least)
      else if first = second then some (rounded false precision 0 0)
      else if second < first then
        some (rounded left.negative precision (first - second) least)
      else some (rounded right.negative precision (second - first) least)

/-- The product at a given precision; none for zero times infinity. -/
def mulAt (precision : Nat) (left right : Number) : Option Number :=
  let negative := left.negative != right.negative
  match left.magnitude, right.magnitude with
  | .finite mantissa exponent, .finite mantissa' exponent' =>
      some (rounded negative precision (mantissa * mantissa')
        (exponent + exponent'))
  | _, _ =>
      if left.isZero ∨ right.isZero then none
      else some ⟨negative, .infinite, precision⟩

/-- The quotient at a given precision; none for zero by zero and infinity by
infinity. -/
def divAt (precision : Nat) (left right : Number) : Option Number :=
  let negative := left.negative != right.negative
  match left.magnitude, right.magnitude with
  | .infinite, .infinite => none
  | .infinite, _ => some ⟨negative, .infinite, precision⟩
  | _, .infinite => some ⟨negative, .finite 0 0, precision⟩
  | .finite mantissa exponent, .finite mantissa' exponent' =>
      if mantissa' = 0 then
        if mantissa = 0 then none else some ⟨negative, .infinite, precision⟩
      else
        -- two digits more than the precision, so that the remainder only
        -- decides ties
        let shift := precision + 2 + bitLength mantissa' - bitLength mantissa
        let scaled := mantissa <<< shift
        some (rounded negative precision (scaled / mantissa')
          (exponent - exponent' - shift) (scaled % mantissa' ≠ 0))

def add (left right : Number) : Option Number :=
  addAt (max left.precision right.precision) left right

def sub (left right : Number) : Option Number := add left right.neg

/-- The least precision that holds the number. -/
def leastPrecision (number : Number) : Nat :=
  match number.magnitude with
  | .infinite => 0
  | .finite mantissa _ => bitLength (oddPart mantissa mantissa)
where
  /-- Without its factors of two. -/
  oddPart : Nat → Nat → Nat
    | 0, number => number
    | tries + 1, number =>
        if number ≠ 0 ∧ number % 2 = 0 then oddPart tries (number / 2)
        else number

/-- The product keeps the digits that it needs, up to the standard precision. -/
def mul (left right : Number) : Option Number :=
  (mulAt standardPrecision left right).map fun product =>
    { product with
      precision :=
        max (max left.precision right.precision) product.leastPrecision }

def div (left right : Number) : Option Number :=
  divAt (max left.precision right.precision) left right

/-- The number without its fraction; zero for infinity. -/
def truncate (number : Number) : Nat :=
  match number.magnitude with
  | .infinite => 0
  | .finite mantissa exponent =>
      if 0 ≤ exponent then mantissa <<< exponent.toNat
      else mantissa >>> (-exponent).toNat

/-- The remainder of division toward zero; a remainder by zero leaves the number
as it is. -/
def mod (left right : Number) : Option Number :=
  if right.isZero then some left
  else match left.div right with
    | none => none
    | some ratio =>
        let whole := ratio.truncate
        let precision := max indexPrecision (bitLength whole)
        let factor : Number :=
          ⟨ratio.negative && whole != 0, .finite whole 0, precision⟩
        match mulAt precision right factor with
        | none => none
        | some product => addAt precision left product.neg

/-- The sign of the difference. -/
def compare (left right : Number) : Ordering :=
  let signed (number : Number) (mantissa : Nat) : Int :=
    if number.negative then -(mantissa : Int) else mantissa
  match left.magnitude, right.magnitude with
  | .infinite, .infinite =>
      if left.negative = right.negative then .eq
      else if left.negative then .lt
      else .gt
  | .infinite, _ => if left.negative then .lt else .gt
  | _, .infinite => if right.negative then .gt else .lt
  | .finite mantissa exponent, .finite mantissa' exponent' =>
      let (first, second, _) := align mantissa exponent mantissa' exponent'
      Ord.compare (signed left first) (signed right second)

/-- The position that a number means in a sequence. -/
def toIndex? (number : Number) : Option Nat :=
  match number.magnitude with
  | .infinite => none
  | .finite mantissa exponent =>
      if mantissa = 0 then some 0
      else if number.negative then none
      else if 0 ≤ exponent then some (mantissa <<< exponent.toNat)
      else
        let unit := 1 <<< (-exponent).toNat
        if mantissa % unit = 0 then some (mantissa / unit) else none

/-! ### Text -/

/-- `0.digits * 10 ^ point`, without zeros at the end. -/
structure Decimal where
  digits : List Nat
  point : Int

namespace Decimal

def trimmed (digits : List Nat) : List Nat :=
  (digits.reverse.dropWhile (· = 0)).reverse

def digitsOf (number : Nat) : List Nat :=
  if number = 0 then []
  else (Text.ofNat number).map fun digit => digit.toNat - 48

/-- The exact decimal of `mantissa * 2 ^ exponent`. -/
def ofBinary (mantissa : Nat) (exponent : Int) : Decimal :=
  if 0 ≤ exponent then
    let digits := digitsOf (mantissa <<< exponent.toNat)
    ⟨trimmed digits, digits.length⟩
  else
    let places := (-exponent).toNat
    let digits := digitsOf (mantissa * Nat.pow 5 places)
    ⟨trimmed digits, (digits.length : Int) - places⟩

def digit (decimal : Decimal) (index : Nat) : Nat := decimal.digits.getD index 0

/-- The first `count` digits. -/
def roundDown (decimal : Decimal) (count : Nat) : Decimal :=
  if decimal.digits.length ≤ count then decimal
  else { decimal with digits := trimmed (decimal.digits.take count) }

/-- One more in the last of the first `count` digits. -/
def roundUp (decimal : Decimal) (count : Nat) : Decimal :=
  if decimal.digits.length ≤ count then decimal
  else match (decimal.digits.take count).reverse.dropWhile (· = 9) with
    | [] => ⟨[1], decimal.point + 1⟩
    | last :: rest => { decimal with digits := ((last + 1) :: rest).reverse }

/-- The nearest decimal with `count` digits, ties to even. -/
def round (decimal : Decimal) (count : Nat) : Decimal :=
  match decimal.digits.drop count with
  | [] => decimal
  | [5] =>
      if count ≠ 0 ∧ decimal.digit (count - 1) % 2 = 1 then
        decimal.roundUp count
      else decimal.roundDown count
  | next :: _ =>
      if 5 ≤ next then decimal.roundUp count else decimal.roundDown count

/-- The shortest decimal between two bounds, which belong to the interval if
`inclusive`.  Digits are taken from the front until cutting off or rounding up
stays between the bounds. -/
def shortest (decimal lower upper : Decimal) (inclusive : Bool) :
    Nat → Nat → Decimal
  | 0, _ => decimal
  | fuel + 1, index =>
      let own := decimal.digit index
      let high := upper.digit index
      let down :=
        lower.digit index ≠ own ∨ inclusive ∧ index + 1 = lower.digits.length
      let up := own ≠ high ∧
        (inclusive ∨ own + 1 < high ∨ index + 1 < upper.digits.length)
      if down ∧ up then decimal.round (index + 1)
      else if down then decimal.roundDown (index + 1)
      else if up then decimal.roundUp (index + 1)
      else shortest decimal lower upper inclusive fuel (index + 1)

def digitText (digits : List Nat) : Text :=
  digits.map fun digit => 48 + digit.toUInt8

/-- Positional notation. -/
def text (decimal : Decimal) : Text :=
  let count := decimal.digits.length
  let whole : Text :=
    if decimal.point ≤ 0 then "0"
    else
      let places := decimal.point.toNat
      digitText (decimal.digits.take places ++
        List.replicate (places - count) 0)
  let fraction : Text :=
    digitText (List.replicate (-decimal.point).toNat 0 ++
      decimal.digits.drop decimal.point.toNat)
  if (count : Int) ≤ decimal.point ∨ count = 0 then whole
  else whole ++ "." ++ fraction

end Decimal

/-- The shortest decimal of `mantissa * 2 ^ exponent` among all that round to
it, where the numbers below a power of two are taken to be as far apart as those
above. -/
def shortest (precision mantissa : Nat) (exponent : Int) : Decimal :=
  -- half a unit in the last place becomes the unit
  let shift : Int := (precision + 1 : Int) - bitLength mantissa
  let scaled :=
    if 0 ≤ shift then mantissa <<< shift.toNat else mantissa >>> (-shift).toNat
  let exponent' := exponent - shift
  let exact := Decimal.ofBinary mantissa exponent
  exact.shortest (Decimal.ofBinary (scaled - 1) exponent')
    (Decimal.ofBinary (scaled + 1) exponent') (scaled / 2 % 2 = 0)
    exact.digits.length 0

def text (number : Number) : Text :=
  match number.magnitude with
  | .infinite => if number.negative then "-Inf" else "+Inf"
  | .finite mantissa exponent =>
      let sign : Text := if number.negative then "-" else []
      if mantissa = 0 then sign ++ "0"
      else sign ++ (shortest number.precision mantissa exponent).text

/-! ### Reading -/

def digitValue? (byte : UInt8) : Option Nat :=
  if 48 ≤ byte ∧ byte ≤ 57 then some (byte.toNat - 48) else none

/-- The value of the leading digits, their number, and the rest. -/
def readDigits : Nat → Nat → Text → Nat × Nat × Text
  | value, count, [] => (value, count, [])
  | value, count, head :: tail =>
      match digitValue? head with
      | some digit => readDigits (value * 10 + digit) (count + 1) tail
      | none => (value, count, head :: tail)

/-- Digits with an optional point: their value, the digits after the point, and
the rest. -/
def readMantissa (text : Text) : Option (Nat × Nat × Text) :=
  match readDigits 0 0 text with
  | (whole, count, 46 :: rest) =>
      match readDigits whole 0 rest with
      | (value, places, rest) =>
          if count + places = 0 then none else some (value, places, rest)
  | (whole, count, rest) => if count = 0 then none else some (whole, 0, rest)

/-- A sign and the text after it. -/
def readSign : Text → Bool × Text
  | 45 :: rest => (true, rest)
  | 43 :: rest => (false, rest)
  | text => (false, text)

/-- The exponent that ends a number, and whether it is one of two instead of
ten. -/
def readExponent : Text → Option (Int × Bool)
  | [] => some (0, false)
  | mark :: rest =>
      if mark ∈ [101, 69, 112, 80] then
        let (negative, digits) := readSign rest
        match readDigits 0 0 digits with
        | (_, 0, _) => none
        | (value, _, []) =>
            if value < 0x80000000 then
              some (if negative then -(value : Int) else value,
                mark = 112 ∨ mark = 80)
            else none
        | _ => none
      else none

/-- Powers of five, with a working precision somewhat above that of the
result. -/
def powFive (precision : Nat) (power : Nat) : Number :=
  let five : Number := ⟨false, .finite 5 0, precision + 64⟩
  if power ≤ 27 then ⟨false, .finite (Nat.pow 5 power) 0, precision⟩
  else
    let start : Number := ⟨false, .finite (Nat.pow 5 27) 0, precision⟩
    raise precision start five (bitLength (power - 27)) (power - 27)
where
  raise (precision : Nat) (result factor : Number) : Nat → Nat → Number
    | 0, _ => result
    | bits + 1, power =>
        let result :=
          if power % 2 = 1 then (mulAt precision result factor).getD result
          else result
        raise precision result
          ((mulAt (precision + 64) factor factor).getD factor) bits (power / 2)

/-- `mantissa * 10 ^ ten * 2 ^ two` -/
def scale (negative : Bool) (mantissa : Nat) (ten two : Int) : Option Number :=
  let precision := standardPrecision
  if mantissa = 0 then some (rounded negative precision 0 0)
  else
    let exact : Number := ⟨negative, .finite mantissa (ten + two), precision⟩
    if ten = 0 then some (rounded negative precision mantissa two)
    else if ten < 0 then
      divAt precision exact (powFive (precision + 64) (-ten).toNat)
    else mulAt precision exact (powFive (precision + 64) ten.toNat)

/-- Reads a number at the standard precision. -/
def ofText? (text : Text) : Option Number :=
  let (negative, unsigned) := readSign text
  if unsigned = "Inf" ∨ unsigned = "inf" then
    some ⟨negative, .infinite, standardPrecision⟩
  else match readMantissa unsigned with
    | none => none
    | some (mantissa, places, rest) =>
        match readExponent rest with
        | none => none
        | some (exponent, binary) =>
            if binary then scale negative mantissa (-(places : Int)) exponent
            else scale negative mantissa (exponent - places) 0

/-- The number with fewer digits. -/
def atPrecision (precision : Nat) (number : Number) : Number :=
  match number.magnitude with
  | .infinite => { number with precision }
  | .finite mantissa exponent =>
      rounded number.negative precision mantissa exponent

/-- Whether a number has more digits before the point than numbers of eight
bytes can have. -/
def exceedsDouble (number : Number) : Bool :=
  match number.magnitude with
  | .infinite => true
  | .finite mantissa exponent => decide (1024 < exponent + bitLength mantissa)

/-- Reads a number at the precision of eight bytes; none if it is too large for
them. -/
def doubleOfText? (text : Text) : Option Number :=
  match ofText? text with
  | none => none
  | some number =>
      let double := number.atPrecision doublePrecision
      if double.exceedsDouble then none else some double

/-- The whole part. -/
def toInt (number : Number) : Int :=
  if number.negative then -(number.truncate : Int) else number.truncate

end Number

end GenKill
