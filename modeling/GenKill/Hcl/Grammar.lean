import GenKill.Hcl.Template
import GenKill.Hcl.Token

/-!
# The grammar of HCL text

Recursive descent.  Line breaks end definitions, but mean nothing inside
brackets, parentheses and template sequences; every reader is told which of the
two holds.  The readers of parts of an expression take the reader of whole
expressions as an argument, so that the recursion is in one place
(`expression`), where it is bounded by the number of levels.
-/

namespace GenKill.Hcl.Grammar

/-- Reads something at the start of the tokens; `lines` says whether line breaks
count. -/
abbrev Reader (α : Type) :=
  (lines : Bool) → List Token → Option (α × List Token)

/-- The tokens from the next one that counts. -/
def next (lines : Bool) (tokens : List Token) : List Token :=
  if lines then tokens else tokens.dropWhile fun token => token = .newline

/-- Reads one given token. -/
def expect (lines : Bool) (token : Token) (tokens : List Token) :
    Option (List Token) :=
  match next lines tokens with
  | head :: rest => if head = token then some rest else none
  | [] => none

/-- Reads a word. -/
def ident? (lines : Bool) (tokens : List Token) : Option (Text × List Token) :=
  match next lines tokens with
  | .ident name :: rest => some (name, rest)
  | _ => none

/-! ### Sequences -/

/-- Expressions with commas between them up to a closing token; a comma may end
the list. -/
def items (expr : Reader Expr) (close : Token) :
    Nat → List Token → Option (List Expr × List Token)
  | 0, _ => none
  | fuel + 1, tokens =>
      match expect false close tokens with
      | some rest => some ([], rest)
      | none =>
          match expr false tokens with
          | none => none
          | some (first, rest) =>
              match next false rest with
              | .comma :: rest =>
                  (items expr close fuel rest).map fun (more, rest) =>
                    (first :: more, rest)
              | rest =>
                  (expect false close rest).map fun rest => ([first], rest)

/-- The arguments of a call, which may end with an ellipsis. -/
def arguments (expr : Reader Expr) : Nat → List Token → Option (List Token)
  | 0, _ => none
  | fuel + 1, tokens =>
      match expect false .closeParen tokens with
      | some rest => some rest
      | none =>
          match expr false tokens with
          | none => none
          | some (_, rest) =>
              match next false rest with
              | .comma :: rest => arguments expr fuel rest
              | .ellipsis :: rest => expect false .closeParen rest
              | rest => expect false .closeParen rest

/-- The call of a function after its name. -/
def call (expr : Reader Expr) (lines : Bool) :
    Nat → List Token → Option (Expr × List Token)
  | 0, _ => none
  | fuel + 1, tokens =>
      match next lines tokens with
      | .openParen :: rest =>
          (arguments expr (rest.length + 1) rest).map fun rest => (.call, rest)
      | .doubleColon :: rest =>
          match ident? lines rest with
          | some (_, rest) => call expr lines fuel rest
          | none => none
      | _ => none

/-- The entries of an object, separated by commas or line breaks. -/
def entries (expr : Reader Expr) :
    Nat → List Token → Option (List Entry × List Token)
  | 0, _ => none
  | fuel + 1, tokens =>
      match tokens with
      | .newline :: rest => entries expr fuel rest
      | .closeBrace :: rest => some ([], rest)
      | _ =>
          let bare := tokens.head? ≠ some .openParen
          match expr true tokens with
          | some (key, .equals :: rest) => value fuel bare key rest
          | some (key, .colon :: rest) => value fuel bare key rest
          | _ => none
where
  value (fuel : Nat) (bare : Bool) (key : Expr) (tokens : List Token) :
      Option (List Entry × List Token) :=
    match expr true tokens with
    | some (value, .closeBrace :: rest) => some ([.mk bare key value], rest)
    | some (value, .comma :: rest) => more fuel (.mk bare key value) rest
    | some (value, .newline :: rest) => more fuel (.mk bare key value) rest
    | _ => none
  more (fuel : Nat) (entry : Entry) (tokens : List Token) :
      Option (List Entry × List Token) :=
    (entries expr fuel tokens).map fun (more, rest) => (entry :: more, rest)

/-! ### Loops -/

/-- The variables of a loop and its source: `key, name in source` or `name in
source`. -/
def binders (expr : Reader Expr) (tokens : List Token) :
    Option (Option Text × Text × Expr × List Token) :=
  match ident? false tokens with
  | none => none
  | some (first, rest) =>
      let names := match next false rest with
        | .comma :: rest =>
            (ident? false rest).map fun (second, rest) =>
              (some first, second, rest)
        | rest => some (none, first, rest)
      match names with
      | none => none
      | some (key, name, rest) =>
          match expect false (.ident "in") rest with
          | none => none
          | some rest =>
              (expr false rest).map fun (source, rest) =>
                (key, name, source, rest)

/-- The condition that ends a loop, if there is one. -/
def guards (expr : Reader Expr) (tokens : List Token) :
    Option (List Expr × List Token) :=
  match expect false (.ident "if") tokens with
  | none => some ([], tokens)
  | some rest => (expr false rest).map fun (guard, rest) => ([guard], rest)

/-- A loop that makes a tuple, after its keyword. -/
def forTuple (expr : Reader Expr) (tokens : List Token) :
    Option (Expr × List Token) :=
  match binders expr tokens with
  | none => none
  | some (key, name, source, rest) =>
      match expect false .colon rest with
      | none => none
      | some rest =>
          match expr false rest with
          | none => none
          | some (value, rest) =>
              match guards expr rest with
              | none => none
              | some (guards, rest) =>
                  (expect false .closeBracket rest).map fun rest =>
                    (.forTuple key name source value guards, rest)

/-- A loop that makes an object, after its keyword. -/
def forObject (expr : Reader Expr) (tokens : List Token) :
    Option (Expr × List Token) :=
  match binders expr tokens with
  | none => none
  | some (key, name, source, rest) =>
      match (expect false .colon rest).bind (expr false) with
      | none => none
      | some (label, rest) =>
          match (expect false .fatArrow rest).bind (expr false) with
          | none => none
          | some (value, rest) =>
              let (grouped, rest) := match expect false .ellipsis rest with
                | some rest => (true, rest)
                | none => (false, rest)
              match guards expr rest with
              | none => none
              | some (guards, rest) =>
                  (expect false .closeBrace rest).map fun rest =>
                    (.forObject key name source label value guards grouped,
                      rest)

/-! ### Templates -/

/-- A directive after its opening mark. -/
def directive (expr : Reader Expr) (tokens : List Token) :
    Option (Template.Part × List Token) :=
  match ident? false tokens with
  | none => none
  | some (name, rest) =>
      if name = "if" then
        (expr false rest).map fun (condition, rest) => (.openIf condition, rest)
      else if name = "else" then some (.otherwise, rest)
      else if name = "endif" then some (.closeIf, rest)
      else if name = "for" then
        (binders expr rest).map fun (key, name, source, rest) =>
          (.openFor key name source, rest)
      else if name = "endfor" then some (.closeFor, rest)
      else none

/-- The parts of a template, collected in reverse.  `trimNext` and `canTrim` say
that blanks are to be stripped from the next text, and that the last part is a
text. -/
def parts (expr : Reader Expr) (close : Token) :
    Nat → (trimNext canTrim : Bool) → List Template.Part → List Token →
      Option (List Template.Part × List Token)
  | 0, _, _, _, _ => none
  | fuel + 1, trimNext, canTrim, done, tokens =>
      match tokens with
      | .literal text :: rest =>
          let text := if trimNext then text.trimStart else text
          parts expr close fuel false true (.text text :: done) rest
      | .interpolation strip :: rest =>
          let done := if strip && canTrim then Template.trimLast done else done
          match expr false rest with
          | none => none
          | some (value, rest) => finish fuel (.value value :: done) rest
      | .directive strip :: rest =>
          let done := if strip && canTrim then Template.trimLast done else done
          match directive expr rest with
          | none => none
          | some (part, rest) => finish fuel (part :: done) rest
      | head :: rest => if head = close then some (done.reverse, rest) else none
      | [] => none
where
  finish (fuel : Nat) (done : List Template.Part) (tokens : List Token) :
      Option (List Template.Part × List Token) :=
    match next false tokens with
    | .sequenceEnd strip :: rest => parts expr close fuel strip false done rest
    | _ => none

/-- A template after its opening mark. -/
def template (expr : Reader Expr) (close : Token) (flush : Bool)
    (tokens : List Token) : Option (Expr × List Token) :=
  match parts expr close (tokens.length + 1) false false [] tokens with
  | none => none
  | some (found, rest) =>
      let found := if flush then Template.flush found else found
      (Template.expr? found).map fun expr => (expr, rest)

/-! ### Terms -/

/-- A word that is not the name of a function. -/
def word (name : Text) : Expr :=
  if name = "true" then .literal (.bool true)
  else if name = "false" then .literal (.bool false)
  else if name = "null" then .literal (.null .any)
  else .variable name

def isCall (lines : Bool) (tokens : List Token) : Bool :=
  match next lines tokens with
  | .openParen :: _ => true
  | .doubleColon :: _ => true
  | _ => false

/-- A term without a leading sign. -/
def simpleTerm (expr : Reader Expr) : Reader Expr := fun lines tokens =>
  match next lines tokens with
  | .openParen :: rest =>
      match expr false rest with
      | none => none
      | some (inner, rest) =>
          (expect false .closeParen rest).map fun rest => (.group inner, rest)
  | .number text :: rest =>
      (Number.ofText? text).map fun number => (.literal (.number number), rest)
  | .ident name :: rest =>
      if isCall lines rest then call expr lines (rest.length + 1) rest
      else some (word name, rest)
  | .openQuote :: rest => template expr .closeQuote false rest
  | .openHeredoc flush :: rest => template expr .closeHeredoc flush rest
  | .openBracket :: rest =>
      match expect false (.ident "for") rest with
      | some rest => forTuple expr rest
      | none =>
          (items expr .closeBracket (rest.length + 1) rest).map
            fun (items, rest) => (.tuple items, rest)
  | .openBrace :: rest =>
      match expect false (.ident "for") rest with
      | some rest => forObject expr rest
      | none =>
          (entries expr (rest.length + 1) rest).map fun (entries, rest) =>
            (.object entries, rest)
  | _ => none

/-- An index given by a number after a point. -/
def pointIndex? (text : Text) : Option Expr :=
  if text.contains 46 then none
  else (Number.ofText? text).map fun number => .literal (.number number)

/-- The attributes and numbers that follow an attribute splat. -/
def splatAttributes (lines : Bool) :
    Nat → Expr → List Token → Option (Expr × List Token)
  | 0, _, _ => none
  | fuel + 1, source, tokens =>
      match next lines tokens with
      | .dot :: rest =>
          match next lines rest with
          | .number text :: rest =>
              match pointIndex? text with
              | some key => splatAttributes lines fuel (.index source key) rest
              | none => none
          | .ident name :: rest =>
              splatAttributes lines fuel (.attribute source name) rest
          | _ => none
      | _ => some (source, tokens)

/-- What follows a term: attributes, indices and splats. -/
def traversals (expr : Reader Expr) (lines : Bool) :
    Nat → Expr → List Token → Option (Expr × List Token)
  | 0, _, _ => none
  | fuel + 1, source, tokens =>
      match next lines tokens with
      | .dot :: rest =>
          match next lines rest with
          | .ident name :: rest =>
              traversals expr lines fuel (.attribute source name) rest
          | .number text :: rest =>
              match pointIndex? text with
              | some key => traversals expr lines fuel (.index source key) rest
              | none => none
          | .star :: rest =>
              match splatAttributes lines (rest.length + 1) .item rest with
              | some (each, rest) =>
                  traversals expr lines fuel (.splat source each) rest
              | none => none
          | _ => none
      | .openBracket :: rest =>
          match next lines rest with
          | .star :: rest =>
              match (expect lines .closeBracket rest).bind
                (traversals expr lines fuel .item) with
              | some (each, rest) =>
                  traversals expr lines fuel (.splat source each) rest
              | none => none
          | _ =>
              match expr false rest with
              | none => none
              | some (key, rest) =>
                  match expect false .closeBracket rest with
                  | none => none
                  | some rest =>
                      let key := match key.constant? with
                        | some value => .literal value
                        | none => key
                      traversals expr lines fuel (.index source key) rest
      | _ => some (source, tokens)

/-- A term with its signs and with what follows it. -/
def term (expr : Reader Expr) (lines : Bool) :
    Nat → List Token → Option (Expr × List Token)
  | 0, _ => none
  | fuel + 1, tokens =>
      match next lines tokens with
      | .minus :: rest =>
          (term expr lines fuel rest).map fun (operand, rest) =>
            (.unary .negate operand, rest)
      | .bang :: rest =>
          (term expr lines fuel rest).map fun (operand, rest) =>
            (.unary .complement operand, rest)
      | _ =>
          match simpleTerm expr lines tokens with
          | none => none
          | some (source, rest) =>
              traversals expr lines (rest.length + 1) source rest

/-! ### Operators -/

/-- The operator of a token and how tightly it binds. -/
def binaryOp? : Token → Option (BinaryOp × Nat)
  | .disjunction => some (.disjunction, 0)
  | .conjunction => some (.conjunction, 1)
  | .equalTo => some (.equal, 2)
  | .notEqual => some (.notEqual, 2)
  | .greater => some (.greater, 3)
  | .greaterEqual => some (.greaterEqual, 3)
  | .less => some (.less, 3)
  | .lessEqual => some (.lessEqual, 3)
  | .plus => some (.add, 4)
  | .minus => some (.subtract, 4)
  | .star => some (.multiply, 5)
  | .slash => some (.divide, 5)
  | .percent => some (.modulo, 5)
  | _ => none

/-- Extends a left operand by the operators that bind at least as tightly as
`level`; the operands are joined from the left. -/
def operators (expr : Reader Expr) (lines : Bool) :
    Nat → Nat → Expr → List Token → Option (Expr × List Token)
  | 0, _, _, _ => none
  | fuel + 1, level, left, tokens =>
      match (next lines tokens).head?.bind binaryOp? with
      | none => some (left, tokens)
      | some (op, tightness) =>
          if tightness < level then some (left, tokens)
          else
            let rest := (next lines tokens).tail
            match term expr lines (rest.length + 1) rest with
            | none => none
            | some (right, rest) =>
                match operators expr lines fuel (tightness + 1) right rest with
                | none => none
                | some (right, rest) =>
                    operators expr lines fuel level (.binary op left right) rest

/-- An expression whose parts are read by `expr`. -/
def conditional (expr : Reader Expr) : Reader Expr := fun lines tokens =>
  match term expr lines (tokens.length + 1) tokens with
  | none => none
  | some (first, rest) =>
      match operators expr lines (rest.length + 1) 0 first rest with
      | none => none
      | some (condition, rest) =>
          match next lines rest with
          | .question :: rest' =>
              match expr lines rest' with
              | none => none
              | some (yes, rest') =>
                  match (expect lines .colon rest').bind (expr lines) with
                  | none => none
                  | some (no, rest') =>
                      some (.conditional condition yes no, rest')
          | _ => some (condition, rest)

/-- Expressions of at most so many levels. -/
def expression : Nat → Reader Expr
  | 0 => fun _ _ => none
  | depth + 1 => conditional (expression depth)

/-- The expression at the start of the tokens. -/
def wholeExpression (tokens : List Token) : Option (Expr × List Token) :=
  expression (tokens.length + 1) true tokens

/-! ### Bodies -/

/-- A line break, or the end of the text. -/
def lineEnd : List Token → Option (List Token)
  | [] => some []
  | .newline :: rest => some rest
  | _ => none

/-- The labels of a block up to its brace.  A quoted label is one text. -/
def labels : List Token → Option (List Text × List Token)
  | .openBrace :: rest => some ([], rest)
  | .ident name :: rest =>
      (labels rest).map fun (more, rest) => (name :: more, rest)
  | .openQuote :: .closeQuote :: rest =>
      (labels rest).map fun (more, rest) => ([] :: more, rest)
  | .openQuote :: .literal text :: .closeQuote :: rest =>
      (labels rest).map fun (more, rest) => (text :: more, rest)
  | _ => none

/-- The only definition of a block on one line, and its closing brace. -/
def onlyDefinition : List Token → Option (Body × List Token)
  | .ident name :: .equals :: rest =>
      match wholeExpression rest with
      | some (expr, .closeBrace :: rest) => some (.mk [⟨name, expr⟩] [], rest)
      | _ => none
  | _ => none

/-- Definitions of one name are refused. -/
def addDefinition (definition : Definition) : Body → Option Body
  | .mk definitions blocks =>
      if definitions.any fun other => other.name = definition.name then none
      else some (.mk (definition :: definitions) blocks)

def addBlock (block : Block) : Body → Body
  | .mk definitions blocks => .mk definitions (block :: blocks)

/-- A body up to a closing brace, or up to the end for the outermost one. -/
def body : Nat → (outermost : Bool) → List Token → Option (Body × List Token)
  | 0, _, _ => none
  | _ + 1, true, [] => some (.mk [] [], [])
  | _ + 1, false, .closeBrace :: rest => some (.mk [] [], rest)
  | fuel + 1, outermost, .newline :: rest => body fuel outermost rest
  | fuel + 1, outermost, .ident name :: .equals :: rest =>
      match wholeExpression rest with
      | none => none
      | some (expr, rest) =>
          match (lineEnd rest).bind (body fuel outermost) with
          | none => none
          | some (more, rest) =>
              (addDefinition ⟨name, expr⟩ more).map fun more => (more, rest)
  | fuel + 1, outermost, .ident type :: rest =>
      match labels rest with
      | none => none
      | some (labels, rest) =>
          let inner := match rest with
            | .newline :: _ => body fuel false rest
            | .closeBrace :: _ => body fuel false rest
            | _ => onlyDefinition rest
          match inner with
          | none => none
          | some (inner, rest) =>
              (((lineEnd rest).bind (body fuel outermost)).map
                fun (more, rest) =>
                  (addBlock (.mk type labels inner) more, rest))
  | _ + 1, _, _ => none

end Grammar

/-- The body of an HCL text; none if the text does not follow the grammar. -/
def body? (source : Text) : Option Body :=
  match tokens? source with
  | none => none
  | some tokens => (Grammar.body (tokens.length + 1) true tokens).map Prod.fst

end GenKill.Hcl
