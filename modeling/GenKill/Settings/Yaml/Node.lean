import GenKill.Settings.Yaml.Token

/-!
# Nodes of YAML text

The nodes of the first document, by recursive descent over its tokens.  An alias
is the node that its anchor stands at.  The recursion is bounded by a number of
steps, which is more than the tokens allow.
-/

namespace GenKill.Settings.Yaml

inductive Node where
  /-- A tag is empty if there is none. -/
  | scalar (text tag : Text) (isPlain : Bool)
  | list (items : List Node)
  | record (entries : List (Node × Node))

/-- The scalar of an absent node. -/
def Node.absent : Node := .scalar [] [] true

/-- The tokens that are left, the nodes that have anchors, and the meaning of
the handles of tags. -/
structure Reader where
  tokens : List Token
  anchors : List (Text × Node) := []
  handles : List (Text × Text)

namespace Reader

def next (reader : Reader) (tokens : List Token) : Reader :=
  { reader with tokens }

def define (reader : Reader) (anchor : Text) (node : Node) : Reader :=
  if anchor = [] then reader
  else { reader with anchors := (anchor, node) :: reader.anchors }

/-! ### Tokens that follow an absent node -/

def endsItem : List Token → Bool
  | .item :: _ => true
  | .blockEnd :: _ => true
  | _ => false

def endsEntry : List Token → Bool
  | .key :: _ => true
  | .value :: _ => true
  | .blockEnd :: _ => true
  | _ => false

def endsFlowItem : List Token → Bool
  | .comma :: _ => true
  | .flowSequenceEnd :: _ => true
  | _ => false

def endsFlowEntry : List Token → Bool
  | .comma :: _ => true
  | .flowMappingEnd :: _ => true
  | _ => false

def startsValue : List Token → Bool
  | .value :: _ => true
  | _ => false

/-- What follows the comma between the parts of a flow collection. -/
def separated (isFirst : Bool) (tokens : List Token) : Option (List Token) :=
  match tokens with
  | .flowSequenceEnd :: _ => some tokens
  | .flowMappingEnd :: _ => some tokens
  | .comma :: rest => if isFirst then some tokens else some rest
  | _ => if isFirst then some tokens else none

/-! ### Anchors and tags -/

/-- The full tag; a handle has to be known. -/
def fullTag (reader : Reader) (handle rest : Text) : Option Text :=
  if handle = [] then some rest
  else (reader.handles.lookup handle).bind fun lead =>
    if lead ++ rest = [] then none else some (lead ++ rest)

/-- The anchor and the tag in front of a node, in either order; empty if there
is none. -/
def properties (reader : Reader) : Option (Text × Text × Reader) :=
  match reader.tokens with
  | .anchor name :: .tag handle rest :: tokens =>
      (reader.fullTag handle rest).map fun tag =>
        (name, tag, reader.next tokens)
  | .tag handle rest :: .anchor name :: tokens =>
      (reader.fullTag handle rest).map fun tag =>
        (name, tag, reader.next tokens)
  | .anchor name :: tokens => some (name, [], reader.next tokens)
  | .tag handle rest :: tokens =>
      (reader.fullTag handle rest).map fun tag => ([], tag, reader.next tokens)
  | _ => some ([], [], reader)

/-! ### Nodes -/

mutual

/-- A node.  Block collections may start here if `block` holds, and so may a
list that is not indented if `flat` holds. -/
def node : Nat → (block flat : Bool) → Reader → Option (Node × Reader)
  | 0, _, _, _ => none
  | fuel + 1, block, flat, reader =>
      match reader.tokens with
      | .alias name :: rest =>
          (reader.anchors.lookup name).map fun node => (node, reader.next rest)
      | _ =>
          match reader.properties with
          | none => none
          | some (anchor, tag, reader) =>
              (content fuel block flat anchor tag reader).map
                fun (node, reader) => (node, reader.define anchor node)

/-- A node without its anchor and tag. -/
def content :
    Nat → (block flat : Bool) → (anchor tag : Text) → Reader →
      Option (Node × Reader)
  | 0, _, _, _, _, _ => none
  | fuel + 1, block, flat, anchor, tag, reader =>
      let absent : Option (Node × Reader) :=
        if anchor = [] ∧ tag = [] then none
        else some (.scalar [] tag true, reader)
      match reader.tokens with
      | .item :: _ =>
          if flat then
            (flatItems fuel reader).map fun (items, reader) =>
              (.list items, reader)
          else absent
      | .scalar text isPlain :: rest =>
          some (.scalar text tag isPlain, reader.next rest)
      | .flowSequenceStart :: rest =>
          (flowItems fuel true (reader.next rest)).map fun (items, reader) =>
            (.list items, reader)
      | .flowMappingStart :: rest =>
          (flowEntries fuel true (reader.next rest)).map
            fun (entries, reader) => (.record entries, reader)
      | .sequenceStart :: rest =>
          if block then
            (items fuel (reader.next rest)).map fun (items, reader) =>
              (.list items, reader)
          else absent
      | .mappingStart :: rest =>
          if block then
            (entries fuel (reader.next rest)).map fun (entries, reader) =>
              (.record entries, reader)
          else absent
      | _ => absent

/-- The items of a list. -/
def items : Nat → Reader → Option (List Node × Reader)
  | 0, _ => none
  | fuel + 1, reader =>
      match reader.tokens with
      | .item :: rest =>
          let first : Option (Node × Reader) :=
            if endsItem rest then some (.absent, reader.next rest)
            else node fuel true false (reader.next rest)
          match first with
          | none => none
          | some (first, reader) =>
              (items fuel reader).map fun (more, reader) =>
                (first :: more, reader)
      | .blockEnd :: rest => some ([], reader.next rest)
      | _ => none

/-- The items of a list that is indented no more than the mapping around it. -/
def flatItems : Nat → Reader → Option (List Node × Reader)
  | 0, _ => none
  | fuel + 1, reader =>
      match reader.tokens with
      | .item :: rest =>
          let first : Option (Node × Reader) :=
            if endsItem rest || endsEntry rest then
              some (.absent, reader.next rest)
            else node fuel true false (reader.next rest)
          match first with
          | none => none
          | some (first, reader) =>
              (flatItems fuel reader).map fun (more, reader) =>
                (first :: more, reader)
      | _ => some ([], reader)

/-- The entries of a mapping. -/
def entries : Nat → Reader → Option (List (Node × Node) × Reader)
  | 0, _ => none
  | fuel + 1, reader =>
      match reader.tokens with
      | .key :: rest =>
          let key : Option (Node × Reader) :=
            if endsEntry rest then some (.absent, reader.next rest)
            else node fuel true true (reader.next rest)
          match key with
          | none => none
          | some (key, reader) =>
              let rest := reader.tokens.drop 1
              let value : Option (Node × Reader) :=
                if !startsValue reader.tokens then some (.absent, reader)
                else if endsEntry rest then some (.absent, reader.next rest)
                else node fuel true true (reader.next rest)
              match value with
              | none => none
              | some (value, reader) =>
                  (entries fuel reader).map fun (more, reader) =>
                    ((key, value) :: more, reader)
      | .blockEnd :: rest => some ([], reader.next rest)
      | _ => none

/-- The items of a list in brackets. -/
def flowItems : Nat → (isFirst : Bool) → Reader → Option (List Node × Reader)
  | 0, _, _ => none
  | fuel + 1, isFirst, reader =>
      match separated isFirst reader.tokens with
      | none => none
      | some (.flowSequenceEnd :: rest) => some ([], reader.next rest)
      | some (.key :: rest) =>
          match flowPair fuel (reader.next rest) with
          | none => none
          | some (pair, reader) =>
              (flowItems fuel false reader).map fun (more, reader) =>
                (.record [pair] :: more, reader)
      | some tokens =>
          match node fuel false false (reader.next tokens) with
          | none => none
          | some (first, reader) =>
              (flowItems fuel false reader).map fun (more, reader) =>
                (first :: more, reader)

/-- An entry among the items of a list, after the mark of its key. -/
def flowPair : Nat → Reader → Option ((Node × Node) × Reader)
  | 0, _ => none
  | fuel + 1, reader =>
      let key : Option (Node × Reader) :=
        if startsValue reader.tokens || endsFlowItem reader.tokens then
          some (.absent, reader.next (reader.tokens.drop 1))
        else node fuel false false reader
      match key with
      | none => none
      | some (key, reader) =>
          let rest := reader.tokens.drop 1
          let value : Option (Node × Reader) :=
            if !startsValue reader.tokens then some (.absent, reader)
            else if endsFlowItem rest then some (.absent, reader.next rest)
            else node fuel false false (reader.next rest)
          value.map fun (value, reader) => ((key, value), reader)

/-- The entries of a mapping in braces. -/
def flowEntries :
    Nat → (isFirst : Bool) → Reader → Option (List (Node × Node) × Reader)
  | 0, _, _ => none
  | fuel + 1, isFirst, reader =>
      match separated isFirst reader.tokens with
      | none => none
      | some (.flowMappingEnd :: rest) => some ([], reader.next rest)
      | some tokens =>
          match flowEntry fuel (reader.next tokens) with
          | none => none
          | some (entry, reader) =>
              (flowEntries fuel false reader).map fun (more, reader) =>
                (entry :: more, reader)

def flowEntry : Nat → Reader → Option ((Node × Node) × Reader)
  | 0, _ => none
  | fuel + 1, reader =>
      match reader.tokens with
      | .key :: rest =>
          let key : Option (Node × Reader) :=
            if startsValue rest || endsFlowEntry rest then
              some (.absent, reader.next rest)
            else node fuel false false (reader.next rest)
          match key with
          | none => none
          | some (key, reader) =>
              let rest := reader.tokens.drop 1
              let value : Option (Node × Reader) :=
                if !startsValue reader.tokens then some (.absent, reader)
                else if endsFlowEntry rest then some (.absent, reader.next rest)
                else node fuel false false (reader.next rest)
              value.map fun (value, reader) => ((key, value), reader)
      | _ =>
          (node fuel false false reader).map fun (key, reader) =>
            ((key, .absent), reader)

end

end Reader

/-! ### Documents -/

/-- The handles that need no directive. -/
def standardHandles : List (Text × Text) :=
  [("!", "!"), ("!!", "tag:yaml.org,2002:")]

/-- The directives before a document: each handle may be given once, and the
version once. -/
def directives (handles : List (Text × Text)) (versioned : Bool) :
    List Token → Option (List (Text × Text) × List Token)
  | .version major minor :: rest =>
      if versioned ∨ major ≠ 1 ∨ minor ≠ 1 then none
      else directives handles true rest
  | .handle name lead :: rest =>
      if (handles.lookup name).isSome then none
      else directives ((name, lead) :: handles) versioned rest
  | tokens => some (handles ++ standardHandles, tokens)

/-- A document without a node ends. -/
def endsDocument : List Token → Bool
  | .version _ _ :: _ => true
  | .handle _ _ :: _ => true
  | .documentStart :: _ => true
  | .documentEnd :: _ => true
  | .streamEnd :: _ => true
  | _ => false

/-- What follows a document has to be a token; which one does not matter. -/
def isScanned : List Token → Bool
  | [] => false
  | .failure :: _ => false
  | _ => true

/-- The node of the first document; absent if there is no document. -/
def document (tokens : List Token) : Option Node :=
  match tokens with
  | [.streamEnd] => some .absent
  | _ =>
      match directives [] false tokens with
      | none => none
      | some (handles, .documentStart :: rest) =>
          if endsDocument rest then some .absent else root handles rest
      | some (handles, rest) =>
          if endsDocument tokens then none else root handles rest
where
  root (handles : List (Text × Text)) (tokens : List Token) : Option Node :=
    match Reader.node (4 * tokens.length + 8) true false
      { tokens, handles } with
    | some (node, reader) => if isScanned reader.tokens then some node else none
    | none => none

end GenKill.Settings.Yaml
