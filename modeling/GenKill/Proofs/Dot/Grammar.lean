import GenKill.Dot.Grammar
import GenKill.Proofs.Dot.Phrase

/-!
# The statements of a written graph

Every phrase of a written graph is read as one statement.  The levels that bound
the recursion never run out, because each statement takes one and a text has
more than three for each token.
-/

namespace GenKill.Dot

def settingOf (entry : Text × Text) : Setting :=
  ⟨Identifier.normal (Identifier.write entry.1),
    Identifier.normal (Identifier.write entry.2)⟩

def placeOf (id : Text) : Place :=
  { id := Identifier.normal (Identifier.write id) }

namespace Phrase

def statement : Phrase → Statement
  | attributes entries => .defaults .graph (entries.map settingOf)
  | node id entries => .node (placeOf id) (entries.map settingOf)
  | edge source target entries =>
      .edge (.node (placeOf source)) [.mk true (.node (placeOf target))]
        (entries.map settingOf)

def tokens (phrase : Phrase) : List Token := phrase.items.map Item.token

end Phrase

namespace Grammar

def entryTokens (entries : List (Text × Text)) : List Token :=
  (entryItems entries).map Item.token

theorem entryTokens_cons (entry : Text × Text) (entries : List (Text × Text)) :
    entryTokens (entry :: entries) =
      .id (Identifier.write entry.1) :: .equals ::
        .id (Identifier.write entry.2) ::
          entryTokens entries := rfl

/-- A list of attributes is read up to its closing bracket. -/
theorem settings_entryTokens (entries : List (Text × Text))
    (rest : List Token) :
    settings (entryTokens entries ++ .rightBracket :: .semicolon :: rest) =
      some (entries.map settingOf, .semicolon :: rest) := by
  induction entries with
  | nil => simp [entryTokens, entryItems, settings]
  | cons entry entries ih =>
      rw [entryTokens_cons, List.cons_append, List.cons_append,
        List.cons_append, settings, ih]
      · rfl
      -- what follows a value is the next key or the closing bracket
      all_goals
        intro more hmore
        cases entries with
        | nil => cases hmore
        | cons => cases hmore

/-- The attributes after a name, up to the end of the statement. -/
def closing (entries : List (Text × Text)) (rest : List Token) : List Token :=
  (bracketItems entries).map Item.token ++ .semicolon :: rest

theorem closing_cases (entries : List (Text × Text)) (rest : List Token) :
    (entries = [] ∧ closing entries rest = .semicolon :: rest) ∨
      closing entries rest =
        .leftBracket ::
          (entryTokens entries ++ .rightBracket :: .semicolon :: rest) := by
  by_cases hentries : entries = []
  · exact .inl ⟨hentries, by rw [closing, bracketItems, if_pos hentries]; rfl⟩
  · refine .inr ?_
    rw [closing, bracketItems, if_neg hentries]
    simp [entryTokens, Item.token]

/-- What closes a statement is read back as its attributes. -/
theorem optionalSettings_closing (entries : List (Text × Text))
    (rest : List Token) :
    optionalSettings (closing entries rest) =
      some (entries.map settingOf, .semicolon :: rest) := by
  rcases closing_cases entries rest with ⟨rfl, hclosing⟩ | hclosing
  · rw [hclosing]
    rfl
  · rw [hclosing, optionalSettings, settings_entryTokens]

theorem anchor_closing (entries : List (Text × Text)) (rest : List Token) :
    anchor (closing entries rest) = some ([], closing entries rest) := by
  rcases closing_cases entries rest with ⟨-, hclosing⟩ | hclosing
  · rw [hclosing]
    rfl
  · rw [hclosing]
    rfl

theorem links_closing (depth : Nat) (entries : List (Text × Text))
    (rest : List Token) :
    links (depth + 1) (closing entries rest) =
      some ([], closing entries rest) := by
  rcases closing_cases entries rest with ⟨-, hclosing⟩ | hclosing
  · rw [hclosing, links]
    rfl
  · rw [hclosing, links]
    rfl

theorem vertex_closing (depth : Nat) (id : Text) (entries : List (Text × Text))
    (rest : List Token) :
    vertex (depth + 1) (.id (Identifier.write id) :: closing entries rest) =
      some (.node (placeOf id), closing entries rest) := by
  rw [vertex, anchor_closing]
  rfl

/-- The tokens of a node are read as the statement of that node. -/
theorem statement_node (depth : Nat) (id : Text) (entries : List (Text × Text))
    (rest : List Token) :
    statement (depth + 2) (.id (Identifier.write id) :: closing entries rest) =
      some ((Phrase.node id entries).statement, .semicolon :: rest) := by
  rw [statement, vertex_closing]
  · simp only [links_closing, optionalSettings_closing]
    rfl
  · intro more heq
    cases heq
  · intro more heq
    cases heq
  · intro more heq
    cases heq
  · intro key value more heq
    rcases closing_cases entries rest with ⟨-, hclosing⟩ | hclosing
    · rw [hclosing] at heq
      cases heq
    · rw [hclosing] at heq
      cases heq

theorem statement_edge (depth : Nat) (source target : Text)
    (entries : List (Text × Text)) (rest : List Token) :
    statement (depth + 3)
        (.id (Identifier.write source) :: .arrow ::
          .id (Identifier.write target) ::
            closing entries rest) =
      some ((Phrase.edge source target entries).statement,
        .semicolon :: rest) := by
  have hvertex : ∀ more,
      vertex (depth + 2) (.id (Identifier.write source) :: .arrow :: more) =
        some (.node (placeOf source), .arrow :: more) := by
    intro more
    rw [vertex]
    rfl
  have hlinks : links (depth + 2)
      (.arrow :: .id (Identifier.write target) :: closing entries rest) =
      some ([.mk true (.node (placeOf target))], closing entries rest) := by
    rw [links]
    simp only [linkSign?, vertex_closing, links_closing]
    rfl
  rw [statement, hvertex]
  · simp only [hlinks, optionalSettings_closing]
    rfl
  · intro more heq
    cases heq
  · intro more heq
    cases heq
  · intro more heq
    cases heq
  · intro key value more heq
    cases heq

theorem statement_attributes (depth : Nat) (entries : List (Text × Text))
    (rest : List Token) :
    statement (depth + 1)
        (.graph :: .leftBracket ::
          (entryTokens entries ++ .rightBracket :: .semicolon :: rest)) =
      some ((Phrase.attributes entries).statement, .semicolon :: rest) := by
  rw [statement, defaults, settings_entryTokens]
  rfl

/-- A phrase is one statement. -/
theorem statement_phrase (depth : Nat) (phrase : Phrase) (rest : List Token) :
    statement (depth + 3) (phrase.tokens ++ rest) =
      some (phrase.statement, .semicolon :: rest) := by
  cases phrase with
  | attributes entries =>
      have htokens : (Phrase.attributes entries).tokens ++ rest =
          .graph :: .leftBracket ::
            (entryTokens entries ++ .rightBracket :: .semicolon :: rest) := by
        simp [Phrase.tokens, Phrase.items, entryTokens, Item.token]
      rw [htokens]
      exact statement_attributes (depth + 2) entries rest
  | node id entries =>
      have htokens : (Phrase.node id entries).tokens ++ rest =
          .id (Identifier.write id) :: closing entries rest := by
        simp [Phrase.tokens, Phrase.items, closing, Item.token]
      rw [htokens]
      exact statement_node (depth + 1) id entries rest
  | edge source target entries =>
      have htokens : (Phrase.edge source target entries).tokens ++ rest =
          .id (Identifier.write source) :: .arrow ::
            .id (Identifier.write target) ::
              closing entries rest := by
        simp [Phrase.tokens, Phrase.items, closing, Item.token]
      rw [htokens]
      exact statement_edge depth source target entries rest

theorem tokens_ne_rightBrace (phrase : Phrase) (rest more : List Token) :
    phrase.tokens ++ rest ≠ .rightBrace :: more := by
  cases phrase with
  | attributes entries => intro heq; cases heq
  | node id entries => intro heq; cases heq
  | edge source target entries => intro heq; cases heq

/-- The tokens of phrases are read as their statements, one for each, up to the
closing brace. -/
theorem statements_phrases (phrases : List Phrase) (depth : Nat)
    (rest : List Token) (hdepth : phrases.length + 4 ≤ depth) :
    statements depth (phrases.flatMap Phrase.tokens ++ .rightBrace :: rest) =
      some (phrases.map Phrase.statement, rest) := by
  induction phrases generalizing depth with
  | nil =>
      obtain ⟨depth, rfl⟩ : ∃ previous, depth = previous + 1 :=
        ⟨depth - 1, by omega⟩
      rw [List.flatMap_nil, List.nil_append, statements]
      rfl
  | cons phrase phrases ih =>
      rw [List.length_cons] at hdepth
      obtain ⟨depth, rfl⟩ : ∃ previous, depth = previous + 3 + 1 :=
        ⟨depth - 4, by omega⟩
      rw [List.flatMap_cons, List.append_assoc, statements, statement_phrase]
      · simp only [ih (depth + 3) (by omega)]
        rfl
      · exact fun more => tokens_ne_rightBrace phrase _ more

theorem length_le_length_tokens (phrases : List Phrase) :
    phrases.length ≤ (phrases.flatMap Phrase.tokens).length := by
  induction phrases with
  | nil => exact Nat.le_refl 0
  | cons phrase phrases ih =>
      have hpos : 0 < phrase.tokens.length := by
        cases phrase <;> simp [Phrase.tokens, Phrase.items]
      rw [List.flatMap_cons, List.length_append, List.length_cons]
      omega

end Grammar

def documentOf (graph : Graph) : Document.Graph where
  directed := true
  id :=
    if graph.title = [] then []
    else Identifier.normal (Identifier.write graph.title)
  statements := (phrases graph).map Phrase.statement

namespace Grammar

theorem body_documentOf (graph : Graph) :
    body true ((titleItems graph).map Item.token ++
        .leftBrace ::
          ((phrases graph).flatMap Phrase.tokens ++ [.rightBrace])) =
      some (documentOf graph, []) := by
  have hdepth : (phrases graph).length + 4 ≤
      enough ((phrases graph).flatMap Phrase.tokens ++ [.rightBrace]) := by
    have hlength := length_le_length_tokens (phrases graph)
    rw [enough, List.length_append, List.length_singleton]
    omega
  have hstatements := statements_phrases (phrases graph) _ [] hdepth
  rw [titleItems, documentOf]
  split
  · rw [List.map_nil, List.nil_append, body, hstatements]
    rfl
  · rw [List.map_cons, List.map_nil, Item.token, List.singleton_append, body,
      hstatements]
    rfl

theorem map_token_graphItems (graph : Graph) :
    (graphItems graph).map Item.token =
      .digraph :: ((titleItems graph).map Item.token ++
        .leftBrace ::
          ((phrases graph).flatMap Phrase.tokens ++ [.rightBrace])) := by
  have htokens : (fun phrase : Phrase => phrase.items.map Item.token) =
      Phrase.tokens := rfl
  simp [graphItems, Item.token, List.map_flatMap, htokens]

/-- The tokens of a graph are read as one document, with nothing left over. -/
theorem graphs_graphItems (graph : Graph) :
    graphs ((graphItems graph).map Item.token).length
        ((graphItems graph).map Item.token) =
      some [documentOf graph] := by
  rw [map_token_graphItems, List.length_cons, graphs, Grammar.graph,
    body_documentOf]

end Grammar

/-- The text of a graph is one document, unless it cannot be scanned. -/
theorem document?_toDot {graph : Graph}
    (hfaithful : NamesHave Identifier.Faithful graph) :
    document? graph.toDot =
      if ∀ item ∈ graphItems graph, item.Scannable then some [documentOf graph]
      else none := by
  rw [document?, tokens?_toDot hfaithful, Item.gather]
  by_cases hscannable : ∀ item ∈ graphItems graph, item.Scannable
  · rw [if_pos hscannable, if_pos hscannable]
    exact Grammar.graphs_graphItems graph
  · rw [if_neg hscannable, if_neg hscannable]

end GenKill.Dot
