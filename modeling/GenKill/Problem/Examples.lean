import GenKill.Problem

/-!
# Built-in problems
-/

namespace GenKill.Problem

/-- A universe of two facts. -/
private def pair (ident : Nat) (first second : Text) (hne : first ≠ second) :
    Universe :=
  ⟨ident, [first, second], by simp [hne]⟩

/-- The graph of
```
s0: x = 0
s1: while x < 10
s2:     x = x + 1
s3: return x
```
-/
def storeLoopGraph (ident : Nat) : Graph where
  ident
  title := "storeloop"
  nodes := [
    { name := "s0: x = 0", label := "s0" },
    { name := "s1: while x < 10", label := "s1" },
    { name := "s2: x = x + 1", label := "s2" },
    { name := "s3: return x", label := "s3" }]
  edges := [
    { source := 0, target := 1 }, { source := 1, target := 2 },
    { source := 2, target := 3 }, { source := 1, target := 3 },
    { source := 2, target := 1 }]
  ends_lt := by simp
  labels_distinct := by decide

/-- The available stores of `x`, where `x0` and `x2` are the stores of `s0` and
`s2`. -/
def storeLoop (graphIdent factsIdent : Nat) : Problem :=
  let graph := storeLoopGraph graphIdent
  { name := "storeloop"
    graph
    facts := pair factsIdent "x0" "x2" (by decide)
    initial := .full
    gen := Table.ofList [(graph.site 0, ["x0"]), (graph.site 2, ["x2"])]
    kill := Table.ofList [(graph.site 0, ["x2"]), (graph.site 2, ["x0"])] }

/-- A loop that assigns `k` on both branches of its body. -/
def questionableGraph (ident : Nat) : Graph where
  ident
  title := "questionable"
  nodes := [
    { name := "start", label := "nStart" },
    { name := "int k;", label := "nA" },
    { name := "for (int i = 0;", label := "nB" },
    { name := "i < 10;", label := "nC" },
    { name := "if (someCondition(i))", label := "nD" },
    { name := "\x7b k = 0; \x7d", label := "nE" },
    { name := "else \x7b k += i; \x7d", label := "nF" },
    { name := "++i) \x7d", label := "nG" },
    { name := "System.out.println(k);", label := "nH" }]
  edges := [
    { source := 0, target := 1 }, { source := 1, target := 2 },
    { source := 2, target := 3 }, { source := 3, target := 4 },
    { source := 4, target := 5 }, { source := 5, target := 7 },
    { source := 4, target := 6 }, { source := 6, target := 7 },
    { source := 3, target := 8 }, { source := 7, target := 3 }]
  ends_lt := by simp
  labels_distinct := by decide

/-- The definitely assigned variables; `k` is not one of them where it is
printed. -/
def questionable (graphIdent factsIdent : Nat) : Problem :=
  let graph := questionableGraph graphIdent
  { name := "questionable"
    graph
    facts := pair factsIdent "i" "k" (by decide)
    initial := .full
    gen := Table.ofList [
      (graph.site 2, ["i"]), (graph.site 5, ["k"]), (graph.site 6, ["k"]),
      (graph.site 7, ["i"])] }

def exampleNames : List Text := ["questionable", "storeloop"]

/-- The built-in problem with a name. -/
def lookup (graphIdent factsIdent : Nat) (name : Text) : Except Error Problem :=
  if name = "storeloop" then .ok (storeLoop graphIdent factsIdent)
  else if name = "questionable" then .ok (questionable graphIdent factsIdent)
  else .error (.unknownExample name exampleNames)

end GenKill.Problem
