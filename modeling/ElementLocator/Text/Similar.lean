/-! # Similar texts

    How alike two texts are: the share of their characters that stands in common runs. The
    longest common run counts first, then the longest ones on either side of it, and so on. -/

namespace ElementLocator.Text.Similar

/-- The number of characters that two texts share at their start. -/
def sharedStart : List Char → List Char → Nat
  | a :: as, b :: bs => if a = b then sharedStart as bs + 1 else 0
  | _, _ => 0

/-- A run of characters that stands in two texts: where it starts in each, and its length. -/
structure Run where
  first : Nat
  second : Nat
  length : Nat

/-- The longest common run. Of several the one that starts first in the first text counts,
    then the one that starts first in the second. -/
def longestRun (a b : List Char) : Run :=
  (List.range a.length).foldl (fun best i =>
    (List.range b.length).foldl (fun best j =>
      let n := sharedStart (a.drop i) (b.drop j)
      if best.length < n then ⟨i, j, n⟩ else best) best) ⟨0, 0, 0⟩

/-- The number of characters in common runs. Each round splits the texts at one run. -/
def sharedLength : (rounds : Nat) → List Char → List Char → Nat
  | 0, _, _ => 0
  | rounds + 1, a, b =>
    let run := longestRun a b
    if run.length = 0 then 0
    else
      run.length + sharedLength rounds (a.take run.first) (b.take run.second) +
        sharedLength rounds (a.drop (run.first + run.length)) (b.drop (run.second + run.length))

/-- How alike two texts are: the characters in common runs of both, out of all characters of
    both. -/
structure Likeness where
  shared : Nat
  total : Nat

/-- How alike two texts are. -/
def likeness (a b : String) : Likeness :=
  ⟨2 * sharedLength a.length a.toList b.toList, a.length + b.length⟩

/-- Whether the likeness is high enough to suggest one text for the other: three fifths. -/
def Likeness.suffices (l : Likeness) : Bool := decide (3 * l.total ≤ 5 * l.shared)

/-- Whether one text is to be suggested before another: it is more alike, or as alike and
    greater. -/
def before (a b : String × Likeness) : Bool :=
  let left := a.2.shared * b.2.total
  let right := b.2.shared * a.2.total
  decide (right < left) || (left == right && decide (b.1 ≤ a.1))

/-- The number of texts that are suggested at most. -/
def most : Nat := 3

/-- The texts among some that are to be suggested in place of a given one, in the order of
    texts. -/
def suggestions (given : String) (known : List String) : List String :=
  let alike := (known.map fun s => (s, likeness s given)).filter (·.2.suffices)
  let best := (alike.mergeSort before).take most
  (best.map (·.1)).mergeSort fun a b => decide (a ≤ b)

end ElementLocator.Text.Similar
