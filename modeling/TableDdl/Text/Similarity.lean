-- The Jaro similarity of two words, which ranks the names a mistyped one may have meant.

namespace TableDdl.Text

/-- The first free place in `[lo, hi)` of `b` that holds `c`. -/
def freeMatch (b : Array Char) (taken : Array Bool) (c : Char) (lo hi : Nat) : Option Nat :=
  (List.range' lo (hi - lo)).find? fun j => b[j]? == some c && taken[j]? == some false

/-- The matched places of the first word's characters, in order, and the places of the second
word that were taken. -/
def matchPlaces (window : Nat) (a : List Char) (b : Array Char) : List (Option Nat) × Array Bool :=
  let step := fun (acc : List (Option Nat) × Array Bool × Nat) (c : Char) =>
    let (found, taken, i) := acc
    let lo := i - window
    let hi := min b.size (i + window + 1)
    match freeMatch b taken c lo hi with
    | some j => (some j :: found, taken.set! j true, i + 1)
    | none => (none :: found, taken, i + 1)
  let (found, taken, _) := a.foldl step ([], Array.replicate b.size false, 0)
  (found.reverse, taken)

/-- The Jaro similarity, between 0 and 1. -/
def jaro (x y : String) : Float :=
  let a := x.toList
  let b := y.toList
  if a.isEmpty && b.isEmpty then 1
  else if a.isEmpty || b.isEmpty then 0
  else
    let window := max a.length b.length / 2 - 1
    let bs := b.toArray
    let (found, taken) := matchPlaces window a bs
    let fromA := (a.zip found).filterMap fun (c, j) => j.map fun _ => c
    let fromB := (b.zip taken.toList).filterMap fun (c, t) => if t then some c else none
    let m := fromA.length
    let t := ((fromA.zip fromB).filter fun (p, q) => p != q).length / 2
    if m = 0 then 0
    else
      (m.toFloat / a.length.toFloat + m.toFloat / b.length.toFloat +
        (m - t).toFloat / m.toFloat) / 3

/-- The names more than 0.7 similar to `word`, least similar first; equally similar names keep
their order. -/
def similarNames (word : String) (names : List String) : List String :=
  let scored := (names.map fun n => (jaro word n, n)).filter fun (s, _) => s > 0.7
  (scored.mergeSort fun p q => p.1 ≤ q.1).map (·.2)

end TableDdl.Text
