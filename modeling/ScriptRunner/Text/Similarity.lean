import ScriptRunner.Decimal.Double

/-!
# How similar two texts are

Two texts are compared by the characters that they have in common at nearly the same place. With
`m` such characters in texts of lengths `a` and `b`, of which `t` pairs stand in another order, the
score is the mean of `m / a`, `m / b` and `(m - t) / m`, computed step by step in double precision.
-/

namespace ScriptRunner.Text

open Decimal

/-- Take the first character equal to `c` that is not taken, from place `low` on and before place
`high`. The list starts at place `place`. -/
def takeEqual (c : Char) (low high : Nat) :
    (place : Nat) → List (Char × Bool) → Option (List (Char × Bool))
  | _, [] => none
  | place, (d, taken) :: rest =>
    if low ≤ place ∧ place < high ∧ d = c ∧ !taken then some ((d, true) :: rest)
    else (takeEqual c low high (place + 1) rest).map ((d, taken) :: ·)

/-- The characters of a text that have an equal one in the other text at most `range` places away,
and the other text with those taken marked. -/
def takeAll (range : Nat) : (place : Nat) → Text → List (Char × Bool) → Text × List (Char × Bool)
  | _, [], other => ([], other)
  | place, c :: rest, other =>
    match takeEqual c (place - range) (place + range + 1) 0 other with
    | some other =>
      let (common, other) := takeAll range (place + 1) rest other
      (c :: common, other)
    | none => takeAll range (place + 1) rest other

/-- How similar two texts are. -/
def similarity (s t : Text) : Double :=
  let range := max s.length t.length / 2 - 1
  let (common, other) := takeAll range 0 s (t.map fun c => (c, false))
  let inOther := (other.filter Prod.snd).map Prod.fst
  let m := common.length
  let swapped := ((common.zip inOther).filter fun (c, d) => c != d).length / 2
  let share (n d : Nat) : Double := if d = 0 then .ofRatio 0 1 else .ofRatio n d
  (((share m s.length).add (share m t.length)).add (share (m - swapped) m)).divide 3

/-- The score above which texts count as similar. -/
def similarEnough : Double := .ofScientific ⟨7, -1⟩

/-- The text most similar to `s` among those that are similar enough. Of two that are equally
similar it is the later one. -/
def mostSimilar? (s : Text) (others : List Text) : Option Text :=
  let scored := others.map fun t => (t, similarity s t)
  let better (best : Option (Text × Double)) (next : Text × Double) : Option (Text × Double) :=
    match best with
    | none => some next
    | some b => if b.2.le next.2 then some next else best
  ((scored.filter fun x => !x.2.le similarEnough).foldl better none).map Prod.fst

end ScriptRunner.Text
