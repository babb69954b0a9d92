/-! Runs of code points at equal distances, the form in which character classes and case mappings
are tabulated. Every table is in ascending order of the first code points, so a search ends at the
first run that starts behind the code point it looks for. -/

namespace SchemaGo.Text

/-- The code points `first`, `first + step`, ... up to `last`. -/
structure CodeRun where
  first : Nat
  last : Nat
  step : Nat

/-- A run whose members map to the members of the run of the same step that starts at `image`. -/
structure CaseRun where
  source : CodeRun
  image : Nat

def CodeRun.contains (r : CodeRun) (n : Nat) : Bool :=
  r.first ≤ n && n ≤ r.last && (n - r.first) % r.step == 0

/-- Whether `c` lies in one of the ascending `runs`. -/
def inRuns (runs : List CodeRun) (c : Char) : Bool :=
  (runs.takeWhile (·.first ≤ c.toNat)).any (·.contains c.toNat)

/-- The image of `n` in the run that holds it. -/
def runImage? (runs : List CaseRun) (n : Nat) : Option Nat :=
  ((runs.takeWhile (·.source.first ≤ n)).find? (·.source.contains n)).map
    fun r => r.image + (n - r.source.first)

/-- The characters that `c` maps to: its image in a run, its expansion, or `c` alone. -/
def mapCase (runs : List CaseRun) (expansions : List (Nat × List Nat)) (c : Char) : List Char :=
  match runImage? runs c.toNat with
  | some n => [Char.ofNat n]
  | none =>
    match (expansions.takeWhile (·.1 ≤ c.toNat)).lookup c.toNat with
    | some ns => ns.map Char.ofNat
    | none => [c]

end SchemaGo.Text
