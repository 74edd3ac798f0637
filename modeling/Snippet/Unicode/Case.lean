/-!
# Case mappings

A case mapping of the Unicode standard sends most characters to a single one at a fixed distance,
and a few to several characters. The first kind is kept as ascending runs of code points, the
second as a list of expansions.
-/

namespace Snippet.Unicode

/-- Code points from `first` to `last`, every `step`-th of them, that are all mapped by adding
`shift`. -/
structure CaseRun where
  first : Nat
  last : Nat
  step : Nat
  shift : Int

/-- The image of a code point under ascending runs, if one of them covers it. -/
def CaseRun.image? : List CaseRun → Nat → Option Nat
  | [], _ => none
  | run :: rest, n =>
    if n < run.first then none
    else if n ≤ run.last then
      if (n - run.first) % run.step = 0 then some (n + run.shift).toNat else none
    else CaseRun.image? rest n

/-- A case mapping: the runs of single characters, and the characters that expand to several. -/
structure CaseMapping where
  runs : List CaseRun
  expansions : List (Nat × List Nat)

/-- The expansion of a code point, if it has one; the list is ascending. -/
def CaseMapping.expansion? : List (Nat × List Nat) → Nat → Option (List Nat)
  | [], _ => none
  | (source, target) :: rest, n =>
    if n < source then none else if n = source then some target else CaseMapping.expansion? rest n

def CaseMapping.apply (m : CaseMapping) (c : Char) : List Char :=
  match CaseRun.image? m.runs c.toNat with
  | some n => [Char.ofNat n]
  | none =>
    match CaseMapping.expansion? m.expansions c.toNat with
    | some ns => ns.map Char.ofNat
    | none => [c]

end Snippet.Unicode
