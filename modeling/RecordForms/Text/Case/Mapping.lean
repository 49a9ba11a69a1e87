/-! Case mappings of single characters, kept as runs of code points with one
shift and a list of the characters whose image is longer. -/
namespace RecordForms.Text

/-- Every `step`-th code point from `first` to `last` moves by `shift`. -/
structure CaseRun where
  first : Nat
  last : Nat
  step : Nat
  shift : Int

def CaseRun.covers (run : CaseRun) (code : Nat) : Bool :=
  run.first ≤ code && code ≤ run.last && (code - run.first) % run.step == 0

structure CaseMapping where
  expansions : List (Nat × List Nat)
  runs : List CaseRun

def CaseMapping.image (mapping : CaseMapping) (c : Char) : List Char :=
  match mapping.expansions.lookup c.toNat with
  | some codes => codes.map Char.ofNat
  | none =>
    match mapping.runs.find? (·.covers c.toNat) with
    | some run => [Char.ofNat (c.toNat + run.shift).toNat]
    | none => [c]

end RecordForms.Text
