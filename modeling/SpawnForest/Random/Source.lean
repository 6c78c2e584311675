import SpawnForest.Fault

/-!
# Random draws and weighted selection

A source draws from closed ranges. Selection by weight needs nothing else of
it, so it is stated for any source: one draw between one and the total of the
weights, and the first index whose running sum reaches the draw.
-/

namespace SpawnForest

/-- Uniform draws from closed ranges. An empty range gives its lower end. -/
class RandomSource (σ : Type) where
  natIn : Nat → Nat → σ → Nat × σ
  singleIn : Single → Single → σ → Except Fault (Single × σ)

/-- The least index at which the running sum, carried on from `running`,
reaches the draw. -/
def reached (draw : Single) : Single → List Single → Option Nat
  | _, [] => none
  | running, w :: rest =>
    let sum := running + w.max .one
    if draw.le sum then some 0 else (reached draw sum rest).map (· + 1)

/-- An index selected by weight, each weight counting as at least one; none of
an empty list. Where no running sum reaches the draw, the last index is taken;
a draw within its range is always reached (`weightedPick_of_draw`). -/
def weightedPick {σ : Type} [RandomSource σ] (weights : List Single) (source : σ) :
    Except Fault (Option Nat × σ) :=
  if weights.isEmpty then .ok (none, source)
  else
    let total := weights.foldl (fun sum w => sum + w.max .one) .zero
    match RandomSource.singleIn .one total source with
    | .error fault => .error fault
    | .ok (draw, source) =>
      .ok (some ((reached draw .zero weights).getD (weights.length - 1)), source)

end SpawnForest
