import Bursary.Weights

/-! The features of a model by their importance, the share of their weight in all weights. -/

namespace Bursary

structure RankedFeature (α : Type) where
  feature : Feature
  weight : α
  importance : α
  /-- Whether the feature speaks for a student. -/
  isPositive : Bool

namespace Weights

open Arithmetic

variable {α : Type} [Arithmetic α]

/-- The sizes of the weights of all features together. -/
def totalSize (w : Weights α) : α := sum (Feature.all.map fun f => abs (w.of f))

def rankedFeature (w : Weights α) (f : Feature) : RankedFeature α where
  feature := f
  weight := w.of f
  importance := if lt (const 0) w.totalSize then abs (w.of f) / w.totalSize else const 0
  isPositive := le (const 0) (w.of f)

/-- All features, the most important first. -/
def ranking (w : Weights α) : List (RankedFeature α) :=
  (Feature.all.map w.rankedFeature).mergeSort fun f g => le g.importance f.importance

end Weights

namespace RankedFeature

def direction {α : Type} (f : RankedFeature α) : String :=
  if f.isPositive then "positive" else "negative"

def toRecord (f : RankedFeature Binary64) : Record := [
  ("feature", .text f.feature.name), ("weight", .real f.weight),
  ("importance", .real f.importance), ("direction", .text f.direction)]

end RankedFeature

end Bursary
