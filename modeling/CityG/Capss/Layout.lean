import CityG.Capss.Seeder
import CityG.Lib.CoeffList

/-!
# The layout of the polynomials

Each polynomial is cut into unit polynomials of one length, which become the
columns of the committed rows. A query for values of the polynomials is a linear
query on the rows, and the answers to the two are computed from each other.
-/

namespace CityG.Capss

open BitPack CoeffList

structure GenericUnivariateLayout where
  degrees : List Nat
  nbQueries : Nat
  polyColSize : Nat
  beta : Nat

def resize (n : Nat) (values : List BaseField) : List BaseField :=
  (values ++ List.replicate n 0).take n

def shiftPoly (coeffs : List BaseField) (shift : Nat) : List BaseField :=
  (List.replicate shift 0 ++ coeffs).take coeffs.length

def addShifted (target values : List BaseField) (shift : Nat) : List BaseField :=
  addScaled 1 target (List.replicate shift 0 ++ values)

def splitPieces : List Nat → List BaseField → List (List BaseField)
  | [], _ => []
  | len :: lens, values => values.take len :: splitPieces lens (values.drop len)

namespace GenericUnivariateLayout

def new (degrees : List Nat) (nbQueries polyColSize beta : Nat) :
    Except Failure GenericUnivariateLayout := do
  Except.ensure (beta ≠ 0) .panic
  Except.ensure (∀ degree ∈ degrees, nbQueries ≤ degree + 1 ∧
    (degree + 1 - nbQueries = 0 ∨ polyColSize ≠ 0)) .panic
  pure { degrees, nbQueries, polyColSize, beta }

variable (layout : GenericUnivariateLayout)

def splitFactor (degree : Nat) : Nat :=
  let numerator := degree + 1 - layout.nbQueries
  if numerator = 0 then 1 else (numerator + layout.polyColSize - 1) / layout.polyColSize

def splitFactors : List Nat := layout.degrees.map layout.splitFactor

def unstackedRowLength : Nat := layout.splitFactors.sum

def unstackedNbRows : Nat := layout.polyColSize + layout.nbQueries

def rowLength : Nat := max ((layout.unstackedRowLength + layout.beta - 1) / layout.beta) 1

def nbRows : Nat := layout.beta * layout.unstackedNbRows

def nbPolys : Nat := layout.degrees.length

def nbLvcsQueries : Nat := layout.nbQueries * layout.beta

def lastDegree (degree : Nat) : Nat := degree - (layout.splitFactor degree - 1) * layout.polyColSize

variable (hashes : Hashes)

def sampleLeading (polyIdx chunkIdx : Nat) (seeder : RoundSeeder) : List BaseField :=
  let branch := seeder.branch hashes "layout/leading" (u64Bytes polyIdx ++ u64Bytes chunkIdx)
  (List.range layout.nbQueries).map fun coeffIdx =>
    branch.field hashes "layout/leading/coeff" (u64Bytes coeffIdx)

/-- The unit polynomials of one polynomial from a chunk on; `left` more follow the current one.
Each but the last is masked by leading coefficients that the next one takes back. -/
def unitPolysFrom (polyIdx lastDegree : Nat) (seeder : RoundSeeder) :
    Nat → Nat → List BaseField → List BaseField → List (List BaseField)
  | left + 1, chunkIdx, remaining, previousLeading =>
    let leading := layout.sampleLeading hashes polyIdx chunkIdx seeder
    let unit := addScaled (-1) (resize layout.unstackedNbRows (remaining.take layout.polyColSize))
      previousLeading
    addShifted unit leading layout.polyColSize ::
      unitPolysFrom polyIdx lastDegree seeder left (chunkIdx + 1)
        (remaining.drop layout.polyColSize) leading
  | 0, _, remaining, previousLeading =>
    let unit := addScaled (-1) (resize layout.unstackedNbRows (remaining.take (lastDegree + 1)))
      previousLeading
    [shiftPoly unit (layout.unstackedNbRows - 1 - lastDegree)]

def unitPolys (seeder : RoundSeeder) (polyIdx : Nat) (poly : List BaseField) (degree : Nat) :
    List (List BaseField) :=
  layout.unitPolysFrom hashes polyIdx (layout.lastDegree degree) seeder
    (layout.splitFactor degree - 1) 0 (resize layout.unstackedNbRows poly) []

def toRows (polynomials : List (List BaseField)) (seeder : RoundSeeder) :
    Except Failure (List (List BaseField)) := do
  Except.ensure (polynomials.length = layout.nbPolys) .panic
  let units := ((polynomials.zip layout.degrees).zipIdx.map fun ((poly, degree), polyIdx) =>
    layout.unitPolys hashes seeder polyIdx poly degree).flatten
  pure ((List.range layout.nbRows).map fun row => (List.range layout.rowLength).map fun col =>
    (units.getD (row / layout.unstackedNbRows * layout.rowLength + col) []).getD
      (row % layout.unstackedNbRows) 0)

def exponentsOf (degree : Nat) : List Nat :=
  let split := layout.splitFactor degree
  (List.range split).map fun k =>
    if k < split - 1 then k * layout.polyColSize
    else (split - 1) * layout.polyColSize - (layout.unstackedNbRows - 1 - layout.lastDegree degree)

def exponents : List (List Nat) := layout.degrees.map layout.exponentsOf

def toLvcsQueries (queries : List BaseField) :
    Except Failure (List (List BaseField) × List Nat) := do
  Except.ensure (queries.length = layout.nbQueries) .panic
  let lvcsQueries := queries.flatMap fun query => (List.range layout.beta).map fun k =>
    resize layout.nbRows
      (List.replicate (k * layout.unstackedNbRows) 0 ++ powers query layout.unstackedNbRows)
  let fullrankCols := (List.range layout.beta).flatMap fun k =>
    (List.range layout.nbQueries).map fun j => k * layout.unstackedNbRows + j
  pure (lvcsQueries, fullrankCols)

def pieces (lvcsResponses : List (List BaseField)) (queryIdx : Nat) : List (List BaseField) :=
  let concatenated := (List.range layout.beta).flatMap fun k =>
    lvcsResponses.getD (queryIdx * layout.beta + k) []
  splitPieces layout.splitFactors (concatenated.take layout.unstackedRowLength)

def toIopResponses (queries : List BaseField) (lvcsResponses : List (List BaseField)) :
    Except Failure (List (List BaseField) × List BaseField) := do
  Except.ensure (queries.length = layout.nbQueries) .panic
  Except.ensure (lvcsResponses.length = layout.nbLvcsQueries) .panic
  let iopResponses := (List.range layout.nbQueries).map fun queryIdx =>
    List.zipWith (fun piece exps => dot piece (exps.map (queries.getD queryIdx 0 ^ ·)))
      (layout.pieces lvcsResponses queryIdx) layout.exponents
  let partialEvals := (List.range layout.nbQueries).flatMap fun queryIdx =>
    (layout.pieces lvcsResponses queryIdx).flatMap (·.drop 1)
  pure (iopResponses, partialEvals)

end GenericUnivariateLayout

end CityG.Capss
