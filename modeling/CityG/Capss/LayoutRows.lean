import CityG.Capss.Layout
import CityG.Lib.Rows

/-!
# The rows hold the values of the polynomials

The unit polynomials of a polynomial, each evaluated and shifted to its exponent,
add up to the polynomial: the leading coefficients that one takes are given back
by the next. A polynomial longer than a column is cut to the length of a column
before it is split, so its further coefficients are not in the rows.
-/

namespace CityG.Capss

open CoeffList Rows

theorem resize_eq (n : Nat) (values : List BaseField) :
    resize n values = values.take n ++ List.replicate (n - values.length) 0 := by
  rw [resize, List.take_append, List.take_replicate, Nat.min_eq_left (Nat.sub_le _ _)]

@[simp] theorem length_resize (n : Nat) (values : List BaseField) : (resize n values).length = n := by
  rw [resize_eq, List.length_append, List.length_take, List.length_replicate]
  omega

@[simp] theorem eval_resize (n : Nat) (values : List BaseField) (x : BaseField) :
    eval (resize n values) x = eval (values.take n) x := by
  rw [resize_eq, eval_append, eval_replicate_zero, mul_zero, add_zero]

theorem resize_add (n extra : Nat) (values : List BaseField) (h : values.length ≤ n) :
    resize (n + extra) values = resize n values ++ List.replicate extra 0 := by
  rw [resize_eq, resize_eq, List.take_of_length_le h, List.take_of_length_le (by omega),
    List.append_assoc, List.replicate_append_replicate]
  congr 2
  omega

theorem eval_shiftPoly (low : List BaseField) (shift : Nat) (x : BaseField) :
    eval (shiftPoly (low ++ List.replicate shift 0) shift) x = x ^ shift * eval low x := by
  rw [shiftPoly, ← List.append_assoc, List.take_append_of_le_length (by simp; omega),
    List.take_of_length_le (by simp; omega), eval_append, eval_replicate_zero, zero_add,
    List.length_replicate]

@[simp] theorem length_shiftPoly (coeffs : List BaseField) (shift : Nat) :
    (shiftPoly coeffs shift).length = coeffs.length := by
  rw [shiftPoly, List.length_take, List.length_append]
  omega

theorem eval_addShifted {target values : List BaseField} {shift : Nat}
    (h : shift + values.length ≤ target.length) (x : BaseField) :
    eval (addShifted target values shift) x = eval target x + x ^ shift * eval values x := by
  rw [addShifted, eval_addScaled (by simpa using h), eval_append, eval_replicate_zero, zero_add,
    one_mul, List.length_replicate]

namespace GenericUnivariateLayout

variable {layout : GenericUnivariateLayout} {hashes : Hashes} {seeder : RoundSeeder}

@[simp] theorem length_sampleLeading (polyIdx chunkIdx : Nat) :
    (layout.sampleLeading hashes polyIdx chunkIdx seeder).length = layout.nbQueries := by
  simp [sampleLeading]

theorem length_unitPolysFrom (polyIdx lastDegree left chunkIdx : Nat)
    (remaining previousLeading : List BaseField) :
    (layout.unitPolysFrom hashes polyIdx lastDegree seeder left chunkIdx remaining
      previousLeading).length = left + 1 := by
  induction left generalizing chunkIdx remaining previousLeading with
  | zero => rfl
  | succ left ih => rw [unitPolysFrom, List.length_cons, ih]

variable {lastDegree : Nat} {remaining previousLeading unit queries : List BaseField}
  {polynomials : List (List BaseField)}

theorem length_of_mem_unitPolysFrom {polyIdx left chunkIdx : Nat}
    (h : unit ∈ layout.unitPolysFrom hashes polyIdx lastDegree seeder left chunkIdx remaining
      previousLeading) : unit.length = layout.unstackedNbRows := by
  induction left generalizing chunkIdx remaining previousLeading with
  | zero =>
    rw [unitPolysFrom, List.mem_singleton] at h
    rw [h, length_shiftPoly, length_addScaled, length_resize]
  | succ left ih =>
    rw [unitPolysFrom, List.mem_cons] at h
    rcases h with rfl | h
    · rw [addShifted, length_addScaled, length_addScaled, length_resize]
    · exact ih h

def exponentsFrom (layout : GenericUnivariateLayout) (shift : Nat) : Nat → Nat → List Nat
  | left + 1, chunkIdx =>
    chunkIdx * layout.polyColSize :: exponentsFrom layout shift left (chunkIdx + 1)
  | 0, chunkIdx => [chunkIdx * layout.polyColSize - shift]

theorem eval_inner {leading : List BaseField}
    (hprevious : previousLeading.length ≤ layout.nbQueries)
    (hleading : leading.length = layout.nbQueries) (x : BaseField) :
    eval (addShifted (addScaled (-1) (resize layout.unstackedNbRows
        (remaining.take layout.polyColSize)) previousLeading) leading layout.polyColSize) x =
      eval (remaining.take layout.polyColSize) x - eval previousLeading x +
        x ^ layout.polyColSize * eval leading x := by
  have hrows : layout.unstackedNbRows = layout.polyColSize + layout.nbQueries := rfl
  rw [eval_addShifted (by rw [length_addScaled, length_resize]; omega),
    eval_addScaled (by rw [length_resize]; omega), eval_resize, List.take_take,
    Nat.min_eq_right (by omega)]
  ring

theorem eval_last (hprevious : previousLeading.length ≤ lastDegree + 1)
    (hlast : lastDegree + 1 ≤ layout.unstackedNbRows) (x : BaseField) :
    eval (shiftPoly (addScaled (-1) (resize layout.unstackedNbRows
        (remaining.take (lastDegree + 1))) previousLeading)
        (layout.unstackedNbRows - 1 - lastDegree)) x =
      x ^ (layout.unstackedNbRows - 1 - lastDegree) *
        (eval (remaining.take (lastDegree + 1)) x - eval previousLeading x) := by
  obtain ⟨shift, hshift⟩ := Nat.exists_eq_add_of_le hlast
  rw [hshift, show lastDegree + 1 + shift - 1 - lastDegree = shift by omega,
    resize_add _ _ _ (List.length_take_le _ _), addScaled_append (by simpa using hprevious),
    eval_shiftPoly, eval_addScaled (by simpa using hprevious), eval_resize, List.take_take,
    Nat.min_self]
  ring

/-- The leading coefficients cancel between neighbours. What is left of the polynomial, less the
leading coefficients that came before, is what the unit polynomials from here on add up to. -/
theorem dot_unitPolysFrom {polyIdx left chunkIdx : Nat}
    (hprevious : previousLeading.length ≤ layout.nbQueries)
    (hqueries : layout.nbQueries ≤ lastDegree + 1) (hlast : lastDegree + 1 ≤ layout.unstackedNbRows)
    (hshift : layout.unstackedNbRows - 1 - lastDegree ≤ (chunkIdx + left) * layout.polyColSize)
    (hremaining : remaining.length ≤ left * layout.polyColSize + (lastDegree + 1)) (x : BaseField) :
    dot ((layout.unitPolysFrom hashes polyIdx lastDegree seeder left chunkIdx remaining
        previousLeading).map (eval · x))
        ((layout.exponentsFrom (layout.unstackedNbRows - 1 - lastDegree) left chunkIdx).map (x ^ ·)) =
      x ^ (chunkIdx * layout.polyColSize) * (eval remaining x - eval previousLeading x) := by
  induction left generalizing chunkIdx remaining previousLeading with
  | zero =>
    rw [Nat.zero_mul, Nat.zero_add] at hremaining
    rw [Nat.add_zero] at hshift
    obtain ⟨low, hlow⟩ := Nat.exists_eq_add_of_le hshift
    rw [unitPolysFrom, exponentsFrom, List.map_singleton, List.map_singleton, dot_cons,
      dot_nil_left, add_zero, eval_last (hprevious.trans hqueries) hlast,
      List.take_of_length_le hremaining, hlow, Nat.add_sub_cancel_left, pow_add]
    ring
  | succ left ih =>
    have hleading : (layout.sampleLeading hashes polyIdx chunkIdx seeder).length =
        layout.nbQueries := length_sampleLeading polyIdx chunkIdx
    rw [unitPolysFrom, exponentsFrom, List.map_cons, List.map_cons, dot_cons,
      eval_inner hprevious hleading, ih hleading.le ?_ ?_,
      eval_take_add_drop remaining layout.polyColSize, Nat.succ_mul, pow_add]
    · ring
    · rw [show chunkIdx + 1 + left = chunkIdx + (left + 1) by omega]
      exact hshift
    · rw [List.length_drop]
      rw [Nat.succ_mul] at hremaining
      omega

structure Filled (layout : GenericUnivariateLayout) : Prop where
  beta : layout.beta ≠ 0
  column : ∀ degree ∈ layout.degrees, layout.unstackedNbRows ≤ degree + 1
  divided : ∀ degree ∈ layout.degrees,
    degree + 1 - layout.nbQueries = 0 ∨ layout.polyColSize ≠ 0

theorem filled_of_new {degrees : List Nat} {nbQueries polyColSize beta : Nat}
    (h : new degrees nbQueries polyColSize beta = .ok layout)
    (hdegrees : ∀ degree ∈ degrees, polyColSize + nbQueries ≤ degree + 1) :
    layout.Filled ∧ layout.degrees = degrees ∧ layout.nbQueries = nbQueries ∧
      layout.unstackedNbRows = polyColSize + nbQueries := by
  simp only [new, Except.bind_eq_ok, Except.ensure_eq_ok, Except.pure_eq_ok] at h
  obtain ⟨_, hbeta, _, hsplit, rfl⟩ := h
  exact ⟨⟨hbeta, hdegrees, fun degree hdegree => (hsplit degree hdegree).2⟩, rfl, rfl, rfl⟩

structure Split (layout : GenericUnivariateLayout) (degree before : Nat) : Prop where
  factor : layout.splitFactor degree = before + 1
  below : before * layout.polyColSize ≤ degree
  queries : before * layout.polyColSize + layout.nbQueries ≤ degree + 1
  column : degree + 1 ≤ before * layout.polyColSize + layout.unstackedNbRows

theorem Filled.split (h : layout.Filled) {degree : Nat} (hdegree : degree ∈ layout.degrees) :
    ∃ before, layout.Split degree before := by
  have hcolumn : layout.polyColSize + layout.nbQueries ≤ degree + 1 := h.column degree hdegree
  have hrows : layout.unstackedNbRows = layout.polyColSize + layout.nbQueries := rfl
  by_cases hnone : degree + 1 - layout.nbQueries = 0
  · refine ⟨0, ?_, by omega, by omega, by omega⟩
    rw [splitFactor, if_pos hnone]
  · have hpositive := Nat.pos_of_ne_zero ((h.divided degree hdegree).resolve_left hnone)
    -- The quotient is that of the numerator less one, plus one.
    have hdiv := Nat.div_add_mod (degree + 1 - layout.nbQueries - 1) layout.polyColSize
    have hmod := Nat.mod_lt (degree + 1 - layout.nbQueries - 1) hpositive
    rw [Nat.mul_comm] at hdiv
    refine ⟨(degree + 1 - layout.nbQueries - 1) / layout.polyColSize, ?_, by omega, by omega,
      by omega⟩
    rw [splitFactor, if_neg hnone, ← Nat.add_div_right _ hpositive]
    congr 1
    omega

theorem exponentsFrom_eq (shift left chunkIdx : Nat) :
    layout.exponentsFrom shift left chunkIdx =
      (List.range (left + 1)).map fun k => if k < left then (chunkIdx + k) * layout.polyColSize
        else (chunkIdx + left) * layout.polyColSize - shift := by
  induction left generalizing chunkIdx with
  | zero => simp [exponentsFrom]
  | succ left ih =>
    rw [exponentsFrom, ih, List.range_succ_eq_map (n := left + 1), List.map_cons, List.map_map,
      if_pos (Nat.succ_pos left), Nat.add_zero]
    refine congrArg (List.cons _) (List.map_congr_left fun k _ => ?_)
    rw [Function.comp_apply, show chunkIdx + 1 + k = chunkIdx + k.succ by omega,
      show chunkIdx + 1 + left = chunkIdx + (left + 1) by omega]
    simp only [Nat.succ_lt_succ_iff]

variable {degree before : Nat}

theorem Split.exponentsOf_eq (h : layout.Split degree before) :
    layout.exponentsOf degree =
      layout.exponentsFrom (layout.unstackedNbRows - 1 - layout.lastDegree degree) before 0 := by
  rw [exponentsFrom_eq, exponentsOf, h.factor]
  simp only [Nat.add_sub_cancel, Nat.zero_add]

theorem Split.dot_unitPolys (h : layout.Split degree before)
    (hcolumn : layout.unstackedNbRows ≤ degree + 1) (polyIdx : Nat) (poly : List BaseField)
    (x : BaseField) :
    dot ((layout.unitPolys hashes seeder polyIdx poly degree).map (eval · x))
        ((layout.exponentsOf degree).map (x ^ ·)) =
      eval (poly.take layout.unstackedNbRows) x := by
  obtain ⟨hfactor, hbelow, hqueries, hlast⟩ := h
  have hdegree : layout.lastDegree degree = degree - before * layout.polyColSize := by
    rw [lastDegree, hfactor, Nat.add_sub_cancel]
  rw [Split.exponentsOf_eq ⟨hfactor, hbelow, hqueries, hlast⟩, unitPolys, hfactor, Nat.add_sub_cancel,
    dot_unitPolysFrom (Nat.zero_le _) (by omega) (by omega) (by rw [Nat.zero_add]; omega)
      (by rw [length_resize]; omega), Nat.zero_mul, pow_zero, one_mul, eval_nil, sub_zero, eval_resize]

theorem Split.length_unitPolys (h : layout.Split degree before) (polyIdx : Nat)
    (poly : List BaseField) :
    (layout.unitPolys hashes seeder polyIdx poly degree).length = layout.splitFactor degree := by
  rw [unitPolys, length_unitPolysFrom, h.factor, Nat.add_sub_cancel]

def allUnits (layout : GenericUnivariateLayout) (hashes : Hashes) (seeder : RoundSeeder)
    (polynomials : List (List BaseField)) : List (List (List BaseField)) :=
  (polynomials.zip layout.degrees).zipIdx.map fun ((poly, degree), polyIdx) =>
    layout.unitPolys hashes seeder polyIdx poly degree

def stackRows (layout : GenericUnivariateLayout) (units : List (List BaseField)) :
    List (List BaseField) :=
  (List.range layout.nbRows).map fun row => (List.range layout.rowLength).map fun col =>
    (units.getD (row / layout.unstackedNbRows * layout.rowLength + col) []).getD
      (row % layout.unstackedNbRows) 0

theorem toRows_eq (h : polynomials.length = layout.nbPolys) :
    layout.toRows hashes polynomials seeder =
      .ok (layout.stackRows (layout.allUnits hashes seeder polynomials).flatten) := by
  rw [toRows, (Except.ensure_eq_ok (u := ())).mpr h]
  rfl

def queryRows (layout : GenericUnivariateLayout) (rows : List (List BaseField))
    (query : List BaseField) : List BaseField :=
  combine (List.replicate layout.rowLength 0) query rows

def blockQuery (layout : GenericUnivariateLayout) (x : BaseField) (k : Nat) : List BaseField :=
  resize layout.nbRows
    (List.replicate (k * layout.unstackedNbRows) 0 ++ powers x layout.unstackedNbRows)

theorem dot_powers_column {n : Nat} (h : unit.length ≤ n) (x : BaseField) :
    dot (powers x n) ((List.range n).map fun r => unit.getD r 0) = eval unit x := by
  have hcolumn : ((List.range n).map fun r => unit.getD r 0) =
      unit ++ List.replicate (n - unit.length) 0 := by
    refine List.ext_getElem (by simp; omega) fun r hr hr' => ?_
    rw [List.getElem_map, List.getElem_range, List.getElem_append]
    split
    · next hlt => rw [List.getD_eq_getElem _ _ hlt]
    · next hge => rw [List.getD_eq_default _ _ (by omega), List.getElem_replicate]
  have hlength : (unit ++ List.replicate (n - unit.length) 0).length = n := by
    rw [List.length_append, List.length_replicate]
    omega
  calc dot (powers x n) ((List.range n).map fun r => unit.getD r 0)
      = eval (unit ++ List.replicate (n - unit.length) 0) x := by
        rw [hcolumn, dot_comm, eval, hlength]
    _ = eval unit x := by rw [eval_append, eval_replicate_zero, mul_zero, add_zero]

theorem queryRows_block {units : List (List BaseField)} {k : Nat} (hk : k < layout.beta)
    (hunits : ∀ unit ∈ units, unit.length = layout.unstackedNbRows) (x : BaseField) :
    layout.queryRows (layout.stackRows units) (layout.blockQuery x k) =
      (List.range layout.rowLength).map fun col =>
        eval (units.getD (k * layout.rowLength + col) []) x := by
  refine List.ext_getElem (by simp [queryRows]) fun col hcol hcol' => ?_
  have hlt : col < layout.rowLength := by simpa using hcol'
  rw [← List.getD_eq_getElem _ 0 hcol, queryRows, getD_combine ?_, List.getElem_map,
    List.getElem_range, List.getD_replicate _ hlt, zero_add, stackRows, List.map_map]
  swap
  · intro row hrow
    obtain ⟨_, -, rfl⟩ := List.mem_map.mp hrow
    simp
  -- The rows before the block, those of the block and those behind it.
  obtain ⟨behind, hbehind⟩ := Nat.exists_eq_add_of_lt hk
  have hrows : layout.nbRows =
      k * layout.unstackedNbRows + layout.unstackedNbRows + behind * layout.unstackedNbRows := by
    rw [nbRows, hbehind]
    ring
  have hunit : (units.getD (k * layout.rowLength + col) []).length ≤ layout.unstackedNbRows := by
    rw [List.getD_eq_getElem?_getD]
    cases hget : units[k * layout.rowLength + col]? with
    | none => simp
    | some unit => exact (hunits unit (List.mem_of_getElem? hget)).le
  rw [blockQuery, hrows, resize_add _ _ _ (by simp), resize_eq, List.take_of_length_le (by simp),
    show k * layout.unstackedNbRows + layout.unstackedNbRows - _ = 0 by simp, List.replicate_zero,
    List.append_nil, List.range_add, List.range_add, List.map_append, List.map_append,
    dot_append _ _ (by simp), dot_append _ _ (by simp), dot_replicate_zero, dot_replicate_zero,
    zero_add, add_zero, List.map_map, ← dot_powers_column hunit]
  congr 1
  refine List.map_congr_left fun r hr => ?_
  have hr' : r < layout.unstackedNbRows := List.mem_range.mp hr
  simp only [Function.comp_apply]
  rw [getD_map_of_lt (by simpa using hlt), List.getElem_range,
    Nat.mul_comm k layout.unstackedNbRows, Nat.mul_add_div (by omega), Nat.mul_add_mod,
    Nat.div_eq_of_lt hr', Nat.mod_eq_of_lt hr', Nat.add_zero]

theorem length_of_mem_allUnits (h : unit ∈ (layout.allUnits hashes seeder polynomials).flatten) :
    unit.length = layout.unstackedNbRows := by
  obtain ⟨units, hunits, hunit⟩ := List.mem_flatten.mp h
  obtain ⟨⟨⟨poly, degree⟩, polyIdx⟩, -, rfl⟩ := List.mem_map.mp hunits
  exact length_of_mem_unitPolysFrom hunit

theorem Filled.forall₂_allUnits (h : layout.Filled) (hpolys : polynomials.length = layout.nbPolys)
    (x : BaseField) :
    List.Forall₂ (fun piece len => piece.length = len)
      ((layout.allUnits hashes seeder polynomials).map (·.map (eval · x))) layout.splitFactors := by
  have hdegrees : polynomials.length = layout.degrees.length := hpolys
  refine List.forall₂_iff_get.mpr ⟨by simp [allUnits, splitFactors, hdegrees], fun i hi hi' => ?_⟩
  have hmem : i < layout.degrees.length := by simpa [splitFactors] using hi'
  obtain ⟨before, hsplit⟩ := h.split (List.getElem_mem hmem)
  simp only [List.get_eq_getElem, allUnits, List.getElem_map, List.getElem_zipIdx,
    List.getElem_zip, List.length_map, splitFactors]
  exact hsplit.length_unitPolys _ _

theorem splitPieces_flatten {pieces : List (List BaseField)} {lens : List Nat}
    (h : List.Forall₂ (fun piece len => piece.length = len) pieces lens) :
    splitPieces lens pieces.flatten = pieces := by
  induction h with
  | nil => rfl
  | @cons piece len pieces lens hlen _ ih =>
    rw [splitPieces, List.flatten_cons, List.take_left' hlen, List.drop_left' hlen, ih]

theorem sum_of_forall₂_length {pieces : List (List BaseField)} {lens : List Nat}
    (h : List.Forall₂ (fun piece len => piece.length = len) pieces lens) :
    pieces.flatten.length = lens.sum := by
  induction h with
  | nil => rfl
  | cons hlen _ ih => rw [List.flatten_cons, List.length_append, hlen, ih, List.sum_cons]

theorem unstackedRowLength_le (h : layout.beta ≠ 0) :
    layout.unstackedRowLength ≤ layout.beta * layout.rowLength := by
  have hpositive := Nat.pos_of_ne_zero h
  have hdiv := Nat.div_add_mod (layout.unstackedRowLength + layout.beta - 1) layout.beta
  have hmod := Nat.mod_lt (layout.unstackedRowLength + layout.beta - 1) hpositive
  have hle := Nat.mul_le_mul_left layout.beta (le_max_left
    ((layout.unstackedRowLength + layout.beta - 1) / layout.beta) 1)
  unfold rowLength
  omega

def linearQueries (layout : GenericUnivariateLayout) (queries : List BaseField) :
    List (List BaseField) :=
  queries.flatMap fun x => (List.range layout.beta).map (layout.blockQuery x)

theorem toLvcsQueries_eq (h : queries.length = layout.nbQueries) :
    layout.toLvcsQueries queries = .ok (layout.linearQueries queries,
      (List.range layout.beta).flatMap fun k =>
        (List.range layout.nbQueries).map fun j => k * layout.unstackedNbRows + j) := by
  rw [toLvcsQueries, (Except.ensure_eq_ok (u := ())).mpr h]
  rfl

theorem Filled.pieces_eq (h : layout.Filled) (hpolys : polynomials.length = layout.nbPolys)
    {i : Nat} (hi : i < queries.length) :
    layout.pieces ((layout.linearQueries queries).map (layout.queryRows
        (layout.stackRows (layout.allUnits hashes seeder polynomials).flatten))) i =
      (layout.allUnits hashes seeder polynomials).map (·.map (eval · queries[i])) := by
  have hpieces : List.Forall₂ (fun piece len => piece.length = len)
      ((layout.allUnits hashes seeder polynomials).map (·.map (eval · queries[i])))
      layout.splitFactors := h.forall₂_allUnits hpolys queries[i]
  set units := (layout.allUnits hashes seeder polynomials).flatten with hunits
  have hblock : ∀ k ∈ List.range layout.beta,
      ((layout.linearQueries queries).map (layout.queryRows (layout.stackRows units))).getD
          (i * layout.beta + k) [] =
        (List.range layout.rowLength).map fun col =>
          eval (units.getD (k * layout.rowLength + col) []) queries[i] := by
    intro k hk
    rw [linearQueries, List.map_flatMap]
    simp only [List.map_map]
    rw [getD_flatMap_range _ _ hi (List.mem_range.mp hk), Function.comp_apply]
    exact queryRows_block (List.mem_range.mp hk) (fun _ => length_of_mem_allUnits) _
  have hlength : units.length = layout.unstackedRowLength := by
    have hsum := sum_of_forall₂_length hpieces
    rwa [← List.map_flatten, List.length_map] at hsum
  rw [pieces, List.flatMap_congr hblock,
    flatMap_range_blocks (fun n => eval (units.getD n []) queries[i]), ← hlength,
    take_map_range_getD (eval · queries[i]) units [] (hlength ▸ unstackedRowLength_le h.beta),
    hunits, List.map_flatten, splitPieces_flatten hpieces]

theorem Filled.toIopResponses_products (h : layout.Filled)
    (hpolys : polynomials.length = layout.nbPolys) (hqueries : queries.length = layout.nbQueries) :
    ∃ partialEvals, layout.toIopResponses queries ((layout.linearQueries queries).map
        (layout.queryRows (layout.stackRows (layout.allUnits hashes seeder polynomials).flatten))) =
      .ok (queries.map fun x => polynomials.map fun poly =>
        eval (poly.take layout.unstackedNbRows) x, partialEvals) := by
  have hcount : (layout.linearQueries queries).length = layout.nbLvcsQueries := by
    have hblocks : ∀ block ∈ queries.map fun x => (List.range layout.beta).map (layout.blockQuery x),
        block.length = layout.beta := by
      intro block hblock
      obtain ⟨x, -, rfl⟩ := List.mem_map.mp hblock
      simp
    rw [linearQueries, List.flatMap_def, length_flatten_of_forall hblocks, List.length_map, hqueries,
      nbLvcsQueries]
  have hdegrees : polynomials.length = layout.degrees.length := hpolys
  simp only [toIopResponses, Except.bind_eq_ok, Except.ensure_eq_ok, Except.pure_eq_ok]
  refine ⟨_, (), hqueries, (), by rw [List.length_map, hcount], Prod.ext ?_ rfl⟩
  refine List.ext_getElem (by simp [hqueries]) fun i hi hi' => ?_
  have hlt : i < queries.length := by simpa using hi'
  rw [List.getElem_map, List.getElem_range, List.getElem_map, h.pieces_eq hpolys hlt,
    List.getD_eq_getElem _ _ hlt]
  refine List.ext_getElem (by simp [allUnits, exponents, hdegrees]) fun j hj hj' => ?_
  have hmem : j < layout.degrees.length := by simpa [hdegrees] using hj'
  obtain ⟨before, hsplit⟩ := h.split (List.getElem_mem hmem)
  simp only [List.getElem_zipWith, allUnits, List.getElem_map, List.getElem_zipIdx,
    List.getElem_zip, exponents]
  exact hsplit.dot_unitPolys (h.column _ (List.getElem_mem hmem)) _ _ _

/-- For degrees that fill a column, the answers computed from the products are the values of the
polynomials exactly when at each query the coefficients past the length of a column contribute
nothing. -/
theorem iop_responses_of_products (hashes : Hashes) (seeder : RoundSeeder) {degrees : List Nat}
    {nbQueries polyColSize beta : Nat} (hnew : new degrees nbQueries polyColSize beta = .ok layout)
    (hdegrees : ∀ degree ∈ degrees, polyColSize + nbQueries ≤ degree + 1)
    (polynomials : List (List BaseField))
    (hpolys : List.Forall₂ (fun poly degree => poly.length = degree + 1) polynomials degrees)
    (queries : List BaseField) (hqueries : queries.length = nbQueries) :
    ∃ rows lvcsQueries fullrankCols iopResponses partialEvals,
      layout.toRows hashes polynomials seeder = .ok rows ∧
      layout.toLvcsQueries queries = .ok (lvcsQueries, fullrankCols) ∧
      layout.toIopResponses queries (lvcsQueries.map (layout.queryRows rows)) =
        .ok (iopResponses, partialEvals) ∧
      ((iopResponses = queries.map fun x => polynomials.map fun poly => eval poly x) ↔
        ∀ x ∈ queries, ∀ poly ∈ polynomials, x ^ (polyColSize + nbQueries) *
          eval (poly.drop (polyColSize + nbQueries)) x = 0) := by
  obtain ⟨hfilled, rfl, rfl, hcolumn⟩ := filled_of_new hnew hdegrees
  obtain ⟨partialEvals, hresponses⟩ := hfilled.toIopResponses_products hpolys.length_eq hqueries
  refine ⟨_, _, _, _, _, toRows_eq hpolys.length_eq, toLvcsQueries_eq hqueries, hresponses, ?_⟩
  simp only [List.map_inj_left, ← hcolumn]
  refine forall₂_congr fun x _ => forall₂_congr fun poly _ => ?_
  rw [eval_take_add_drop poly layout.unstackedNbRows x, left_eq_add]

def constantHashes : Hashes := ⟨fun _ _ => 1, fun _ _ => 1⟩

/-- A polynomial of degree four in columns of three: only its first three coefficients are
evaluated. -/
theorem dropped_coefficient :
    ∃ layout rows lvcsQueries fullrankCols partialEvals,
      new [4] 1 2 1 = .ok layout ∧
      layout.toRows constantHashes [[0, 0, 0, 1, 0]] ⟨[]⟩ = .ok rows ∧
      layout.toLvcsQueries [1] = .ok (lvcsQueries, fullrankCols) ∧
      layout.toIopResponses [1] (lvcsQueries.map (layout.queryRows rows)) =
        .ok ([[0]], partialEvals) ∧
      eval ([0, 0, 0, 1, 0] : List BaseField) 1 = 1 := by
  have hnew : new [4] 1 2 1 = .ok ⟨[4], 1, 2, 1⟩ := rfl
  obtain ⟨hfilled, -⟩ := filled_of_new hnew (by decide)
  obtain ⟨partialEvals, hresponses⟩ := hfilled.toIopResponses_products
    (show [[0, 0, 0, 1, 0]].length = 1 from rfl) (show [1].length = 1 from rfl)
  refine ⟨_, _, _, _, partialEvals, hnew, toRows_eq rfl, toLvcsQueries_eq rfl, ?_, by simp⟩
  rw [hresponses]
  simp [unstackedNbRows]

theorem iop_responses_of_short_polynomial :
    ∃ layout rows lvcsQueries fullrankCols partialEvals,
      new [4] 1 2 1 = .ok layout ∧ layout.splitFactors = [2] ∧
      layout.toRows constantHashes [[7, 8, 9, 0, 0]] ⟨[]⟩ = .ok rows ∧
      layout.toLvcsQueries [5] = .ok (lvcsQueries, fullrankCols) ∧
      layout.toIopResponses [5] (lvcsQueries.map (layout.queryRows rows)) =
        .ok ([[eval [7, 8, 9, 0, 0] 5]], partialEvals) := by
  have hnew : new [4] 1 2 1 = .ok ⟨[4], 1, 2, 1⟩ := rfl
  obtain ⟨rows, lvcsQueries, fullrankCols, iopResponses, partialEvals, hrows, hlvcs, hresponses,
    hvalues⟩ := iop_responses_of_products constantHashes ⟨[]⟩ hnew (by decide) [[7, 8, 9, 0, 0]]
      (.cons rfl .nil) [5] rfl
  refine ⟨_, rows, lvcsQueries, fullrankCols, partialEvals, hnew, rfl, hrows, hlvcs, ?_⟩
  rw [hresponses, hvalues.mpr (by simp)]
  rfl

end GenericUnivariateLayout

end CityG.Capss
