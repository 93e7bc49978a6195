import GlobeView.Proofs.DoubleProducts
import GlobeView.Proofs.PointerOnMarker

/-! # The order of picking

The marker under the pointer is the first of the list that the search takes, whatever comes after it
and whatever stands between the markers that can be hit.

* Markers that cannot be hit do not count: the search over a list finds what the search over its
  shown markers finds (`firstHit?_filter`).
* A marker that grows is still taken where it was taken before, because the hit radius grows with
  the size (`HitOptions.Grows`): on doubles this holds with rounding, overflow and undefined products
  (`HitOptions.grows`).  So all that can change is that the marker is hit now, in front of what was
  hit before (`firstHit?_set`). -/

namespace GlobeView

section search

variable {α : Type}

/-- The hit in a list that has so many more markers in front. -/
def MarkerHit.shift (k : ℕ) (hit : MarkerHit α) : MarkerHit α := { hit with index := hit.index + k }

variable [Scalar α]

instance (view : View α) (m : Marker α) : Decidable (m.IsShown view) :=
  inferInstanceAs (Decidable (_ ∧ _))

/-- The hit among the markers of a list that can be hit at all. -/
def MarkerHit.amongShown (view : View α) (markers : List (Marker α)) (hit : MarkerHit α) :
    MarkerHit α :=
  { hit with index := (markers.take hit.index).countP (·.IsShown view) }

variable {view : View α} {scale : α} {o : HitOptions α} {pointer : Vec2 α}

theorem Marker.hitPoint?_of_hidden {m : Marker α} (h : ¬ m.IsShown view) :
    m.hitPoint? view scale o pointer = none := by
  rw [← Option.not_isSome_iff_eq_none, isSome_hitPoint?]
  exact fun htaken => h htaken.1

theorem Marker.isShown_of_hitPoint? {m : Marker α} {p : Vec2 α}
    (h : m.hitPoint? view scale o pointer = some p) : m.IsShown view := by
  by_contra hhidden
  rw [hitPoint?_of_hidden hhidden] at h
  cases h

theorem firstHit?_add (index k : ℕ) (markers : List (Marker α)) :
    firstHit? view scale o pointer (index + k) markers =
      (firstHit? view scale o pointer index markers).map (·.shift k) := by
  induction markers generalizing index with
  | nil => rfl
  | cons m rest ih =>
      unfold firstHit?
      split
      · rfl
      · rw [Nat.add_right_comm, ih]

theorem firstHit?_append (index : ℕ) (front back : List (Marker α)) :
    firstHit? view scale o pointer index (front ++ back) =
      (firstHit? view scale o pointer index front).or
        (firstHit? view scale o pointer (index + front.length) back) := by
  induction front generalizing index with
  | nil => rfl
  | cons m rest ih =>
      rw [List.cons_append, firstHit?, firstHit?]
      split
      · rfl
      · rw [ih, List.length_cons, Nat.add_right_comm, Nat.add_assoc]

theorem firstHit?_of_hidden (index : ℕ) {markers : List (Marker α)}
    (h : ∀ m ∈ markers, ¬ m.IsShown view) :
    firstHit? view scale o pointer index markers = none := by
  induction markers generalizing index with
  | nil => rfl
  | cons m rest ih =>
      obtain ⟨hm, hrest⟩ := List.forall_mem_cons.mp h
      rw [firstHit?, Marker.hitPoint?_of_hidden hm]
      exact ih (index + 1) hrest

/-- The search over a list is the search over the markers that can be hit. -/
theorem firstHit?_filter (markers : List (Marker α)) :
    firstHit? view scale o pointer 0 (markers.filter (·.IsShown view)) =
      (firstHit? view scale o pointer 0 markers).map (·.amongShown view markers) := by
  induction markers with
  | nil => rfl
  | cons m rest ih =>
      cases hm : m.hitPoint? view scale o pointer with
      | some p =>
          have hshown : m.IsShown view := Marker.isShown_of_hitPoint? hm
          rw [List.filter_cons_of_pos (by simpa using hshown), firstHit?, firstHit?, hm]
          rfl
      | none =>
          have hlist : firstHit? view scale o pointer 0 (m :: rest) =
              (firstHit? view scale o pointer 0 rest).map (·.shift 1) := by
            rw [firstHit?, hm]
            exact firstHit?_add 0 1 rest
          rw [hlist, Option.map_map]
          by_cases hshown : m.IsShown view
          · rw [List.filter_cons_of_pos (by simpa using hshown), firstHit?, hm]
            show firstHit? view scale o pointer (0 + 1) _ = _
            rw [firstHit?_add, ih, Option.map_map]
            congr 1
            funext hit
            simp [MarkerHit.amongShown, MarkerHit.shift, hshown]
          · rw [List.filter_cons_of_neg (by simpa using hshown), ih]
            congr 1
            funext hit
            simp [MarkerHit.amongShown, MarkerHit.shift, hshown]

/-- Markers that cannot be hit only move the ones behind them. -/
theorem firstHit?_insert (front back : List (Marker α)) {extra : List (Marker α)}
    (h : ∀ m ∈ extra, ¬ m.IsShown view) :
    firstHit? view scale o pointer 0 (front ++ extra ++ back) =
      (firstHit? view scale o pointer 0 (front ++ back)).map fun hit =>
        if hit.index < front.length then hit else hit.shift extra.length := by
  rw [firstHit?_append, firstHit?_append, firstHit?_append, firstHit?_of_hidden _ h, Option.or_none]
  cases hfront : firstHit? view scale o pointer 0 front with
  | some hit =>
      obtain ⟨place, p, hindex, hplace, _⟩ := firstHit?_eq_some hfront
      have hbound : hit.index < front.length := by
        rw [hindex, Nat.zero_add]
        exact (List.getElem?_eq_some_iff.mp hplace).1
      simp [hbound]
  | none =>
      rw [Option.none_or, Option.none_or, List.length_append, ← Nat.add_assoc, firstHit?_add]
      cases hback : firstHit? view scale o pointer (0 + front.length) back with
      | none => rfl
      | some hit =>
          obtain ⟨place, p, hindex, _⟩ := firstHit?_eq_some hback
          have hbound : ¬ hit.index < front.length := by omega
          simp [hbound]

/-! ### A marker that grows -/

section grown

variable {m grown : Marker α}
  (hgrown : ∀ p, m.hitPoint? view scale o pointer = some p →
    grown.hitPoint? view scale o pointer = some p)
include hgrown

theorem firstHit?_cons_grown (index : ℕ) (rest : List (Marker α)) :
    let before := firstHit? view scale o pointer index (m :: rest)
    let after := firstHit? view scale o pointer index (grown :: rest)
    (after = before ∨ ∃ position, after = some ⟨index, grown, position⟩) ∧
      ∀ hit, before = some hit → hit.index = index →
        after = some ⟨index, grown, hit.position⟩ := by
  intro before after
  cases hpoint : m.hitPoint? view scale o pointer with
  | some p =>
      have hbefore : before = some ⟨index, m, p.scale (1 / scale)⟩ := by
        simp only [before, firstHit?, hpoint]
      have hafter : after = some ⟨index, grown, p.scale (1 / scale)⟩ := by
        simp only [after, firstHit?, hgrown p hpoint]
      refine ⟨.inr ⟨_, hafter⟩, fun hit hhit _ => ?_⟩
      obtain rfl := Option.some.inj (hbefore.symm.trans hhit)
      exact hafter
  | none =>
      have hbefore : before = firstHit? view scale o pointer (index + 1) rest := by
        simp only [before, firstHit?, hpoint]
      refine ⟨?_, fun hit hhit hindex => ?_⟩
      · cases hpoint' : grown.hitPoint? view scale o pointer with
        | some p => exact .inr ⟨p.scale (1 / scale), by simp only [after, firstHit?, hpoint']⟩
        | none =>
            left
            rw [hbefore]
            simp only [after, firstHit?, hpoint']
      · -- what is hit behind it has a greater place
        obtain ⟨place, p, hplace, _⟩ := firstHit?_eq_some (hbefore.symm.trans hhit)
        omega

/-- A marker is replaced by one that is taken wherever it was taken: then either what is hit stays,
or the new marker is hit. -/
theorem firstHit?_set (index : ℕ) {markers : List (Marker α)} {j : ℕ} (hm : markers[j]? = some m) :
    let before := firstHit? view scale o pointer index markers
    let after := firstHit? view scale o pointer index (markers.set j grown)
    (after = before ∨ ∃ position, after = some ⟨index + j, grown, position⟩) ∧
      ∀ hit, before = some hit → hit.index = index + j →
        after = some ⟨index + j, grown, hit.position⟩ := by
  intro before after
  induction markers generalizing index j with
  | nil => cases hm
  | cons front rest ih =>
      cases j with
      | zero =>
          obtain rfl := Option.some.inj hm
          exact firstHit?_cons_grown hgrown index rest
      | succ j =>
          cases hfront : front.hitPoint? view scale o pointer with
          | some p =>
              have hbefore : before = some ⟨index, front, p.scale (1 / scale)⟩ := by
                simp only [before, firstHit?, hfront]
              have hafter : after = before := by
                simp only [after, before, List.set_cons_succ, firstHit?, hfront]
              refine ⟨.inl hafter, fun hit hhit hindex => ?_⟩
              obtain rfl := Option.some.inj (hbefore.symm.trans hhit)
              exact absurd hindex (by simp)
          | none =>
              have hbefore : before = firstHit? view scale o pointer (index + 1) rest := by
                simp only [before, firstHit?, hfront]
              have hafter :
                  after = firstHit? view scale o pointer (index + 1) (rest.set j grown) := by
                simp only [after, List.set_cons_succ, firstHit?, hfront]
              rw [hbefore, hafter, ← Nat.add_assoc, Nat.add_right_comm]
              exact ih (index + 1) hm

end grown

/-- A marker that is larger is hit from wherever it was hit. -/
def HitOptions.Grows (o : HitOptions α) (scale : α) : Prop :=
  ∀ size size' distance : α, size ≤ size' → o.radius size' scale ≤ distance →
    o.radius size scale ≤ distance

theorem Marker.hitPoint?_of_grows (hgrows : o.Grows scale) {m : Marker α} {size : α}
    (hsize : m.size ≤ size) {p : Vec2 α} (h : m.hitPoint? view scale o pointer = some p) :
    { m with size }.hitPoint? view scale o pointer = some p := by
  simp only [hitPoint?] at h ⊢
  split at h
  · next htaken =>
    simp only [Bool.and_eq_true, Bool.not_eq_true', decide_eq_false_iff_not] at htaken
    rw [if_pos]
    · exact h
    · simp only [Bool.and_eq_true, Bool.not_eq_true', decide_eq_false_iff_not]
      exact ⟨htaken.1, mt (hgrows _ _ _ hsize) htaken.2⟩
  · cases h

end search

section doubles

open Double

theorem HitOptions.grows {o : HitOptions Float} {scale : Float} (hmin : 0 ≤ o.minRadius)
    (hfactor : 0 ≤ o.sizeFactor) (hfinite : scale.isFinite = true) (hpos : 0 < scale) :
    o.Grows scale := by
  intro size size' distance hsize hnear
  have hzero : position 0 = 0 := rfl
  obtain ⟨⟨_, hmindef⟩, hminpos⟩ := le_iff.mp hmin
  obtain ⟨_, hfactorpos⟩ := le_iff.mp hfactor
  obtain ⟨_, hscalepos⟩ := lt_iff.mp hpos
  rw [hzero] at hminpos hfactorpos hscalepos
  have hleast : Defined (o.minRadius * scale) := hmindef.mul_of_finite hpos hfinite
  have hleastpos : 0 ≤ position (o.minRadius * scale) := position_mul_nonneg hminpos hscalepos.le
  let least := position (o.minRadius * scale)
  let sized (size : Float) := position (size * o.sizeFactor * scale)
  have hradius (size : Float) : position (o.radius size scale) = max least (sized size) :=
    position_max hleast hleastpos
  have hsized : sized size ≤ sized size' :=
    position_mul_mono (position_mul_mono (le_iff.mp hsize).2 hfactorpos) hscalepos.le
  obtain ⟨⟨_, hdistance⟩, hnear⟩ := le_iff.mp hnear
  refine le_iff.mpr ⟨⟨hleast.max, hdistance⟩, ?_⟩
  calc position (o.radius size scale)
      = max least (sized size) := hradius size
    _ ≤ max least (sized size') := max_le_max_left _ hsized
    _ = position (o.radius size' scale) := (hradius size').symm
    _ ≤ position distance := hnear

/-- **The order of picking.**  On a surface with a positive finite scale and with options that are
not negative:

* what comes behind a hit does not change it;
* markers that carry no tooltip or face away do not change which marker is hit and where, whether
  they are all in one place, and then they move the places behind them, or anywhere in the list;
* when a marker grows, either nothing changes or that marker is hit, and if it was hit before, it
  still is, at the same position. -/
theorem picking_order {size : SurfaceSize Float} (hfinite : size.scaleFactor.isFinite = true)
    (hpos : 0 < size.scaleFactor) {o : HitOptions Float} (hmin : 0 ≤ o.minRadius)
    (hfactor : 0 ≤ o.sizeFactor) (pointer : Vec2 Float) (phi theta : Float) :
    let view : View Float := ⟨phi, theta, size.render⟩
    let pick (markers : List (Marker Float)) := hitTest markers pointer phi theta size o
    (∀ markers more hit, pick markers = some hit → pick (markers ++ more) = some hit) ∧
    (∀ front extra back, (∀ m ∈ extra, ¬ m.IsShown view) →
      pick (front ++ extra ++ back) = (pick (front ++ back)).map fun hit =>
        if hit.index < front.length then hit else hit.shift extra.length) ∧
    (∀ markers others, others.filter (·.IsShown view) = markers.filter (·.IsShown view) →
      (pick others).map (·.amongShown view others) =
        (pick markers).map (·.amongShown view markers)) ∧
    ∀ markers j m larger, markers[j]? = some m → m.size ≤ larger →
      let grown := { m with size := larger }
      let after := pick (markers.set j grown)
      (after = pick markers ∨ ∃ position, after = some ⟨j, grown, position⟩) ∧
        ∀ hit, pick markers = some hit → hit.index = j →
          after = some ⟨j, grown, hit.position⟩ := by
  intro view pick
  have hpick (markers : List (Marker Float)) : pick markers =
      firstHit? view size.scaleFactor o (pointer.scale size.scaleFactor) 0 markers :=
    hitTest_of_scale hfinite hpos markers pointer phi theta o
  refine ⟨?_, ?_, ?_, ?_⟩
  · intro markers more hit hhit
    rw [hpick] at hhit ⊢
    rw [firstHit?_append, hhit, Option.some_or]
  · intro front extra back hextra
    rw [hpick, hpick]
    exact firstHit?_insert front back hextra
  · intro markers others hshown
    rw [hpick, hpick, ← firstHit?_filter, ← firstHit?_filter, hshown]
  · intro markers j m larger hm hlarger grown after
    have hgrows : o.Grows size.scaleFactor := HitOptions.grows hmin hfactor hfinite hpos
    let place := pointer.scale size.scaleFactor
    have hgrown (p : Vec2 Float) (hp : m.hitPoint? view size.scaleFactor o place = some p) :
        grown.hitPoint? view size.scaleFactor o place = some p :=
      Marker.hitPoint?_of_grows hgrows hlarger hp
    have hset := firstHit?_set hgrown 0 hm
    rw [Nat.zero_add] at hset
    simp only [after, hpick]
    exact hset

/-- A marker without a tooltip stands in front of one that grows. -/
theorem picking_order_behind_plain :
    let size : SurfaceSize Float := ⟨600, 300⟩
    let o : HitOptions Float := .default
    let pointer : Vec2 Float := ⟨300, 300⟩
    let plain : Marker Float := ⟨⟨0, 0⟩, 0.05, none, false⟩
    let seen : Marker Float := ⟨⟨0, 0⟩, 0.05, some "here", false⟩
    let larger : Marker Float := { seen with size := 0.1 }
    let pick (markers : List (Marker Float)) := hitTest markers pointer 0 0 size o
    size.scaleFactor.isFinite = true ∧ 0 < size.scaleFactor ∧ 0 ≤ o.minRadius ∧ 0 ≤ o.sizeFactor ∧
      seen.size ≤ larger.size ∧ pick [plain, seen] = (pick [seen]).map (·.shift 1) ∧
      (pick [plain, larger] = pick [plain, seen] ∨
        ∃ position, pick [plain, larger] = some ⟨1, larger, position⟩) := by
  intro size o pointer plain seen larger pick
  have hfinite : size.scaleFactor.isFinite = true := by decide +kernel
  have hpos : 0 < size.scaleFactor := by decide +kernel
  have hmin : 0 ≤ o.minRadius := by decide +kernel
  have hfactor : 0 ≤ o.sizeFactor := by decide +kernel
  have hsize : seen.size ≤ larger.size := by decide +kernel
  obtain ⟨_, hinsert, _, hgrow⟩ := picking_order hfinite hpos hmin hfactor pointer 0 0
  have hplain : ∀ m ∈ [plain], ¬ m.IsShown ⟨0, 0, size.render⟩ := by
    intro m hm hshown
    obtain rfl := List.mem_singleton.mp hm
    exact Bool.false_ne_true hshown.1
  exact ⟨hfinite, hpos, hmin, hfactor, hsize, hinsert [] [plain] [seen] hplain,
    (hgrow [plain, seen] 1 seen 0.1 rfl hsize).1⟩

end doubles

end GlobeView
