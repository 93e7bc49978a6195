import Mathlib
import GlobeView.Double.Arithmetic

/-! # Doubles without a sign

The equality test of doubles is coarser and finer than equality: it takes the two zeros for one
another, and it tells an undefined double from itself.  On doubles whose sign bit is clear it is
equality, as far as it holds (`Unsigned.eq_of_beq`); on doubles that are defined it is reflexive
(`Defined.beq_self`).  Both kinds come from the positive ones (`unpack_of_pos`), and products and
minima of positive doubles are of both kinds.

A double is a word of 64 bits; arithmetic takes it apart into its fields, and `fields_unpack` says
what each field is in terms of the parts. -/

namespace GlobeView.Double

open Float.Model Float.Model.UnpackedFloat

/-! ### Doubles taken apart -/

/-- The sign of a double; an undefined one counts as positive. -/
def signOf : UnpackedFloat → Sign
  | .infinity s => s
  | .notANumber => .positive
  | .zero s => s
  | .finite s _ _ _ => s

theorem eq_of_compare {u v : UnpackedFloat} (hu : signOf u = .positive)
    (hv : signOf v = .positive) (h : u.compare v = some .eq) : u = v := by
  cases u with
  | infinity s =>
      cases hu
      cases v with
      | infinity t => cases hv; rfl
      | notANumber => cases h
      | zero t => cases h
      | finite t n f hn => cases h
  | notANumber => cases h
  | zero s =>
      cases hu
      cases v with
      | infinity t => cases hv; cases h
      | notANumber => cases h
      | zero t => cases hv; rfl
      | finite t n f hn => cases hv; cases h
  | finite s m e hm =>
      cases hu
      cases v with
      | infinity t => cases hv; cases h
      | notANumber => cases h
      | zero t => cases h
      | finite t n f hn =>
          cases hv
          have hcmp : (compare e f).then (compare m n) = .eq := Option.some.inj h
          rw [Ordering.then_eq_eq, Std.compare_eq_iff_eq, Std.compare_eq_iff_eq] at hcmp
          obtain ⟨rfl, rfl⟩ := hcmp
          rfl

theorem signOf_roundWithAccuracy (spec : Float.Model.Format) (s : Sign) (m : ℕ) (e : Int)
    (a : Accuracy) : signOf (roundWithAccuracy spec s m e a) = s := by
  unfold roundWithAccuracy
  simp only
  split <;> rfl

theorem signOf_mul (spec : Float.Model.Format) {u v : UnpackedFloat} (hu : signOf u = .positive)
    (hv : signOf v = .positive) : signOf (UnpackedFloat.mul spec u v) = .positive := by
  cases u with
  | notANumber => rfl
  | infinity s => cases hu; cases v <;> cases hv <;> rfl
  | zero s => cases hu; cases v <;> cases hv <;> rfl
  | finite s m e hm =>
      cases hu
      cases v with
      | infinity t => cases hv; rfl
      | notANumber => rfl
      | zero t => cases hv; rfl
      | finite t n f hn =>
          cases hv
          exact signOf_roundWithAccuracy spec _ _ _ _

theorem roundWithAccuracy_ne_notANumber (spec : Float.Model.Format) (s : Sign) (m : ℕ) (e : Int)
    (a : Accuracy) : roundWithAccuracy spec s m e a ≠ .notANumber := by
  unfold roundWithAccuracy
  simp only
  split <;> exact UnpackedFloat.noConfusion

/-- Only an undefined double differs from itself. -/
theorem compare_self {u : UnpackedFloat} (hu : u ≠ .notANumber) : u.compare u = some .eq := by
  cases u with
  | notANumber => exact absurd rfl hu
  | infinity s => cases s <;> rfl
  | zero s => rfl
  | finite s m e hm => cases s <;> simp [UnpackedFloat.compare]

/-! ### The fields of a word -/

theorem unpackSign_packComponents (spec : Float.Model.Format) (s : Sign)
    (exponent : BitVec spec.exponentBits) (mantissa : BitVec spec.mantissaBitsWithoutImplicit) :
    unpackSign (packComponents spec s exponent mantissa) = s.toBitVec := by
  have hlow : ¬ spec.mantissaBitsWithoutImplicit + spec.exponentBits <
      spec.mantissaBitsWithoutImplicit := by omega
  ext i hi
  rw [Nat.lt_one_iff] at hi
  subst hi
  simp [unpackSign, packComponents, BitVec.getLsbD_append, BitVec.getElem_append, hlow]

theorem unpackSign_pack (spec : Float.Model.Format) {u : UnpackedFloat}
    (hu : signOf u = .positive) : unpackSign (UnpackedFloat.pack spec u) = 0#1 := by
  cases u with
  | finite s m e hm =>
      cases hu
      simp only [UnpackedFloat.pack, packedInfinity]
      split_ifs <;> exact unpackSign_packComponents ..
  | _ =>
      cases hu
      exact unpackSign_packComponents ..

theorem signOf_unpack (spec : Float.Model.Format) {b : BitVec spec.numBits}
    (hb : unpackSign b = 0#1) : signOf (UnpackedFloat.unpack spec b) = .positive := by
  simp only [UnpackedFloat.unpack, hb]
  split_ifs <;> rfl

/-- Packing keeps a defined double defined: where the exponent field is full, the significand is
empty. -/
theorem unpack_pack_ne_notANumber (spec : Float.Model.Format) {u : UnpackedFloat}
    (hu : u ≠ .notANumber) :
    UnpackedFloat.unpack spec (UnpackedFloat.pack spec u) ≠ .notANumber := by
  have hdefined {b : BitVec spec.numBits}
      (hb : unpackExponent b ≠ -1#_ ∨ unpackMantissa b = 0#_) :
      UnpackedFloat.unpack spec b ≠ .notANumber := by
    simp only [UnpackedFloat.unpack]
    split_ifs with hfull hempty
    all_goals first | exact UnpackedFloat.noConfusion | exact absurd hfull (hb.resolve_right hempty)
  apply hdefined
  cases u with
  | notANumber => exact absurd rfl hu
  | infinity s => exact .inr unpackMantissa_packComponents
  | zero s => exact .inr unpackMantissa_packComponents
  | finite s m e hm =>
      simp only [UnpackedFloat.pack]
      split_ifs with hlarge hnormal
      · exact .inr unpackMantissa_packComponents
      · left
        rw [unpackExponent_packComponents, BitVec.neg_one_eq_allOnes, ne_eq, ← BitVec.toNat_inj,
          BitVec.toNat_ofNat, BitVec.toNat_allOnes, Nat.mod_eq_of_lt (by omega)]
        omega
      · left
        rw [unpackExponent_packComponents]
        simp [Nat.pos_iff_ne_zero.1 spec.he]

theorem sign_ofBitVec_injective {a b : BitVec 1} (h : Sign.ofBitVec a = Sign.ofBitVec b) :
    a = b := by
  obtain rfl | rfl := BitVec.eq_zero_or_eq_one a <;>
    obtain rfl | rfl := BitVec.eq_zero_or_eq_one b <;> first | rfl | cases h

/-- The leading bit of a normal significand is not written. -/
theorem toNat_leading (mantissa : BitVec 52) :
    (1#1 ++ mantissa).toNat = 2 ^ 52 + mantissa.toNat := by
  rw [BitVec.toNat_append, ← Nat.shiftLeft_add_eq_or_of_lt mantissa.isLt]
  rfl

/-- What the fields of a word are when it is taken apart as `u`. -/
def Fields (b : BitVec Format.binary64.numBits) : UnpackedFloat → Prop
  | .infinity s =>
    Sign.ofBitVec (unpackSign b) = s ∧ unpackExponent b = -1#_ ∧ unpackMantissa b = 0#_
  | .notANumber => unpackExponent b = -1#_ ∧ unpackMantissa b ≠ 0#_
  | .zero s => Sign.ofBitVec (unpackSign b) = s ∧ unpackExponent b = 0#_ ∧ unpackMantissa b = 0#_
  | .finite s m e _ =>
    Sign.ofBitVec (unpackSign b) = s ∧
      ((unpackExponent b).toNat = 0 ∧ m = (unpackMantissa b).toNat ∨
        (unpackExponent b).toNat ≠ 0 ∧ m = 2 ^ 52 + (unpackMantissa b).toNat ∧
          e = ((unpackExponent b).toNat : Int) - 1075)

theorem fields_unpack (b : BitVec Format.binary64.numBits) :
    Fields b (UnpackedFloat.unpack .binary64 b) := by
  simp only [UnpackedFloat.unpack]
  split_ifs with hinf hfrac hzero hnone
  · exact ⟨rfl, hinf, hfrac⟩
  · exact ⟨hinf, hfrac⟩
  · exact ⟨rfl, hzero, hnone⟩
  · refine ⟨rfl, .inl ⟨?_, rfl⟩⟩
    rw [hzero]
    rfl
  · refine ⟨rfl, .inr ⟨?_, ?_, rfl⟩⟩
    · intro h
      exact hzero (BitVec.eq_of_toNat_eq h)
    · exact toNat_leading _

theorem eq_of_fields {a b : BitVec Format.binary64.numBits} (hs : unpackSign a = unpackSign b)
    (he : unpackExponent a = unpackExponent b) (hm : unpackMantissa a = unpackMantissa b) :
    a = b := by
  apply BitVec.eq_of_getLsbD_eq
  intro i hi
  have hs' := congrArg (BitVec.getLsbD · (i - 63)) hs
  have he' := congrArg (BitVec.getLsbD · (i - 52)) he
  have hm' := congrArg (BitVec.getLsbD · i) hm
  simp only [unpackSign, unpackExponent, unpackMantissa, BitVec.getLsbD_cast,
    BitVec.getLsbD_extractLsb] at hs' he' hm'
  have hwidth : i < 64 := hi
  obtain hfrac | ⟨hexp, hlow⟩ | hsign : i < 52 ∨ (i < 63 ∧ 52 ≤ i) ∨ i = 63 := by omega
  · simpa [hfrac] using hm'
  · have hrange : i - 52 < 11 := by omega
    have hplace : 52 + (i - 52) = i := by omega
    simpa [hrange, hplace] using he'
  · subst hsign
    simpa using hs'

theorem unpack_injective {x y : Float.Model} (h : x.unpack = y.unpack) : x = y := by
  have hx : Fields x.toBits.toBitVec x.unpack := fields_unpack _
  have hy : Fields y.toBits.toBitVec x.unpack := by
    rw [h]
    exact fields_unpack _
  have hword : x.toBits.toBitVec = y.toBits.toBitVec := by
    cases hu : x.unpack with
    | notANumber =>
        -- There is one undefined double.
        rw [hu] at hx hy
        exact (x.valid.eq_packedNaN hx.1 hx.2).trans (y.valid.eq_packedNaN hy.1 hy.2).symm
    | infinity s | zero s =>
        rw [hu] at hx hy
        obtain ⟨hsx, hex, hmx⟩ := hx
        obtain ⟨hsy, hey, hmy⟩ := hy
        exact eq_of_fields (sign_ofBitVec_injective (hsx.trans hsy.symm)) (hex.trans hey.symm)
          (hmx.trans hmy.symm)
    | finite s m e hm =>
        rw [hu] at hx hy
        obtain ⟨hsx, hpx⟩ := hx
        obtain ⟨hsy, hpy⟩ := hy
        -- The leading bit of the significand tells a normal number from a subnormal one.
        have hltx : (@unpackMantissa .binary64 x.toBits.toBitVec).toNat < 2 ^ 52 :=
          BitVec.isLt _
        have hlty : (@unpackMantissa .binary64 y.toBits.toBitVec).toNat < 2 ^ 52 :=
          BitVec.isLt _
        refine eq_of_fields (sign_ofBitVec_injective (hsx.trans hsy.symm)) ?_ ?_
        · apply BitVec.eq_of_toNat_eq
          omega
        · apply BitVec.eq_of_toNat_eq
          omega
  cases x
  cases y
  rw [Float.Model.mk.injEq]
  exact UInt64.toBitVec_inj.mp hword

/-! ### Doubles -/

theorem eq_of_unpack {x y : Float} (h : x.toModel.unpack = y.toModel.unpack) : x = y := by
  have hmodel : x.toModel = y.toModel := unpack_injective h
  cases x with
  | ofModel a =>
      cases y with
      | ofModel b => exact congrArg Float.ofModel hmodel

theorem unpack_zero : (0 : Float).toModel.unpack = .zero .positive := rfl

/-- A positive double is taken apart as infinity or as a finite number without a sign. -/
theorem unpack_of_pos {x : Float} (h : 0 < x) :
    x.toModel.unpack = .infinity .positive ∨
      ∃ m e hm, x.toModel.unpack = .finite .positive m e hm := by
  have hcmp : (UnpackedFloat.zero .positive).compare x.toModel.unpack = some .lt := by
    rw [← unpack_zero]
    exact LawfulBEq.eq_of_beq (of_decide_eq_true h)
  generalize x.toModel.unpack = u at hcmp
  cases u with
  | infinity s =>
      cases s with
      | negative => cases hcmp
      | positive => exact .inl rfl
  | notANumber => cases hcmp
  | zero s => cases hcmp
  | finite s m e hm =>
      cases s with
      | negative => cases hcmp
      | positive => exact .inr ⟨m, e, hm, rfl⟩

/-- The sign bit is clear. -/
def Unsigned (x : Float) : Prop := signOf x.toModel.unpack = .positive

namespace Unsigned

variable {x y : Float}

theorem eq_of_beq (hx : Unsigned x) (hy : Unsigned y) (h : (x == y) = true) : x = y := by
  have hcmp : x.toModel.unpack.compare y.toModel.unpack = some .eq := LawfulBEq.eq_of_beq h
  exact eq_of_unpack (eq_of_compare hx hy hcmp)

theorem mul (hx : Unsigned x) (hy : Unsigned y) : Unsigned (x * y) := by
  unfold Unsigned
  exact signOf_unpack _ (unpackSign_pack _ (signOf_mul _ hx hy))

theorem of_pos (h : 0 < x) : Unsigned x := by
  unfold Unsigned
  obtain hx | ⟨m, e, hm, hx⟩ := unpack_of_pos h <;> rw [hx] <;> rfl

theorem min (hx : Unsigned x) (hy : Unsigned y) : Unsigned (Scalar.min x y) := by
  unfold Scalar.min
  split_ifs <;> assumption

end Unsigned

/-- The double is a number or infinite. -/
def Defined (x : Float) : Prop := x.toModel.unpack ≠ .notANumber

namespace Defined

variable {x y : Float}

theorem beq_self (hx : Defined x) : (x == x) = true := by
  show (x.toModel.unpack.compare x.toModel.unpack == some .eq) = true
  rw [compare_self hx]
  rfl

theorem of_pos (h : 0 < x) : Defined x := by
  unfold Defined
  obtain hx | ⟨m, e, hm, hx⟩ := unpack_of_pos h <;> rw [hx] <;> exact UnpackedFloat.noConfusion

/-- A product of positive doubles may round to zero or to infinity, but it is defined. -/
theorem mul_of_pos (hx : 0 < x) (hy : 0 < y) : Defined (x * y) := by
  unfold Defined
  apply unpack_pack_ne_notANumber .binary64
  obtain hx | ⟨m, e, hm, hx⟩ := unpack_of_pos hx
  · obtain hy | ⟨n, f, hn, hy⟩ := unpack_of_pos hy <;> rw [hx, hy] <;>
      exact UnpackedFloat.noConfusion
  · obtain hy | ⟨n, f, hn, hy⟩ := unpack_of_pos hy
    · rw [hx, hy]
      exact UnpackedFloat.noConfusion
    · rw [hx, hy]
      exact roundWithAccuracy_ne_notANumber .binary64 _ (m * n) (e + f) _

theorem min (hx : Defined x) (hy : Defined y) : Defined (Scalar.min x y) := by
  unfold Scalar.min
  split_ifs <;> assumption

end Defined

end GlobeView.Double
