import GlobeView.Proofs.DoubleRange
import GlobeView.Proofs.JsonRoundTrip

/-! # The numbers of a text are finite

`Yields r P` says that whatever reader `r` answers has property `P`.  A number that is read is a
finite double: its significand fits into a word, it is multiplied by a power of ten only if that
stays in range, and a quotient by a power of ten always does (`yields_float`).

What the fields of a record keep and its blank has, the record that is read has
(`yields_record`).  So all numbers of a configuration that was read are finite, those that no range
is asked of included (`Config.allFinite_ofJson`). -/

namespace GlobeView

namespace Json

/-- Whatever a reader answers has a property. -/
def Yields {β : Type} (r : Reader β) (P : β → Prop) : Prop :=
  ∀ cs v rest, r cs = .ok (v, rest) → P v

/-! ### Numerals -/

/-- A number whose significand fits into a word. -/
def Numeral.Fits : Numeral → Prop
  | .whole n => n.natAbs < wordRange
  | .real _ significand _ => significand < wordRange

theorem takeDigits_lt {significand : ℕ} (h : significand < wordRange) (taken : ℕ)
    (cs : List Char) : (takeDigits significand taken cs).1 < wordRange := by
  induction cs generalizing significand taken with
  | nil => exact h
  | cons c rest ih =>
      simp only [takeDigits]
      split_ifs with hnext
      · exact ih hnext _
      · exact h

section numerals

variable {significand : ℕ} (h : significand < wordRange) (negative : Bool)
include h

theorem fits_wholeNumeral : (wholeNumeral negative significand).Fits := by
  unfold wholeNumeral
  split_ifs
  · exact h
  · simpa [Numeral.Fits] using h
  · simpa [Numeral.Fits] using h

theorem yields_readScale (exponent : ℤ) :
    Yields (readScale negative significand exponent) Numeral.Fits := by
  intro cs n rest hread
  simp only [readScale] at hread
  split at hread
  · split_ifs at hread
    · split at hread <;> cases hread
      exact h
    · cases hread
      exact h
  · cases hread
    exact h

theorem yields_readPlaces (exponent : ℤ) :
    Yields (readPlaces negative significand exponent) Numeral.Fits := by
  intro cs n rest hread
  simp only [readPlaces] at hread
  split_ifs at hread
  exact yields_readScale (takeDigits_lt h _ _) negative _ _ _ _ hread

theorem yields_readFraction (dropped : ℕ) :
    Yields (readFraction negative significand dropped) Numeral.Fits := by
  intro cs n rest hread
  simp only [readFraction] at hread
  split at hread
  · split_ifs at hread
    · exact yields_readPlaces h negative _ _ _ _ hread
    · exact yields_readScale h negative _ _ _ _ hread
    · cases hread
      exact fits_wholeNumeral h negative
    · cases hread
      exact h
  · split_ifs at hread <;> cases hread
    · exact fits_wholeNumeral h negative
    · exact h

end numerals

theorem yields_readUnsigned (negative : Bool) : Yields (readUnsigned negative) Numeral.Fits := by
  have hzero : 0 < wordRange := by decide
  intro cs n rest hread
  simp only [readUnsigned] at hread
  split at hread
  · cases hread
  · split_ifs at hread
    · exact yields_readFraction hzero negative _ _ _ _ hread
    · exact yields_readFraction (takeDigits_lt hzero _ _) negative _ _ _ _ hread

/-! ### Doubles -/

section powers

variable {k : ℕ} (hlow : 22 < k)
include hlow

theorem unpack_powerOfTen : (powerOfTen k).toModel.unpack =
    Double.stored (Float.Model.UnpackedFloat.ofScientific .binary64 1 k) := by
  have hmodel : powerOfTen k = Float.ofModel (Float.Model.ofScientific 1 k) :=
    dif_neg fun hfast => hlow.not_ge hfast.2
  rw [hmodel]
  rfl

theorem position_powerOfTen (hhigh : k ≤ 308) :
    Double.position (powerOfTen k) = Double.nearestMagnitude (1 * 10 ^ k * 2 ^ 2148) := by
  rw [Double.position, unpack_powerOfTen hlow]
  exact Double.place_ofScientific one_pos (by omega)

theorem defined_powerOfTen (hhigh : k ≤ 308) : Double.Defined (powerOfTen k) := by
  rw [Double.Defined, unpack_powerOfTen hlow]
  exact Double.defined_ofScientific one_pos (by omega)

end powers

theorem position_powerOfTen_le {j k : ℕ} (hlow : 22 < j) (h : j ≤ k) (hhigh : k ≤ 308) :
    Double.position (powerOfTen j) ≤ Double.position (powerOfTen k) := by
  rw [position_powerOfTen hlow (h.trans hhigh), position_powerOfTen (hlow.trans_le h) hhigh,
    Nat.one_mul, Nat.one_mul]
  exact Int.ofNat_le.mpr (Double.nearestMagnitude_mono
    (Nat.mul_le_mul_right _ (Nat.pow_le_pow_right (by omega) h)))

/-- The powers of ten that are multiplied and divided by are finite, and at least two but for the
first one. -/
theorem powerOfTen_spec {k : ℕ} (hk : k ≤ 308) :
    (powerOfTen k).isFinite = true ∧ (k = 0 ∨ 2 ≤ powerOfTen k) := by
  -- rounding is monotone, so the ends of the range are enough beyond the table
  obtain hfew | hmany := le_or_gt k 22
  · have htable : ∀ k < 23, (powerOfTen k).isFinite = true ∧ (k = 0 ∨ 2 ≤ powerOfTen k) := by
      decide +kernel
    exact htable k (by omega)
  · have hends : 0 ≤ Double.position 2 ∧ Double.position 2 ≤ Double.position (powerOfTen 23) ∧
        Double.position (powerOfTen 308) < Double.infinite ∧ (2 : Float) ≤ 2 := by
      decide +kernel
    obtain ⟨hzero, htwo, hlast, hself⟩ := hends
    have habove := htwo.trans (position_powerOfTen_le (by omega) hmany hk)
    have hbelow := position_powerOfTen_le hmany hk le_rfl
    have hdefined := defined_powerOfTen hmany hk
    constructor
    · refine Double.isFinite_of_position hdefined ?_
      rw [abs_of_nonneg (hzero.trans habove)]
      exact hbelow.trans_lt hlast
    · exact .inr (Double.le_iff.mpr ⟨⟨(Double.le_iff.mp hself).1.1, hdefined⟩, habove⟩)

/-- Scaling keeps a double finite: a product that is not is no result. -/
theorem isFinite_scaleByTen {fuel : ℕ} {x y : Float} {e : ℤ} (hx : x.isFinite = true)
    (h : scaleByTen fuel x e = some y) : y.isFinite = true := by
  induction fuel generalizing x e with
  | zero =>
      cases h
      exact hx
  | succ fuel ih =>
      simp only [scaleByTen] at h
      split_ifs at h with hsmall hup hinf hzero hlarge
      · cases h
        have hpower := (powerOfTen_spec (k := e.toNat) (by omega)).1
        exact Double.isFinite_of_defined (Double.defined_mul hx hpower) hinf
      · cases h
        obtain ⟨hpower, hnone | htwo⟩ := powerOfTen_spec hsmall
        · omega
        · exact Double.isFinite_div hx hpower htwo
      · cases h
        exact hx
      · obtain ⟨hpower, hnone | htwo⟩ := powerOfTen_spec (k := 308) le_rfl
        · cases hnone
        · exact ih (Double.isFinite_div hx hpower htwo) h

theorem isFinite_word {n : ℕ} (h : n < wordRange) : (Float.ofNat n).isFinite = true := by
  unfold wordRange at h
  exact Double.isFinite_ofNat (by omega)

/-- The double of a number whose significand fits into a word is finite, if there is one. -/
theorem Numeral.Fits.isFinite {n : Numeral} (hn : n.Fits) {x : Float} (h : n.toFloat? = some x) :
    x.isFinite = true := by
  cases n with
  | whole value =>
      cases h
      cases value with
      | ofNat k =>
          have hk : k < wordRange := hn
          show (Float.ofNat k).isFinite = true
          exact isFinite_word hk
      | negSucc k =>
          have hk : k + 1 < wordRange := by simpa [Numeral.Fits] using hn
          show (-Float.ofNat (k + 1)).isFinite = true
          exact Double.isFinite_neg (isFinite_word hk)
  | real negative significand exponent =>
      obtain ⟨y, hy, rfl⟩ := Option.map_eq_some_iff.mp h
      have hfinite := isFinite_scaleByTen (isFinite_word hn) hy
      split_ifs
      · exact Double.isFinite_neg hfinite
      · exact hfinite

theorem yields_numeral : Yields numeral fun v => v.2.isFinite = true := by
  intro cs v rest hread
  simp only [numeral] at hread
  split at hread
  · cases hread
  · split_ifs at hread
    all_goals
      split at hread
      · cases hread
      · next hn =>
        split at hread <;> cases hread
        exact (yields_readUnsigned _ _ _ _ hn).isFinite ‹_›

theorem yields_float : Yields float fun x => x.isFinite = true := by
  intro cs x rest hread
  simp only [float] at hread
  split at hread
  · next written value tail hnumeral =>
    cases hread
    exact yields_numeral cs (written, x) rest hnumeral
  · cases hread

/-! ### Records -/

section records

variable {ρ β : Type} {P : ρ → Prop}

/-- Whatever is read for a field, a record that has a property has it afterwards. -/
def RecordField.Keeps (P : ρ → Prop) (f : RecordField ρ) : Prop :=
  Yields f.read fun put => ∀ record, P record → P (put record)

theorem RecordField.keeps_of {name : String} {required : Bool} {r : Reader β} {put : β → ρ → ρ}
    {Q : β → Prop} (hr : Yields r Q) (hput : ∀ v record, Q v → P record → P (put v record)) :
    (of name required r put).Keeps P := by
  intro cs fill rest hread record hrecord
  simp only [of] at hread
  split at hread <;> cases hread
  next hv => exact hput _ record (hr _ _ _ hv) hrecord

variable {fields : List (RecordField ρ)}

theorem yields_members (hfields : ∀ f ∈ fields, f.Keeps P) (fuel : ℕ) (first : Bool)
    (seen : List String) {record : ρ} (hrecord : P record) :
    Yields (members fields fuel first seen record) P := by
  induction fuel generalizing first seen record with
  | zero => exact fun _ _ _ h => nomatch h
  | succ fuel ih =>
      intro cs after rest h
      simp only [members] at h
      split at h
      · cases h
      · split at h
        · cases h
        · cases h
          exact hrecord
      · split at h
        · next f hf =>
          split_ifs at h
          obtain ⟨tail, -, h⟩ := bind_ok h
          obtain ⟨⟨put, tail'⟩, hread, h⟩ := bind_ok h
          have hkeeps := hfields f (List.mem_of_find?_eq_some hf)
          exact ih _ _ (hkeeps _ _ _ hread _ hrecord) _ _ _ h
        · obtain ⟨tail, -, h⟩ := bind_ok h
          obtain ⟨skipped, -, h⟩ := bind_ok h
          exact ih _ _ hrecord _ _ _ h

theorem yields_positional (hfields : ∀ f ∈ fields, f.Keeps P) (first : Bool) {record : ρ}
    (hrecord : P record) : Yields (positional fields first record) P := by
  induction fields generalizing first record with
  | nil =>
      intro cs after rest h
      simp only [positional] at h
      cases hend : endList cs with
      | error e => simp only [hend, Except.map, reduceCtorEq] at h
      | ok tail =>
          simp only [hend, Except.map, Except.ok.injEq, Prod.mk.injEq] at h
          exact h.1 ▸ hrecord
  | cons f fs ih =>
      have hrest := fun g hg => hfields g (List.mem_cons_of_mem _ hg)
      intro cs after rest h
      simp only [positional] at h
      split at h
      · cases h
      · split_ifs at h
        exact ih hrest _ hrecord _ _ _ h
      · split at h
        · cases h
        · next hread =>
          have hkeeps := hfields f List.mem_cons_self
          exact ih hrest _ (hkeeps _ _ _ hread _ hrecord) _ _ _ h

theorem yields_record (hfields : ∀ f ∈ fields, f.Keeps P) {blank : ρ} (hblank : P blank) :
    Yields (record fields blank) P := by
  intro cs after rest h
  simp only [record] at h
  split at h
  · cases h
  · split_ifs at h
    · exact yields_members hfields _ _ _ hblank _ _ _ h
    · exact yields_positional hfields _ hblank _ _ _ h

end records

end Json

/-! ### Configurations -/

open Json (Yields yields_float yields_record RecordField.keeps_of)

theorem Rgba.yields_reader : Yields reader fun c => allFinite c.numbers = true := by
  have hbyte : Yields Json.byte fun _ => True := fun _ _ _ _ => trivial
  refine yields_record ?_ (by decide)
  simp only [fields, List.forall_mem_cons]
  refine ⟨RecordField.keeps_of hbyte fun _ _ _ hc => hc,
    RecordField.keeps_of hbyte fun _ _ _ hc => hc,
    RecordField.keeps_of hbyte fun _ _ _ hc => hc,
    RecordField.keeps_of yields_float fun v c hv _ => ?_, List.forall_mem_nil _⟩
  simp [numbers, allFinite, hv]

theorem OverlayColors.yields_reader : Yields reader fun c => allFinite c.numbers = true := by
  refine yields_record ?_ (by decide)
  simp only [fields, List.forall_mem_cons, numbers, allFinite_append, allFinite_cons,
    Bool.and_eq_true]
  refine ⟨RecordField.keeps_of Rgba.yields_reader ?_, RecordField.keeps_of yields_float ?_,
    RecordField.keeps_of Rgba.yields_reader ?_, RecordField.keeps_of yields_float ?_,
    RecordField.keeps_of Rgba.yields_reader ?_, RecordField.keeps_of Rgba.yields_reader ?_,
    List.forall_mem_nil _⟩
  all_goals
    intro v c hv hc
    tauto

theorem Config.yields_reader : Yields reader fun c => allFinite c.numbers = true := by
  have hmode : Yields (Json.oneOf SizingMode.options) fun _ => True := fun _ _ _ _ => trivial
  refine yields_record ?_ (by decide)
  simp only [fields, List.forall_mem_cons, numbers, allFinite_append, allFinite_cons,
    Bool.and_eq_true]
  refine ⟨RecordField.keeps_of yields_float ?_, RecordField.keeps_of hmode ?_,
    RecordField.keeps_of yields_float ?_, RecordField.keeps_of yields_float ?_,
    RecordField.keeps_of yields_float ?_, RecordField.keeps_of yields_float ?_,
    RecordField.keeps_of yields_float ?_, RecordField.keeps_of yields_float ?_,
    RecordField.keeps_of yields_float ?_, RecordField.keeps_of yields_float ?_,
    RecordField.keeps_of yields_float ?_, RecordField.keeps_of yields_float ?_,
    RecordField.keeps_of yields_float ?_, RecordField.keeps_of yields_float ?_,
    RecordField.keeps_of yields_float ?_, RecordField.keeps_of yields_float ?_,
    RecordField.keeps_of yields_float ?_, RecordField.keeps_of OverlayColors.yields_reader ?_,
    List.forall_mem_nil _⟩
  all_goals
    intro v c hv hc
    simp only [hv, hc, and_self]

theorem Config.allFinite_ofJson {text : String} {cfg : Config Float} (h : ofJson text = .ok cfg) :
    allFinite cfg.numbers = true := by
  unfold ofJson at h
  split at h
  · cases h
  · next c hparse =>
    split at h <;> cases h
    obtain ⟨rest, hread, -⟩ := Json.parse_ok.mp hparse
    exact yields_reader _ _ _ hread

end GlobeView
