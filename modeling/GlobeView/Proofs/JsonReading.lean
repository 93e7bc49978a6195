import GlobeView.Json.Reader
import GlobeView.Proofs.JsonWriting

/-! # Readers give back what was written

`Restores r v good b` says that reader `r` gives `b` back from every text of the value `v`, whatever
white space is in it and whatever comes behind it, if `good` holds; otherwise the text has a null
where a number is wanted, and the reader says so.

There is one such law for each reader.  That of a record (`restores_record`) takes the members in
any order and any number, as long as no required field is missing. -/

namespace GlobeView.Json

theorem bind_ok {ε γ δ : Type} {x : Except ε γ} {f : γ → Except ε δ} {d : δ}
    (h : x >>= f = .ok d) : ∃ c, x = .ok c ∧ f c = .ok d := by
  cases x with
  | error e => cases h
  | ok c => exact ⟨c, rfl, h⟩

/-! ### Numbers

A number is read as far as it goes, so what is read does not depend on what comes behind. -/

/-- A text that does not go on with a number. -/
def EndsNumber (rest : List Char) : Prop :=
  ∀ c ∈ rest.head?, c.isDigit = false ∧ c ≠ '.' ∧ c ≠ 'e' ∧ c ≠ 'E'

theorem endsNumber_nil : EndsNumber [] := fun _ h => nomatch h

theorem EndsNumber.cons {c : Char} (h : c.isDigit = false ∧ c ≠ '.' ∧ c ≠ 'e' ∧ c ≠ 'E')
    (rest : List Char) : EndsNumber (c :: rest) := by
  intro d hd
  obtain rfl := Option.some.inj hd
  exact h

theorem EndsNumber.blank {gap rest : List Char} (h : EndsNumber rest) (hgap : Blank gap) :
    EndsNumber (gap ++ rest) := by
  cases gap with
  | nil => exact h
  | cons c gap =>
      refine .cons ?_ _
      have hc := hgap c List.mem_cons_self
      simp only [isBlank, Bool.or_eq_true, decide_eq_true_eq] at hc
      obtain ((rfl | rfl) | rfl) | rfl := hc <;> decide

theorem endsNumber_mark {gap : List Char} (hgap : Blank gap) {c : Char} (hc : c ∈ [',', ']', '\x7d'])
    (rest : List Char) : EndsNumber (gap ++ c :: rest) := by
  have hmark : EndsNumber (c :: rest) := by
    refine .cons ?_ rest
    simp only [List.mem_cons, List.not_mem_nil, or_false] at hc
    obtain rfl | rfl | rfl := hc <;> decide
  exact hmark.blank hgap

/-- Which digits a text starts with is settled before a text that ends a number. -/
theorem spanDigits_append (cs : List Char) {rest : List Char} (hrest : EndsNumber rest) :
    spanDigits (cs ++ rest) = ((spanDigits cs).1, (spanDigits cs).2 ++ rest) := by
  induction cs with
  | nil =>
      cases rest with
      | nil => rfl
      | cons c rest => simp [spanDigits, (hrest c rfl).1]
  | cons c cs ih =>
      simp only [spanDigits, Prod.mk.injEq] at ih ⊢
      by_cases hc : c.isDigit = true
      · simp [hc, ih]
      · simp [hc]

/-- The digits of an exponent whose sign was read. -/
def exponentDigits (negative : Bool) : Reader Int := fun cs =>
  match cs with
  | [] => .error .ended
  | c :: _ =>
    if c.isDigit then
      let (ds, rest) := spanDigits cs
      .ok (if negative then -(digitsValue ds : Int) else (digitsValue ds : Int), rest)
    else .error .malformed

theorem readExponent_unsigned {c : Char} (hplus : c ≠ '+') (hminus : c ≠ '-') (cs : List Char) :
    readExponent (c :: cs) = exponentDigits false (c :: cs) := by
  rw [readExponent]
  · rfl
  · exact fun _ heq => hplus (List.cons.inj heq).1
  · exact fun _ heq => hminus (List.cons.inj heq).1

section Numbers

variable {rest : List Char} (hrest : EndsNumber rest)

include hrest

theorem exponentDigits_append {negative : Bool} {cs : List Char} {e : Int}
    (h : exponentDigits negative cs = .ok (e, [])) :
    exponentDigits negative (cs ++ rest) = .ok (e, rest) := by
  cases cs with
  | nil => cases h
  | cons c cs =>
      have happend := spanDigits_append (c :: cs) hrest
      rw [List.cons_append] at happend ⊢
      simp only [exponentDigits, happend] at h ⊢
      by_cases hc : c.isDigit = true
      · rw [if_pos hc] at h ⊢
        obtain ⟨he, hnone⟩ := Prod.mk.inj (Except.ok.inj h)
        rw [he, hnone]
        rfl
      · rw [if_neg hc] at h
        cases h

theorem readExponent_append {cs : List Char} {e : Int} (h : readExponent cs = .ok (e, [])) :
    readExponent (cs ++ rest) = .ok (e, rest) := by
  cases cs with
  | nil => cases h
  | cons c cs =>
      by_cases hplus : c = '+'
      · subst hplus
        have hdigits : exponentDigits false cs = .ok (e, []) := h
        exact exponentDigits_append hrest hdigits
      by_cases hminus : c = '-'
      · subst hminus
        have hdigits : exponentDigits true cs = .ok (e, []) := h
        exact exponentDigits_append hrest hdigits
      rw [List.cons_append, readExponent_unsigned hplus hminus] at *
      exact exponentDigits_append hrest h

theorem readScale_append {negative : Bool} {significand : ℕ} {exponent : Int} {cs : List Char}
    {n : Numeral} (h : readScale negative significand exponent cs = .ok (n, [])) :
    readScale negative significand exponent (cs ++ rest) = .ok (n, rest) := by
  cases cs with
  | nil =>
      obtain ⟨rfl, _⟩ := Prod.mk.inj (Except.ok.inj h)
      cases rest with
      | nil => rfl
      | cons c rest =>
          obtain ⟨_, _, hlower, hupper⟩ := hrest c rfl
          simp [readScale, hlower, hupper]
  | cons c cs =>
      simp only [readScale, List.cons_append] at h ⊢
      split_ifs at h ⊢ with hc
      · cases he : readExponent cs with
        | error fault =>
            rw [he] at h
            cases h
        | ok read =>
            obtain ⟨e, left⟩ := read
            rw [he] at h
            obtain ⟨rfl, rfl⟩ := Prod.mk.inj (Except.ok.inj h)
            rw [readExponent_append hrest he]
      · cases (Prod.mk.inj (Except.ok.inj h)).2

theorem readPlaces_append {negative : Bool} {significand : ℕ} {exponent : Int} {cs : List Char}
    {n : Numeral} (h : readPlaces negative significand exponent cs = .ok (n, [])) :
    readPlaces negative significand exponent (cs ++ rest) = .ok (n, rest) := by
  simp only [readPlaces, spanDigits_append cs hrest] at h ⊢
  split_ifs at h ⊢ with hds
  exact readScale_append hrest h

theorem readFraction_append {negative : Bool} {significand dropped : ℕ} {cs : List Char}
    {n : Numeral} (h : readFraction negative significand dropped cs = .ok (n, [])) :
    readFraction negative significand dropped (cs ++ rest) = .ok (n, rest) := by
  cases cs with
  | nil =>
      cases rest with
      | nil => exact h
      | cons c rest =>
          obtain ⟨_, hpoint, hlower, hupper⟩ := hrest c rfl
          simp only [readFraction, List.nil_append, hpoint, hlower, hupper, or_self,
            if_false] at h ⊢
          split_ifs at h ⊢ <;> obtain ⟨rfl, _⟩ := Prod.mk.inj (Except.ok.inj h) <;> rfl
  | cons c cs =>
      simp only [readFraction, List.cons_append] at h ⊢
      split_ifs at h ⊢ with hpoint hscale hdropped
      · exact readPlaces_append hrest h
      · exact readScale_append hrest h
      · cases (Prod.mk.inj (Except.ok.inj h)).2
      · cases (Prod.mk.inj (Except.ok.inj h)).2

theorem readUnsigned_append {negative : Bool} {cs : List Char} {n : Numeral}
    (h : readUnsigned negative cs = .ok (n, [])) :
    readUnsigned negative (cs ++ rest) = .ok (n, rest) := by
  cases cs with
  | nil => cases h
  | cons c cs =>
      have happend := spanDigits_append (c :: cs) hrest
      simp only [readUnsigned, List.cons_append] at h happend ⊢
      simp only [happend, spanDigits_append cs hrest]
      split_ifs at h ⊢ with hzero hnone hdigit
      · exact readFraction_append hrest h
      · exact readFraction_append hrest h

/-- A number together with its double, if it is in the range of doubles. -/
def withDouble : Except Fault (Numeral × List Char) → Except Fault ((Numeral × Float) × List Char)
  | .error e => .error e
  | .ok (n, rest) => match n.toFloat? with
    | some x => .ok ((n, x), rest)
    | none => .error .malformed

omit hrest in
/-- What `numeral` makes of the number after its sign. -/
theorem numeral_eq {c : Char} (hc : c = '-' ∨ c.isDigit = true) {gap : List Char} (hgap : Blank gap)
    (cs : List Char) :
    numeral (gap ++ c :: cs) =
      withDouble (if c = '-' then readUnsigned true cs else readUnsigned false (c :: cs)) := by
  simp only [numeral, skipBlanks_gap hgap (notBlank_of_startsNumber hc).1]
  by_cases hminus : c = '-'
  · simp only [hminus, if_true]
    rfl
  · simp only [hminus, if_false, hc.resolve_left hminus, if_true]
    rfl

theorem numeral_append {cs gap : List Char} {a : Numeral × Float} (h : numeral cs = .ok (a, []))
    (hstart : StartsNumber cs) (hgap : Blank gap) :
    numeral (gap ++ cs ++ rest) = .ok (a, rest) := by
  obtain ⟨c, tail, rfl, hc⟩ := hstart
  have hread {n : Numeral}
      (hn : (if c = '-' then readUnsigned true tail else readUnsigned false (c :: tail)) =
        .ok (n, [])) :
      (if c = '-' then readUnsigned true (tail ++ rest)
        else readUnsigned false (c :: (tail ++ rest))) = .ok (n, rest) := by
    split_ifs at hn ⊢
    · exact readUnsigned_append hrest hn
    · exact readUnsigned_append hrest hn
  have hwhole := numeral_eq hc Blank.nil tail
  rw [List.nil_append, h] at hwhole
  rw [List.append_assoc, List.cons_append, numeral_eq hc hgap]
  rcases hn : (if c = '-' then readUnsigned true tail else readUnsigned false (c :: tail)) with
    e | ⟨n, left⟩
  · rw [hn] at hwhole
    cases hwhole
  · rw [hn] at hwhole
    cases hx : n.toFloat? with
    | none =>
        simp only [withDouble, hx] at hwhole
        cases hwhole
    | some x =>
        simp only [withDouble, hx] at hwhole
        obtain ⟨rfl, rfl⟩ := Prod.mk.inj (Except.ok.inj hwhole)
        simp only [withDouble, hread hn, hx]

end Numbers

/-! ### Strings -/

theorem hexValue?_hexDigit : ∀ n < 16, hexValue? (hexDigit n) = some n := by decide

/-- Four characters are enough for an escape. -/
theorem enterHex_eq {rest : List Char} (h : 4 ≤ rest.length) (high : Option ℕ) :
    enterHex high rest = .goTo (.hex high 0 0) := by
  have hsize (cs : List Char) (n : ℕ) :
      n + cs.length ≤ cs.foldl (fun n c => n + c.utf8Size) n := by
    induction cs generalizing n with
    | nil => exact Nat.le_refl _
    | cons c cs ih =>
        have := ih (n + c.utf8Size)
        have := c.utf8Size_pos
        rw [List.foldl_cons, List.length_cons]
        omega
  have := hsize rest 0
  rw [enterHex, if_neg (by omega)]

/-- A string with one more character in front. -/
def withFront (c : Char) :
    Except Fault (List Char × List Char) → Except Fault (List Char × List Char) :=
  Except.map fun (s, rest) => (c :: s, rest)

theorem readFrom_emit {kept : Bool} {spot : Spot} {c d : Char} {rest : List Char}
    (h : spot.move kept c rest = .emit d) :
    readFrom kept spot (c :: rest) = withFront d (readFrom kept .text rest) := by
  simp only [readFrom, h, withFront]
  cases readFrom kept .text rest <;> rfl

theorem readFrom_goTo {kept : Bool} {spot next : Spot} {c : Char} {rest : List Char}
    (h : spot.move kept c rest = .goTo next) :
    readFrom kept spot (c :: rest) = readFrom kept next rest := by
  simp only [readFrom, h]

theorem move_backslash {kept : Bool} (rest : List Char) :
    Spot.text.move kept '\\' rest = .goTo .backslash := rfl

theorem readFrom_control {n : ℕ} (hn : n < 32) (rest : List Char) :
    readFrom true .text
        ('\\' :: 'u' :: '0' :: '0' :: hexDigit (n / 16) :: hexDigit (n % 16) :: rest) =
      withFront (Char.ofNat n) (readFrom true .text rest) := by
  have hdigit (c : Char) (rest : List Char) {d k v : ℕ} (hd : hexValue? c = some d) (hk : k < 3) :
      (Spot.hex none k v).move true c rest = .goTo (.hex none (k + 1) (v * 16 + d)) := by
    simp [Spot.move, hd, Nat.ne_of_lt hk]
  have hlast : (Spot.hex none 3 (n / 16)).move true (hexDigit (n % 16)) rest =
      .emit (Char.ofNat n) := by
    have hvalue : n / 16 * 16 + n % 16 = n := by omega
    have hlow : isLowHalf n = false := by simp [isLowHalf]; omega
    have hhigh : isHighHalf n = false := by simp [isHighHalf]; omega
    simp [Spot.move, hexValue?_hexDigit _ (Nat.mod_lt n (by decide)), hvalue, leaveHex, hlow, hhigh]
  have henter : Spot.backslash.move true 'u'
      ('0' :: '0' :: hexDigit (n / 16) :: hexDigit (n % 16) :: rest) = .goTo (.hex none 0 0) :=
    enterHex_eq (by simp) none
  rw [readFrom_goTo (move_backslash _), readFrom_goTo henter,
    readFrom_goTo (hdigit '0' _ (d := 0) rfl (by decide)),
    readFrom_goTo (hdigit '0' _ (d := 0) rfl (by decide)),
    readFrom_goTo (hdigit _ _ (hexValue?_hexDigit (n / 16) (by omega)) (by decide))]
  simp only [Nat.zero_mul, Nat.zero_add]
  exact readFrom_emit hlast

/-- A character that is written is read, whichever way it is escaped. -/
theorem readFrom_escape (c : Char) (rest : List Char) :
    readFrom true .text (escape c ++ rest) = withFront c (readFrom true .text rest) := by
  have hsimple {d : Char} (hu : d ≠ 'u') (hd : simpleEscape? d = some c) :
      readFrom true .text ('\\' :: d :: rest) = withFront c (readFrom true .text rest) := by
    rw [readFrom_goTo (move_backslash _)]
    exact readFrom_emit (by simp [Spot.move, hu, hd])
  unfold escape
  split_ifs with hquote hslash hline hreturn htab hback hfeed hcontrol
  · exact hsimple (by decide) (by rw [hquote]; rfl)
  · exact hsimple (by decide) (by rw [hslash]; rfl)
  · exact hsimple (by decide) (by rw [hline]; rfl)
  · exact hsimple (by decide) (by rw [hreturn]; rfl)
  · exact hsimple (by decide) (by rw [htab]; rfl)
  · exact hsimple (by decide) (by rw [← Char.ofNat_toNat c, hback]; rfl)
  · exact hsimple (by decide) (by rw [← Char.ofNat_toNat c, hfeed]; rfl)
  · have hread := readFrom_control hcontrol rest
    rwa [Char.ofNat_toNat] at hread
  · exact readFrom_emit (by simp [Spot.move, hquote, hslash, hcontrol])

theorem readFrom_escapes (cs rest : List Char) :
    readFrom true .text (cs.flatMap escape ++ '"' :: rest) = .ok (cs, rest) := by
  induction cs with
  | nil => rfl
  | cons c cs ih =>
      rw [List.flatMap_cons, List.append_assoc, readFrom_escape, ih]
      rfl

theorem readString_quote (s : String) (rest : List Char) :
    ∃ tail, quote s ++ rest = '"' :: tail ∧ readString tail = .ok (s, rest) := by
  refine ⟨s.toList.flatMap escape ++ '"' :: rest, by simp [quote], ?_⟩
  simp [readString, readFrom_escapes]

/-! ### What a reader gives back -/

/-- A reader gives a value back from all of its texts if `good` holds, and else misses a number. -/
def Restores {β : Type} (r : Reader β) (v : Value) (good : Bool) (b : β) : Prop :=
  ∀ ⦃gap text rest : List Char⦄, Blank gap → Writes v text → EndsNumber rest →
    r (gap ++ text ++ rest) = if good then .ok (b, rest) else .error .invalidType

theorem Writes.eq_scalarText {v : Value} {text : List Char} (h : Writes v text)
    (hscalar : v.isScalar = true) : text = v.scalarText := by
  cases h with
  | scalar => rfl
  | list => cases hscalar
  | object => cases hscalar

/-- The digits of a double read back. -/
def ReadsBack (x : Float) : Prop := float (finiteText x).toList = .ok (x, [])

instance (x : Float) : Decidable (ReadsBack x) :=
  inferInstanceAs (Decidable (float (finiteText x).toList = .ok (x, [])))

theorem numeral_null {gap : List Char} (hgap : Blank gap) (rest : List Char) :
    numeral (gap ++ ['n', 'u', 'l', 'l'] ++ rest) = .error .invalidType := by
  rw [List.append_assoc, List.cons_append]
  simp only [numeral, skipBlanks_gap hgap (c := 'n') rfl]
  rfl

theorem restores_float {x : Float} (hread : x.isFinite = true → ReadsBack x) :
    Restores float (.number x) x.isFinite x := by
  intro gap text rest hgap htext hrest
  rw [htext.eq_scalarText rfl, Value.scalarText, Value.numberText, float]
  split_ifs with hfinite
  · have hback := hread hfinite
    rw [ReadsBack, float] at hback
    cases hn : numeral (finiteText x).toList with
    | error e =>
        rw [hn] at hback
        cases hback
    | ok read =>
        obtain ⟨⟨n, y⟩, left⟩ := read
        rw [hn] at hback
        obtain ⟨rfl, rfl⟩ := Prod.mk.inj (Except.ok.inj hback)
        rw [numeral_append hrest hn (startsNumber_finiteText _) hgap]
  · rw [numeral_null hgap]

theorem numeral_byte (b : UInt8) :
    numeral (toString b.toNat).toList = .ok ((.whole b.toNat, Float.ofInt b.toNat), []) := by
  have hdigits : ∀ n : ℕ, n < 256 →
      readUnsigned false (toString n).toList = .ok (.whole n, []) := by
    decide +kernel
  have hread := hdigits b.toNat b.toNat_lt
  obtain ⟨c, tail, heq, hc⟩ := startsNumber_toString b.toNat
  rw [heq] at hread ⊢
  have hminus : c ≠ '-' := by
    rintro rfl
    cases hread
  have hnumeral := numeral_eq hc Blank.nil tail
  rw [if_neg hminus, hread] at hnumeral
  exact hnumeral

theorem restores_byte (b : UInt8) : Restores byte (.count b.toNat) true b := by
  intro gap text rest hgap htext hrest
  have hrange : (0 : Int) ≤ b.toNat ∧ (b.toNat : Int) ≤ 255 := by
    have := b.toNat_lt
    omega
  rw [htext.eq_scalarText rfl, Value.scalarText, byte,
    numeral_append hrest (numeral_byte b) (startsNumber_toString _) hgap]
  simp only [hrange, and_self, if_true, Int.toNat_natCast]
  rw [show b.toNat.toUInt8 = b from UInt8.ofNat_toNat]

theorem restores_bool (b : Bool) : Restores bool (.bool b) true b := by
  intro gap text rest hgap htext hrest
  rw [htext.eq_scalarText rfl, List.append_assoc]
  cases b with
  | true =>
      simp only [Value.scalarText, List.cons_append, bool, skipBlanks_gap hgap (c := 't') rfl]
      rfl
  | false =>
      simp only [Value.scalarText, List.cons_append, bool, skipBlanks_gap hgap (c := 'f') rfl]
      rfl

theorem restores_string (s : String) : Restores string (.text s) true s := by
  intro gap text rest hgap htext hrest
  obtain ⟨tail, hquote, hread⟩ := readString_quote s rest
  rw [htext.eq_scalarText rfl, List.append_assoc, Value.scalarText, hquote, string,
    skipBlanks_gap hgap (c := '"') rfl]
  exact hread

theorem restores_optional_string (s : String) :
    Restores (optional string) (.text s) true (some s) := by
  intro gap text rest hgap htext hrest
  have hstring := restores_string s Blank.nil htext hrest
  obtain ⟨tail, hquote, _⟩ := readString_quote s rest
  rw [htext.eq_scalarText rfl, Value.scalarText] at hstring ⊢
  rw [List.nil_append, hquote] at hstring
  rw [List.append_assoc, hquote]
  simp only [optional, skipBlanks_gap hgap (c := '"') rfl]
  split
  · next heq => exact absurd (List.cons.inj heq).1 (by decide)
  · rw [hstring]
    rfl

theorem restores_oneOf {β : Type} {options : List (String × β)} {name : String} {b : β}
    (h : choice options name = .ok b) : Restores (oneOf options) (.text name) true b := by
  intro gap text rest hgap htext hrest
  obtain ⟨tail, hquote, hread⟩ := readString_quote name rest
  rw [htext.eq_scalarText rfl, List.append_assoc, Value.scalarText, hquote]
  simp only [oneOf, skipBlanks_gap hgap (c := '"') rfl, hread, if_true]
  show (choice options name).bind (fun v => .ok (v, rest)) = .ok (b, rest)
  rw [h]
  rfl

/-! ### Lists -/

section Lists

variable {first : Bool} {gap text : List Char}

theorem nextElement_separator (hgap : Blank gap) (htext : Opens text) (rest : List Char) :
    nextElement first (separator first ++ (gap ++ (text ++ rest))) = .ok (true, text ++ rest) := by
  obtain ⟨c, tail, rfl, hblank, hclose⟩ := htext
  have hskip := skipBlanks_gap hgap hblank (tail ++ rest)
  cases first with
  | true => simp [nextElement, separator, hskip, hclose]
  | false => simp [nextElement, separator, skipBlanks_cons (c := ',') rfl, hskip, hclose]

theorem nextElement_end (hgap : Blank gap) (rest : List Char) :
    nextElement first (gap ++ ']' :: rest) = .ok (false, ']' :: rest) := by
  simp only [nextElement, skipBlanks_gap hgap (c := ']') rfl, if_true]

theorem endList_eq (hgap : Blank gap) (rest : List Char) :
    endList (gap ++ ']' :: rest) = .ok rest := by
  simp only [endList, skipBlanks_gap hgap (c := ']') rfl, if_true]

theorem WritesItems.endsNumber {vs : List Value} {more : List Char} (h : WritesItems false vs more)
    (hgap : Blank gap) (rest : List Char) : EndsNumber (more ++ (gap ++ ']' :: rest)) := by
  cases h with
  | nil => exact endsNumber_mark hgap (by decide) rest
  | cons => exact endsNumber_mark Blank.nil (by decide) _

variable {β : Type} {r : Reader β} {write : β → Value} {good : β → Bool}

/-- The items of a list are restored one after another, until a number is missing. -/
theorem elements_items {xs : List β} (hr : ∀ x ∈ xs, Restores r (write x) (good x) x)
    {body : List Char} (hbody : WritesItems first (xs.map write) body) (hgap : Blank gap)
    (rest : List Char) {fuel : ℕ} (hfuel : xs.length < fuel) :
    elements r fuel first (body ++ (gap ++ ']' :: rest)) =
      if xs.all good then .ok (xs, rest) else .error .invalidType := by
  induction xs generalizing first body fuel with
  | nil =>
      cases hbody
      obtain ⟨fuel, rfl⟩ := Nat.exists_eq_succ_of_ne_zero (Nat.pos_iff_ne_zero.mp hfuel)
      have hend : endList (']' :: rest) = .ok rest := endList_eq Blank.nil rest
      simp only [elements, List.nil_append, nextElement_end hgap, hend]
      rfl
  | cons x xs ih =>
      obtain ⟨fuel, rfl⟩ := Nat.exists_eq_succ_of_ne_zero (Nat.ne_zero_of_lt hfuel)
      cases hbody with
      | @cons _ _ _ blank text more hblank htext hmore =>
          have hread := hr x List.mem_cons_self Blank.nil htext (hmore.endsNumber hgap rest)
          have hlater := ih (fun y hy => hr y (List.mem_cons_of_mem x hy)) hmore
            (Nat.lt_of_succ_lt_succ hfuel)
          simp only [List.append_assoc, elements, nextElement_separator hblank htext.opens]
          rw [List.nil_append] at hread
          rw [hread, List.all_cons]
          cases good x with
          | false => rfl
          | true =>
              simp only [if_true, hlater, Bool.true_and]
              split_ifs <;> rfl

theorem restores_list {xs : List β} (hr : ∀ x ∈ xs, Restores r (write x) (good x) x) :
    Restores (list r) (.list (xs.map write)) (xs.all good) xs := by
  intro gap text rest hgap htext hrest
  cases htext with
  | scalar hscalar => cases hscalar
  | @list _ body gap' hbody hgap' =>
      have hlength := hbody.length_le
      rw [List.length_map] at hlength
      rw [List.append_assoc, List.cons_append]
      simp only [list, skipBlanks_gap hgap (c := '[') rfl, if_true]
      rw [List.append_assoc, List.append_assoc, List.singleton_append]
      exact elements_items hr hbody hgap' rest (by simp only [List.length_append]; omega)

end Lists

theorem restores_pair {β γ : Type} {r : Reader β} {s : Reader γ} {v w : Value} {a : β} {b : γ}
    {good good' : Bool} (hr : Restores r v good a) (hs : Restores s w good' b) :
    Restores (pair r s) (.list [v, w]) (good && good') (a, b) := by
  intro gap text rest hgap htext hrest
  cases htext with
  | scalar hscalar => cases hscalar
  | @list _ body gap' hbody hgap' =>
      cases hbody with
      | @cons _ _ _ blank text more hblank htext hmore =>
          have ha := hr Blank.nil htext (hmore.endsNumber hgap' rest)
          cases hmore with
          | @cons _ _ _ blank' text' more' hblank' htext' hmore' =>
              have hb := hs Blank.nil htext' (hmore'.endsNumber hgap' rest)
              cases hmore'
              have hend : endList (gap' ++ ']' :: rest) = .ok rest := endList_eq hgap' rest
              simp only [List.nil_append, List.append_nil, List.append_assoc,
                List.cons_append] at ha hb ⊢
              simp only [pair, skipBlanks_gap hgap (c := '[') rfl, if_true,
                nextElement_separator hblank htext.opens, ha, bind, Except.bind, Bool.not_true,
                Bool.false_eq_true, if_false]
              cases good with
              | false => rfl
              | true =>
                  simp only [if_true, nextElement_separator hblank' htext'.opens, hb, Bool.not_true,
                    Bool.false_eq_true, if_false, Bool.true_and]
                  cases good' with
                  | false => rfl
                  | true => simp only [if_true, hend]

/-! ### Records -/

/-- A member of an object that a record takes up: its key and value, and what it makes of the record
if no number is missing in it. -/
structure Entry (ρ : Type) where
  key : String
  value : Value
  good : Bool
  put : ρ → ρ

namespace Entry

variable {ρ : Type}

def member (e : Entry ρ) : String × Value := (e.key, e.value)

/-- The record has a field for the entry and restores its value. -/
def IsFieldOf (fields : List (RecordField ρ)) (e : Entry ρ) : Prop :=
  ∃ f, fields.find? (·.name == e.key) = some f ∧ Restores f.read e.value e.good e.put

/-- What entries make of a record, one after another. -/
def fill (entries : List (Entry ρ)) (record : ρ) : ρ :=
  entries.foldl (fun record e => e.put record) record

end Entry

theorem Restores.field {ρ β : Type} {r : Reader β} {v : Value} {good : Bool} {b : β}
    (h : Restores r v good b) (name : String) (required : Bool) (put : β → ρ → ρ) :
    Restores (RecordField.of name required r put).read v good (put b) := by
  intro gap text rest hgap htext hrest
  have hread := h hgap htext hrest
  simp only [RecordField.of, hread]
  cases good <;> rfl

section Records

variable {gap gap' : List Char}

theorem nextKey_gap (hgap : Blank gap) (hgap' : Blank gap') (first : Bool) (k : String)
    (rest : List Char) :
    nextKey first (gap ++ (separator first ++ (gap' ++ (quote k ++ rest)))) =
      .ok (some k, rest) := by
  obtain ⟨tail, hquote, hread⟩ := readString_quote k rest
  have hskip := skipBlanks_gap hgap' (c := '"') rfl tail
  have hkey (cs : List Char) (hcs : skipBlanks cs = '"' :: tail) : key cs = .ok (k, rest) := by
    simp only [key, hcs, if_true, hread]
  rw [hquote]
  cases first with
  | true =>
      simp only [separator, if_true, List.nil_append, nextKey, skipBlanks_append hgap, hskip,
        hkey _ (skipBlanks_cons (c := '"') rfl tail)]
      rfl
  | false =>
      simp only [separator, Bool.false_eq_true, if_false, List.singleton_append, nextKey,
        skipBlanks_gap hgap (c := ',') rfl, hkey _ hskip]
      rfl

theorem nextKey_end (hgap : Blank gap) (first : Bool) (rest : List Char) :
    nextKey first (gap ++ '\x7d' :: rest) = .ok (none, rest) := by
  simp only [nextKey, skipBlanks_gap hgap (c := '\x7d') rfl, if_true]

theorem colon_gap (hgap : Blank gap) (rest : List Char) : colon (gap ++ ':' :: rest) = .ok rest := by
  simp only [colon, skipBlanks_gap hgap (c := ':') rfl, if_true]

theorem WritesMembers.endsNumber {ms : List (String × Value)} {more : List Char}
    (h : WritesMembers false ms more) (hgap : Blank gap) (rest : List Char) :
    EndsNumber (more ++ (gap ++ '\x7d' :: rest)) := by
  cases h with
  | nil => exact endsNumber_mark hgap (by decide) rest
  | cons => exact endsNumber_mark Blank.nil (by decide) _

variable {ρ : Type} {fields : List (RecordField ρ)} {seen keys : List String} {key : String}

/-- The keys that an object has left, each at most once, none of those that were seen, and with all
that are still required among them. -/
structure Awaits (fields : List (RecordField ρ)) (seen keys : List String) : Prop where
  once : keys.Nodup
  new : ∀ key ∈ keys, key ∉ seen
  required : ∀ f ∈ fields, f.required = true → f.name ∈ seen ∨ f.name ∈ keys

namespace Awaits

theorem unseen (h : Awaits fields seen (key :: keys)) : seen.contains key = false := by
  simpa using h.new key List.mem_cons_self

theorem next (h : Awaits fields seen (key :: keys)) : Awaits fields (key :: seen) keys where
  once := (List.nodup_cons.mp h.once).2
  new := by
    intro k hk hmem
    obtain rfl | hmem := List.mem_cons.mp hmem
    · exact (List.nodup_cons.mp h.once).1 hk
    · exact h.new k (List.mem_cons_of_mem key hk) hmem
  required := by
    intro f hf hrequired
    obtain hseen | hlater := h.required f hf hrequired
    · exact .inl (List.mem_cons_of_mem key hseen)
    · obtain heq | hlater := List.mem_cons.mp hlater
      · exact .inl (heq ▸ List.mem_cons_self)
      · exact .inr hlater

end Awaits

theorem members_end (h : Awaits fields seen []) (hgap : Blank gap) (fuel : ℕ) (first : Bool)
    (record : ρ) (rest : List Char) :
    members fields (fuel + 1) first seen record (gap ++ '\x7d' :: rest) = .ok (record, rest) := by
  have hnone : (fields.find? fun f => f.required && !seen.contains f.name) = none := by
    rw [List.find?_eq_none]
    intro f hf hmissing
    obtain ⟨hrequired, hunseen⟩ := Bool.and_eq_true_iff.mp hmissing
    obtain hseen | hseen := h.required f hf hrequired
    · simp [hseen] at hunseen
    · cases hseen
  simp only [members, nextKey_end hgap, hnone]

theorem members_known {f : RecordField ρ} (hfind : fields.find? (·.name == key) = some f)
    (hunseen : seen.contains key = false) {gap₁ : List Char} (hgap : Blank gap)
    (hgap' : Blank gap') (hgap₁ : Blank gap₁) (fuel : ℕ) (first : Bool) (record : ρ)
    (after : List Char) :
    members fields (fuel + 1) first seen record
        (gap ++ (separator first ++ (gap' ++ (quote key ++ (gap₁ ++ ':' :: after))))) =
      (f.read after).bind fun read =>
        members fields fuel false (key :: seen) (read.1 record) read.2 := by
  simp only [members, nextKey_gap hgap hgap', hfind, hunseen, Bool.false_eq_true, if_false,
    colon_gap hgap₁]
  rfl

variable {entries : List (Entry ρ)}

/-- The members of an object are taken up one after another, until a number is missing. -/
theorem members_entries (hfields : ∀ e ∈ entries, e.IsFieldOf fields)
    (hkeys : Awaits fields seen (entries.map Entry.key)) {first : Bool} {body : List Char}
    (hbody : WritesMembers first (entries.map Entry.member) body) (hgap : Blank gap)
    (rest : List Char) {fuel : ℕ} (hfuel : entries.length < fuel) (record : ρ) :
    members fields fuel first seen record (body ++ (gap ++ '\x7d' :: rest)) =
      if entries.all Entry.good then .ok (Entry.fill entries record, rest)
      else .error .invalidType := by
  induction entries generalizing first seen body fuel record with
  | nil =>
      cases hbody
      obtain ⟨fuel, rfl⟩ := Nat.exists_eq_succ_of_ne_zero (Nat.ne_zero_of_lt hfuel)
      exact members_end hkeys hgap fuel first record rest
  | cons e entries ih =>
      obtain ⟨fuel, rfl⟩ := Nat.exists_eq_succ_of_ne_zero (Nat.ne_zero_of_lt hfuel)
      obtain ⟨f, hfind, hrestores⟩ := hfields e List.mem_cons_self
      cases hbody with
      | @cons _ _ _ _ blank blank' text more hblank hblank' htext hmore =>
          have hread := hrestores hblank' htext (hmore.endsNumber hgap rest)
          have hmember := members_known hfind hkeys.unseen Blank.nil hblank Blank.nil fuel first
            record (blank' ++ (text ++ (more ++ (gap ++ '\x7d' :: rest))))
          have hlater := ih (fun d hd => hfields d (List.mem_cons_of_mem e hd)) hkeys.next hmore
            (Nat.lt_of_succ_lt_succ hfuel) (e.put record)
          simp only [List.append_assoc, List.cons_append, List.nil_append] at hread hmember ⊢
          rw [hmember, hread, List.all_cons]
          by_cases hgood : e.good = true
          · simp only [hgood, if_true, Bool.true_and]
            exact hlater
          · simp only [hgood, if_false, Bool.false_and, Bool.false_eq_true]
            rfl

/-- A record is restored from an object whose members are entries of its fields, each at most once
and none of the required ones missing. -/
theorem restores_record (hfields : ∀ e ∈ entries, e.IsFieldOf fields)
    (honce : (entries.map Entry.key).Nodup)
    (hall : ∀ f ∈ fields, f.required = true → f.name ∈ entries.map Entry.key) (blank : ρ) :
    Restores (record fields blank) (.object (entries.map Entry.member)) (entries.all Entry.good)
      (Entry.fill entries blank) := by
  intro gap text rest hgap htext hrest
  have hkeys : Awaits fields [] (entries.map Entry.key) :=
    ⟨honce, fun _ _ => List.not_mem_nil, fun f hf hrequired => .inr (hall f hf hrequired)⟩
  cases htext with
  | scalar hscalar => cases hscalar
  | @object _ body gap' hbody hgap' =>
      have hlength := hbody.length_le
      rw [List.length_map] at hlength
      rw [List.append_assoc, List.cons_append]
      simp only [record, skipBlanks_gap hgap (c := '\x7b') rfl, if_true]
      rw [List.append_assoc, List.append_assoc, List.singleton_append]
      exact members_entries hfields hkeys hbody hgap' rest
        (by simp only [List.length_append]; omega) blank

end Records

/-! ### Whole texts -/

theorem parse_ok {β : Type} {r : Reader β} {text : String} {b : β} :
    parse r text = .ok b ↔
      ∃ rest, r text.toList = .ok (b, rest) ∧ (skipBlanks rest).isEmpty = true := by
  rw [parse]
  cases hread : r text.toList with
  | error e => simp
  | ok value =>
      obtain ⟨v, rest⟩ := value
      by_cases hend : (skipBlanks rest).isEmpty = true <;> simp_all

theorem Restores.parse {β : Type} {r : Reader β} {v : Value} {good : Bool} {b : β}
    (h : Restores r v good b) {text : String} (htext : Writes v text.toList) :
    parse r text = if good then .ok b else .error .invalidType := by
  have hread := h Blank.nil htext endsNumber_nil
  rw [List.nil_append, List.append_nil] at hread
  rw [Json.parse, hread]
  cases good <;> rfl

end GlobeView.Json
