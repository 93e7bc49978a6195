import GlobeView.Proofs.JsonReading

/-! # Any JSON is passed over

The value of a key that nobody asked for may be any JSON: `ValueText` is its grammar, with white
space between any two parts, all ways to write a number and all escapes of a string.

Passing over a value goes step by step with a stack of open brackets.  The text of a value takes it
from where a value is wanted to where a separator is, with the same stack, in fewer than two steps for
each of its characters (`ValueText.passed`); so the steps that there are for a text always suffice
(`skipValue_text`). -/

namespace GlobeView.Json

/-! ### Numbers -/

/-- At least one digit. -/
structure Digits (ds : List Char) : Prop where
  nonempty : ds ≠ []
  digit : ∀ c ∈ ds, c.isDigit = true

/-- What follows the whole part of a number: a point with places, or nothing. -/
inductive FractionText : List Char → Prop where
  | none : FractionText []
  | places {ds : List Char} : Digits ds → FractionText ('.' :: ds)

/-- What follows the places of a number: an exponent, or nothing. -/
inductive ScaleText : List Char → Prop where
  | none : ScaleText []
  | exponent {e : Char} {sign ds : List Char} : e = 'e' ∨ e = 'E' → sign ∈ [[], ['+'], ['-']] →
      Digits ds → ScaleText (e :: (sign ++ ds))

/-- A number without its sign; only a zero starts with one. -/
inductive UnsignedText : List Char → Prop where
  | mk {whole fraction scale : List Char} : Digits whole → (whole.head? = some '0' → whole = ['0']) →
      FractionText fraction → ScaleText scale → UnsignedText (whole ++ (fraction ++ scale))

theorem spanDigits_digits {ds rest : List Char} (hds : ∀ c ∈ ds, c.isDigit = true)
    (hrest : ∀ c ∈ rest.head?, c.isDigit = false) : spanDigits (ds ++ rest) = (ds, rest) := by
  have hnone : rest.takeWhile Char.isDigit = [] ∧ rest.dropWhile Char.isDigit = rest := by
    cases rest with
    | nil => exact ⟨rfl, rfl⟩
    | cons c rest => simp [hrest c rfl]
  rw [spanDigits, List.takeWhile_append_of_pos hds, List.dropWhile_append_of_pos hds, hnone.1,
    hnone.2, List.append_nil]

theorem Digits.span {ds rest : List Char} (h : Digits ds)
    (hrest : ∀ c ∈ rest.head?, c.isDigit = false) :
    spanDigits (ds ++ rest) = (ds, rest) ∧ ds.isEmpty = false :=
  ⟨spanDigits_digits h.digit hrest, by simpa using h.nonempty⟩

section Numbers

variable {rest : List Char} (hrest : EndsNumber rest)

include hrest

theorem skipExponent_text {sign ds : List Char} (hsign : sign ∈ [[], ['+'], ['-']])
    (hds : Digits ds) : skipExponent (sign ++ (ds ++ rest)) = .ok rest := by
  obtain ⟨hspan, hsome⟩ := hds.span fun c hc => (hrest c hc).1
  -- a digit is not taken for a sign
  obtain ⟨c, tail, rfl⟩ := List.exists_cons_of_ne_nil hds.nonempty
  have hc : c.isDigit = true := hds.digit c List.mem_cons_self
  have hunsigned : skipExponent (c :: tail ++ rest) =
      if (spanDigits (c :: tail ++ rest)).1.isEmpty then .error .malformed
      else .ok (spanDigits (c :: tail ++ rest)).2 := by
    rw [List.cons_append, skipExponent]
    · intro _ heq
      rw [(List.cons.inj heq).1] at hc
      cases hc
    · intro _ heq
      rw [(List.cons.inj heq).1] at hc
      cases hc
  simp only [List.mem_cons, List.not_mem_nil, or_false] at hsign
  obtain rfl | rfl | rfl := hsign
  · rw [List.nil_append, hunsigned, hspan, hsome]
    rfl
  · simp only [List.singleton_append, skipExponent, hspan, hsome]
    rfl
  · simp only [List.singleton_append, skipExponent, hspan, hsome]
    rfl

theorem skipScale_text {scale : List Char} (h : ScaleText scale) :
    skipScale (scale ++ rest) = .ok rest := by
  cases h with
  | none =>
      cases rest with
      | nil => rfl
      | cons c rest =>
          obtain ⟨_, _, hlower, hupper⟩ := hrest c rfl
          simp [skipScale, hlower, hupper]
  | @exponent e sign ds he hsign hds =>
      rw [List.cons_append, List.append_assoc]
      simp only [skipScale, he, if_true]
      exact skipExponent_text hrest hsign hds

/-- What follows the whole part of a number is no digit, and what follows its places no point. -/
theorem ScaleText.head {scale : List Char} (h : ScaleText scale) :
    ∀ c ∈ (scale ++ rest).head?, c.isDigit = false ∧ c ≠ '.' := by
  cases h with
  | none => exact fun c hc => ⟨(hrest c hc).1, (hrest c hc).2.1⟩
  | exponent he =>
      intro c hc
      obtain rfl := Option.some.inj hc
      obtain rfl | rfl := he <;> decide

theorem skipFraction_text {fraction scale : List Char} (h : FractionText fraction)
    (hscale : ScaleText scale) : skipFraction (fraction ++ (scale ++ rest)) = .ok rest := by
  cases h with
  | none =>
      rw [List.nil_append, ← skipScale_text hrest hscale, skipFraction]
      intro tail heq
      exact absurd rfl (hscale.head hrest '.' (by rw [heq]; rfl)).2
  | places hds =>
      obtain ⟨hspan, hsome⟩ := hds.span fun c hc => (hscale.head hrest c hc).1
      simp only [List.cons_append, skipFraction, hspan, hsome]
      exact skipScale_text hrest hscale

theorem skipUnsigned_text {text : List Char} (h : UnsignedText text) :
    skipUnsigned (text ++ rest) = .ok rest := by
  obtain ⟨hwhole, hzero, hfraction, hscale⟩ := h
  next whole fraction scale =>
  have hhead : ∀ c ∈ (fraction ++ (scale ++ rest)).head?, c.isDigit = false := by
    cases hfraction with
    | none => exact fun c hc => (hscale.head hrest c hc).1
    | places =>
        intro c hc
        obtain rfl := Option.some.inj hc
        rfl
  obtain ⟨hspan, _⟩ := hwhole.span hhead
  rw [List.append_assoc, List.append_assoc]
  simp only [skipUnsigned, hspan]
  split
  · exact absurd rfl hwhole.nonempty
  · exact absurd (hzero rfl) (by simp)
  · exact skipFraction_text hrest hfraction hscale

end Numbers

/-! ### Strings -/

/-- The text of a string after its opening quote, up to its closing one. -/
inductive StringText : List Char → Prop where
  | close : StringText ['"']
  | plain {c : Char} {text : List Char} : c ≠ '"' → c ≠ '\\' → 32 ≤ c.toNat → StringText text →
      StringText (c :: text)
  | escape {c : Char} {text : List Char} : c ∈ ['"', '\\', '/', 'b', 'f', 'n', 'r', 't'] →
      StringText text → StringText ('\\' :: c :: text)
  | hex {a b c d : Char} {text : List Char} :
      (∀ x ∈ [a, b, c, d], (hexValue? x).isSome = true) → StringText text →
      StringText ('\\' :: 'u' :: a :: b :: c :: d :: text)

theorem readFrom_hex {a b c d : Char} (h : ∀ x ∈ [a, b, c, d], (hexValue? x).isSome = true)
    (rest : List Char) :
    readFrom false .text ('\\' :: 'u' :: a :: b :: c :: d :: rest) =
      withFront ' ' (readFrom false .text rest) := by
  simp only [List.forall_mem_cons, Option.isSome_iff_exists] at h
  obtain ⟨⟨_, ha⟩, ⟨_, hb⟩, ⟨_, hc⟩, ⟨_, hd⟩, _⟩ := h
  have hdigit {x : Char} {rest : List Char} {n k v : ℕ} (hx : hexValue? x = some n) (hk : k < 3) :
      (Spot.hex none k v).move false x rest = .goTo (.hex none (k + 1) (v * 16 + n)) := by
    simp [Spot.move, hx, Nat.ne_of_lt hk]
  have henter : Spot.backslash.move false 'u' (a :: b :: c :: d :: rest) =
      .goTo (.hex none 0 0) :=
    enterHex_eq (by simp) none
  rw [readFrom_goTo (move_backslash _), readFrom_goTo henter, readFrom_goTo (hdigit ha (by decide)),
    readFrom_goTo (hdigit hb (by decide)), readFrom_goTo (hdigit hc (by decide))]
  exact readFrom_emit (by simp [Spot.move, hd, leaveHex])

theorem skipString_text {text : List Char} (h : StringText text) (rest : List Char) :
    skipString (text ++ rest) = .ok ((), rest) := by
  have hread : ∃ s, readFrom false .text (text ++ rest) = .ok (s, rest) := by
    induction h with
    | close => exact ⟨[], rfl⟩
    | @plain c text hquote hslash hcontrol _ ih =>
        obtain ⟨s, hs⟩ := ih
        have hmove : Spot.text.move false c (text ++ rest) = .emit c := by
          simp [Spot.move, hquote, hslash, Nat.not_lt.mpr hcontrol]
        rw [List.cons_append, readFrom_emit hmove, hs]
        exact ⟨_, rfl⟩
    | @escape c text hc _ ih =>
        obtain ⟨s, hs⟩ := ih
        have hsimple : ∃ d, Spot.backslash.move false c (text ++ rest) = .emit d := by
          simp only [List.mem_cons, List.not_mem_nil, or_false] at hc
          obtain rfl | rfl | rfl | rfl | rfl | rfl | rfl | rfl := hc <;> exact ⟨_, rfl⟩
        obtain ⟨d, hd⟩ := hsimple
        rw [List.cons_append, List.cons_append, readFrom_goTo (move_backslash _), readFrom_emit hd,
          hs]
        exact ⟨_, rfl⟩
    | hex hdigits _ ih =>
        obtain ⟨s, hs⟩ := ih
        refine ⟨' ' :: s, ?_⟩
        simp only [List.cons_append, readFrom_hex hdigits, hs]
        rfl
  obtain ⟨s, hs⟩ := hread
  rw [skipString, hs]

/-! ### Values -/

mutual

/-- The text of a value. -/
inductive ValueText : List Char → Prop where
  | null : ValueText ['n', 'u', 'l', 'l']
  | true : ValueText ['t', 'r', 'u', 'e']
  | false : ValueText ['f', 'a', 'l', 's', 'e']
  | number {text : List Char} : UnsignedText text → ValueText text
  | negative {text : List Char} : UnsignedText text → ValueText ('-' :: text)
  | string {text : List Char} : StringText text → ValueText ('"' :: text)
  | list {body gap : List Char} : ItemsText true body → Blank gap →
      ValueText ('[' :: (body ++ (gap ++ [']'])))
  | object {body gap : List Char} : MembersText true body → Blank gap →
      ValueText ('\x7b' :: (body ++ (gap ++ ['\x7d'])))

/-- The text of the items of a list. -/
inductive ItemsText : Bool → List Char → Prop where
  | nil {first : Bool} : ItemsText first []
  | cons {first : Bool} {gap gap' text more : List Char} : Blank gap → Blank gap' →
      ValueText text → ItemsText false more →
      ItemsText first (gap ++ (separator first ++ (gap' ++ (text ++ more))))

/-- The text of the members of an object. -/
inductive MembersText : Bool → List Char → Prop where
  | nil {first : Bool} : MembersText first []
  | cons {first : Bool} {gap gap' key gap₁ gap₂ text more : List Char} : Blank gap → Blank gap' →
      StringText key → Blank gap₁ → Blank gap₂ → ValueText text → MembersText false more →
      MembersText first
        (gap ++ (separator first ++ (gap' ++ '"' :: (key ++ (gap₁ ++ ':' ::
          (gap₂ ++ (text ++ more)))))))

end

theorem UnsignedText.startsNumber {text : List Char} (h : UnsignedText text) :
    ∃ c rest, text = c :: rest ∧ c.isDigit = true := by
  obtain ⟨hwhole, _, _, _⟩ := h
  obtain ⟨c, tail, rfl⟩ := List.exists_cons_of_ne_nil hwhole.nonempty
  exact ⟨c, _, rfl, hwhole.digit c List.mem_cons_self⟩

/-- The first character of a value is neither a blank nor the end of a list. -/
theorem ValueText.opens {text : List Char} (h : ValueText text) : Opens text := by
  cases h with
  | null => exact ⟨'n', _, rfl, rfl, by decide⟩
  | true => exact ⟨'t', _, rfl, rfl, by decide⟩
  | false => exact ⟨'f', _, rfl, rfl, by decide⟩
  | number h =>
      obtain ⟨c, rest, rfl, hc⟩ := h.startsNumber
      exact (startsNumber_of_digit hc rest).opens
  | negative => exact ⟨'-', _, rfl, rfl, by decide⟩
  | string => exact ⟨'"', _, rfl, rfl, by decide⟩
  | list => exact ⟨'[', _, rfl, rfl, by decide⟩
  | object => exact ⟨'\x7b', _, rfl, rfl, by decide⟩

theorem ItemsText.endsNumber {more gap : List Char} (h : ItemsText .false more) (hgap : Blank gap)
    (rest : List Char) : EndsNumber (more ++ (gap ++ ']' :: rest)) := by
  cases h with
  | nil => exact endsNumber_mark hgap (by decide) rest
  | cons hblank =>
      rw [List.append_assoc]
      exact endsNumber_mark hblank (by decide) _

theorem MembersText.endsNumber {more gap : List Char} (h : MembersText .false more)
    (hgap : Blank gap) (rest : List Char) : EndsNumber (more ++ (gap ++ '\x7d' :: rest)) := by
  cases h with
  | nil => exact endsNumber_mark hgap (by decide) rest
  | cons hblank =>
      rw [List.append_assoc]
      exact endsNumber_mark hblank (by decide) _

/-! ### Steps -/

/-- What is wanted at the start of a bracket or behind one of its entries. -/
def Wanted.next (first : Bool) : Wanted := if first then .first else .separator

section Steps

variable {gap : List Char} (hgap : Blank gap) {c : Char} (fuel : ℕ) (outer : List Bracket)
  (bracket : Bracket) (rest : List Char)

include hgap

theorem skipSteps_value (hc : isBlank c = false) :
    skipSteps (fuel + 1) .value outer (gap ++ c :: rest) =
      match skipStart outer (c :: rest) with
      | .ok (wanted, outer, rest) => skipSteps fuel wanted outer rest
      | .error e => .error e := by
  show (match skipStart outer (skipBlanks (gap ++ c :: rest)) with
    | .ok (wanted, outer, rest) => skipSteps fuel wanted outer rest
    | .error e => .error e) = _
  rw [skipBlanks_gap hgap hc]

theorem skipSteps_close (first : Bool) :
    skipSteps (fuel + 1) (.next first) (bracket :: outer) (gap ++ bracket.close :: rest) =
      skipSteps fuel .separator outer rest := by
  have hblank : isBlank bracket.close = false := by cases bracket <;> rfl
  have hcomma : bracket.close ≠ ',' := by cases bracket <;> decide
  cases first with
  | true =>
      simp only [Wanted.next, if_true, skipSteps, skipBlanks_gap hgap hblank]
  | false =>
      simp only [Wanted.next, Bool.false_eq_true, if_false, skipSteps, skipBlanks_gap hgap hblank,
        hcomma, if_true]

/-- An entry is wanted behind a comma, and at the start where the bracket does not end. -/
theorem skipSteps_entry (first : Bool) {gap' : List Char} (hgap' : Blank gap')
    (hc : isBlank c = false) (hclose : c ≠ bracket.close) :
    ∃ blank, Blank blank ∧
      skipSteps (fuel + 1) (.next first) (bracket :: outer)
          (gap ++ (separator first ++ (gap' ++ c :: rest))) =
        skipSteps fuel bracket.entry (bracket :: outer) (blank ++ c :: rest) := by
  cases first with
  | true =>
      refine ⟨[], Blank.nil, ?_⟩
      simp only [Wanted.next, separator, if_true, List.nil_append, skipSteps,
        skipBlanks_append hgap, skipBlanks_gap hgap' hc, hclose, if_false]
  | false =>
      refine ⟨gap', hgap', ?_⟩
      simp only [Wanted.next, separator, Bool.false_eq_true, if_false, List.singleton_append,
        skipSteps, skipBlanks_gap hgap (c := ',') rfl, if_true]

theorem skipSteps_key {key gap₁ : List Char} (hkey : StringText key) (hgap₁ : Blank gap₁) :
    skipSteps (fuel + 1) .key outer (gap ++ '"' :: (key ++ (gap₁ ++ ':' :: rest))) =
      skipSteps fuel .value outer rest := by
  have hskip : skipKey (gap ++ '"' :: (key ++ (gap₁ ++ ':' :: rest))) = .ok rest := by
    simp only [skipKey, skipBlanks_gap hgap (c := '"') rfl, if_true, skipString_text hkey,
      skipBlanks_gap hgap₁ (c := ':') rfl]
  rw [skipSteps, hskip]

end Steps

theorem skipStart_digit {c : Char} (hc : c.isDigit = true) (outer : List Bracket)
    (rest : List Char) :
    skipStart outer (c :: rest) =
      (skipUnsigned (c :: rest)).map fun rest => (.separator, outer, rest) := by
  have hne (d : Char) (hd : d.isDigit = false) : c ≠ d := by
    rintro rfl
    rw [hd] at hc
    cases hc
  simp [skipStart, hc, hne 'n' rfl, hne 't' rfl, hne 'f' rfl, hne '-' rfl]

/-! ### Walks -/

/-- A text takes a walk from where a value is wanted to where a separator is, in fewer than two steps
a character. -/
def Passed (text : List Char) : Prop :=
  ∃ steps < 2 * text.length, ∀ (fuel : ℕ) (outer : List Bracket) (gap rest : List Char),
    Blank gap → EndsNumber rest →
    skipSteps (fuel + steps) .value outer (gap ++ (text ++ rest)) =
      skipSteps fuel .separator outer rest

/-- A text with the closing mark behind it takes a walk out of a bracket. -/
def Leaves (bracket : Bracket) (first : Bool) (body : List Char) : Prop :=
  ∃ steps ≤ 2 * body.length + 1, ∀ (fuel : ℕ) (outer : List Bracket) (gap rest : List Char),
    Blank gap →
    skipSteps (fuel + steps) (.next first) (bracket :: outer)
        (body ++ (gap ++ bracket.close :: rest)) =
      skipSteps fuel .separator outer rest

theorem passed_scalar {text : List Char} (hopens : Opens text)
    (hstart : ∀ outer rest, EndsNumber rest →
      skipStart outer (text ++ rest) = .ok (.separator, outer, rest)) : Passed text := by
  obtain ⟨c, tail, rfl, hc, _⟩ := hopens
  refine ⟨1, by simp only [List.length_cons]; omega, fun fuel outer gap rest hgap hrest => ?_⟩
  have hone := hstart outer rest hrest
  rw [List.cons_append] at hone ⊢
  rw [skipSteps_value hgap fuel outer _ hc, hone]

theorem Leaves.passed {bracket : Bracket} {mark : Char} {body gap : List Char}
    (h : Leaves bracket true body) (hgap : Blank gap) (hmark : isBlank mark = false)
    (hstart : ∀ outer rest,
      skipStart outer (mark :: rest) = .ok (.first, bracket :: outer, rest)) :
    Passed (mark :: (body ++ (gap ++ [bracket.close]))) := by
  obtain ⟨steps, hsteps, hwalk⟩ := h
  refine ⟨steps + 1, ?_, fun fuel outer gap' rest hgap' _ => ?_⟩
  · simp only [List.length_cons, List.length_append]
    omega
  · have hinside := hwalk fuel outer gap rest hgap
    simp only [Wanted.next, if_true] at hinside
    rw [← Nat.add_assoc, List.cons_append, skipSteps_value hgap' _ outer _ hmark, hstart,
      List.append_assoc, List.append_assoc]
    exact hinside

theorem leaves_nil (bracket : Bracket) (first : Bool) : Leaves bracket first [] :=
  ⟨1, Nat.le_refl 1, fun fuel outer _ rest hgap => skipSteps_close hgap fuel outer bracket rest first⟩

mutual

theorem ValueText.passed : ∀ {text : List Char}, ValueText text → Passed text
  | _, .null => passed_scalar ValueText.null.opens fun _ _ _ => rfl
  | _, .true => passed_scalar ValueText.true.opens fun _ _ _ => rfl
  | _, .false => passed_scalar ValueText.false.opens fun _ _ _ => rfl
  | _, .number h => passed_scalar (ValueText.number h).opens fun outer rest hrest => by
      have hskip := skipUnsigned_text hrest h
      obtain ⟨c, tail, rfl, hc⟩ := h.startsNumber
      rw [List.cons_append] at hskip ⊢
      rw [skipStart_digit hc, hskip]
      rfl
  | _, .negative h => passed_scalar (ValueText.negative h).opens fun outer rest hrest =>
      congrArg (Except.map fun rest => (Wanted.separator, outer, rest)) (skipUnsigned_text hrest h)
  | _, .string h => passed_scalar (ValueText.string h).opens fun outer rest _ =>
      congrArg (fun skipped => (skipped.map (·.2)).map fun rest => (Wanted.separator, outer, rest))
        (skipString_text h rest)
  | _, .list hbody hgap => hbody.leaves.passed hgap rfl fun _ _ => rfl
  | _, .object hbody hgap => hbody.leaves.passed hgap rfl fun _ _ => rfl

theorem ItemsText.leaves : ∀ {first : Bool} {body : List Char}, ItemsText first body →
    Leaves .list first body
  | first, _, .nil => leaves_nil .list first
  | first, _, @ItemsText.cons _ _ _ _ more hgap hgap' htext hmore => by
      obtain ⟨steps, hsteps, hwalk⟩ := htext.passed
      obtain ⟨later, hlater, hwalk'⟩ := hmore.leaves
      obtain ⟨c, tail, rfl, hc, hclose⟩ := htext.opens
      refine ⟨later + steps + 1, ?_, fun fuel outer gap rest hend => ?_⟩
      · simp only [List.length_append, List.length_cons] at hsteps ⊢
        omega
      · let behind := more ++ (gap ++ ']' :: rest)
        obtain ⟨blank, hblank, hentry⟩ := skipSteps_entry hgap (fuel + later + steps) outer .list
          (tail ++ behind) first hgap' hc hclose
        have hvalue := hwalk (fuel + later) (.list :: outer) blank behind hblank
          (hmore.endsNumber hend rest)
        have hitems := hwalk' fuel outer gap rest hend
        simp only [List.append_assoc, List.cons_append, ← Nat.add_assoc]
        exact hentry.trans (hvalue.trans hitems)

theorem MembersText.leaves : ∀ {first : Bool} {body : List Char}, MembersText first body →
    Leaves .object first body
  | first, _, .nil => leaves_nil .object first
  | first, _, @MembersText.cons _ _ _ key gap₁ gap₂ text more hgap hgap' hkey hgap₁ hgap₂ htext
      hmore => by
      obtain ⟨steps, hsteps, hwalk⟩ := htext.passed
      obtain ⟨later, hlater, hwalk'⟩ := hmore.leaves
      refine ⟨later + steps + 1 + 1, ?_, fun fuel outer gap rest hend => ?_⟩
      · simp only [List.length_append, List.length_cons]
        omega
      · let behind := more ++ (gap ++ '\x7d' :: rest)
        obtain ⟨blank, hblank, hentry⟩ := skipSteps_entry hgap (fuel + later + steps + 1) outer
          .object (key ++ (gap₁ ++ ':' :: (gap₂ ++ (text ++ behind)))) first hgap' (c := '"') rfl
          (by decide)
        have hname := skipSteps_key hblank (fuel + later + steps) (.object :: outer)
          (gap₂ ++ (text ++ behind)) hkey hgap₁
        have hvalue := hwalk (fuel + later) (.object :: outer) gap₂ behind hgap₂
          (hmore.endsNumber hend rest)
        have hmembers := hwalk' fuel outer gap rest hend
        simp only [List.append_assoc, List.cons_append, ← Nat.add_assoc]
        exact hentry.trans (hname.trans (hvalue.trans hmembers))

end

/-- Any JSON is passed over, up to what comes behind it. -/
theorem skipValue_text {text gap rest : List Char} (h : ValueText text) (hgap : Blank gap)
    (hrest : EndsNumber rest) : skipValue (gap ++ (text ++ rest)) = .ok ((), rest) := by
  obtain ⟨steps, hsteps, hwalk⟩ := h.passed
  let cs := gap ++ (text ++ rest)
  have henough : 2 * cs.length + 2 = 2 * cs.length - steps + 1 + 1 + steps := by
    simp only [cs, List.length_append]
    omega
  have hall := hwalk (2 * cs.length - steps + 1 + 1) [] gap rest hgap hrest
  rw [← henough] at hall
  simp only [skipValue, cs] at hall ⊢
  rw [hall]
  rfl

end GlobeView.Json
