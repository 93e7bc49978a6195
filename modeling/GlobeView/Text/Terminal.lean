/-! # What a terminal shows

A terminal takes some characters as orders.  `plain` leaves out of a text what a terminal would not
show: orders, with all that belongs to them, and controls other than white space.

An order begins with an escape.  What follows decides how far it goes:

* marks and one final character, for most orders;
* after `[`, parameters and one final character;
* after `]`, a title, up to a bell;
* after `P`, parameters, a final character and a text; after `X`, `^` or `_`, a text; such a text
  goes up to the byte `0x9C`, wherever that stands in the encoding of a character.

A new escape ends any order and begins the next one; two controls end any order.  White space
inside an order of one of the first two kinds is shown at once, and so is what follows it; the order
goes on only where the next character comes that is not shown. -/

namespace GlobeView.Text

namespace Terminal

/-- How far an order has come. -/
inductive Progress where
  /-- There is none. -/
  | idle
  /-- After the escape. -/
  | escape
  /-- After marks. -/
  | marks
  /-- Among the parameters of a control sequence. -/
  | sequence
  /-- Among the parameters before a text. -/
  | heading
  /-- Inside a text. -/
  | text
  /-- Inside a title. -/
  | title
deriving DecidableEq, Repr

/-- Whether the byte that ends a text is in the encoding of a character. -/
def endsText (c : Char) : Bool :=
  let n := c.toNat
  (0x80 ≤ n && n % 0x40 == 0x1C) || (0x800 ≤ n && n / 0x40 % 0x40 == 0x1C) ||
    (0x10000 ≤ n && n / 0x1000 % 0x40 == 0x1C)

/-- The way on from an escape. -/
def afterEscape (c : Char) : Progress :=
  let n := c.toNat
  if c = '[' then .sequence
  else if c = ']' then .title
  else if c = 'P' then .heading
  else if c = 'X' || c = '^' || c = '_' then .text
  else if 0x20 ≤ n && n ≤ 0x2F then .marks
  else if 0x30 ≤ n && n ≤ 0x7E then .idle
  else .escape

/-- Whether a character ends an order whose final characters begin at `first`. -/
def isFinal (first : Nat) (c : Char) : Bool := first ≤ c.toNat && c.toNat ≤ 0x7E

/-- An order after one more character. -/
def Progress.next (p : Progress) (c : Char) : Progress :=
  let n := c.toNat
  if n = 0x1B then .escape
  else if n = 0x18 || n = 0x1A then .idle
  else match p with
    | .idle => .idle
    | .escape => afterEscape c
    | .marks => if isFinal 0x30 c then .idle else .marks
    | .sequence => if isFinal 0x40 c then .idle else .sequence
    | .heading => if isFinal 0x40 c then .text else .heading
    | .text => if endsText c then .idle else .text
    | .title => if n = 0x07 then .idle else .title

/-- The controls that move on to another place. -/
def isSpacing (c : Char) : Bool := c = '\t' || c = '\n' || c = '\x0c' || c = '\r'

/-- Whether a terminal shows a character outside orders. -/
def isShown (c : Char) : Bool := isSpacing c || (0x20 ≤ c.toNat && c.toNat != 0x7F)

/-- Whether a terminal shows a character while an order is at `p`. -/
def Progress.shows (p : Progress) (c : Char) : Bool :=
  match p with
  | .idle => isShown c
  | .escape | .marks | .sequence => isSpacing c
  | .heading | .text | .title => false

/-- What is shown of a text.  While `showing`, an order that has begun is left where it is; a
character outside ASCII ends it. -/
def shown (p : Progress) (showing : Bool) : List Char → List Char
  | [] => []
  | c :: rest =>
    if showing && isShown c then
      c :: shown (if c.toNat < 0x80 then p else .idle) true rest
    else if p.shows c then c :: shown (p.next c) true rest
    else shown (p.next c) false rest

end Terminal

/-- A text as a terminal shows it. -/
def plain (s : String) : String := String.ofList (Terminal.shown .idle false s.toList)

end GlobeView.Text
