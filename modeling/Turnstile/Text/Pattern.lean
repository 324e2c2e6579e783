/-
Patterns that texts are matched against.

What the library needs of a pattern is whether it is one: whether its groups and classes
are closed, whether every repetition has something to repeat, and whether its escapes
name something.  Classes that need tables of all scripts (digits, words, blanks, letters
of either case, properties) are not to be had, unless the pattern is about bytes; then
again nothing may match a byte that is no character.

Fuel bounds the readers; every step reads at least one character, so the length of the
pattern and one more suffices.
-/
import Turnstile.Text.Alphanumeric
import Turnstile.Text.Blank
import Turnstile.Text.Hex

namespace Turnstile.Text.Pattern

/-- What the flags of a pattern say where it is read. -/
structure Mode where
  /-- Letters stand for themselves in either case. -/
  ignoresCase : Bool
  /-- It is about characters and not about bytes. -/
  ofCharacters : Bool
  /-- Blanks and comments are passed over. -/
  isSpaced : Bool

/-- The mode that a pattern starts in. -/
def Mode.standard : Mode := ⟨false, true, false⟩

/-- Past a comment. -/
def comment : List Char → List Char
  | [] => []
  | c :: rest => if c = '\n' then rest else comment rest

/-- Past blanks and comments. -/
def blanks : Nat → List Char → List Char
  | fuel + 1, c :: rest =>
    if isBlank c then blanks fuel rest
    else if c = '#' then blanks fuel (comment rest)
    else c :: rest
  | _, cs => cs

/-- Past what the mode passes over. -/
def Mode.skip (m : Mode) (cs : List Char) : List Char :=
  if m.isSpaced then blanks (cs.length + 1) cs else cs

/-! ### Escapes -/

/-- What a part of a pattern stands for. -/
inductive Atom
  | letter (c : Char)
  /-- One of the classes with a letter of their own: digits, words or blanks, or what is none. -/
  | kind (negated : Bool)
  /-- A place between characters. -/
  | place
deriving DecidableEq, Repr

/-- Read `count` hexadecimal digits onto a number. -/
def hex? (m : Mode) : Nat → Nat → List Char → Option (Nat × List Char)
  | 0, n, cs => some (n, cs)
  | count + 1, n, cs => do
    let c :: rest := m.skip cs | none
    hex? m count (n * 16 + (← hexValue? c)) rest

/-- The character of a hexadecimal escape.  A short one is a byte where the pattern is about
bytes. -/
def hexLetter? (m : Mode) (count : Nat) (cs : List Char) : Option (Atom × List Char) := do
  let (n, rest) ← hex? m count 0 cs
  if !n.isValidChar || (count = 2 && !m.ofCharacters && 0x80 ≤ n) then none
  else some (.letter (Char.ofNat n), m.skip rest)

/-- Control characters with a letter of their own. -/
def controls : List (Char × Char) :=
  [('a', Char.ofNat 7), ('f', Char.ofNat 12), ('t', '\t'), ('n', '\n'), ('r', '\r'),
    ('v', Char.ofNat 11)]

/-- Read what follows a backslash. -/
def escape? (m : Mode) : List Char → Option (Atom × List Char)
  | [] => none
  | c :: rest =>
    if c = 'x' then hexLetter? m 2 rest
    else if c = 'u' then hexLetter? m 4 rest
    else if c = 'U' then hexLetter? m 8 rest
    else if "dsw".toList.contains c then some (.kind false, rest)
    else if "DSW".toList.contains c then some (.kind true, rest)
    else if "Az".toList.contains c then some (.place, rest)
    else if "bB<>".toList.contains c then if m.ofCharacters then none else some (.place, rest)
    else if c.toNat < 0x80 && !c.isAlphanum then some (.letter c, rest)
    else (controls.lookup c).map fun x => (.letter x, rest)

/-- Can a class with a letter of its own be had? -/
def Mode.hasKind (m : Mode) (negated : Bool) : Bool := !m.ofCharacters && !negated

/-- Can it stand where a pattern expects one thing? -/
def Mode.allows (m : Mode) : Atom → Bool
  | .letter _ => !(m.ignoresCase && m.ofCharacters)
  | .kind negated => m.hasKind negated
  | .place => true

/-! ### Classes -/

/-- Can it stand in a class? -/
def Mode.allowsInClass (m : Mode) : Atom → Bool
  | .letter c => m.ofCharacters || c.toNat < 0x80
  | .kind negated => m.hasKind negated
  | .place => false

/-- One thing in a class. -/
def item? (m : Mode) : List Char → Option (Atom × List Char)
  | [] => none
  | '\\' :: rest => escape? m rest
  | c :: rest => some (.letter c, rest)

/-- Two letters in their order, or one thing alone. -/
def member? (m : Mode) (cs : List Char) : Option (List Char) := do
  let (first, rest) ← item? m cs
  let rest := m.skip rest
  let isRange := match rest with
    | '-' :: more => !((m.skip more).head?.all fun c => c = ']' || c = '-')
    | _ => false
  if !isRange then
    if m.allowsInClass first then some rest else none
  else
    let (last, rest) ← item? m (m.skip rest.tail)
    match first, last with
    | .letter a, .letter b =>
      if a ≤ b && m.allowsInClass first && m.allowsInClass last then some rest else none
    | _, _ => none

/-- The classes of ASCII characters that have a name. -/
def namedClasses : List String :=
  ["alnum", "alpha", "ascii", "blank", "cntrl", "digit", "graph", "lower", "print", "punct",
    "space", "upper", "word", "xdigit"]

/-- A named class behind its bracket, whether it is negated, and the rest. -/
def named? : List Char → Option (Bool × List Char)
  | ':' :: rest =>
    let negated := rest.head? = some '^'
    let rest := if negated then rest.tail else rest
    let name := rest.takeWhile (· ≠ ':')
    match rest.drop name.length with
    | ':' :: ']' :: rest =>
      if namedClasses.contains (String.ofList name) then some (negated, rest) else none
    | _ => none
  | _ => none

/-- Where in a class the reader is: hyphens in front stand for themselves, and so does a closing
bracket before everything else. -/
inductive Spot
  | first
  | hyphens
  | within
deriving DecidableEq, Repr

/-- Past the bracket that closes the class, and those inside of it; `depth` are open. -/
def close? (m : Mode) : Nat → Nat → Spot → List Char → Option (List Char)
  | 0, _, _, _ => none
  | fuel + 1, depth, spot, cs => do
    let opening (rest : List Char) : Option (List Char) :=
      match m.skip rest with
      | '^' :: rest => if m.ofCharacters then some rest else none
      | rest => some rest
    match m.skip cs with
    | [] => none
    | '-' :: rest =>
      if spot ≠ .within then close? m fuel depth .hyphens rest
      else if rest.head? = some '-' then close? m fuel depth .within rest.tail
      else close? m fuel depth .within (← member? m ('-' :: rest))
    | ']' :: rest =>
      if spot = .first then close? m fuel depth .within rest
      else if depth ≤ 1 then some rest
      else close? m fuel (depth - 1) .within rest
    | '[' :: rest =>
      match named? rest with
      | some (negated, rest) =>
        if negated && !m.ofCharacters then none else close? m fuel depth .within rest
      | none => close? m fuel (depth + 1) .first (← opening rest)
    | c :: rest =>
      if (c = '&' || c = '~') && rest.head? = some c then close? m fuel depth .within rest.tail
      else close? m fuel depth .within (← member? m (c :: rest))

/-- Past a class, from behind its bracket. -/
def class? (m : Mode) (cs : List Char) : Option (List Char) :=
  if m.ignoresCase && m.ofCharacters then none
  else match m.skip cs with
    | '^' :: rest => if m.ofCharacters then close? m (cs.length + 1) 1 .first rest else none
    | rest => close? m (cs.length + 1) 1 .first rest

/-! ### Groups -/

/-- Is it the name of a group? -/
def isGroupName : List Char → Bool
  | [] => false
  | c :: rest =>
    (c = '_' || isAlphabetic c) &&
      rest.all fun x => x = '_' || x = '.' || x = '[' || x = ']' || isAlphanumeric x

/-- The mode with a flag set or cleared. -/
def Mode.put (m : Mode) (flag : Char) (on : Bool) : Mode :=
  if flag = 'i' then { m with ignoresCase := on }
  else if flag = 'u' then { m with ofCharacters := on }
  else if flag = 'x' then { m with isSpaced := on }
  else m

/-- The mode that flags set: each flag once, those behind a hyphen cleared, no hyphen last. -/
def flags? (m : Mode) (cs : List Char) : Option Mode :=
  if cs.Nodup && cs.getLast? ≠ some '-' && cs.all fun c => "-imsUuRx".toList.contains c then
    let on := cs.takeWhile (· ≠ '-')
    let m := on.foldl (fun m c => m.put c true) m
    some ((cs.drop on.length).foldl (fun m c => m.put c false) m)
  else none

/-- What stands behind the bracket of a group. -/
inductive Opening
  /-- A group, read in a mode, and its name if it has one. -/
  | group (mode : Mode) (name : Option (List Char))
  /-- Flags for the rest of the group that they stand in. -/
  | flags (mode : Mode)

/-- Read what stands behind the bracket of a group. -/
def opening? (m : Mode) (cs : List Char) : Option (Opening × List Char) :=
  let named (rest : List Char) : Option (Opening × List Char) :=
    let name := rest.takeWhile (· ≠ '>')
    match rest.drop name.length with
    | _ :: rest => if isGroupName name then some (.group m (some name), rest) else none
    | [] => none
  match m.skip cs with
  | '?' :: 'P' :: '<' :: rest => named rest
  | '?' :: '<' :: rest => named rest
  | '?' :: rest => do
    let text := rest.takeWhile fun c => c ≠ ':' && c ≠ ')'
    let mode ← flags? m text
    match rest.drop text.length with
    | ':' :: rest => some (.group mode none, rest)
    | ')' :: rest => if text.isEmpty then none else some (.flags mode, rest)
    | _ => none
  | rest => some (.group m none, rest)

/-! ### Whole patterns -/

/-- Where in a pattern the reader is. -/
structure State where
  mode : Mode
  /-- The modes to go back to behind the groups that are open, the innermost first. -/
  outer : List Mode
  /-- Nothing stands before the place that could be repeated. -/
  isBare : Bool
  /-- The names of the groups so far. -/
  names : List (List Char)

/-- Is the rest of a pattern well formed? -/
def completes : Nat → State → List Char → Bool
  | 0, _, _ => false
  | fuel + 1, s, cs =>
    let after (rest : List Char) : Bool := completes fuel { s with isBare := false } rest
    match s.mode.skip cs with
    | [] => s.outer.isEmpty
    | '(' :: rest =>
      match opening? s.mode rest with
      | some (.flags mode, rest) => completes fuel { s with mode, isBare := true } rest
      | some (.group mode name, rest) =>
        !(name.any fun n => s.names.contains n) &&
          completes fuel ⟨mode, s.mode :: s.outer, true, name.toList ++ s.names⟩ rest
      | none => false
    | ')' :: rest =>
      match s.outer with
      | mode :: outer => completes fuel { s with mode, outer, isBare := false } rest
      | [] => false
    | '|' :: rest => completes fuel { s with isBare := true } rest
    | '[' :: rest =>
      match class? s.mode rest with
      | some rest => after rest
      | none => false
    | '\x7b' :: _ => false
    | '\\' :: rest =>
      match escape? s.mode rest with
      | some (atom, rest) => s.mode.allows atom && after rest
      | none => false
    | '.' :: rest => s.mode.ofCharacters && after rest
    | c :: rest =>
      if c = '*' || c = '+' || c = '?' then
        !s.isBare && after (if rest.head? = some '?' then rest.tail else rest)
      else if c = '^' || c = '$' then after rest
      else s.mode.allows (.letter c) && after rest

/-- Is the text a pattern? -/
def isPattern (s : String) : Bool :=
  completes (s.length + 1) ⟨.standard, [], true, []⟩ s.toList

end Turnstile.Text.Pattern
