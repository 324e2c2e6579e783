/-
Addresses of resources.

An address is a scheme and a colon, and after that mostly two slashes, the host with
what a client needs to be let in, and a path; a query may follow.  Some schemes are
special: their hosts are names or numbers, back slashes are slashes, and the host may not
be missing.  The hosts of other schemes are whatever stands there.

Blanks around an address do not count, and tabs and line ends do not count anywhere in it.
-/
import Turnstile.Address.Domain
import Turnstile.Address.Internet
import Turnstile.Text.Percent

namespace Turnstile

/-- Why a text is no address. -/
inductive AddressError
  | noScheme
  | noHost
  /-- The host has a character that no host has. -/
  | badCharacter
  | badDomain
  | badV4
  | badV6
  | badPort
deriving DecidableEq, Repr

/-- The words for it. -/
def AddressError.message : AddressError → String
  | noScheme => "relative URL without a base"
  | noHost => "empty host"
  | badCharacter => "invalid domain character"
  | badDomain => "invalid international domain name"
  | badV4 => "invalid IPv4 address"
  | badV6 => "invalid IPv6 address"
  | badPort => "invalid port number"

/-- An address; its parts are as they are written, with percent signs. -/
structure Address where
  user : String
  password : Option String
  host : Option String
  port : Option Nat
  path : String
  query : Option String
deriving DecidableEq, Repr

namespace Address

/-- How a scheme treats hosts. -/
inductive Kind
  | file
  | special
  | other
deriving DecidableEq, Repr

/-- The kind of a scheme, in small letters. -/
def Kind.ofScheme (scheme : String) : Kind :=
  if scheme = "file" then file
  else if ["http", "https", "ws", "wss", "ftp"].contains scheme then special
  else other

/-- Does the character divide the parts of a path? -/
def Kind.isSlash (k : Kind) (c : Char) : Bool := c = '/' || (k ≠ other && c = '\\')

/-- Does the character end the host and what stands before it? -/
def Kind.endsHost (k : Kind) (c : Char) : Bool := k.isSlash c || c = '?' || c = '#'

/-! ### Parts of an address -/

/-- The characters that count. -/
def characters (s : String) : List Char :=
  let isIgnored (c : Char) : Bool := c.toNat ≤ 0x20
  let cs := ((s.toList.dropWhile isIgnored).reverse.dropWhile isIgnored).reverse
  cs.filter fun c => c ≠ '\t' && c ≠ '\n' && c ≠ '\r'

/-- The scheme in small letters, and what follows its colon. -/
def scheme? (cs : List Char) : Option (String × List Char) :=
  let name := cs.takeWhile fun c => c.isAlphanum || c = '+' || c = '-' || c = '.'
  match (name.head?.map Char.isAlpha), cs.drop name.length with
  | some true, ':' :: rest => some (String.ofList (name.map Char.toLower), rest)
  | _, _ => none

/-- The characters before the last of a mark and those after it. -/
def cutLast? (mark : Char) (cs : List Char) : Option (List Char × List Char) :=
  if cs.contains mark then
    let after := (cs.reverse.takeWhile (· ≠ mark)).reverse
    some ((cs.take (cs.length - after.length)).dropLast, after)
  else none

/-- The host in front of some characters: a colon ends it outside of brackets. -/
def hostText (k : Kind) (inBrackets : Bool) : List Char → List Char
  | [] => []
  | c :: rest =>
    if k.endsHost c || (c = ':' && !inBrackets) then []
    else c :: hostText k (if c = '[' then true else if c = ']' then false else inBrackets) rest

/-- Characters that a host of no special scheme cannot have. -/
def isForbidden (c : Char) : Bool := c.toNat = 0 || " #/:<>?@[\\]^|".toList.contains c

/-- An address of the newer kind between brackets, of which the first is there. -/
def checkV6 (cs : List Char) : Except AddressError Unit :=
  if cs.getLast? = some ']' && Internet.isV6 (cs.drop 1).dropLast then .ok () else .error .badV6

/-- The host that a text names. -/
def readHost (k : Kind) (cs : List Char) : Except AddressError (List Char) :=
  if cs.head? = some '[' then (checkV6 cs).map fun _ => cs
  else if k = .other then
    if cs.any isForbidden then .error .badCharacter else .ok cs
  else match Domain.parse? (Text.percentDecoded (String.ofList cs)) with
    | none => .error .badDomain
    | some name =>
      if name.isEmpty then .error .noHost
      else if Internet.endsInNumber name && !Internet.isLaxV4 name then .error .badV4
      else .ok name

/-- The port behind a host, if there is one, and the rest. -/
def readPort : List Char → Except AddressError (Option Nat × List Char)
  | ':' :: cs =>
    let digits := cs.takeWhile Char.isDigit
    let rest := cs.drop digits.length
    if !rest.head?.all (fun c => "/\\?#".toList.contains c) || 65535 < digitsValue digits then
      .error .badPort
    else .ok (if digits.isEmpty then none else some (digitsValue digits), rest)
  | cs => .ok (none, cs)

/-- The points that a part of a path is, if it is nothing else. -/
def points? (part : List Char) : Option Nat :=
  let rec count (n : Nat) : List Char → Option Nat
    | [] => some n
    | '.' :: rest => count (n + 1) rest
    | '%' :: '2' :: e :: rest => if e = 'e' || e = 'E' then count (n + 1) rest else none
    | _ => none
  count 0 part

/-- The parts of a path without the points that lead nowhere and up, on top of those so far, the
last one first. -/
def resolve (before : List (List Char)) : List (List Char) → List (List Char)
  | [] => before.reverse
  | part :: rest =>
    let ended (before : List (List Char)) : List (List Char) :=
      if rest.isEmpty then [] :: before else before
    match points? part with
    | some 1 => resolve (ended before) rest
    | some 2 => resolve (ended before.tail) rest
    | _ => resolve (part :: before) rest

/-- The path at the front of some characters, up to a query. -/
def pathOf (k : Kind) (cs : List Char) : String :=
  let text := cs.takeWhile fun c => c ≠ '?' && c ≠ '#'
  let parts := (text.map fun c => if k.isSlash c then '/' else c).splitOn '/'
  let parts := if parts.head? = some [] then parts.tail else parts
  "/".intercalate ((resolve [] parts).map String.ofList)

/-- The query behind a path. -/
def query? (cs : List Char) : Option String :=
  match cs.dropWhile fun c => c ≠ '?' && c ≠ '#' with
  | '?' :: rest => some (String.ofList (rest.takeWhile (· ≠ '#')))
  | _ => none

/-! ### Whole addresses -/

/-- The user and the password before a host, and what follows them. -/
def credentials (k : Kind) (cs : List Char) :
    Except AddressError (String × Option String × List Char) :=
  let front := cs.takeWhile fun c => !k.endsHost c
  match cutLast? '@' front with
  | none => .ok ("", none, cs)
  | some (given, host) =>
    let rest := cs.drop front.length
    if given.isEmpty && host.isEmpty && !rest.isEmpty then .error .noHost
    else
      let user := given.takeWhile (· ≠ ':')
      let password := given.drop (user.length + 1)
      .ok (String.ofList user, if password.isEmpty then none else some (String.ofList password),
        host ++ rest)

/-- An address with a host. -/
def ofHost (k : Kind) (cs : List Char) : Except AddressError Address := do
  let (user, password, cs) ← credentials k cs
  let text := hostText k false cs
  if text.isEmpty && k = .special then throw .noHost
  let name ← readHost k text
  let rest := cs.drop text.length
  if text.isEmpty && rest.head? = some ':' then throw .noHost
  let (number, rest) ← readPort rest
  if text.isEmpty && (user ≠ "" || password.isSome) then throw .noHost
  return ⟨user, password, if name.isEmpty then none else some (String.ofList name), number,
    pathOf k rest, query? rest⟩

/-- Is it the letter of a drive? -/
def isDrive (cs : List Char) : Bool :=
  match cs with
  | [c, mark] => c.isAlpha && (mark = ':' || mark = '|')
  | _ => false

/-- An address of a file, with a host behind two slashes. -/
def ofFile (cs : List Char) : Except AddressError Address := do
  let bare : Address := ⟨"", none, none, none, pathOf .file cs, query? cs⟩
  match cs with
  | a :: b :: rest =>
    if !(Kind.file.isSlash a && Kind.file.isSlash b) then return bare
    let text := rest.takeWhile fun c => !Kind.file.endsHost c
    if isDrive text || text.isEmpty then
      return { bare with path := pathOf .file rest }
    let name ← readHost .file text
    let rest := rest.drop text.length
    return { bare with
      host := if String.ofList name = "localhost" then none else some (String.ofList name)
      path := pathOf .file rest }
  | _ => return bare

/-- Read an address. -/
def parse (s : String) : Except AddressError Address :=
  match scheme? (characters s) with
  | none => .error .noScheme
  | some (scheme, rest) =>
    match Kind.ofScheme scheme, rest with
    | .file, cs => ofFile cs
    | .special, cs => ofHost .special (cs.dropWhile Kind.special.isSlash)
    | .other, '/' :: '/' :: cs => ofHost .other cs
    | .other, '/' :: cs => .ok ⟨"", none, none, none, pathOf .other cs, query? cs⟩
    | .other, cs =>
      .ok ⟨"", none, none, none, String.ofList (cs.takeWhile fun c => c ≠ '?' && c ≠ '#'),
        query? cs⟩

end Address

end Turnstile
