/-
JSON text read back.

A value without floats has a text from which its tree is read again (`parse?_compact`).  What is
written for a character is read as one piece of a string (`pieces?_escapeChar`), a whole number is
read up to what cannot go on with it (`Ends`), and in an array or an object each part is read up to
the comma or bracket that follows.  The fuel is twice the length of the text: a value costs one
unit, and one more for each of its parts, which are at least one character each.

Two digits of a number never make another: `value?_numeralOf` gives back the number.
-/
import Turnstile.Json.Reader
import Turnstile.Proofs.Number.Digits

namespace Turnstile.Json

/-! ### Strings -/

theorem hexValue?_hexDigit : ∀ d, d < 16 → Text.hexValue? (Text.hexDigit d) = some d := by decide

/-- A code unit is read from its four digits. -/
theorem ofHex?_hexOf {n : Nat} (h : n < 0x10000) :
    ∃ a b c d, (Text.hexOf 4 n).toList = [a, b, c, d] ∧ Text.ofHex? [a, b, c, d] = some n := by
  refine ⟨_, _, _, _, by rw [Text.hexOf, String.toList_ofList]; rfl, ?_⟩
  have hdigit (m : Nat) : Text.hexValue? (Text.hexDigit (m % 16)) = some (m % 16) :=
    hexValue?_hexDigit _ (Nat.mod_lt _ (by decide))
  simp only [Text.ofHex?, List.foldlM_cons, List.foldlM_nil, hdigit, Option.map_some,
    Option.bind_eq_bind, Option.bind_some, Option.pure_def, Nat.shiftRight_eq_div_pow]
  refine congrArg some ?_
  norm_num
  omega

/-- What is read for a character: control characters without a letter of their own are written as
code units. -/
def pieceOf (c : Char) : Piece :=
  if c.toNat < 0x20 ∧ c ∉ [Char.ofNat 8, '\t', '\n', Char.ofNat 12, '\r'] then .unit c.toNat
  else .char c

theorem pieces?_plain {c : Char} (hquote : c ≠ '"') (hback : c ≠ '\\') (hlow : ¬ c.toNat < 0x20)
    (rest : List Char) :
    pieces? (c :: rest) = (pieces? rest).map fun (ps, rest) => (.char c :: ps, rest) := by
  rw [pieces?.eq_def]
  split <;> simp_all

theorem pieces?_unit {n : Nat} (h : n < 0x10000) (rest : List Char) :
    pieces? (unitEscape n ++ rest) =
      (pieces? rest).map fun (ps, rest) => (.unit n :: ps, rest) := by
  obtain ⟨a, b, c, d, hdigits, hvalue⟩ := ofHex?_hexOf h
  rw [unitEscape, hdigits]
  simp only [List.cons_append, List.nil_append]
  rw [pieces?, hvalue]
  cases pieces? rest <;> rfl

theorem pieces?_escape {c e : Char} (he : e ≠ 'u') (h : escape? e = some c) (rest : List Char) :
    pieces? ('\\' :: e :: rest) = (pieces? rest).map fun (ps, rest) => (.char c :: ps, rest) := by
  rw [pieces?.eq_def]
  split
  · grind
  · grind
  · next heq =>
    obtain ⟨rfl, rfl⟩ := List.cons.inj (List.cons.inj heq).2
    rw [h]
    cases pieces? rest <;> rfl
  · grind
  · grind

/-- What is written for a character is one piece. -/
theorem pieces?_escapeChar (c : Char) (rest : List Char) :
    pieces? (escapeChar c ++ rest) =
      (pieces? rest).map fun (ps, rest) => (pieceOf c :: ps, rest) := by
  unfold escapeChar
  split_ifs with hquote hback hline hreturn htab hbell hfeed hlow
  · subst hquote; exact pieces?_escape (by decide) rfl rest
  · subst hback; exact pieces?_escape (by decide) rfl rest
  · subst hline; exact pieces?_escape (by decide) rfl rest
  · subst hreturn; exact pieces?_escape (by decide) rfl rest
  · subst htab; exact pieces?_escape (by decide) rfl rest
  · obtain rfl : c = Char.ofNat 8 := Char.toNat_inj.mp hbell
    exact pieces?_escape (by decide) rfl rest
  · obtain rfl : c = Char.ofNat 12 := Char.toNat_inj.mp hfeed
    exact pieces?_escape (by decide) rfl rest
  · have hpiece : pieceOf c = .unit c.toNat := by
      refine if_pos ⟨hlow, ?_⟩
      simp only [List.mem_cons, List.not_mem_nil]
      rintro (rfl | rfl | rfl | rfl | rfl | h) <;> simp_all
    rw [pieces?_unit (by omega), hpiece]
  · have hpiece : pieceOf c = .char c := if_neg fun h => hlow h.1
    rw [List.singleton_append, pieces?_plain hquote hback hlow, hpiece]

theorem pieces?_flatMap (cs rest : List Char) :
    pieces? (cs.flatMap escapeChar ++ '"' :: rest) = some (cs.map pieceOf, rest) := by
  induction cs with
  | nil => simp [pieces?]
  | cons c cs ih =>
    rw [List.flatMap_cons, List.append_assoc, pieces?_escapeChar, ih]
    rfl

/-- A control character is no half of a surrogate pair. -/
theorem joinPieces?_unit {n : Nat} (h : n < 0x20) (ps : List Piece) :
    joinPieces? (.unit n :: ps) = (joinPieces? ps).map (Char.ofNat n :: ·) := by
  have hlow : ¬ 0xD800 ≤ n := by omega
  have hhigh : ¬ 0xDC00 ≤ n := by omega
  match ps with
  | [] => simp [joinPieces?, hlow]
  | .char c :: ps => simp [joinPieces?, hlow]
  | .unit m :: ps => simp [joinPieces?, hlow, hhigh]

theorem joinPieces?_map (cs : List Char) : joinPieces? (cs.map pieceOf) = some cs := by
  induction cs with
  | nil => rfl
  | cons c cs ih =>
    rw [List.map_cons, pieceOf]
    split
    · next h =>
      rw [joinPieces?_unit h.1, ih, Char.ofNat_toNat]
      rfl
    · rw [joinPieces?, ih]
      rfl

/-- The characters of a string between quotes. -/
def quoteChars (s : String) : List Char := '"' :: s.toList.flatMap escapeChar ++ ['"']

theorem string?_quoteChars (s : String) (rest : List Char) :
    string? (s.toList.flatMap escapeChar ++ '"' :: rest) = some (some s, rest) := by
  simp only [string?, pieces?_flatMap, joinPieces?_map, Option.map_some, String.ofList_toList]

/-! ### Numbers -/

/-- What stands after a number does not go on with it. -/
def Ends (rest : List Char) : Prop :=
  ∀ c ∈ rest.head?, c.isDigit = false ∧ c ≠ '.' ∧ c ≠ 'e' ∧ c ≠ 'E'

theorem ends_nil : Ends [] := fun _ h => nomatch h

theorem ends_cons {c : Char} (hc : c ∈ [',', ']', '\x7d']) (rest : List Char) :
    Ends (c :: rest) := by
  simp only [List.mem_cons, List.not_mem_nil, or_false] at hc
  rintro d ⟨⟩
  rcases hc with rfl | rfl | rfl <;> decide

/-- A whole number as it is spelled. -/
def numeralOf (n : Int) : Numeral := ⟨decide (n < 0), Nat.toDigits 10 n.natAbs, none, none⟩

theorem toList_toString (n : Int) :
    (toString n).toList = (if n < 0 then ['-'] else []) ++ Nat.toDigits 10 n.natAbs := by
  rw [Int.toString_eq_repr, Int.repr_eq_if]
  by_cases h : n < 0
  · rw [if_neg (by omega), if_pos h, String.toList_append, Nat.toList_repr,
      show (-n).toNat = n.natAbs by omega]
    rfl
  · rw [if_pos (by omega), if_neg h, Nat.toList_repr, show n.toNat = n.natAbs by omega]
    rfl

section Numbers

variable {rest : List Char}

theorem wholePart?_toDigits (n : Nat) (h : Ends rest) :
    wholePart? (Nat.toDigits 10 n ++ rest) = some (Nat.toDigits 10 n, rest) := by
  have hrest : ∀ c ∈ rest.head?, c.isDigit = false := fun c hc => (h c hc).1
  by_cases hzero : n = 0
  · subst hzero
    have hnot : (rest.head?.map Char.isDigit).getD false = false := by
      cases rest with
      | nil => rfl
      | cons c rest => exact hrest c rfl
    simp [wholePart?, hnot]
  · have hhead := head?_toDigits_ne_zero (Nat.pos_of_ne_zero hzero)
    have hdigits := @isDigit_of_mem_toDigits n
    cases hds : Nat.toDigits 10 n with
    | nil => exact absurd hds Nat.toDigits_ne_nil
    | cons d ds =>
      rw [hds] at hhead hdigits
      have hd : d ≠ '0' := fun h => hhead (congrArg some h)
      have hrun := takeWhile_isDigit_append (fun c => hdigits) hrest
      have hleft := dropWhile_isDigit_append (fun c => hdigits) hrest
      rw [List.cons_append] at hrun hleft ⊢
      rw [wholePart?]
      · simp [digits?, hrun, hleft]
      · rintro r h
        exact hd (List.cons.inj h).1

theorem fractionPart?_of_ends (h : Ends rest) : fractionPart? rest = some (none, rest) := by
  unfold fractionPart?
  split
  · next r => exact absurd rfl (h '.' rfl).2.1
  · rfl

theorem exponentPart?_of_ends (h : Ends rest) : exponentPart? rest = some (none, rest) := by
  cases rest with
  | nil => rfl
  | cons c rest =>
    obtain ⟨-, -, he, hE⟩ := h c rfl
    simp [exponentPart?, he, hE]

theorem numeral?_toString (n : Int) (h : Ends rest) :
    numeral? ((toString n).toList ++ rest) = some (numeralOf n, rest) := by
  have hwhole := wholePart?_toDigits n.natAbs h
  have hfraction := fractionPart?_of_ends h
  have hexponent := exponentPart?_of_ends h
  rw [toList_toString, numeralOf]
  by_cases hn : n < 0
  · simp [hn, numeral?, hwhole, hfraction, hexponent]
  · cases hds : Nat.toDigits 10 n.natAbs with
    | nil => exact absurd hds Nat.toDigits_ne_nil
    | cons d ds =>
      have hd : d.isDigit = true := isDigit_of_mem_toDigits (hds ▸ List.mem_cons_self)
      have hminus : d ≠ '-' := by
        rintro rfl
        exact absurd hd (by decide)
      rw [hds, List.cons_append] at hwhole
      simp [hn, numeral?, hwhole, hfraction, hexponent, hminus]

theorem le_foldl_digits (ds : List Char) (n : Nat) :
    n ≤ ds.foldl (fun n c => n * 10 + (c.toNat - 48)) n := by
  induction ds generalizing n with
  | nil => exact le_rfl
  | cons c ds ih =>
    have hnext := ih (n * 10 + (c.toNat - 48))
    rw [List.foldl_cons]
    omega

/-- Digits are gathered as long as the number they name fits a word. -/
theorem gather_eq {ds : List Char} {n : Nat}
    (h : ds.foldl (fun n c => n * 10 + (c.toNat - 48)) n ≤ greatestWord) :
    Numeral.gather n 0 ds = (ds.foldl (fun n c => n * 10 + (c.toNat - 48)) n, 0) := by
  induction ds generalizing n with
  | nil => rfl
  | cons c ds ih =>
    rw [List.foldl_cons] at h ⊢
    have hfits : n * 10 + (c.toNat - 48) ≤ greatestWord := (le_foldl_digits ds _).trans h
    rw [Numeral.gather, if_pos ⟨rfl, hfits⟩, ih h]

/-- The number that was written is the value. -/
theorem value?_numeralOf {n : Int} (h : Signed64.Holds n) :
    (numeralOf n).value? = some (.whole n) := by
  obtain ⟨hlow, hhigh⟩ := h
  simp only [Signed64.least, Signed64.greatest] at hlow hhigh
  have hvalue := valueOf_toDigits n.natAbs
  have hgather : Numeral.gather 0 0 (Nat.toDigits 10 n.natAbs) = (n.natAbs, 0) := by
    rw [gather_eq, ← valueOf, hvalue]
    rw [← valueOf, hvalue, greatestWord]
    omega
  rw [numeralOf, Numeral.value?]
  simp only [hgather, if_true]
  by_cases hn : n < 0
  · have hsize : ¬ (n.natAbs = 0 ∨ n.natAbs > 9223372036854775808) := by omega
    simp only [hn, decide_true, Bool.not_true, Bool.false_eq_true, if_false, hsize]
    exact congrArg (some ∘ Json.whole) (by omega)
  · simp only [hn, decide_false, Bool.not_false, if_true]
    exact congrArg (some ∘ Json.whole) (by omega)

end Numbers

/-! ### Parts between commas -/

/-- The texts of parts with commas between them. -/
def commas {α : Type} (f : α → List Char) (parts : List α) : List Char :=
  [','].intercalate (parts.map f)

theorem commas_singleton {α : Type} (f : α → List Char) (a : α) : commas f [a] = f a :=
  List.intercalate_singleton

theorem commas_cons_cons {α : Type} (f : α → List Char) (a b : α) (rest : List α) :
    commas f (a :: b :: rest) = f a ++ ',' :: commas f (b :: rest) := by
  rw [commas, List.map_cons, List.map_cons, List.intercalate_cons_cons, ← List.map_cons, ← commas,
    List.append_assoc, List.singleton_append]

theorem exists_commas_eq {α : Type} (f : α → List Char) (a : α) (rest : List α) :
    ∃ cs, commas f (a :: rest) = f a ++ cs := by
  cases rest with
  | nil => exact ⟨[], by rw [commas_singleton, List.append_nil]⟩
  | cons b rest => exact ⟨_, commas_cons_cons f a b rest⟩

/-! ### Values -/

/-- There are no floats in the value. -/
inductive Exact : Json → Prop
  | null : Exact .null
  | bool (b : Bool) : Exact (.bool b)
  | whole (n : Int) : Exact (.whole n)
  | string (s : String) : Exact (.string s)
  | array {items : List Json} : (∀ v ∈ items, Exact v) → Exact (.array items)
  | object {members : List (String × Json)} : (∀ m ∈ members, Exact m.2) → Exact (.object members)

mutual

/-- The tree that the text of a value spells out; floats are left out. -/
def treeOf : Json → Tree
  | null => .null
  | bool b => .bool b
  | whole n => .number (numeralOf n)
  | float _ => .null
  | string s => .string (some s)
  | array items => .array (itemTrees items)
  | object members => .object (memberTrees members)

/-- The trees of items. -/
def itemTrees : List Json → List Tree
  | [] => []
  | v :: rest => treeOf v :: itemTrees rest

/-- The trees of members. -/
def memberTrees : List (String × Json) → List (Option String × Tree)
  | [] => []
  | (k, v) :: rest => (some k, treeOf v) :: memberTrees rest

end

/-- The characters of a value's text. -/
def chars (v : Json) : List Char := v.compact.toList

/-- The characters of a member's text. -/
def memberChars (m : String × Json) : List Char := quoteChars m.1 ++ ':' :: chars m.2

theorem itemTexts_eq (items : List Json) : itemTexts escapeChar items = items.map compact := by
  induction items with
  | nil => rfl
  | cons v rest ih => rw [itemTexts, ih, List.map_cons, compact]

theorem toList_stringText (s : String) : (stringText escapeChar s).toList = quoteChars s := by
  rw [stringText, String.toList_ofList, quoteChars]

theorem chars_array (items : List Json) :
    chars (array items) = '[' :: commas chars items ++ [']'] := by
  rw [chars, compact, text, itemTexts_eq, String.toList_append, String.toList_append,
    String.toList_intercalate, List.map_map]
  rfl

theorem memberTexts_eq (members : List (String × Json)) :
    (memberTexts escapeChar members).map String.toList = members.map memberChars := by
  induction members with
  | nil => rfl
  | cons m rest ih =>
    rw [memberTexts, List.map_cons, ih, List.map_cons, memberChars, String.toList_append,
      String.toList_append, toList_stringText, chars, compact, List.append_assoc]
    rfl

theorem chars_object (members : List (String × Json)) :
    chars (object members) =
      '\x7b' :: commas memberChars members ++ ['\x7d'] := by
  rw [chars, compact, text, String.toList_append, String.toList_append, String.toList_intercalate,
    memberTexts_eq]
  rfl

theorem chars_string (s : String) : chars (string s) = quoteChars s := toList_stringText s

theorem skipBlanks_of_not_mem {c : Char} (cs : List Char) (h : c ∉ [' ', '\n', '\t', '\r']) :
    skipBlanks (c :: cs) = c :: cs := by
  simp only [List.mem_cons, List.not_mem_nil, or_false, not_or] at h
  obtain ⟨h₁, h₂, h₃, h₄⟩ := h
  simp [skipBlanks, h₁, h₂, h₃, h₄]

/-- A number starts with a sign or a digit. -/
theorem exists_toString_eq (n : Int) :
    ∃ c cs, (toString n).toList = c :: cs ∧ (c = '-' ∨ c.isDigit = true) := by
  rw [toList_toString]
  by_cases hn : n < 0
  · exact ⟨'-', Nat.toDigits 10 n.natAbs, by simp [hn], .inl rfl⟩
  · cases hds : Nat.toDigits 10 n.natAbs with
    | nil => exact absurd hds Nat.toDigits_ne_nil
    | cons d ds =>
      exact ⟨d, ds, by simp [hn], .inr (isDigit_of_mem_toDigits (hds ▸ List.mem_cons_self))⟩

theorem not_mem_of_isDigit {c : Char} (h : c = '-' ∨ c.isDigit = true) :
    c ∉ [' ', '\n', '\t', '\r', ']', '\x7d', '"', '[', '\x7b', 't', 'f', 'n'] := by
  rintro hmem
  simp only [List.mem_cons, List.not_mem_nil, or_false] at hmem
  rcases hmem with rfl | rfl | rfl | rfl | rfl | rfl | rfl | rfl | rfl | rfl | rfl | rfl <;>
    revert h <;> decide

/-- The text of a value starts with a character that is neither blank nor a closing bracket. -/
theorem Exact.exists_chars_eq {v : Json} (h : Exact v) :
    ∃ c cs, chars v = c :: cs ∧ c ∉ [' ', '\n', '\t', '\r', ']', '\x7d'] := by
  cases h with
  | null => exact ⟨'n', _, rfl, by decide⟩
  | bool b => cases b <;> exact ⟨_, _, rfl, by decide⟩
  | whole n =>
    obtain ⟨c, cs, hcs, hc⟩ := exists_toString_eq n
    have hout := not_mem_of_isDigit hc
    exact ⟨c, cs, hcs, fun hmem => hout (List.mem_append_left _ hmem)⟩
  | string s => exact ⟨'"', _, chars_string s, by decide⟩
  | array => exact ⟨'[', _, chars_array _, by decide⟩
  | object => exact ⟨'\x7b', _, chars_object _, by decide⟩

/-- Reading the text of a value in front of what ends it gives its tree. -/
def Reads (v : Json) : Prop :=
  ∀ fuel rest, 2 * (chars v).length ≤ fuel → Ends rest →
    value? fuel (chars v ++ rest) = some (treeOf v, rest)

theorem reads_string (s : String) : Reads (string s) := by
  intro fuel rest hfuel hrest
  rw [chars_string, quoteChars] at *
  match fuel with
  | fuel + 1 =>
    simp only [List.cons_append, List.append_assoc]
    rw [value?, skipBlanks_of_not_mem _ (by decide)]
    simp only [string?_quoteChars]
    rfl

theorem reads_whole (n : Int) : Reads (whole n) := by
  intro fuel rest hfuel hrest
  have hnumeral := numeral?_toString n hrest
  obtain ⟨c, cs, hcs, hc⟩ := exists_toString_eq n
  have hchars : chars (whole n) = c :: cs := hcs
  rw [hchars] at hfuel ⊢
  rw [hcs] at hnumeral
  have hout := not_mem_of_isDigit hc
  match fuel with
  | fuel + 1 =>
    rw [List.cons_append] at hnumeral ⊢
    rw [value?, skipBlanks_of_not_mem _ fun h => hout (List.mem_append_left _ h)]
    simp only [List.mem_cons, List.not_mem_nil, or_false, not_or] at hout
    split
    case h_7 => rw [hnumeral]; rfl
    all_goals simp_all

/-! ### Items and members -/

section Items

variable {fuel : Nat} {cs rest rest' : List Char} {t : Tree}

theorem items?_of_comma {ts : List Tree} (hvalue : value? fuel cs = some (t, ',' :: rest))
    (hitems : items? fuel rest = some (ts, rest')) :
    items? (fuel + 1) cs = some (t :: ts, rest') := by
  simp [items?, hvalue, skipBlanks_of_not_mem rest (c := ',') (by decide), hitems]

theorem items?_of_bracket (hvalue : value? fuel cs = some (t, ']' :: rest)) :
    items? (fuel + 1) cs = some ([t], rest) := by
  simp [items?, hvalue, skipBlanks_of_not_mem rest (c := ']') (by decide)]

theorem members?_of_comma (k : String) {ms : List (Option String × Tree)}
    (hvalue : value? fuel cs = some (t, ',' :: rest))
    (hmembers : members? fuel rest = some (ms, rest')) :
    members? (fuel + 1) (quoteChars k ++ ':' :: cs) = some ((some k, t) :: ms, rest') := by
  simp [members?, quoteChars, skipBlanks_of_not_mem _ (c := '"') (by decide), string?_quoteChars,
    skipBlanks_of_not_mem cs (c := ':') (by decide), hvalue,
    skipBlanks_of_not_mem rest (c := ',') (by decide), hmembers]

theorem members?_of_brace (k : String) (hvalue : value? fuel cs = some (t, '\x7d' :: rest)) :
    members? (fuel + 1) (quoteChars k ++ ':' :: cs) = some ([(some k, t)], rest) := by
  simp [members?, quoteChars, skipBlanks_of_not_mem _ (c := '"') (by decide), string?_quoteChars,
    skipBlanks_of_not_mem cs (c := ':') (by decide), hvalue,
    skipBlanks_of_not_mem rest (c := '\x7d') (by decide)]

end Items

theorem items?_commas {items : List Json} (hne : items ≠ []) (h : ∀ v ∈ items, Reads v)
    (fuel : Nat) (rest : List Char) (hfuel : 2 * (commas chars items).length + 1 ≤ fuel) :
    items? fuel (commas chars items ++ ']' :: rest) = some (itemTrees items, rest) := by
  induction items generalizing fuel with
  | nil => exact absurd rfl hne
  | cons v more ih =>
    obtain ⟨hv, hmore⟩ := List.forall_mem_cons.mp h
    match fuel, more with
    | fuel + 1, [] =>
      rw [commas_singleton] at hfuel ⊢
      exact items?_of_bracket (hv fuel _ (by omega) (ends_cons (by decide) rest))
    | fuel + 1, w :: more =>
      rw [commas_cons_cons] at hfuel ⊢
      rw [List.length_append, List.length_cons] at hfuel
      rw [List.append_assoc, List.cons_append]
      exact items?_of_comma (hv fuel _ (by omega) (ends_cons (by decide) _))
        (ih (List.cons_ne_nil w more) hmore fuel (by omega))

theorem members?_commas {members : List (String × Json)} (hne : members ≠ [])
    (h : ∀ m ∈ members, Reads m.2) (fuel : Nat) (rest : List Char)
    (hfuel : 2 * (commas memberChars members).length + 1 ≤ fuel) :
    members? fuel (commas memberChars members ++ '\x7d' :: rest) =
      some (memberTrees members, rest) := by
  induction members generalizing fuel with
  | nil => exact absurd rfl hne
  | cons m more ih =>
    obtain ⟨k, v⟩ := m
    obtain ⟨hv, hmore⟩ := List.forall_mem_cons.mp h
    change Reads v at hv
    match fuel, more with
    | fuel + 1, [] =>
      rw [commas_singleton, memberChars] at hfuel ⊢
      simp only [List.length_append, List.length_cons] at hfuel
      simp only [List.append_assoc, List.cons_append]
      exact members?_of_brace k (hv fuel _ (by omega) (ends_cons (by decide) rest))
    | fuel + 1, w :: more =>
      rw [commas_cons_cons, memberChars] at hfuel ⊢
      simp only [List.length_append, List.length_cons] at hfuel
      simp only [List.append_assoc, List.cons_append]
      exact members?_of_comma k (hv fuel _ (by omega) (ends_cons (by decide) _))
        (ih (List.cons_ne_nil w more) hmore fuel (by omega))

theorem value?_array {fuel : Nat} {c : Char} {cs : List Char}
    (h : c ∉ [' ', '\n', '\t', '\r', ']', '\x7d']) :
    value? (fuel + 1) ('[' :: c :: cs) =
      (items? fuel (c :: cs)).map fun (vs, rest) => (.array vs, rest) := by
  have hclose : c ≠ ']' := by
    rintro rfl
    exact h (by decide)
  have hblank : skipBlanks (c :: cs) = c :: cs :=
    skipBlanks_of_not_mem cs fun hmem => h (List.mem_append_left _ hmem)
  rw [value?, skipBlanks_of_not_mem _ (by decide)]
  simp only [hblank]
  split
  · next heq => exact absurd (List.cons.inj heq).1 hclose
  · rfl

theorem value?_object {fuel : Nat} {c : Char} {cs : List Char}
    (h : c ∉ [' ', '\n', '\t', '\r', ']', '\x7d']) :
    value? (fuel + 1) ('\x7b' :: c :: cs) =
      (members? fuel (c :: cs)).map fun (ms, rest) => (.object ms, rest) := by
  have hclose : c ≠ '\x7d' := by
    rintro rfl
    exact h (by decide)
  have hblank : skipBlanks (c :: cs) = c :: cs :=
    skipBlanks_of_not_mem cs fun hmem => h (List.mem_append_left _ hmem)
  rw [value?, skipBlanks_of_not_mem _ (by decide)]
  simp only [hblank]
  split
  · next heq => exact absurd (List.cons.inj heq).1 hclose
  · rfl

theorem reads_array {items : List Json} (h : ∀ v ∈ items, Exact v)
    (hreads : ∀ v ∈ items, Reads v) : Reads (array items) := by
  intro fuel rest hfuel hrest
  rw [chars_array] at hfuel ⊢
  simp only [List.length_append, List.length_cons, List.length_nil] at hfuel
  simp only [List.cons_append, List.append_assoc, List.nil_append]
  match fuel, items with
  | fuel + 1, [] =>
    rw [value?, skipBlanks_of_not_mem _ (by decide)]
    rfl
  | fuel + 1, v :: more =>
    have hitems := items?_commas (List.cons_ne_nil v more) hreads fuel rest (by omega)
    obtain ⟨tail, htail⟩ := exists_commas_eq chars v more
    obtain ⟨c, cs, hcs, hc⟩ := (h v List.mem_cons_self).exists_chars_eq
    rw [htail, hcs, List.cons_append, List.cons_append] at hitems ⊢
    rw [value?_array hc, hitems]
    rfl

theorem reads_object {members : List (String × Json)} (hreads : ∀ m ∈ members, Reads m.2) :
    Reads (object members) := by
  intro fuel rest hfuel hrest
  rw [chars_object] at hfuel ⊢
  simp only [List.length_append, List.length_cons, List.length_nil] at hfuel
  simp only [List.cons_append, List.append_assoc, List.nil_append]
  match fuel, members with
  | fuel + 1, [] =>
    rw [value?, skipBlanks_of_not_mem _ (by decide)]
    rfl
  | fuel + 1, m :: more =>
    have hmembers := members?_commas (List.cons_ne_nil m more) hreads fuel rest (by omega)
    obtain ⟨tail, htail⟩ := exists_commas_eq memberChars m more
    rw [htail, memberChars, quoteChars] at hmembers ⊢
    simp only [List.cons_append] at hmembers ⊢
    rw [value?_object (by decide), hmembers]
    rfl

theorem reads_null : Reads null := by
  intro fuel rest hfuel hrest
  match fuel with
  | fuel + 1 =>
    rw [show chars null = ['n', 'u', 'l', 'l'] from rfl, List.cons_append, value?,
      skipBlanks_of_not_mem _ (by decide)]
    rfl

theorem reads_bool (b : Bool) : Reads (bool b) := by
  intro fuel rest hfuel hrest
  match fuel, b with
  | fuel + 1, true =>
    rw [show chars (bool true) = ['t', 'r', 'u', 'e'] from rfl, List.cons_append, value?,
      skipBlanks_of_not_mem _ (by decide)]
    rfl
  | fuel + 1, false =>
    rw [show chars (bool false) = ['f', 'a', 'l', 's', 'e'] from rfl, List.cons_append, value?,
      skipBlanks_of_not_mem _ (by decide)]
    rfl

/-- The text of a value is read as its tree, whatever ends it. -/
theorem Exact.reads {v : Json} (h : Exact v) : Reads v := by
  induction h with
  | null => exact reads_null
  | bool b => exact reads_bool b
  | whole n => exact reads_whole n
  | string s => exact reads_string s
  | array h ih => exact reads_array h ih
  | object h ih => exact reads_object ih

/-- The text of a value holds its tree and nothing else. -/
theorem Exact.parse?_compact {v : Json} (h : Exact v) :
    Tree.parse? v.compact = some (treeOf v) := by
  have hread := h.reads (2 * (chars v).length + 2) [] (by omega) ends_nil
  rw [List.append_nil, chars] at hread
  simp only [Tree.parse?, hread]
  rfl

end Turnstile.Json
