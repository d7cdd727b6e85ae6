import Mathlib.Data.List.Basic

/-!
# JSON texts: a reader, and templates that are read back

`parse` reads a JSON text: blanks between the tokens, strings with their escapes, numbers kept as they
are written, arrays and objects with their members in order. A `Template` is a document put together
from pieces: numbers, truth values, string literals given by what stands between their quotes, arrays
and objects. `readValue_render` says that a template whose pieces are good is read back as its value;
`good_of_agrees` that a template that is read back with every string as intended has good pieces only.
-/

set_option autoImplicit false

namespace KnxStack.Lib.JsonText

abbrev Text := List Char

inductive Json
  | null
  | bool (b : Bool)
  | number (text : Text)
  | string (text : Text)
  | array (elements : List Json)
  | object (members : List (Text × Json))

/-- The object has the member, and whatever member of that name is looked at, its value is as wanted:
which of two members of one name a reader keeps does not matter. -/
def Json.Field (j : Json) (name : Text) (wanted : Json → Prop) : Prop :=
  ∃ members, j = .object members ∧ (∃ v, (name, v) ∈ members) ∧ ∀ v, (name, v) ∈ members → wanted v

/-- The object has no member of the name. -/
def Json.Lacks (j : Json) (name : Text) : Prop :=
  ∃ members, j = .object members ∧ ∀ v, (name, v) ∉ members

/-- The array has one element for each entry, and each is as wanted. -/
def Json.Elements {α : Type} (j : Json) (entries : List α) (wanted : α → Json → Prop) : Prop :=
  ∃ elements, j = .array elements ∧ List.Forall₂ wanted entries elements

/-! ## The reader -/

def isBlank (c : Char) : Bool :=
  c == ' ' || c == '\t' || c == '\n' || c == '\r'

def skipBlanks (text : Text) : Text :=
  text.dropWhile isBlank

def hexValue? (c : Char) : Option Nat :=
  if c.isDigit then some (c.toNat - 48)
  else if 'a' ≤ c ∧ c ≤ 'f' then some (c.toNat - 87)
  else if 'A' ≤ c ∧ c ≤ 'F' then some (c.toNat - 55)
  else none

def readHex4 : Text → Option (Nat × Text)
  | a :: b :: c :: d :: rest => do
    let a ← hexValue? a
    let b ← hexValue? b
    let c ← hexValue? c
    let d ← hexValue? d
    some (((a * 16 + b) * 16 + c) * 16 + d, rest)
  | _ => none

def isHighSurrogate (code : Nat) : Bool :=
  0xD800 ≤ code && code < 0xDC00

def isLowSurrogate (code : Nat) : Bool :=
  0xDC00 ≤ code && code < 0xE000

/-- The second half of a surrogate pair. -/
def readLowSurrogate : Text → Option (Nat × Text)
  | b :: u :: text =>
    if b = '\\' ∧ u = 'u' then
      (readHex4 text).filter fun found => isLowSurrogate found.1
    else none
  | _ => none

def readUnicode (text : Text) : Option (Char × Text) := do
  let (code, rest) ← readHex4 text
  if isHighSurrogate code then
    let (low, rest) ← readLowSurrogate rest
    some (Char.ofNat (0x10000 + (code - 0xD800) * 0x400 + (low - 0xDC00)), rest)
  else if isLowSurrogate code then none
  else some (Char.ofNat code, rest)

/-- What follows a backslash. -/
def readEscape : Text → Option (Char × Text)
  | [] => none
  | c :: rest =>
    if c = '"' then some ('"', rest)
    else if c = '\\' then some ('\\', rest)
    else if c = '/' then some ('/', rest)
    else if c = 'b' then some (Char.ofNat 8, rest)
    else if c = 'f' then some (Char.ofNat 12, rest)
    else if c = 'n' then some ('\n', rest)
    else if c = 'r' then some ('\r', rest)
    else if c = 't' then some ('\t', rest)
    else if c = 'u' then readUnicode rest
    else none

/-- A string after its opening quote, with what stands behind the closing one. -/
def readString : Nat → Text → Option (Text × Text)
  | 0, _ => none
  | _ + 1, [] => none
  | n + 1, c :: rest =>
    if c = '"' then some ([], rest)
    else if c = '\\' then do
      let (d, rest) ← readEscape rest
      let (text, rest) ← readString n rest
      some (d :: text, rest)
    else if c.toNat < 0x20 then none
    else do
      let (text, rest) ← readString n rest
      some (c :: text, rest)

def isNumberChar (c : Char) : Bool :=
  c.isDigit || c == '-' || c == '+' || c == '.' || c == 'e' || c == 'E'

def dropSign : Text → Text
  | c :: rest => if c = '-' ∨ c = '+' then rest else c :: rest
  | [] => []

/-- Nothing, or an exponent. -/
def isExponent : Text → Bool
  | [] => true
  | c :: rest => (c == 'e' || c == 'E') && !(dropSign rest).isEmpty && (dropSign rest).all Char.isDigit

/-- What may follow the whole part of a number: a fraction, an exponent, both or nothing. -/
def isNumberTail : Text → Bool
  | [] => true
  | c :: rest =>
    if c = '.' then
      !(rest.takeWhile Char.isDigit).isEmpty && isExponent (rest.dropWhile Char.isDigit)
    else isExponent (c :: rest)

/-- The whole part: digits, with no zero in front of another one. -/
def isWhole (digits : Text) : Bool :=
  digits == ['0'] || (!digits.isEmpty && digits.head? != some '0')

def isUnsignedNumber (text : Text) : Bool :=
  isWhole (text.takeWhile Char.isDigit) && isNumberTail (text.dropWhile Char.isDigit)

def isNumber : Text → Bool
  | [] => false
  | c :: rest => if c = '-' then isUnsignedNumber rest else isUnsignedNumber (c :: rest)

/-- The longest run of characters of numbers has to be a number. -/
def readNumber (text : Text) : Option (Json × Text) :=
  if isNumber (text.takeWhile isNumberChar) then
    some (.number (text.takeWhile isNumberChar), text.dropWhile isNumberChar)
  else none

/-- `word` in front of the text. -/
def readWord (word : Text) (value : Json) (text : Text) : Option (Json × Text) :=
  if word.isPrefixOf text then some (value, text.drop word.length) else none

mutual

def readValue : Nat → Text → Option (Json × Text)
  | 0, _ => none
  | n + 1, text =>
    match skipBlanks text with
    | [] => none
    | c :: rest =>
      if c = '"' then do
        let (text, rest) ← readString n rest
        some (.string text, rest)
      else if c = '[' then
        match skipBlanks rest with
        | [] => none
        | d :: left =>
          if d = ']' then some (.array [], left)
          else do
            let (elements, rest) ← readElements n rest
            some (.array elements, rest)
      else if c = '{' then
        match skipBlanks rest with
        | [] => none
        | d :: left =>
          if d = '}' then some (.object [], left)
          else do
            let (members, rest) ← readMembers n rest
            some (.object members, rest)
      else if c = 't' then readWord ['t', 'r', 'u', 'e'] (.bool true) (c :: rest)
      else if c = 'f' then readWord ['f', 'a', 'l', 's', 'e'] (.bool false) (c :: rest)
      else if c = 'n' then readWord ['n', 'u', 'l', 'l'] .null (c :: rest)
      else readNumber (c :: rest)

/-- The elements of an array up to its closing bracket. -/
def readElements : Nat → Text → Option (List Json × Text)
  | 0, _ => none
  | n + 1, text => do
    let (value, rest) ← readValue n text
    match skipBlanks rest with
    | [] => none
    | d :: rest =>
      if d = ',' then do
        let (elements, rest) ← readElements n rest
        some (value :: elements, rest)
      else if d = ']' then some ([value], rest)
      else none

/-- The members of an object up to its closing brace. -/
def readMembers : Nat → Text → Option (List (Text × Json) × Text)
  | 0, _ => none
  | n + 1, text =>
    match skipBlanks text with
    | [] => none
    | q :: rest =>
      if q = '"' then do
        let (name, rest) ← readString n rest
        match skipBlanks rest with
        | [] => none
        | c :: rest =>
          if c = ':' then do
            let (value, rest) ← readValue n rest
            match skipBlanks rest with
            | [] => none
            | d :: rest =>
              if d = ',' then do
                let (members, rest) ← readMembers n rest
                some ((name, value) :: members, rest)
              else if d = '}' then some ([(name, value)], rest)
              else none
          else none
      else none

end

attribute [grind =] readString readValue readElements readMembers

/-- A value and nothing but blanks behind it. -/
def parse (text : Text) : Option Json :=
  match readValue text.length text with
  | some (value, rest) => if skipBlanks rest = [] then some value else none
  | none => none

/-! ## Strings -/

/-- Text that needs no escape in a string literal. -/
def Clean (text : Text) : Prop :=
  ∀ c ∈ text, c ≠ '"' ∧ c ≠ '\\' ∧ 0x20 ≤ c.toNat

instance (text : Text) : Decidable (Clean text) :=
  List.decidableBAll (fun c => c ≠ '"' ∧ c ≠ '\\' ∧ 0x20 ≤ c.toNat) text

/-- Between quotes, `body` is read as `text`. -/
def Reads (body text : Text) : Prop :=
  ∀ n rest, body.length < n → readString n (body ++ '"' :: rest) = some (text, rest)

@[simp]
theorem readString_quote (n : Nat) (rest : Text) :
    readString (n + 1) ('"' :: rest) = some ([], rest) := by
  simp [readString]

theorem readString_plain (n : Nat) {c : Char} (rest : Text)
    (hc : c ≠ '"' ∧ c ≠ '\\' ∧ 0x20 ≤ c.toNat) :
    readString (n + 1) (c :: rest) = (readString n rest).map fun found => (c :: found.1, found.2) := by
  obtain ⟨hquote, hbackslash, hcontrol⟩ := hc
  have hcontrol' : ¬ c.toNat < 0x20 := by omega
  simp only [readString, hquote, hbackslash, hcontrol', if_false]
  cases readString n rest <;> rfl

theorem readString_escape (n : Nat) {rest left : Text} {d : Char}
    (h : readEscape rest = some (d, left)) :
    readString (n + 1) ('\\' :: rest)
      = (readString n left).map fun found => (d :: found.1, found.2) := by
  simp only [readString, h, Option.bind_eq_bind, Option.bind_some]
  cases readString n left <;> simp

theorem reads_of_clean {text : Text} (h : Clean text) : Reads text text := by
  intro n rest hn
  induction text generalizing n with
  | nil =>
    obtain ⟨n, rfl⟩ : ∃ m, n = m + 1 := ⟨n - 1, by simp at hn; omega⟩
    simp
  | cons c text ih =>
    obtain ⟨n, rfl⟩ : ∃ m, n = m + 1 := ⟨n - 1, by simp at hn; omega⟩
    have hrest := ih (fun d hd => h d (by simp [hd])) n (by simpa using hn)
    rw [List.cons_append, readString_plain n _ (h c (by simp)), hrest]
    rfl

theorem readString_cases {n : Nat} {text v r : Text} (h : readString n text = some (v, r)) :
    ∃ m, n = m + 1 ∧
      ((text = '"' :: r ∧ v = []) ∨
        (∃ rest d left v', text = '\\' :: rest ∧ readEscape rest = some (d, left) ∧
          readString m left = some (v', r) ∧ v = d :: v') ∨
        ∃ c rest v', text = c :: rest ∧ (c ≠ '"' ∧ c ≠ '\\' ∧ 0x20 ≤ c.toNat) ∧
          readString m rest = some (v', r) ∧ v = c :: v') := by
  cases n with
  | zero => simp [readString] at h
  | succ m =>
    refine ⟨m, rfl, ?_⟩
    cases text with
    | nil => simp [readString] at h
    | cons c rest =>
      by_cases hquote : c = '"'
      · subst hquote
        rw [readString_quote] at h
        obtain ⟨rfl, rfl⟩ := Prod.mk.inj (Option.some.inj h)
        exact Or.inl ⟨rfl, rfl⟩
      by_cases hbackslash : c = '\\'
      · subst hbackslash
        cases hescape : readEscape rest with
        | none => simp [readString, hescape] at h
        | some found =>
          obtain ⟨d, left⟩ := found
          rw [readString_escape m hescape] at h
          obtain ⟨⟨v', r'⟩, hread, heq⟩ := Option.map_eq_some_iff.mp h
          obtain ⟨rfl, rfl⟩ := Prod.mk.inj heq
          exact Or.inr (Or.inl ⟨rest, d, left, v', rfl, hescape, hread, rfl⟩)
      by_cases hcontrol : c.toNat < 0x20
      · simp [readString, hquote, hbackslash, hcontrol] at h
      · have hc : c ≠ '"' ∧ c ≠ '\\' ∧ 0x20 ≤ c.toNat := ⟨hquote, hbackslash, by omega⟩
        rw [readString_plain m rest hc] at h
        obtain ⟨⟨v', r'⟩, hread, heq⟩ := Option.map_eq_some_iff.mp h
        obtain ⟨rfl, rfl⟩ := Prod.mk.inj heq
        exact Or.inr (Or.inr ⟨c, rest, v', rfl, hc, hread, rfl⟩)

theorem readString_mono {n : Nat} {text v r : Text} (h : readString n text = some (v, r)) (k : Nat) :
    readString (n + k) text = some (v, r) := by
  induction n generalizing text v with
  | zero => simp [readString] at h
  | succ n ih =>
    obtain ⟨m, hm, hcases⟩ := readString_cases h
    obtain rfl : n = m := by omega
    rw [Nat.add_right_comm]
    rcases hcases with ⟨rfl, rfl⟩ | ⟨rest, d, left, v', rfl, hescape, hread, rfl⟩ |
      ⟨c, rest, v', rfl, hc, hread, rfl⟩
    · rw [readString_quote]
    · rw [readString_escape _ hescape, ih hread]
      rfl
    · rw [readString_plain _ _ hc, ih hread]
      rfl

theorem Reads.unique {body text rest v r : Text} {n : Nat} (h : Reads body text)
    (hread : readString n (body ++ '"' :: rest) = some (v, r)) : v = text ∧ r = rest := by
  have hmore := readString_mono hread (body.length + 1)
  rw [h (n + (body.length + 1)) rest (by omega)] at hmore
  obtain ⟨rfl, rfl⟩ := Prod.mk.inj (Option.some.inj hmore)
  exact ⟨rfl, rfl⟩

theorem readHex4_used {text rest : Text} {code : Nat} (h : readHex4 text = some (code, rest)) :
    ∃ used, text = used ++ rest ∧ '"' ∉ used := by
  match text, h with
  | a :: b :: c :: d :: left, h =>
    have hno {x : Char} {k : Nat} (hx : hexValue? x = some k) : '"' ≠ x := by
      rintro rfl
      have hnone : hexValue? '"' = none := by decide
      rw [hnone] at hx
      exact absurd hx (by simp)
    simp only [readHex4, Option.bind_eq_bind, Option.bind_eq_some_iff, Option.some.injEq,
      Prod.mk.injEq] at h
    obtain ⟨_, ha, _, hb, _, hc, _, hd, -, rfl⟩ := h
    exact ⟨[a, b, c, d], rfl, by simp [hno ha, hno hb, hno hc, hno hd]⟩

theorem readLowSurrogate_used {text rest : Text} {code : Nat}
    (h : readLowSurrogate text = some (code, rest)) : ∃ used, text = used ++ rest ∧ '"' ∉ used := by
  match text, h with
  | b :: u :: left, h =>
    rw [readLowSurrogate] at h
    split at h
    · rename_i heq
      obtain ⟨rfl, rfl⟩ := heq
      obtain ⟨used, rfl, hused⟩ := readHex4_used (Option.filter_eq_some_iff.mp h).1
      exact ⟨'\\' :: 'u' :: used, rfl, by simp [hused]⟩
    · exact absurd h (by simp)

theorem readUnicode_used {text rest : Text} {d : Char} (h : readUnicode text = some (d, rest)) :
    ∃ used, text = used ++ rest ∧ '"' ∉ used := by
  rw [readUnicode] at h
  simp only [Option.bind_eq_bind, Option.bind_eq_some_iff] at h
  obtain ⟨⟨code, left⟩, hhex, h⟩ := h
  obtain ⟨used, rfl, hused⟩ := readHex4_used hhex
  split at h
  · obtain ⟨⟨low, left'⟩, hlow, h⟩ := Option.bind_eq_some_iff.mp h
    obtain ⟨used', rfl, hused'⟩ := readLowSurrogate_used hlow
    obtain ⟨-, rfl⟩ := Prod.mk.inj (Option.some.inj h)
    exact ⟨used ++ used', by simp, by simp [hused, hused']⟩
  · split at h
    · exact absurd h (by simp)
    · obtain ⟨-, rfl⟩ := Prod.mk.inj (Option.some.inj h)
      exact ⟨used, rfl, hused⟩

theorem readEscape_used {text rest : Text} {d : Char} (h : readEscape text = some (d, rest)) :
    ∃ used, text = used ++ rest ∧ used ≠ [] ∧ ('"' ∈ used → d = '"') := by
  cases text with
  | nil => simp [readEscape] at h
  | cons c left =>
    by_cases hu : c = 'u'
    · subst hu
      have hunicode : readUnicode left = some (d, rest) := by simpa [readEscape] using h
      obtain ⟨used, rfl, hused⟩ := readUnicode_used hunicode
      exact ⟨'u' :: used, rfl, by simp, by simp [hused]⟩
    by_cases hquote : c = '"'
    · subst hquote
      obtain ⟨rfl, rfl⟩ : '"' = d ∧ left = rest := by simpa [readEscape] using h
      exact ⟨['"'], rfl, by simp, fun _ => rfl⟩
    · have hleft : left = rest := by
        simp only [readEscape, hquote, hu, if_false] at h
        split_ifs at h <;> simp_all
      subst hleft
      exact ⟨[c], rfl, by simp, fun hmem => absurd (List.mem_singleton.mp hmem).symm hquote⟩

theorem no_quote_before {n : Nat} {text v r a b : Text} (h : readString n text = some (v, r))
    (hv : v = a ++ '"' :: b) (ha : '"' ∉ a) : '"' ∉ text.take (a.length + 1) := by
  induction n generalizing text v a with
  | zero => simp [readString] at h
  | succ n ih =>
    obtain ⟨m, hm, hcases⟩ := readString_cases h
    obtain rfl : n = m := by omega
    rcases hcases with ⟨-, rfl⟩ | ⟨rest, d, left, v', rfl, hescape, hread, rfl⟩ |
      ⟨c, rest, v', rfl, hc, hread, rfl⟩
    · simp at hv
    · cases a with
      | nil => simp
      | cons e a =>
        obtain ⟨rfl, rfl⟩ := List.cons.inj hv
        obtain ⟨used, rfl, hne, hquote⟩ := readEscape_used hescape
        -- the escape does not stand for a quote, so it does not hold one
        have hused : '"' ∉ used := fun hmem => ha (by simp [hquote hmem])
        have hleft := ih hread rfl (fun hmem => ha (by simp [hmem]))
        have hlength : 0 < used.length := List.length_pos_iff.mpr hne
        simp only [List.length_cons, List.take_succ_cons, List.take_append, List.mem_cons,
          List.mem_append, not_or]
        refine ⟨by decide, fun hmem => hused (List.mem_of_mem_take hmem), fun hmem => hleft ?_⟩
        exact (List.take_subset_take_left left (by omega)) hmem
    · cases a with
      | nil => exact absurd (List.cons.inj hv).1 hc.1
      | cons e a =>
        obtain ⟨rfl, rfl⟩ := List.cons.inj hv
        have hrest := ih hread rfl (fun hmem => ha (by simp [hmem]))
        simp only [List.length_cons, List.take_succ_cons, List.mem_cons, not_or]
        exact ⟨fun heq => hc.1 heq.symm, hrest⟩

/-- A string read without a quote in it was written in at least as many characters, and in no more
only where nothing in it is escaped. -/
theorem body_of_no_quote {n : Nat} {text v r : Text} (h : readString n text = some (v, r))
    (hv : '"' ∉ v) :
    ∃ body, text = body ++ '"' :: r ∧ '"' ∉ body ∧ v.length ≤ body.length ∧
      (v.length = body.length → Clean body) := by
  induction n generalizing text v with
  | zero => simp [readString] at h
  | succ n ih =>
    obtain ⟨m, hm, hcases⟩ := readString_cases h
    obtain rfl : n = m := by omega
    rcases hcases with ⟨rfl, rfl⟩ | ⟨rest, d, left, v', rfl, hescape, hread, rfl⟩ |
      ⟨c, rest, v', rfl, hc, hread, rfl⟩
    · exact ⟨[], rfl, by simp, by simp, fun _ c hc => absurd hc (by simp)⟩
    · obtain ⟨body, rfl, hbody, hle, -⟩ := ih hread (fun hmem => hv (by simp [hmem]))
      obtain ⟨used, rfl, hne, hquote⟩ := readEscape_used hescape
      have hused : '"' ∉ used := fun hmem => hv (by simp [hquote hmem])
      have hlength : 0 < used.length := List.length_pos_iff.mpr hne
      refine ⟨'\\' :: (used ++ body), by simp, by simp [hused, hbody], ?_, ?_⟩
      · simp only [List.length_cons, List.length_append]
        omega
      · intro heq
        simp only [List.length_cons, List.length_append] at heq
        omega
    · obtain ⟨body, rfl, hbody, hle, hclean⟩ := ih hread (fun hmem => hv (by simp [hmem]))
      refine ⟨c :: body, rfl, by simp [hbody, Ne.symm hc.1], by simpa using hle, fun heq e he => ?_⟩
      rcases List.mem_cons.mp he with rfl | he
      · exact hc
      · exact hclean (by simpa using heq) e he

theorem clean_of_readString {n : Nat} {text rest r : Text}
    (h : readString n (text ++ '"' :: rest) = some (text, r)) : Clean text ∧ r = rest := by
  have hquote : '"' ∉ text := by
    intro hmem
    obtain ⟨a, b, heq, ha⟩ := List.eq_append_cons_of_mem hmem
    have hnone := no_quote_before h heq ha
    rw [heq] at hnone
    refine hnone ?_
    rw [List.append_assoc, List.take_append]
    simp
  obtain ⟨body, heq, hbody, -, hclean⟩ := body_of_no_quote h hquote
  -- both sides are split at their first quote
  have hsplit : text = body ∧ '"' :: rest = '"' :: r := by
    have htake := congrArg (List.takeWhile (· != '"')) heq
    have hdrop := congrArg (List.dropWhile (· != '"')) heq
    have hall {s : Text} (hs : '"' ∉ s) : ∀ c ∈ s, (c != '"') = true := by
      intro c hc
      simpa using fun h : c = '"' => hs (h ▸ hc)
    rw [List.takeWhile_append_of_pos (hall hquote), List.takeWhile_append_of_pos (hall hbody)] at htake
    rw [List.dropWhile_append_of_pos (hall hquote), List.dropWhile_append_of_pos (hall hbody)] at hdrop
    simpa using And.intro htake hdrop
  obtain ⟨rfl, hrest⟩ := hsplit
  exact ⟨hclean rfl, (List.cons.inj hrest).2.symm⟩

/-! ## Numbers -/

/-- Digits in base ten, as a stream writes them. -/
def natText (n : Nat) : Text :=
  Nat.toDigits 10 n

def intText (i : Int) : Text :=
  if i < 0 then '-' :: natText i.natAbs else natText i.natAbs

theorem isDigit_of_mem_natText {n : Nat} {c : Char} (h : c ∈ natText n) : c.isDigit = true :=
  Nat.isDigit_of_mem_toDigits (by decide) (by decide) h

theorem natText_ne_nil (n : Nat) : natText n ≠ [] :=
  Nat.toDigits_ne_nil

theorem head_natText {n : Nat} (h : 0 < n) : (natText n).head? ≠ some '0' := by
  induction n using Nat.strongRecOn with
  | ind n ih =>
    by_cases hlt : n < 10
    · rw [natText, Nat.toDigits_of_lt_base hlt]
      exact (by decide : ∀ m < 10, 0 < m → [m.digitChar].head? ≠ some '0') n hlt h
    · have hhead := ih (n / 10) (by omega) (by omega)
      rw [natText, Nat.toDigits_of_base_le (by decide) (by omega),
        List.head?_append_of_ne_nil _ Nat.toDigits_ne_nil]
      exact hhead

theorem isWhole_natText (n : Nat) : isWhole (natText n) = true := by
  rcases Nat.eq_zero_or_pos n with rfl | h
  · decide
  · simp [isWhole, natText_ne_nil, head_natText h]

theorem not_isDigit_head {tail : Text} (h : isNumberTail tail = true) :
    ∀ c rest, tail = c :: rest → c.isDigit = false := by
  rintro c rest rfl
  by_cases hpoint : c = '.'
  · subst hpoint
    decide
  · simp only [isNumberTail, hpoint, if_false, isExponent, Bool.and_eq_true, Bool.or_eq_true,
      beq_iff_eq] at h
    rcases h.1.1 with rfl | rfl <;> decide

theorem takeWhile_append_stop {α : Type} {p : α → Bool} {xs ys : List α} (hxs : ∀ x ∈ xs, p x = true)
    (hys : ∀ y rest, ys = y :: rest → p y = false) :
    (xs ++ ys).takeWhile p = xs ∧ (xs ++ ys).dropWhile p = ys := by
  rw [List.takeWhile_append_of_pos hxs, List.dropWhile_append_of_pos hxs]
  cases ys with
  | nil => simp
  | cons y rest => simp [hys y rest rfl]

theorem isNumber_of_parts (negative : Bool) {whole tail : Text}
    (hdigits : ∀ c ∈ whole, c.isDigit = true) (hwhole : isWhole whole = true) (htail : isNumberTail tail = true) :
    isNumber ((if negative then ['-'] else []) ++ whole ++ tail) = true := by
  obtain ⟨htake, hdrop⟩ := takeWhile_append_stop hdigits (not_isDigit_head htail)
  have hunsigned : isUnsignedNumber (whole ++ tail) = true := by
    rw [isUnsignedNumber, htake, hdrop, hwhole, htail]
    rfl
  cases negative with
  | true => simpa [isNumber] using hunsigned
  | false =>
    cases whole with
    | nil => exact absurd hwhole (by decide)
    | cons c whole =>
      have hc : c ≠ '-' := by
        rintro rfl
        exact absurd (hdigits '-' (by simp)) (by decide)
      simpa [isNumber, hc] using hunsigned

@[simp]
theorem isNumber_natText (n : Nat) : isNumber (natText n) = true := by
  have hdigits : ∀ c ∈ natText n, c.isDigit = true := fun c => isDigit_of_mem_natText
  have hnil : isNumberTail [] = true := rfl
  simpa using isNumber_of_parts false hdigits (isWhole_natText n) hnil

@[simp]
theorem isNumber_intText (i : Int) : isNumber (intText i) = true := by
  have hdigits : ∀ c ∈ natText i.natAbs, c.isDigit = true := fun c => isDigit_of_mem_natText
  have hnil : isNumberTail [] = true := rfl
  have h := isNumber_of_parts (decide (i < 0)) hdigits (isWhole_natText i.natAbs) hnil
  rw [intText]
  split
  · rename_i hneg
    simpa [hneg] using h
  · simp

theorem isNumberChar_of_isDigit {c : Char} (h : c.isDigit = true) : isNumberChar c = true := by
  simp [isNumberChar, h]

theorem mem_of_dropSign {text : Text} {c : Char} (h : c ∈ text) :
    c ∈ dropSign text ∨ c = '-' ∨ c = '+' := by
  cases text with
  | nil => exact absurd h (by simp)
  | cons d rest =>
    by_cases hd : d = '-' ∨ d = '+'
    · rw [dropSign, if_pos hd]
      rcases List.mem_cons.mp h with rfl | hmem
      · exact Or.inr hd
      · exact Or.inl hmem
    · rw [dropSign, if_neg hd]
      exact Or.inl h

theorem isNumberChar_of_isExponent {text : Text} (h : isExponent text = true) :
    ∀ c ∈ text, isNumberChar c = true := by
  intro c hc
  cases text with
  | nil => exact absurd hc (by simp)
  | cons e rest =>
    simp only [isExponent, Bool.and_eq_true, Bool.or_eq_true, beq_iff_eq, List.all_eq_true] at h
    obtain ⟨⟨he, -⟩, hdigits⟩ := h
    rcases List.mem_cons.mp hc with rfl | hmem
    · rcases he with rfl | rfl <;> decide
    · rcases mem_of_dropSign hmem with hmem | rfl | rfl
      · exact isNumberChar_of_isDigit (hdigits c hmem)
      · decide
      · decide

theorem isNumberChar_of_takeWhile {text : Text}
    (h : ∀ c ∈ text.dropWhile Char.isDigit, isNumberChar c = true) :
    ∀ c ∈ text, isNumberChar c = true := by
  intro c hc
  rw [← List.takeWhile_append_dropWhile (p := Char.isDigit) (l := text)] at hc
  rcases List.mem_append.mp hc with hmem | hmem
  · exact isNumberChar_of_isDigit (List.all_eq_true.mp List.all_takeWhile c hmem)
  · exact h c hmem

theorem isNumberChar_of_isNumberTail {text : Text} (h : isNumberTail text = true) :
    ∀ c ∈ text, isNumberChar c = true := by
  cases text with
  | nil => simp
  | cons d rest =>
    by_cases hd : d = '.'
    · subst hd
      simp only [isNumberTail, if_true, Bool.and_eq_true] at h
      intro c hc
      rcases List.mem_cons.mp hc with rfl | hmem
      · decide
      · exact isNumberChar_of_takeWhile (isNumberChar_of_isExponent h.2) c hmem
    · rw [isNumberTail, if_neg hd] at h
      exact isNumberChar_of_isExponent h

theorem isNumberChar_of_isNumber {text : Text} (h : isNumber text = true) :
    ∀ c ∈ text, isNumberChar c = true := by
  have hunsigned {rest : Text} (hrest : isUnsignedNumber rest = true) :
      ∀ c ∈ rest, isNumberChar c = true :=
    isNumberChar_of_takeWhile (isNumberChar_of_isNumberTail (Bool.and_eq_true_iff.mp hrest).2)
  cases text with
  | nil => simp
  | cons d rest =>
    by_cases hd : d = '-'
    · subst hd
      intro c hc
      rcases List.mem_cons.mp hc with rfl | hmem
      · decide
      · exact hunsigned (by simpa [isNumber] using h) c hmem
    · exact hunsigned (by simpa [isNumber, hd] using h)

/-- Nothing a number could go on with. -/
def Delimited (rest : Text) : Prop :=
  ∀ c left, rest = c :: left → isNumberChar c = false

theorem readNumber_append {text rest : Text} (h : isNumber text = true) (hrest : Delimited rest) :
    readNumber (text ++ rest) = some (.number text, rest) := by
  obtain ⟨htake, hdrop⟩ := takeWhile_append_stop (isNumberChar_of_isNumber h) hrest
  rw [readNumber, htake, hdrop, if_pos h]

theorem head_of_isNumber {text : Text} (h : isNumber text = true) :
    ∃ c rest, text = c :: rest ∧ (c = '-' ∨ c.isDigit = true) := by
  cases text with
  | nil => exact absurd h (by decide)
  | cons c rest =>
    refine ⟨c, rest, rfl, ?_⟩
    by_cases hminus : c = '-'
    · exact Or.inl hminus
    · refine Or.inr (by_contra fun hdigit => ?_)
      have hdigit' : c.isDigit = false := by simpa using hdigit
      simp [isNumber, hminus, isUnsignedNumber, hdigit', isWhole] at h

/-! ## Templates -/

inductive Template
  | number (text : Text)
  | bool (b : Bool)
  /-- A string literal with `body` between its quotes, meant to be read as `text`. -/
  | quoted (body text : Text)
  /-- The value with a blank in front. -/
  | blank (value : Template)
  | array (elements : List Template)
  | object (members : List (Text × Template))

def boolText (b : Bool) : Text :=
  if b then ['t', 'r', 'u', 'e'] else ['f', 'a', 'l', 's', 'e']

def commaSeparated : List Text → Text
  | [] => []
  | [text] => text
  | text :: texts => text ++ ',' :: commaSeparated texts

theorem commaSeparated_cons (text : Text) {texts : List Text} (h : texts ≠ []) :
    commaSeparated (text :: texts) = text ++ ',' :: commaSeparated texts := by
  cases texts with
  | nil => exact absurd rfl h
  | cons => rfl

mutual

def render : Template → Text
  | .number text => text
  | .bool b => boolText b
  | .quoted body _ => '"' :: (body ++ ['"'])
  | .blank value => ' ' :: render value
  | .array elements => '[' :: (commaSeparated (renderElements elements) ++ [']'])
  | .object members => '{' :: (commaSeparated (renderMembers members) ++ ['}'])

def renderElements : List Template → List Text
  | [] => []
  | e :: elements => render e :: renderElements elements

def renderMembers : List (Text × Template) → List Text
  | [] => []
  | (name, t) :: members => ('"' :: (name ++ '"' :: ':' :: render t)) :: renderMembers members

end

mutual

/-- The value that a template is meant to be read as. -/
def value : Template → Json
  | .number text => .number text
  | .bool b => .bool b
  | .quoted _ text => .string text
  | .blank t => value t
  | .array elements => .array (valueElements elements)
  | .object members => .object (valueMembers members)

def valueElements : List Template → List Json
  | [] => []
  | e :: elements => value e :: valueElements elements

def valueMembers : List (Text × Template) → List (Text × Json)
  | [] => []
  | (name, t) :: members => (name, value t) :: valueMembers members

end

section Each

variable (numbers : Text → Prop) (literals : Text → Text → Prop)

mutual

/-- The numbers and the string literals of a template are as wanted, and the names of its members need
no escape. -/
def Each : Template → Prop
  | .number text => numbers text
  | .bool _ => True
  | .quoted body text => literals body text
  | .blank t => Each t
  | .array elements => EachElement elements
  | .object members => EachMember members

def EachElement : List Template → Prop
  | [] => True
  | e :: elements => Each e ∧ EachElement elements

def EachMember : List (Text × Template) → Prop
  | [] => True
  | (name, t) :: members => Clean name ∧ Each t ∧ EachMember members

end

end Each

abbrev IsNumber (text : Text) : Prop :=
  isNumber text = true

/-- The numbers are numbers, and the literals are read as what they are meant to be. -/
abbrev Good : Template → Prop :=
  Each IsNumber Reads

/-- No reader gets a value out of this, whatever comes behind. -/
def Unreadable (text : Text) : Prop :=
  ∃ c left, text = c :: left ∧ isBlank c = false ∧ c ≠ ']' ∧
    ∀ n rest, readValue n (text ++ rest) = none

/-- A number, or nothing that could be taken for a value. -/
abbrev NumberShaped (text : Text) : Prop :=
  IsNumber text ∨ Unreadable text

/-- A literal that is always read as what it is meant to be if it once is. -/
abbrev LiteralShaped (body text : Text) : Prop :=
  ∀ n rest r, readString n (body ++ '"' :: rest) = some (text, r) → Reads body text

abbrev WellShaped : Template → Prop :=
  Each NumberShaped LiteralShaped

mutual

/-- Every string of the template that is found in what was read is as it was meant; of the literals
that are read back in any place nothing is asked. -/
def Agrees : Template → Json → Prop
  | .number _, _ => True
  | .bool _, _ => True
  | .quoted body text, j => ¬Reads body text → j = .string text
  | .blank t, j => Agrees t j
  | .array elements, j => ∀ js, j = .array js → AgreesElements elements js
  | .object members, j => ∀ js, j = .object js → AgreesMembers members js

def AgreesElements : List Template → List Json → Prop
  | e :: elements, j :: js => Agrees e j ∧ AgreesElements elements js
  | _, _ => True

def AgreesMembers : List (Text × Template) → List (Text × Json) → Prop
  | [], _ => True
  | (name, t) :: members, js => (∀ j, (name, j) ∈ js → Agrees t j) ∧ AgreesMembers members js

end

attribute [grind =] render renderElements renderMembers value valueElements valueMembers Each
  EachElement EachMember Agrees AgreesElements AgreesMembers

theorem renderElements_eq_map (elements : List Template) :
    renderElements elements = elements.map render := by
  induction elements with
  | nil => rfl
  | cons e elements ih => rw [renderElements, ih, List.map_cons]

theorem renderMembers_eq_map (members : List (Text × Template)) :
    renderMembers members = members.map fun m => '"' :: (m.1 ++ '"' :: ':' :: render m.2) := by
  induction members with
  | nil => rfl
  | cons m members ih => rw [renderMembers, ih, List.map_cons]

theorem valueElements_eq_map (elements : List Template) :
    valueElements elements = elements.map value := by
  induction elements with
  | nil => rfl
  | cons e elements ih => rw [valueElements, ih, List.map_cons]

theorem valueMembers_eq_map (members : List (Text × Template)) :
    valueMembers members = members.map fun m => (m.1, value m.2) := by
  induction members with
  | nil => rfl
  | cons m members ih => rw [valueMembers, ih, List.map_cons]

theorem eachElement_iff {numbers : Text → Prop} {literals : Text → Text → Prop}
    (elements : List Template) :
    EachElement numbers literals elements ↔ ∀ e ∈ elements, Each numbers literals e := by
  induction elements with
  | nil => simp [EachElement]
  | cons e elements ih => rw [EachElement, ih, List.forall_mem_cons]

theorem eachMember_iff {numbers : Text → Prop} {literals : Text → Text → Prop}
    (members : List (Text × Template)) :
    EachMember numbers literals members ↔ ∀ m ∈ members, Clean m.1 ∧ Each numbers literals m.2 := by
  induction members with
  | nil => simp [EachMember]
  | cons m members ih => rw [EachMember, ih, List.forall_mem_cons, and_assoc]

theorem agreesMembers_iff (members : List (Text × Template)) (js : List (Text × Json)) :
    AgreesMembers members js ↔ ∀ m ∈ members, ∀ j, (m.1, j) ∈ js → Agrees m.2 j := by
  induction members with
  | nil => simp [AgreesMembers]
  | cons m members ih => rw [AgreesMembers, ih, List.forall_mem_cons]

theorem agreesElements_of_forall₂ {α : Type} {entries : List α} {js : List Json}
    {wanted : α → Json → Prop} {template : α → Template} (h : List.Forall₂ wanted entries js)
    (hentry : ∀ x j, wanted x j → Agrees (template x) j) :
    AgreesElements (entries.map template) js := by
  induction h with
  | nil => simp [AgreesElements]
  | cons hx _ ih => exact ⟨hentry _ _ hx, ih⟩

theorem commaSeparated_eq (text : Text) (texts : List Text) :
    commaSeparated (text :: texts) = text ++ texts.flatMap fun next => ',' :: next := by
  induction texts generalizing text with
  | nil => simp [commaSeparated]
  | cons next texts ih => rw [commaSeparated_cons _ (by simp), ih, List.flatMap_cons, List.cons_append]

theorem commaSeparated_append {texts : List Text} (h : texts ≠ []) (more : List Text) :
    commaSeparated (texts ++ more) = commaSeparated texts ++ more.flatMap fun next => ',' :: next := by
  cases texts with
  | nil => exact absurd rfl h
  | cons text texts =>
    rw [List.cons_append, commaSeparated_eq, commaSeparated_eq, List.flatMap_append, List.append_assoc]

/-! ## What the reader makes of a template -/

theorem delimited_of_head {c : Char} (h : isNumberChar c = false) (rest : Text) :
    Delimited (c :: rest) := by
  intro d left heq
  obtain ⟨rfl, rfl⟩ := List.cons.inj heq
  exact h

theorem skipBlanks_cons {c : Char} (h : isBlank c = false) (rest : Text) :
    skipBlanks (c :: rest) = c :: rest := by
  simp [skipBlanks, h]

theorem readValue_blank (n : Nat) (rest : Text) : readValue n (' ' :: rest) = readValue n rest := by
  cases n with
  | zero => simp [readValue]
  | succ n =>
    have hskip : skipBlanks (' ' :: rest) = skipBlanks rest := by simp [skipBlanks, isBlank]
    simp only [readValue, hskip]

theorem readValue_string (n : Nat) (rest : Text) :
    readValue (n + 1) ('"' :: rest) =
      (readString n rest).map fun found => (.string found.1, found.2) := by
  cases h : readString n rest <;> simp [readValue, skipBlanks_cons (c := '"') (by decide), h]

theorem readValue_true (n : Nat) (rest : Text) :
    readValue (n + 1) ('t' :: 'r' :: 'u' :: 'e' :: rest) = some (.bool true, rest) := by
  simp [readValue, skipBlanks_cons (c := 't') (by decide), readWord]

theorem readValue_false (n : Nat) (rest : Text) :
    readValue (n + 1) ('f' :: 'a' :: 'l' :: 's' :: 'e' :: rest) = some (.bool false, rest) := by
  simp [readValue, skipBlanks_cons (c := 'f') (by decide), readWord]

theorem readValue_array {n : Nat} {rest left : Text} {d : Char} (h : skipBlanks rest = d :: left)
    (hd : d ≠ ']') :
    readValue (n + 1) ('[' :: rest) =
      (readElements n rest).map fun found => (.array found.1, found.2) := by
  cases hread : readElements n rest <;>
    simp [readValue, skipBlanks_cons (c := '[') (by decide), h, hd, hread]

theorem readValue_object (n : Nat) (rest : Text) :
    readValue (n + 1) ('{' :: '"' :: rest) =
      (readMembers n ('"' :: rest)).map fun found => (.object found.1, found.2) := by
  cases hread : readMembers n ('"' :: rest) <;>
    simp [readValue, skipBlanks_cons (c := '{') (by decide),
      skipBlanks_cons (c := '"') (by decide), hread]

theorem readValue_number {n : Nat} {text rest : Text} (h : isNumber text = true)
    (hrest : Delimited rest) : readValue (n + 1) (text ++ rest) = some (.number text, rest) := by
  rw [← readNumber_append h hrest]
  obtain ⟨c, left, rfl, hc⟩ := head_of_isNumber h
  -- none of the characters that other values start with
  have hother {d : Char} (hd : isBlank d = true ∨ d ∈ ['"', '[', '{', 't', 'f', 'n']) : c ≠ d := by
    rintro rfl
    rcases hc with rfl | hc
    · rcases hd with hd | hd <;> revert hd <;> decide
    · rcases hd with hd | hd
      · simp only [isBlank, Bool.or_eq_true, beq_iff_eq] at hd
        rcases hd with ((rfl | rfl) | rfl) | rfl <;> revert hc <;> decide
      · simp only [List.mem_cons, List.not_mem_nil, or_false] at hd
        rcases hd with rfl | rfl | rfl | rfl | rfl | rfl <;> revert hc <;> decide
  have hblank : isBlank c = false := by
    by_contra hblank
    exact hother (Or.inl (by simpa using hblank)) rfl
  simp only [List.cons_append, readValue, skipBlanks_cons hblank, hother (Or.inr (by simp : '"' ∈ _)),
    hother (Or.inr (by simp : '[' ∈ _)), hother (Or.inr (by simp : '{' ∈ _)),
    hother (Or.inr (by simp : 't' ∈ _)), hother (Or.inr (by simp : 'f' ∈ _)),
    hother (Or.inr (by simp : 'n' ∈ _)), if_false]

theorem readElements_cases {n : Nat} {text r : Text} {js : List Json}
    (h : readElements n text = some (js, r)) :
    ∃ m v left, n = m + 1 ∧ readValue m text = some (v, left) ∧
      ((skipBlanks left = ']' :: r ∧ js = [v]) ∨
        ∃ more js', skipBlanks left = ',' :: more ∧ readElements m more = some (js', r) ∧
          js = v :: js') := by
  cases n with
  | zero => simp [readElements] at h
  | succ m =>
    simp only [readElements, Option.bind_eq_bind, Option.bind_eq_some_iff] at h
    obtain ⟨⟨v, left⟩, hv, h⟩ := h
    refine ⟨m, v, left, rfl, hv, ?_⟩
    cases hskip : skipBlanks left with
    | nil => simp [hskip] at h
    | cons d more =>
      simp only [hskip] at h
      split_ifs at h with hcomma hbracket
      · subst hcomma
        obtain ⟨⟨js', r'⟩, hmore, heq⟩ := Option.bind_eq_some_iff.mp h
        obtain ⟨rfl, rfl⟩ := Prod.mk.inj (Option.some.inj heq)
        exact Or.inr ⟨more, js', rfl, hmore, rfl⟩
      · subst hbracket
        obtain ⟨rfl, rfl⟩ := Prod.mk.inj (Option.some.inj h)
        exact Or.inl ⟨rfl, rfl⟩

theorem readElements_last {n : Nat} {text rest : Text} {v : Json}
    (h : readValue n text = some (v, ']' :: rest)) : readElements (n + 1) text = some ([v], rest) := by
  simp [readElements, h, skipBlanks_cons (c := ']') (by decide)]

theorem readElements_more {n : Nat} {text more rest : Text} {v : Json} {js : List Json}
    (h : readValue n text = some (v, ',' :: more)) (hmore : readElements n more = some (js, rest)) :
    readElements (n + 1) text = some (v :: js, rest) := by
  simp [readElements, h, skipBlanks_cons (c := ',') (by decide), hmore]

theorem readMembers_cases {n : Nat} {name body r : Text} {js : List (Text × Json)} (hname : Clean name)
    (h : readMembers n ('"' :: (name ++ '"' :: ':' :: body)) = some (js, r)) :
    ∃ m v left, n = m + 1 ∧ readValue m body = some (v, left) ∧
      ((skipBlanks left = '}' :: r ∧ js = [(name, v)]) ∨
        ∃ more js', skipBlanks left = ',' :: more ∧ readMembers m more = some (js', r) ∧
          js = (name, v) :: js') := by
  cases n with
  | zero => simp [readMembers] at h
  | succ m =>
    simp only [readMembers, skipBlanks_cons (c := '"') (by decide), if_true, Option.bind_eq_bind,
      Option.bind_eq_some_iff] at h
    obtain ⟨⟨name', left'⟩, hread, h⟩ := h
    obtain ⟨rfl, rfl⟩ := (reads_of_clean hname).unique hread
    simp only [skipBlanks_cons (c := ':') (by decide), if_true] at h
    obtain ⟨⟨v, left⟩, hv, h⟩ := Option.bind_eq_some_iff.mp h
    refine ⟨m, v, left, rfl, hv, ?_⟩
    cases hskip : skipBlanks left with
    | nil => simp [hskip] at h
    | cons d more =>
      simp only [hskip] at h
      split_ifs at h with hcomma hbrace
      · subst hcomma
        obtain ⟨⟨js', r'⟩, hmore, heq⟩ := Option.bind_eq_some_iff.mp h
        obtain ⟨rfl, rfl⟩ := Prod.mk.inj (Option.some.inj heq)
        exact Or.inr ⟨more, js', rfl, hmore, rfl⟩
      · subst hbrace
        obtain ⟨rfl, rfl⟩ := Prod.mk.inj (Option.some.inj h)
        exact Or.inl ⟨rfl, rfl⟩

theorem readMembers_last {n : Nat} {name body rest : Text} {v : Json} (hname : Clean name)
    (hn : name.length < n) (h : readValue n body = some (v, '}' :: rest)) :
    readMembers (n + 1) ('"' :: (name ++ '"' :: ':' :: body)) = some ([(name, v)], rest) := by
  simp [readMembers, skipBlanks_cons (c := '"') (by decide), reads_of_clean hname n _ hn,
    skipBlanks_cons (c := ':') (by decide), h, skipBlanks_cons (c := '}') (by decide)]

theorem readMembers_more {n : Nat} {name body more rest : Text} {v : Json} {js : List (Text × Json)}
    (hname : Clean name) (hn : name.length < n) (h : readValue n body = some (v, ',' :: more))
    (hmore : readMembers n more = some (js, rest)) :
    readMembers (n + 1) ('"' :: (name ++ '"' :: ':' :: body)) = some ((name, v) :: js, rest) := by
  simp [readMembers, skipBlanks_cons (c := '"') (by decide), reads_of_clean hname n _ hn,
    skipBlanks_cons (c := ':') (by decide), h, skipBlanks_cons (c := ',') (by decide), hmore]

theorem head_render (t : Template) (h : WellShaped t) (rest : Text) :
    ∃ d left, skipBlanks (render t ++ rest) = d :: left ∧ d ≠ ']' := by
  match t, h with
  | .number text, h =>
    rcases h with h | ⟨c, left, rfl, hblank, hc, -⟩
    · obtain ⟨c, left, rfl, hc⟩ := head_of_isNumber h
      have hblank : isBlank c = false := by
        by_contra hblank
        simp only [isBlank, Bool.not_eq_false, Bool.or_eq_true, beq_iff_eq] at hblank
        rcases hc with rfl | hc
        · revert hblank; decide
        · rcases hblank with ((rfl | rfl) | rfl) | rfl <;> revert hc <;> decide
      refine ⟨c, left ++ rest, skipBlanks_cons hblank _, ?_⟩
      rintro rfl
      rcases hc with hc | hc <;> revert hc <;> decide
    · exact ⟨c, left ++ rest, skipBlanks_cons hblank _, hc⟩
  | .bool true, _ => exact ⟨'t', _, skipBlanks_cons (by decide) _, by decide⟩
  | .bool false, _ => exact ⟨'f', _, skipBlanks_cons (by decide) _, by decide⟩
  | .quoted body text, _ => exact ⟨'"', _, skipBlanks_cons (by decide) _, by decide⟩
  | .blank t, h =>
    obtain ⟨d, left, heq, hd⟩ := head_render t h rest
    refine ⟨d, left, ?_, hd⟩
    rw [← heq, render, List.cons_append]
    simp [skipBlanks, isBlank]
  | .array elements, _ => exact ⟨'[', _, skipBlanks_cons (by decide) _, by decide⟩
  | .object members, _ => exact ⟨'{', _, skipBlanks_cons (by decide) _, by decide⟩

section Mono

variable {numbers numbers' : Text → Prop} {literals literals' : Text → Text → Prop}

mutual

theorem Each.mono (hnumbers : ∀ text, numbers text → numbers' text)
    (hliterals : ∀ body text, literals body text → literals' body text) :
    (t : Template) → Each numbers literals t → Each numbers' literals' t
  | .number text, h => hnumbers text h
  | .bool _, _ => trivial
  | .quoted body text, h => hliterals body text h
  | .blank t, h => Each.mono hnumbers hliterals t h
  | .array elements, h => EachElement.mono hnumbers hliterals elements h
  | .object members, h => EachMember.mono hnumbers hliterals members h

theorem EachElement.mono (hnumbers : ∀ text, numbers text → numbers' text)
    (hliterals : ∀ body text, literals body text → literals' body text) :
    (elements : List Template) → EachElement numbers literals elements →
      EachElement numbers' literals' elements
  | [], _ => trivial
  | e :: elements, h =>
    ⟨Each.mono hnumbers hliterals e h.1, EachElement.mono hnumbers hliterals elements h.2⟩

theorem EachMember.mono (hnumbers : ∀ text, numbers text → numbers' text)
    (hliterals : ∀ body text, literals body text → literals' body text) :
    (members : List (Text × Template)) → EachMember numbers literals members →
      EachMember numbers' literals' members
  | [], _ => trivial
  | (_, t) :: members, h =>
    ⟨h.1, Each.mono hnumbers hliterals t h.2.1, EachMember.mono hnumbers hliterals members h.2.2⟩

end

end Mono

theorem wellShaped_elements {elements : List Template} (h : EachElement IsNumber Reads elements) :
    EachElement NumberShaped LiteralShaped elements :=
  EachElement.mono (fun _ => Or.inl) (fun _ _ hreads _ _ _ _ => hreads) elements h

theorem renderElements_ne_nil {elements : List Template} (h : elements ≠ []) :
    renderElements elements ≠ [] := by
  cases elements with
  | nil => exact absurd rfl h
  | cons e elements => simp [renderElements]

theorem renderMembers_ne_nil {members : List (Text × Template)} (h : members ≠ []) :
    renderMembers members ≠ [] := by
  cases members with
  | nil => exact absurd rfl h
  | cons m members => simp [renderMembers]

theorem head_elements {elements : List Template} (hne : elements ≠ [])
    (h : EachElement NumberShaped LiteralShaped elements)
    (rest : Text) :
    ∃ d left, skipBlanks (commaSeparated (renderElements elements) ++ rest) = d :: left ∧ d ≠ ']' := by
  cases elements with
  | nil => exact absurd rfl hne
  | cons e more =>
    by_cases hmore : more = []
    · subst hmore
      exact head_render e h.1 rest
    · rw [renderElements, commaSeparated_cons _ (renderElements_ne_nil hmore), List.append_assoc]
      exact head_render e h.1 _

theorem head_members (name : Text) (t : Template) (members : List (Text × Template)) (rest : Text) :
    ∃ body, commaSeparated (renderMembers ((name, t) :: members)) ++ rest = '"' :: body := by
  rw [renderMembers, commaSeparated_eq]
  exact ⟨_, rfl⟩

mutual

theorem readValue_render (t : Template) (h : Good t) (n : Nat) (rest : Text) (hrest : Delimited rest)
    (hn : (render t).length ≤ n) : readValue n (render t ++ rest) = some (value t, rest) := by
  match t, h with
  | .number text, h =>
    obtain ⟨c, left, rfl, -⟩ := head_of_isNumber h
    obtain ⟨n, rfl⟩ : ∃ m, n = m + 1 := ⟨n - 1, by simp [render] at hn; omega⟩
    exact readValue_number h hrest
  | .bool true, _ =>
    obtain ⟨n, rfl⟩ : ∃ m, n = m + 1 := ⟨n - 1, by simp [render, boolText] at hn; omega⟩
    exact readValue_true n rest
  | .bool false, _ =>
    obtain ⟨n, rfl⟩ : ∃ m, n = m + 1 := ⟨n - 1, by simp [render, boolText] at hn; omega⟩
    exact readValue_false n rest
  | .quoted body text, h =>
    simp only [render, List.length_cons, List.length_append] at hn
    obtain ⟨n, rfl⟩ : ∃ m, n = m + 1 := ⟨n - 1, by omega⟩
    have hread := h n rest (by omega)
    simp [render, readValue_string, hread, value]
  | .blank t, h =>
    rw [render, List.cons_append, readValue_blank]
    exact readValue_render t h n rest hrest (by simp [render] at hn; omega)
  | .array elements, h =>
    simp only [render, List.length_cons, List.length_append] at hn
    obtain ⟨n, rfl⟩ : ∃ m, n = m + 1 := ⟨n - 1, by omega⟩
    by_cases hne : elements = []
    · subst hne
      simp [render, renderElements, commaSeparated, readValue, skipBlanks_cons (c := '[') (by decide),
        skipBlanks_cons (c := ']') (by decide), value, valueElements]
    · obtain ⟨d, left, hskip, hd⟩ := head_elements hne (wellShaped_elements h) (']' :: rest)
      have hread := readElements_render elements hne h n rest (by omega)
      simp only [render, List.cons_append, List.append_assoc, List.nil_append]
      rw [readValue_array hskip hd, hread]
      rfl
  | .object members, h =>
    simp only [render, List.length_cons, List.length_append] at hn
    obtain ⟨n, rfl⟩ : ∃ m, n = m + 1 := ⟨n - 1, by omega⟩
    match members, h with
    | [], _ =>
      simp [render, renderMembers, commaSeparated, readValue, skipBlanks_cons (c := '{') (by decide),
        skipBlanks_cons (c := '}') (by decide), value, valueMembers]
    | (name, t) :: members, h =>
      have hread := readMembers_render ((name, t) :: members) (by simp) h n rest (by omega)
      obtain ⟨body, hbody⟩ := head_members name t members ('}' :: rest)
      rw [hbody] at hread
      simp only [render, List.cons_append, List.append_assoc, List.nil_append, hbody]
      rw [readValue_object, hread]
      rfl

theorem readElements_render (elements : List Template) (hne : elements ≠ [])
    (h : EachElement IsNumber Reads elements) (n : Nat) (rest : Text)
    (hn : (commaSeparated (renderElements elements)).length + 1 ≤ n) :
    readElements n (commaSeparated (renderElements elements) ++ ']' :: rest)
      = some (valueElements elements, rest) := by
  match elements, h with
  | e :: more, h =>
    obtain ⟨n, rfl⟩ : ∃ m, n = m + 1 := ⟨n - 1, by omega⟩
    by_cases hmore : more = []
    · subst hmore
      simp only [renderElements, commaSeparated] at hn ⊢
      exact readElements_last
        (readValue_render e h.1 n _ (delimited_of_head (by decide) rest) (by omega))
    · rw [renderElements, commaSeparated_cons _ (renderElements_ne_nil hmore)] at hn ⊢
      simp only [List.length_append, List.length_cons] at hn
      rw [List.append_assoc, List.cons_append]
      exact readElements_more
        (readValue_render e h.1 n _ (delimited_of_head (by decide) _) (by omega))
        (readElements_render more hmore h.2 n rest (by omega))

theorem readMembers_render (members : List (Text × Template)) (hne : members ≠ [])
    (h : EachMember IsNumber Reads members) (n : Nat) (rest : Text)
    (hn : (commaSeparated (renderMembers members)).length + 1 ≤ n) :
    readMembers n (commaSeparated (renderMembers members) ++ '}' :: rest)
      = some (valueMembers members, rest) := by
  match members, h with
  | (name, t) :: more, h =>
    obtain ⟨n, rfl⟩ : ∃ m, n = m + 1 := ⟨n - 1, by omega⟩
    by_cases hmore : more = []
    · subst hmore
      simp only [renderMembers, commaSeparated, List.length_cons, List.length_append] at hn
      have hread := readValue_render t h.2.1 n _ (delimited_of_head (c := '}') (by decide) rest)
        (by omega)
      simpa [renderMembers, commaSeparated, valueMembers] using
        readMembers_last h.1 (by omega) hread
    · rw [renderMembers, commaSeparated_cons _ (renderMembers_ne_nil hmore)] at hn ⊢
      simp only [List.length_append, List.length_cons] at hn
      have hread := readValue_render t h.2.1 n _
        (delimited_of_head (c := ',') (by decide) (commaSeparated (renderMembers more) ++ '}' :: rest))
        (by omega)
      have hrest := readMembers_render more hmore h.2.2 n rest (by omega)
      simpa [valueMembers] using readMembers_more h.1 (by omega) hread hrest

end

theorem parse_render {t : Template} (h : Good t) : parse (render t) = some (value t) := by
  have hread := readValue_render t h (render t).length [] (by simp [Delimited]) (Nat.le_refl _)
  rw [List.append_nil] at hread
  simp [parse, hread, skipBlanks]

mutual

/-- A template that is read with every string as it was meant is of good pieces, whatever fuel the
reader had: the pieces are read one after another, and each string decides where the next piece
begins. -/
theorem good_of_agrees (t : Template) (h : WellShaped t) {n : Nat} {rest r : Text} {j : Json}
    (hrest : Delimited rest) (hread : readValue n (render t ++ rest) = some (j, r))
    (hj : Agrees t j) : Good t ∧ r = rest := by
  cases n with
  | zero => simp [readValue] at hread
  | succ n =>
  match t, h with
  | .number text, h =>
    rcases h with h | ⟨-, -, -, -, -, hnone⟩
    · rw [render, readValue_number h hrest] at hread
      exact ⟨h, (Prod.mk.inj (Option.some.inj hread)).2.symm⟩
    · rw [render, hnone] at hread
      exact absurd hread (by simp)
  | .bool true, _ =>
    have htrue : some (Json.bool true, rest) = some (j, r) :=
      (readValue_true n rest).symm.trans hread
    exact ⟨trivial, (Prod.mk.inj (Option.some.inj htrue)).2.symm⟩
  | .bool false, _ =>
    have hfalse : some (Json.bool false, rest) = some (j, r) :=
      (readValue_false n rest).symm.trans hread
    exact ⟨trivial, (Prod.mk.inj (Option.some.inj hfalse)).2.symm⟩
  | .quoted body text, h =>
    simp only [render, List.cons_append, List.append_assoc, List.nil_append, readValue_string,
      Option.map_eq_some_iff, Prod.mk.injEq] at hread
    obtain ⟨⟨v, left⟩, hstring, rfl, rfl⟩ := hread
    have hreads : Reads body text := by
      by_contra hnot
      obtain rfl : v = text := by simpa [Agrees, hnot] using hj
      exact hnot (h n rest left hstring)
    exact ⟨hreads, (hreads.unique hstring).2⟩
  | .blank t, h =>
    rw [render, List.cons_append, readValue_blank] at hread
    exact good_of_agrees t h hrest hread hj
  | .array elements, h =>
    by_cases hne : elements = []
    · subst hne
      simp [render, renderElements, commaSeparated, readValue, skipBlanks_cons (c := '[') (by decide),
        skipBlanks_cons (c := ']') (by decide)] at hread
      exact ⟨trivial, hread.2.symm⟩
    · obtain ⟨d, left, hskip, hd⟩ := head_elements hne h (']' :: rest)
      simp only [render, List.cons_append, List.append_assoc, List.nil_append] at hread
      rw [readValue_array hskip hd] at hread
      obtain ⟨⟨js, left'⟩, hmore, heq⟩ := Option.map_eq_some_iff.mp hread
      obtain ⟨rfl, rfl⟩ := Prod.mk.inj heq
      exact good_elements elements hne h hmore (hj js rfl)
  | .object [], h =>
    simp [render, renderMembers, commaSeparated, readValue, skipBlanks_cons (c := '{') (by decide),
      skipBlanks_cons (c := '}') (by decide)] at hread
    exact ⟨trivial, hread.2.symm⟩
  | .object ((name, t) :: members), h =>
    obtain ⟨body, hbody⟩ := head_members name t members ('}' :: rest)
    simp only [render, List.cons_append, List.append_assoc, List.nil_append, hbody] at hread
    rw [readValue_object, ← hbody] at hread
    obtain ⟨⟨js, left⟩, hmore, heq⟩ := Option.map_eq_some_iff.mp hread
    obtain ⟨rfl, rfl⟩ := Prod.mk.inj heq
    exact good_members ((name, t) :: members) (by simp) h hmore (fun _ => id) (hj js rfl)

theorem good_elements (elements : List Template) (hne : elements ≠ [])
    (h : EachElement NumberShaped LiteralShaped elements)
    {n : Nat} {rest r : Text} {js : List Json}
    (hread : readElements n (commaSeparated (renderElements elements) ++ ']' :: rest) = some (js, r))
    (hj : AgreesElements elements js) :
    EachElement IsNumber Reads elements ∧ r = rest := by
  match elements, h with
  | e :: more, h =>
    obtain ⟨m, v, left, rfl, hv, hcases⟩ := readElements_cases hread
    by_cases hmore : more = []
    · subst hmore
      simp only [renderElements, commaSeparated] at hv
      have hagrees : Agrees e v := by
        rcases hcases with ⟨_, rfl⟩ | ⟨_, _, _, _, rfl⟩ <;> exact hj.1
      obtain ⟨hgood, rfl⟩ := good_of_agrees e h.1 (delimited_of_head (by decide) rest) hv hagrees
      rcases hcases with ⟨heq, _⟩ | ⟨_, _, heq, _⟩
      · rw [skipBlanks_cons (by decide)] at heq
        exact ⟨⟨hgood, trivial⟩, (List.cons.inj heq).2.symm⟩
      · rw [skipBlanks_cons (by decide)] at heq
        exact absurd (List.cons.inj heq).1 (by decide)
    · rw [renderElements, commaSeparated_cons _ (renderElements_ne_nil hmore), List.append_assoc,
        List.cons_append] at hv
      have hagrees : Agrees e v := by
        rcases hcases with ⟨_, rfl⟩ | ⟨_, _, _, _, rfl⟩ <;> exact hj.1
      obtain ⟨hgood, rfl⟩ := good_of_agrees e h.1 (delimited_of_head (by decide) _) hv hagrees
      rcases hcases with ⟨heq, -⟩ | ⟨text, js', heq, hmores, rfl⟩
      · rw [skipBlanks_cons (by decide)] at heq
        exact absurd (List.cons.inj heq).1 (by decide)
      · rw [skipBlanks_cons (by decide)] at heq
        obtain rfl := (List.cons.inj heq).2
        obtain ⟨hgoods, rfl⟩ := good_elements more hmore h.2 hmores hj.2
        exact ⟨⟨hgood, hgoods⟩, rfl⟩

theorem good_members (members : List (Text × Template)) (hne : members ≠ [])
    (h : EachMember NumberShaped LiteralShaped members)
    {n : Nat} {rest r : Text} {js whole : List (Text × Json)}
    (hread : readMembers n (commaSeparated (renderMembers members) ++ '}' :: rest) = some (js, r))
    (hwhole : ∀ m ∈ js, m ∈ whole) (hj : AgreesMembers members whole) :
    EachMember IsNumber Reads members ∧ r = rest := by
  match members, h with
  | (name, t) :: more, h =>
    by_cases hmore : more = []
    · subst hmore
      simp only [renderMembers, commaSeparated, List.cons_append, List.append_assoc] at hread
      obtain ⟨m, v, left, rfl, hv, hcases⟩ := readMembers_cases h.1 hread
      have hagrees : Agrees t v := by
        rcases hcases with ⟨_, rfl⟩ | ⟨_, _, _, _, rfl⟩ <;> exact hj.1 v (hwhole _ (by simp))
      obtain ⟨hgood, rfl⟩ := good_of_agrees t h.2.1 (delimited_of_head (by decide) rest) hv hagrees
      rcases hcases with ⟨heq, _⟩ | ⟨_, _, heq, _⟩
      · rw [skipBlanks_cons (by decide)] at heq
        exact ⟨⟨h.1, hgood, trivial⟩, (List.cons.inj heq).2.symm⟩
      · rw [skipBlanks_cons (by decide)] at heq
        exact absurd (List.cons.inj heq).1 (by decide)
    · rw [renderMembers, commaSeparated_cons _ (renderMembers_ne_nil hmore)] at hread
      simp only [List.cons_append, List.append_assoc] at hread
      obtain ⟨m, v, left, rfl, hv, hcases⟩ := readMembers_cases h.1 hread
      have hagrees : Agrees t v := by
        rcases hcases with ⟨_, rfl⟩ | ⟨_, _, _, _, rfl⟩ <;> exact hj.1 v (hwhole _ (by simp))
      obtain ⟨hgood, rfl⟩ := good_of_agrees t h.2.1 (delimited_of_head (by decide) _) hv hagrees
      rcases hcases with ⟨heq, -⟩ | ⟨text, js', heq, hmores, rfl⟩
      · rw [skipBlanks_cons (by decide)] at heq
        exact absurd (List.cons.inj heq).1 (by decide)
      · rw [skipBlanks_cons (by decide)] at heq
        obtain rfl := (List.cons.inj heq).2
        obtain ⟨hgoods, rfl⟩ := good_members more hmore h.2.2 hmores
          (fun m hm => hwhole m (by simp [hm])) hj.2
        exact ⟨⟨h.1, hgood, hgoods⟩, rfl⟩

end

theorem good_of_parse {t : Template} {j : Json} (h : WellShaped t) (hread : parse (render t) = some j)
    (hj : Agrees t j) : Good t := by
  simp only [parse] at hread
  split at hread
  · rename_i v rest heq
    split_ifs at hread
    obtain rfl := Option.some.inj hread
    rw [← List.append_nil (render t)] at heq
    exact (good_of_agrees t h (by simp [Delimited]) (n := _) heq hj).1
  · exact absurd hread (by simp)

end KnxStack.Lib.JsonText
