import Iec61850South.Config.OsiSelector
import Iec61850South.Lib.Numerals
import Iec61850South.Lib.Runs
import Mathlib.Data.List.TakeWhile

/-! # What the texts of selectors mean

`parseOsiSelector` stores one byte for each token, in order, and stops at the
first token that it cannot read (`parseOsiSelector_run`). A token is read like a
numeral, but not all of it has to be one: `std::stoul` skips white space and a
sign in front, and ignores what follows the digits (`readToken_eq_ok_iff`).
-/

namespace Iec61850South

open Lib

/-! ## Digits -/

/-- A character is known from its number. -/
theorem eq_ofNat_of_offset {c : Char} {start d : Nat} (hstart : start ≤ c.toNat)
    (hd : c.toNat - start = d) : c = Char.ofNat (start + d) := by
  have hcode : start + d = c.toNat := by omega
  rw [hcode, Char.ofNat_toNat]

/-- The digits of C are the digits of numerals. -/
theorem digitValue_eq_some_iff {base : Nat} (hbase : base ≤ 16) {c : Char} {d : Nat} :
    digitValue base c = some d ↔ IsDigit base c d := by
  constructor
  · intro h
    rcases Option.filter_eq_some_iff.mp h with ⟨hvalue, hd⟩
    have hd : d < base := of_decide_eq_true hd
    have hsmall : d < 16 := Nat.lt_of_lt_of_le hd hbase
    refine ⟨hd, ?_⟩
    -- a decimal digit, a small letter or a capital one
    split_ifs at hvalue with hdec hlow hupp
    · have hrange : 48 ≤ c.toNat ∧ c.toNat ≤ 57 := hdec
      have hd' : c.toNat - 48 = d := Option.some.inj hvalue
      have hall : ∀ k : Fin 16, k.val < 10 → Char.ofNat (48 + k.val) = k.val.digitChar := by decide
      left
      rw [eq_ofNat_of_offset hrange.1 hd']
      exact hall ⟨d, hsmall⟩ (show d < 10 by omega)
    · have hrange : 97 ≤ c.toNat ∧ c.toNat ≤ 122 := hlow
      have hd' : c.toNat - 97 + 10 = d := Option.some.inj hvalue
      have hall : ∀ k : Fin 16, 10 ≤ k.val → Char.ofNat (87 + k.val) = k.val.digitChar := by decide
      left
      rw [@eq_ofNat_of_offset c 87 d (by omega) (by omega)]
      exact hall ⟨d, hsmall⟩ (show 10 ≤ d by omega)
    · have hrange : 65 ≤ c.toNat ∧ c.toNat ≤ 90 := hupp
      have hd' : c.toNat - 65 + 10 = d := Option.some.inj hvalue
      have hall : ∀ k : Fin 16, 10 ≤ k.val → Char.ofNat (55 + k.val) = k.val.digitChar.toUpper := by
        decide
      right
      rw [@eq_ofNat_of_offset c 55 d (by omega) (by omega)]
      exact hall ⟨d, hsmall⟩ (show 10 ≤ d by omega)
  · rintro ⟨hd, hc⟩
    have hall : ∀ k : Fin 16, digitValue 16 k.val.digitChar = some k.val ∧
        digitValue 16 k.val.digitChar.toUpper = some k.val := by decide
    have hsmall : d < 16 := Nat.lt_of_lt_of_le hd hbase
    have hvalue : digitValue 16 c = some d := by
      rcases hc with rfl | rfl
      · exact (hall ⟨d, hsmall⟩).1
      · exact (hall ⟨d, hsmall⟩).2
    exact Option.filter_eq_some_iff.mpr
      ⟨(Option.filter_eq_some_iff.mp hvalue).1, decide_eq_true hd⟩

theorem digitValue_eq_none_iff {base : Nat} (hbase : base ≤ 16) {c : Char} :
    digitValue base c = none ↔ ∀ d, ¬ IsDigit base c d := by
  rw [Option.eq_none_iff_forall_ne_some]
  exact forall_congr' fun d => not_congr (digitValue_eq_some_iff hbase)

/-- What a digit is not. -/
theorem not_special_of_isDigit {c : Char} {d : Nat} (h : IsDigit 16 c d) :
    isDelimiter c = false ∧ isSpace c = false ∧ c ≠ '+' ∧ c ≠ 'x' := by
  have hall : ∀ k : Fin 16,
      (isDelimiter k.val.digitChar = false ∧ isSpace k.val.digitChar = false ∧
        k.val.digitChar ≠ '+' ∧ k.val.digitChar ≠ 'x') ∧
      isDelimiter k.val.digitChar.toUpper = false ∧ isSpace k.val.digitChar.toUpper = false ∧
        k.val.digitChar.toUpper ≠ '+' ∧ k.val.digitChar.toUpper ≠ 'x' := by decide
  rcases h with ⟨hd, rfl | rfl⟩
  · exact (hall ⟨d, hd⟩).1
  · exact (hall ⟨d, hd⟩).2

section AllDigits

variable {base : Nat} (hbase : base ≤ 16) {chars : List Char}
  (hall : ∀ c ∈ chars, ∃ d, IsDigit base c d)

include hbase hall

theorem not_delimiter_of_digits : ∀ c ∈ chars, isDelimiter c = false := by
  intro c hc
  rcases hall c hc with ⟨d, hd⟩
  exact (not_special_of_isDigit (hd.mono hbase)).1

theorem not_space_of_digits : ∀ c ∈ chars, isSpace c = false := by
  intro c hc
  rcases hall c hc with ⟨d, hd⟩
  exact (not_special_of_isDigit (hd.mono hbase)).2.1

theorem plus_notMem_of_digits : '+' ∉ chars := by
  intro hc
  rcases hall '+' hc with ⟨d, hd⟩
  exact (not_special_of_isDigit (hd.mono hbase)).2.2.1 rfl

theorem x_notMem_of_digits : 'x' ∉ chars := by
  intro hc
  rcases hall 'x' hc with ⟨d, hd⟩
  exact (not_special_of_isDigit (hd.mono hbase)).2.2.2 rfl

end AllDigits

theorem leadingDigits_eq (base : Nat) (s : List Char) :
    leadingDigits base s = leadingValues (digitValue base) s := by
  induction s with
  | nil => rfl
  | cons c s ih =>
    rw [leadingDigits, leadingValues]
    cases digitValue base c with
    | none => rfl
    | some d => exact congrArg (d :: ·) ih

/-- The leading digits, the numeral they are, and what is left. -/
theorem leadingDigits_spec (base : Nat) (hbase : base ≤ 16) (s : List Char) :
    ∃ digits rest, s = digits ++ rest ∧ List.Forall₂ (IsDigit base) digits (leadingDigits base s) ∧
      ∀ c ∈ rest.head?, ∀ d, ¬ IsDigit base c d := by
  rw [leadingDigits_eq]
  rcases leadingValues_spec (digitValue base) s with ⟨digits, rest, hsplit, hdigits, hrest⟩
  refine ⟨digits, rest, hsplit, hdigits.imp fun _ _ => (digitValue_eq_some_iff hbase).mp, ?_⟩
  intro c hc
  exact (digitValue_eq_none_iff hbase).mp (hrest c hc)

theorem leadingDigits_append {base : Nat} (hbase : base ≤ 16) {digits rest : List Char}
    {values : List Nat} (hdigits : List.Forall₂ (IsDigit base) digits values)
    (hrest : ∀ c ∈ rest.head?, ∀ d, ¬ IsDigit base c d) :
    leadingDigits base (digits ++ rest) = values := by
  rw [leadingDigits_eq]
  refine leadingValues_append (hdigits.imp fun _ _ => (digitValue_eq_some_iff hbase).mpr) ?_
  intro c hc
  exact (digitValue_eq_none_iff hbase).mpr (hrest c hc)

/-! ## Tokens -/

/-- The value of digits, as `stoul` computes it. -/
def digitsValue (base : Nat) (digits : List Nat) : Nat :=
  digits.foldl (fun acc d => acc * base + d) 0

/-- `stoul` in base 16 of a text that starts with `0x`. Without a digit behind it,
the text is read as its leading zero. -/
theorem stoul_hex (text : List Char) :
    stoul 16 ('0' :: 'x' :: text) =
      if ULONG_MAX < digitsValue 16 (leadingDigits 16 text) then .error .out_of_range
      else .ok (digitsValue 16 (leadingDigits 16 text)) := by
  have hzero : leadingDigits 16 ('0' :: 'x' :: text) = [0] := by
    have h0 : digitValue 16 '0' = some 0 := by decide
    have hx : digitValue 16 'x' = none := by decide
    rw [leadingDigits, h0, leadingDigits, hx]
  cases text with
  | nil => rfl
  | cons c text =>
    cases hc : digitValue 16 c with
    | none =>
      have hnone : leadingDigits 16 (c :: text) = [] := by rw [leadingDigits, hc]
      rw [hnone]
      simp [stoul, skipHexPrefix, hc, hzero, isSpace, digitsValue]
    | some d =>
      have hsome : leadingDigits 16 (c :: text) = d :: leadingDigits 16 text := by
        rw [leadingDigits, hc]
      rw [hsome]
      simp [stoul, skipHexPrefix, hc, hsome, isSpace, digitsValue]

/-- What is left in front of the digits: neither white space nor a sign. -/
def unsigned (token : List Char) : List Char :=
  if (token.dropWhile isSpace).head? = some '+' then (token.dropWhile isSpace).tail
  else token.dropWhile isSpace

theorem skipHexPrefix_ten (s : List Char) : skipHexPrefix 10 s = s := by
  unfold skipHexPrefix
  split
  · simp
  · rfl

/-- `stoul` in base 10 of a text without a dash. -/
theorem stoul_decimal {token : List Char} (hdash : '-' ∉ token) :
    stoul 10 token =
      if leadingDigits 10 (unsigned token) = [] then .error .invalid_argument
      else if ULONG_MAX < digitsValue 10 (leadingDigits 10 (unsigned token)) then
        .error .out_of_range
      else .ok (digitsValue 10 (leadingDigits 10 (unsigned token))) := by
  have hnegative : (token.dropWhile isSpace).head? ≠ some '-' := by
    intro h
    exact hdash ((List.dropWhile_sublist _).subset (List.mem_of_mem_head? h))
  unfold stoul unsigned
  simp only [hnegative, false_or, if_false, skipHexPrefix_ten]
  generalize leadingDigits 10 _ = digits
  cases digits <;> rfl

/-- What a token is read as. In base 16, which `0x` selects, the digits may be
missing; in base 10 they may follow white space and a plus sign. In both bases
anything may stand behind the digits that is none itself. -/
inductive ReadsAs : List Char → Nat → Prop
  | hex {digits rest : List Char} {n : Nat} : Denotes 16 digits n →
      (∀ c ∈ rest.head?, ∀ d, ¬ IsDigit 16 c d) → ReadsAs ('0' :: 'x' :: (digits ++ rest)) n
  | decimal {blanks sign digits rest : List Char} {n : Nat} : (∀ c ∈ blanks, isSpace c = true) →
      sign = [] ∨ sign = ['+'] → digits ≠ [] → Denotes 10 digits n →
      (∀ c ∈ rest.head?, ∀ d, ¬ IsDigit 10 c d) →
      ¬ ['0', 'x'] <+: blanks ++ (sign ++ (digits ++ rest)) →
      ReadsAs (blanks ++ (sign ++ (digits ++ rest))) n

/-- The first digit of a numeral, and a property that digits do not have. -/
theorem dropWhile_digits {digits : List Char} {values : List Nat} (hne : digits ≠ [])
    (hdigits : List.Forall₂ (IsDigit 10) digits values) (rest : List Char) :
    (digits ++ rest).dropWhile isSpace = digits ++ rest ∧ (digits ++ rest).head? ≠ some '+' := by
  cases hdigits with
  | nil => exact absurd rfl hne
  | @cons c d digits values hc _ =>
    rcases not_special_of_isDigit (hc.mono (by decide)) with ⟨_, hspace, hplus, _⟩
    rw [List.cons_append]
    constructor
    · rw [List.dropWhile_cons, hspace]
      rfl
    · intro h
      exact hplus (Option.some.inj h)

/-- White space and a plus sign are skipped. -/
theorem unsigned_append {blanks sign digits rest : List Char} {values : List Nat}
    (hblanks : ∀ c ∈ blanks, isSpace c = true) (hsign : sign = [] ∨ sign = ['+'])
    (hne : digits ≠ []) (hdigits : List.Forall₂ (IsDigit 10) digits values) :
    unsigned (blanks ++ (sign ++ (digits ++ rest))) = digits ++ rest := by
  rcases dropWhile_digits hne hdigits rest with ⟨hspace, hplus⟩
  unfold unsigned
  rw [List.dropWhile_append_of_pos hblanks]
  rcases hsign with rfl | rfl
  · rw [List.nil_append, hspace, if_neg hplus]
  · rfl

theorem unsigned_spec (token : List Char) : ∃ blanks sign,
    token = blanks ++ (sign ++ unsigned token) ∧ (∀ c ∈ blanks, isSpace c = true) ∧
      (sign = [] ∨ sign = ['+']) := by
  have hsplit := List.takeWhile_append_dropWhile (p := isSpace) (l := token)
  have hblanks : ∀ c ∈ token.takeWhile isSpace, isSpace c = true :=
    fun c hc => List.mem_takeWhile_imp hc
  unfold unsigned
  split_ifs with hplus
  · refine ⟨token.takeWhile isSpace, ['+'], ?_, hblanks, Or.inr rfl⟩
    rw [List.singleton_append, List.cons_head?_tail hplus, hsplit]
  · exact ⟨token.takeWhile isSpace, [], by rw [List.nil_append, hsplit], hblanks, Or.inl rfl⟩

/-- The base of a token. -/
def baseOf (token : List Char) : Nat :=
  if ['0', 'x'].isPrefixOf token then 16 else 10

theorem readToken_eq_ok {token : List Char} {n : Nat} :
    readToken token = .ok n ↔ stoul (baseOf token) token = .ok n ∧ n ≤ 255 := by
  have hbase : (if ['0', 'x'].isPrefixOf token then 16 else 10) = baseOf token := rfl
  simp only [readToken, hbase]
  cases stoul (baseOf token) token with
  | error e => cases e <;> simp
  | ok ul =>
    by_cases hul : ul > 255
    · simp only [if_pos hul]
      constructor
      · intro h
        cases h
      · rintro ⟨h, hn⟩
        cases h
        omega
    · simp only [if_neg hul]
      constructor
      · intro h
        cases h
        exact ⟨rfl, by omega⟩
      · rintro ⟨h, _⟩
        cases h
        rfl

/-- A token that is not read is rejected by an exception. -/
theorem readToken_error {token : List Char} {e : ImportStop} (h : readToken token = .error e) :
    ∃ msg, e = .configurationException msg := by
  unfold readToken at h
  dsimp only at h
  split at h
  · cases h
    exact ⟨_, rfl⟩
  · cases h
    exact ⟨_, rfl⟩
  · split at h
    · cases h
      exact ⟨_, rfl⟩
    · cases h

theorem ok_of_checkRange {n m : Nat} (h : (if ULONG_MAX < n then
      (.error .out_of_range : Except StoulError Nat) else .ok n) = .ok m) : n = m := by
  split at h
  · cases h
  · exact Except.ok.inj h

theorem checkRange_of_byte {n : Nat} (h : n ≤ 255) :
    (if ULONG_MAX < n then (.error .out_of_range : Except StoulError Nat) else .ok n) = .ok n := by
  rw [if_neg]
  unfold ULONG_MAX
  omega

theorem denotes_digitsValue {base : Nat} {chars : List Char} {values : List Nat}
    (h : List.Forall₂ (IsDigit base) chars values) : Denotes base chars (digitsValue base values) :=
  ⟨values, h, foldl_eq_ofDigits base values⟩

/-- `stoul` in base 16 reads the digits behind `0x`, whatever follows them. -/
theorem stoul_hex_eq_ok_iff {text : List Char} {n : Nat} (hbyte : n ≤ 255) :
    stoul 16 ('0' :: 'x' :: text) = .ok n ↔
      ∃ digits rest, text = digits ++ rest ∧ Denotes 16 digits n ∧
        ∀ c ∈ rest.head?, ∀ d, ¬ IsDigit 16 c d := by
  constructor
  · intro h
    rcases leadingDigits_spec 16 (by decide) text with ⟨digits, rest, hsplit, hdigits, hrest⟩
    have hvalue : digitsValue 16 (leadingDigits 16 text) = n :=
      ok_of_checkRange ((stoul_hex text).symm.trans h)
    have hn : Denotes 16 digits (digitsValue 16 (leadingDigits 16 text)) :=
      denotes_digitsValue hdigits
    rw [hvalue] at hn
    exact ⟨digits, rest, hsplit, hn, hrest⟩
  · rintro ⟨digits, rest, rfl, ⟨values, hvalues, hn⟩, hrest⟩
    have hvalue : digitsValue 16 values = n := (foldl_eq_ofDigits 16 values).trans hn.symm
    rw [stoul_hex, leadingDigits_append (by decide) hvalues hrest, hvalue]
    exact checkRange_of_byte hbyte

/-- `stoul` in base 10 reads the digits behind white space and a sign, and there has
to be one. -/
theorem stoul_decimal_eq_ok_iff {token : List Char} (hdash : '-' ∉ token) {n : Nat}
    (hbyte : n ≤ 255) :
    stoul 10 token = .ok n ↔
      ∃ blanks sign digits rest, token = blanks ++ (sign ++ (digits ++ rest)) ∧
        (∀ c ∈ blanks, isSpace c = true) ∧ (sign = [] ∨ sign = ['+']) ∧ digits ≠ [] ∧
        Denotes 10 digits n ∧ ∀ c ∈ rest.head?, ∀ d, ¬ IsDigit 10 c d := by
  rw [stoul_decimal hdash]
  constructor
  · intro h
    -- the token is taken apart as `stoul` reads it
    rcases unsigned_spec token with ⟨blanks, sign, htoken, hblanks, hsign⟩
    rcases leadingDigits_spec 10 (by decide) (unsigned token) with
      ⟨digits, rest, hsplit, hdigits, hrest⟩
    split at h
    · cases h
    next hsome =>
      have hne : digits ≠ [] := by
        rintro rfl
        exact hsome (List.forall₂_nil_left_iff.mp hdigits)
      have hvalue : digitsValue 10 (leadingDigits 10 (unsigned token)) = n := ok_of_checkRange h
      have hn : Denotes 10 digits (digitsValue 10 (leadingDigits 10 (unsigned token))) :=
        denotes_digitsValue hdigits
      rw [hvalue] at hn
      rw [hsplit] at htoken
      exact ⟨blanks, sign, digits, rest, htoken, hblanks, hsign, hne, hn, hrest⟩
  · rintro ⟨blanks, sign, digits, rest, rfl, hblanks, hsign, hne, ⟨values, hvalues, hn⟩, hrest⟩
    have hvalue : digitsValue 10 values = n := (foldl_eq_ofDigits 10 values).trans hn.symm
    have hsome : values ≠ [] := by
      rintro rfl
      cases hvalues
      exact hne rfl
    rw [unsigned_append hblanks hsign hne hvalues, leadingDigits_append (by decide) hvalues hrest,
      if_neg hsome, hvalue]
    exact checkRange_of_byte hbyte

/-- Which tokens are read, and as what. -/
theorem readToken_eq_ok_iff {token : List Char} (hdash : '-' ∉ token) {n : Nat} :
    readToken token = .ok n ↔ n ≤ 255 ∧ ReadsAs token n := by
  rw [readToken_eq_ok, and_comm]
  apply and_congr_right
  intro hbyte
  constructor
  · intro h
    by_cases hprefix : ['0', 'x'].isPrefixOf token = true
    · rcases List.isPrefixOf_iff_prefix.mp hprefix with ⟨text, rfl⟩
      rw [baseOf, if_pos hprefix] at h
      rcases (stoul_hex_eq_ok_iff hbyte).mp h with ⟨digits, rest, rfl, hn, hrest⟩
      show ReadsAs ('0' :: 'x' :: (digits ++ rest)) n
      exact .hex hn hrest
    · rw [baseOf, if_neg hprefix, stoul_decimal_eq_ok_iff hdash hbyte] at h
      rcases h with ⟨blanks, sign, digits, rest, rfl, hblanks, hsign, hne, hn, hrest⟩
      rw [List.isPrefixOf_iff_prefix] at hprefix
      exact .decimal hblanks hsign hne hn hrest hprefix
  · intro h
    cases h with
    | @hex digits rest n hn hrest =>
      have hprefix : ['0', 'x'].isPrefixOf ('0' :: 'x' :: (digits ++ rest)) = true := rfl
      rw [baseOf, if_pos hprefix, stoul_hex_eq_ok_iff hbyte]
      exact ⟨digits, rest, rfl, hn, hrest⟩
    | @decimal blanks sign digits rest n hblanks hsign hne hn hrest hprefix =>
      rw [← List.isPrefixOf_iff_prefix] at hprefix
      rw [baseOf, if_neg hprefix, stoul_decimal_eq_ok_iff hdash hbyte]
      exact ⟨blanks, sign, digits, rest, rfl, hblanks, hsign, hne, hn, hrest⟩

/-! ## The loop over the tokens -/

/-- Bytes stored one after the other, from the given position on. -/
def storesFrom (count : Nat) (bytes : List UInt8) : List (Nat × UInt8) :=
  (List.range' count bytes.length).zip bytes

theorem storesFrom_cons (count : Nat) (b : UInt8) (bytes : List UInt8) :
    storesFrom count (b :: bytes) = (count, b) :: storesFrom (count + 1) bytes := by
  rw [storesFrom, List.length_cons, List.range'_succ, List.zip_cons_cons]
  rfl

theorem storesFrom_positions (count : Nat) (bytes : List UInt8) :
    (storesFrom count bytes).map Prod.fst = List.range' count bytes.length := by
  rw [storesFrom, List.map_fst_zip]
  rw [List.length_range']

/-- The loop ends well: all tokens have been read, and each has given one byte. -/
def ParsesTo (selectorSize count : Nat) (ts : List (List Char)) (stores : List (Nat × UInt8))
    (bytes : List UInt8) : Prop :=
  parseTokens selectorSize ts count stores =
      .ok (count + ts.length) (stores ++ storesFrom count bytes) ∧
    List.Forall₂ (fun token b => readToken token = .ok b.toNat) ts bytes

/-- The loop throws: there are too many tokens, or one that cannot be read. -/
def Rejects (selectorSize count : Nat) (ts : List (List Char)) (stores : List (Nat × UInt8))
    (bytes : List UInt8) : Prop :=
  (∃ msg, parseTokens selectorSize ts count stores =
      .error (.configurationException msg) (stores ++ storesFrom count bytes)) ∧
    (selectorSize < count + ts.length ∨ ∃ token ∈ ts, ∀ n, readToken token ≠ .ok n)

section Round

variable {selectorSize count ul : Nat} {token : List Char}

/-- One round of the loop: the token is read, and its byte is stored. -/
theorem parseTokens_round (hroom : count < selectorSize) (hread : readToken token = .ok ul)
    (ts : List (List Char)) (stores : List (Nat × UInt8)) :
    parseTokens selectorSize (token :: ts) count stores =
      parseTokens selectorSize ts (count + 1) (stores ++ [(count, UInt8.ofNat ul)]) := by
  have hnotFull : ¬ count ≥ selectorSize := by omega
  rw [parseTokens, if_neg hnotFull, hread]
  rfl

theorem append_storesFrom (stores : List (Nat × UInt8)) (count : Nat) (b : UInt8)
    (bytes : List UInt8) :
    stores ++ [(count, b)] ++ storesFrom (count + 1) bytes =
      stores ++ storesFrom count (b :: bytes) := by
  rw [storesFrom_cons, List.append_assoc, List.singleton_append]

theorem ParsesTo.cons {ts : List (List Char)} {stores : List (Nat × UInt8)} {bytes : List UInt8}
    (hroom : count < selectorSize) (hread : readToken token = .ok ul)
    (h : ParsesTo selectorSize (count + 1) ts (stores ++ [(count, UInt8.ofNat ul)]) bytes) :
    ParsesTo selectorSize count (token :: ts) stores (UInt8.ofNat ul :: bytes) := by
  rcases h with ⟨hrun, hforall⟩
  have hbyte : (UInt8.ofNat ul).toNat = ul := by
    have hle : ul ≤ 255 := (readToken_eq_ok.mp hread).2
    rw [UInt8.toNat_ofNat']
    omega
  constructor
  · have hcount : count + 1 + ts.length = count + (token :: ts).length := by
      rw [List.length_cons]
      omega
    rw [parseTokens_round hroom hread, hrun, append_storesFrom, hcount]
  · rw [← hbyte] at hread
    exact .cons hread hforall

theorem Rejects.cons {ts : List (List Char)} {stores : List (Nat × UInt8)} {bytes : List UInt8}
    (hroom : count < selectorSize) (hread : readToken token = .ok ul)
    (h : Rejects selectorSize (count + 1) ts (stores ++ [(count, UInt8.ofNat ul)]) bytes) :
    Rejects selectorSize count (token :: ts) stores (UInt8.ofNat ul :: bytes) := by
  rcases h with ⟨⟨msg, hrun⟩, hcause⟩
  constructor
  · refine ⟨msg, ?_⟩
    rw [parseTokens_round hroom hread, hrun, append_storesFrom]
  · rcases hcause with hmany | ⟨other, hother, hnone⟩
    · left
      rw [List.length_cons]
      omega
    · right
      exact ⟨other, List.mem_cons_of_mem token hother, hnone⟩

/-- One token too many. -/
theorem Rejects.full (hfull : selectorSize ≤ count) (token : List Char) (ts : List (List Char))
    (stores : List (Nat × UInt8)) : Rejects selectorSize count (token :: ts) stores [] := by
  constructor
  · refine ⟨"bad format for 'OSI Selector' (too many bytes)", ?_⟩
    rw [parseTokens, if_pos hfull]
    simp [storesFrom, run_bind]
  · left
    rw [List.length_cons]
    omega

/-- A token that cannot be read. -/
theorem Rejects.unread {e : ImportStop} (hroom : count < selectorSize)
    (hread : readToken token = .error e) (ts : List (List Char)) (stores : List (Nat × UInt8)) :
    Rejects selectorSize count (token :: ts) stores [] := by
  rcases readToken_error hread with ⟨msg, rfl⟩
  constructor
  · have hnotFull : ¬ count ≥ selectorSize := by omega
    refine ⟨msg, ?_⟩
    rw [parseTokens, if_neg hnotFull, hread]
    simp [storesFrom, run_bind]
  · right
    refine ⟨token, List.mem_cons_self, ?_⟩
    intro n hn
    rw [hread] at hn
    cases hn

end Round

/-- **The loop stores byte after byte, never past the end**, whether it returns or throws. -/
theorem parseTokens_run (selectorSize : Nat) (ts : List (List Char)) (count : Nat)
    (stores : List (Nat × UInt8)) (hcount : count ≤ selectorSize) :
    ∃ bytes, count + bytes.length ≤ selectorSize ∧
      (ParsesTo selectorSize count ts stores bytes ∨ Rejects selectorSize count ts stores bytes) := by
  induction ts generalizing count stores with
  | nil =>
    refine ⟨[], hcount, Or.inl ⟨?_, .nil⟩⟩
    simp [parseTokens, storesFrom]
  | cons token ts ih =>
    rcases Nat.lt_or_ge count selectorSize with hroom | hfull
    · cases hread : readToken token with
      | error e => exact ⟨[], hcount, Or.inr (.unread hroom hread ts stores)⟩
      | ok ul =>
        rcases ih (count + 1) (stores ++ [(count, UInt8.ofNat ul)]) hroom with
          ⟨bytes, hbytes, hrest⟩
        refine ⟨UInt8.ofNat ul :: bytes, ?_, ?_⟩
        · rw [List.length_cons]
          omega
        · rcases hrest with hparses | hrejects
          · exact Or.inl (hparses.cons hroom hread)
          · exact Or.inr (hrejects.cons hroom hread)
    · exact ⟨[], hcount, Or.inr (.full hfull token ts stores)⟩

/-- Tokens are read as one list of bytes. -/
theorem readTokens_unique {ts : List (List Char)} {bytes bytes' : List UInt8}
    (h : List.Forall₂ (fun token b => readToken token = .ok b.toNat) ts bytes)
    (h' : List.Forall₂ (fun token b => readToken token = .ok b.toNat) ts bytes') :
    bytes = bytes' := by
  refine List.right_unique_forall₂' (fun token b b' hb hb' => ?_) h h'
  rw [hb] at hb'
  exact UInt8.toNat_inj.mp (Except.ok.inj hb')

/-- What `parseOsiSelector` does with any text. -/
theorem parseOsiSelector_run (text : String) (selectorSize : Nat) :
    ∃ bytes, bytes.length ≤ selectorSize ∧
      (ParsesTo selectorSize 0 (tokens text.toList) [] bytes ∨
        Rejects selectorSize 0 (tokens text.toList) [] bytes) := by
  rcases parseTokens_run selectorSize (tokens text.toList) 0 [] (Nat.zero_le _) with
    ⟨bytes, hbytes, hrun⟩
  exact ⟨bytes, by omega, hrun⟩

/-! ## Byte numerals -/

/-- The token is, as a whole, a decimal numeral of the byte, or `0x` and a
hexadecimal one. -/
def SpellsByte (b : UInt8) (token : List Char) : Prop :=
  (token ≠ [] ∧ Denotes 10 token b.toNat) ∨
    ∃ digits, token = '0' :: 'x' :: digits ∧ digits ≠ [] ∧ Denotes 16 digits b.toNat

/-- The token is, as a whole, a numeral of any value. -/
def IsNumeral (token : List Char) : Prop :=
  (token ≠ [] ∧ ∀ c ∈ token, ∃ d, IsDigit 10 c d) ∨
    ∃ digits, token = '0' :: 'x' :: digits ∧ digits ≠ [] ∧ ∀ c ∈ digits, ∃ d, IsDigit 16 c d

/-- What the token starts like is a byte, whatever stands behind it. -/
def StartsWithByte (token : List Char) : Prop :=
  ∃ n ≤ 255, ReadsAs token n

theorem SpellsByte.isNumeral {b : UInt8} {token : List Char} (h : SpellsByte b token) :
    IsNumeral token := by
  rcases h with ⟨hne, hn⟩ | ⟨digits, rfl, hne, hn⟩
  · exact Or.inl ⟨hne, hn.digits⟩
  · exact Or.inr ⟨digits, rfl, hne, hn.digits⟩

/-- A byte numeral is not empty, and holds no delimiter. -/
theorem SpellsByte.isPiece {b : UInt8} {token : List Char} (h : SpellsByte b token) :
    token ≠ [] ∧ ∀ c ∈ token, isDelimiter c = false := by
  rcases h with ⟨hne, hn⟩ | ⟨digits, rfl, hne, hn⟩
  · exact ⟨hne, not_delimiter_of_digits (by decide) hn.digits⟩
  · have hdigits : ∀ c ∈ digits, isDelimiter c = false :=
      not_delimiter_of_digits (by decide) hn.digits
    refine ⟨by simp, ?_⟩
    rw [List.forall_mem_cons, List.forall_mem_cons]
    exact ⟨by decide, by decide, hdigits⟩

/-- It is read as its byte. -/
theorem SpellsByte.readsAs {b : UInt8} {token : List Char} (h : SpellsByte b token) :
    ReadsAs token b.toNat := by
  rcases h with ⟨hne, hn⟩ | ⟨digits, rfl, hne, hn⟩
  · have hprefix : ¬ ['0', 'x'] <+: token := by
      rintro ⟨rest, rfl⟩
      have hx : 'x' ∉ ['0', 'x'] ++ rest := x_notMem_of_digits (by decide) hn.digits
      simp at hx
    have hread := @ReadsAs.decimal [] [] token [] b.toNat (by simp) (Or.inl rfl) hne hn (by simp)
      (by simpa using hprefix)
    simpa using hread
  · have hread := @ReadsAs.hex digits [] b.toNat hn (by simp)
    rwa [List.append_nil] at hread

/-- What follows the digits is nothing, if it had to be digits. -/
theorem eq_nil_of_digits {base : Nat} {digits rest : List Char}
    (hall : ∀ c ∈ digits ++ rest, ∃ d, IsDigit base c d)
    (hrest : ∀ c ∈ rest.head?, ∀ d, ¬ IsDigit base c d) : rest = [] := by
  cases rest with
  | nil => rfl
  | cons c rest =>
    rcases hall c (by simp) with ⟨d, hd⟩
    exact absurd hd (hrest c rfl d)

/-- A token that is a numeral is read as a whole. -/
theorem ReadsAs.spellsByte {token : List Char} {n : Nat} (h : ReadsAs token n) (hbyte : n ≤ 255)
    (hnumeral : IsNumeral token) : SpellsByte (UInt8.ofNat n) token := by
  have hn : (UInt8.ofNat n).toNat = n := by
    rw [UInt8.toNat_ofNat']
    omega
  cases h with
  | @hex digits rest n hdigits hrest =>
    rcases hnumeral with ⟨_, hall⟩ | ⟨digits', heq, hne, hall⟩
    · -- the `x` is no decimal digit
      have hx : 'x' ∉ '0' :: 'x' :: (digits ++ rest) := x_notMem_of_digits (by decide) hall
      simp at hx
    · simp only [List.cons.injEq, true_and] at heq
      rw [← heq] at hall hne
      have hnil := eq_nil_of_digits hall hrest
      rw [hnil, List.append_nil] at hne ⊢
      refine Or.inr ⟨digits, rfl, hne, ?_⟩
      rwa [hn]
  | @decimal blanks sign digits rest n hblanks hsign hne hdigits hrest hprefix =>
    rcases hnumeral with ⟨_, hall⟩ | ⟨digits', heq, _, _⟩
    -- a numeral has no blank and no sign in front
    · have hblank : blanks = [] := by
        cases blanks with
        | nil => rfl
        | cons c blanks =>
          have hspace : isSpace c = true := hblanks c List.mem_cons_self
          rw [not_space_of_digits (by decide) hall c (by simp)] at hspace
          cases hspace
      have hplus : sign = [] := by
        rcases hsign with rfl | rfl
        · rfl
        · have hplus : '+' ∉ blanks ++ (['+'] ++ (digits ++ rest)) :=
            plus_notMem_of_digits (by decide) hall
          simp at hplus
      rw [hblank, hplus, List.nil_append, List.nil_append] at hall ⊢
      rw [eq_nil_of_digits hall hrest, List.append_nil]
      refine Or.inl ⟨hne, ?_⟩
      rwa [hn]
    · exact absurd ⟨digits', by rw [heq]; rfl⟩ hprefix

/-! ## Which texts are accepted -/

/-- If the text is accepted, then all its tokens are byte numerals; and a text
with any other token is rejected by an exception. -/
def OnlyBytesAccepted (selectorSize : Nat) (text : String) : Prop :=
  (∀ count stores, parseOsiSelector text selectorSize [] = .ok count stores →
    ∀ token, IsRun isDelimiter text.toList token → ∃ b, SpellsByte b token) ∧
  ∀ token, IsRun isDelimiter text.toList token → (¬ ∃ b, SpellsByte b token) →
    ∃ msg stores, parseOsiSelector text selectorSize [] = .error (.configurationException msg) stores

theorem tokens_eq_runs (s : List Char) : tokens s = runs isDelimiter s := by
  unfold tokens runs
  apply List.filter_congr
  intro run _
  cases run <;> rfl

theorem mem_tokens_iff {s token : List Char} : token ∈ tokens s ↔ IsRun isDelimiter s token := by
  rw [tokens_eq_runs, mem_runs_iff]

theorem not_dash_of_isRun {s token : List Char} (h : IsRun isDelimiter s token) : '-' ∉ token := by
  rcases h with ⟨_, _, _, _, hrun, _⟩
  intro hmem
  have hdash := hrun '-' hmem
  revert hdash
  decide

theorem startsWithByte_iff {s token : List Char} (h : IsRun isDelimiter s token) :
    StartsWithByte token ↔ ∃ n, readToken token = .ok n :=
  exists_congr fun _ => (readToken_eq_ok_iff (not_dash_of_isRun h)).symm

/-- Of a token that starts with a byte, only numerals are bytes as a whole. -/
theorem StartsWithByte.spells_iff {token : List Char} (h : StartsWithByte token) :
    (∃ b, SpellsByte b token) ↔ IsNumeral token := by
  rcases h with ⟨n, hn, hread⟩
  constructor
  · rintro ⟨b, hb⟩
    exact hb.isNumeral
  · intro hnumeral
    exact ⟨_, hread.spellsByte hn hnumeral⟩

/-- **Only bytes are accepted** exactly when there are too many tokens, or one that
does not even start with a byte, or when every token is nothing but a numeral. -/
theorem onlyBytesAccepted_iff (selectorSize : Nat) (text : String) :
    OnlyBytesAccepted selectorSize text ↔
      selectorSize < (tokens text.toList).length ∨
        (∃ token, IsRun isDelimiter text.toList token ∧ ¬ StartsWithByte token) ∨
        ∀ token, IsRun isDelimiter text.toList token → IsNumeral token := by
  -- the run tells which side of the condition is in question
  rcases parseOsiSelector_run text selectorSize with
    ⟨bytes, hbytes, ⟨hrun, hread⟩ | ⟨⟨msg, hrun⟩, hcause⟩⟩
  · -- accepted: all tokens start with a byte, and there are not too many
    have hstart : ∀ token, IsRun isDelimiter text.toList token → StartsWithByte token := by
      intro token htoken
      rcases exists_of_forall₂ hread.flip (mem_tokens_iff.mpr htoken) with ⟨b, _, hb⟩
      exact (startsWithByte_iff htoken).mpr ⟨b.toNat, hb⟩
    have hfew : ¬ selectorSize < (tokens text.toList).length := by
      rw [hread.length_eq]
      omega
    constructor
    · intro honly
      refine Or.inr (Or.inr fun token htoken => ?_)
      exact (hstart token htoken).spells_iff.mp (honly.1 _ _ hrun token htoken)
    · rintro (hmany | ⟨token, htoken, hnot⟩ | hall)
      · exact absurd hmany hfew
      · exact absurd (hstart token htoken) hnot
      · have hbyte : ∀ token, IsRun isDelimiter text.toList token → ∃ b, SpellsByte b token :=
          fun token htoken => (hstart token htoken).spells_iff.mpr (hall token htoken)
        exact ⟨fun _ _ _ => hbyte, fun token htoken hnot => absurd (hbyte token htoken) hnot⟩
  · -- rejected, as it has to be
    refine iff_of_true ⟨?_, fun _ _ _ => ⟨msg, _, hrun⟩⟩ ?_
    · intro count stores hok
      rw [parseOsiSelector] at hok
      rw [hrun] at hok
      cases hok
    · rcases hcause with hmany | ⟨token, hmem, hnone⟩
      · exact Or.inl (by omega)
      · have htoken := mem_tokens_iff.mp hmem
        refine Or.inr (Or.inl ⟨token, htoken, fun hbyte => ?_⟩)
        rcases (startsWithByte_iff htoken).mp hbyte with ⟨n, hn⟩
        exact hnone n hn

theorem letters_parse : parseOsiSelector "12abc" 16 [] = .ok 1 [(0, 12)] := by
  have htokens : tokens "12abc".toList = ["12abc".toList] := by decide +kernel
  have hread : readToken "12abc".toList = .ok 12 := by decide +kernel
  rw [parseOsiSelector, htokens, parseTokens, hread]
  rfl

theorem signs_parse : parseOsiSelector "+1 \t2 0X12 0x" 4 [] =
    .ok 4 [(0, 1), (1, 2), (2, 0), (3, 0)] := by
  have htokens : tokens "+1 \t2 0X12 0x".toList =
      ["+1".toList, "\t2".toList, "0X12".toList, "0x".toList] := by decide +kernel
  have hplus : readToken "+1".toList = .ok 1 := by decide +kernel
  have hspace : readToken "\t2".toList = .ok 2 := by decide +kernel
  have hupper : readToken "0X12".toList = .ok 0 := by decide +kernel
  have hempty : readToken "0x".toList = .ok 0 := by decide +kernel
  rw [parseOsiSelector, htokens, parseTokens, hplus]
  show parseTokens 4 _ 1 [(0, 1)] = _
  rw [parseTokens, hspace]
  show parseTokens 4 _ 2 [(0, 1), (1, 2)] = _
  rw [parseTokens, hupper]
  show parseTokens 4 _ 3 [(0, 1), (1, 2), (2, 0)] = _
  rw [parseTokens, hempty]
  rfl

/-- A token with a character that belongs to no numeral. -/
theorem not_spellsByte_of_mem {token : List Char} {c : Char} (hc : c ∈ token)
    (hdigit : digitValue 10 c = none) (hhex : ¬ ['0', 'x'] <+: token) (b : UInt8) :
    ¬ SpellsByte b token := by
  rintro (⟨_, hn⟩ | ⟨digits, rfl, _⟩)
  · rcases hn.digits c hc with ⟨d, hd⟩
    exact (digitValue_eq_none_iff (by decide)).mp hdigit d hd
  · exact hhex ⟨digits, rfl⟩

/-- A number with letters behind it is accepted, and so are a sign, white space,
`0X` and a `0x` without digits. -/
theorem trailing_text_is_accepted :
    (parseOsiSelector "12abc" 16 [] = .ok 1 [(0, 12)] ∧ ¬ OnlyBytesAccepted 16 "12abc") ∧
      parseOsiSelector "+1 \t2 0X12 0x" 4 [] = .ok 4 [(0, 1), (1, 2), (2, 0), (3, 0)] ∧
      ¬ OnlyBytesAccepted 4 "+1 \t2 0X12 0x" := by
  refine ⟨⟨letters_parse, ?_⟩, signs_parse, ?_⟩
  · intro honly
    rcases honly.1 _ _ letters_parse "12abc".toList
      (mem_tokens_iff.mp (by decide +kernel)) with ⟨b, hb⟩
    exact not_spellsByte_of_mem (c := 'c') (by decide) (by decide) (by decide) b hb
  · intro honly
    rcases honly.1 _ _ signs_parse "+1".toList
      (mem_tokens_iff.mp (by decide +kernel)) with ⟨b, hb⟩
    exact not_spellsByte_of_mem (c := '+') (by decide) (by decide) (by decide) b hb

/-! ## From bytes to a text and back -/

/-- What a text decodes to, and how much of the selector is written. -/
structure DecodesWithin (selectorSize : Nat) : Prop where
  /-- On every exit, the positions written are the first ones, in order. -/
  positions : ∀ text, ∃ k ≤ selectorSize,
    (finalState (parseOsiSelector text selectorSize [])).map Prod.fst = List.range k
  /-- On success there is one byte for each token, and the positions behind them
  keep what they held. -/
  size : ∀ text count stores, parseOsiSelector text selectorSize [] = .ok count stores →
    count = (tokens text.toList).length ∧ count ≤ selectorSize ∧
      ∀ (value : Vector UInt8 selectorSize) (i : Nat) (hi : i < selectorSize), count ≤ i →
        (applyStores value stores)[i] = value[i]
  /-- Bytes that are written in a text are read back. -/
  roundTrip : ∀ bytes pieces text, bytes.length ≤ selectorSize →
    List.Forall₂ SpellsByte bytes pieces → Surrounded isDelimiter pieces text.toList →
    parseOsiSelector text selectorSize [] = .ok bytes.length (storesFrom 0 bytes) ∧
      ∀ (value : Vector UInt8 selectorSize) (i : Nat) (hi : i < selectorSize)
        (hbyte : i < bytes.length), (applyStores value (storesFrom 0 bytes))[i] = bytes[i]
  /-- More bytes than fit are rejected. -/
  tooMany : ∀ bytes pieces text, selectorSize < bytes.length →
    List.Forall₂ SpellsByte bytes pieces → Surrounded isDelimiter pieces text.toList →
    ∃ msg stores, parseOsiSelector text selectorSize [] =
      .error (.configurationException msg) stores

/-- A text laid out around byte numerals: its tokens, and what the loop makes of them. -/
theorem tokens_spelled {bytes : List UInt8}
    {pieces : List (List Char)} {text : String} (hpieces : List.Forall₂ SpellsByte bytes pieces)
    (htext : Surrounded isDelimiter pieces text.toList) :
    tokens text.toList = pieces ∧
      List.Forall₂ (fun token b => readToken token = .ok b.toNat) pieces bytes := by
  have htokens : tokens text.toList = pieces := by
    rw [tokens_eq_runs]
    apply htext.runs
    intro piece hpiece
    rcases exists_of_forall₂ hpieces hpiece with ⟨b, _, hb⟩
    exact hb.isPiece
  refine ⟨htokens, ?_⟩
  refine (hpieces.imp fun b token hb => ?_).flip
  have hdash : '-' ∉ token := by
    intro hmem
    have hdelimiter := hb.isPiece.2 '-' hmem
    revert hdelimiter
    decide
  have hle : b.toNat ≤ 255 := by
    have hlt := b.toNat_lt
    omega
  exact (readToken_eq_ok_iff hdash).mpr ⟨hle, hb.readsAs⟩

/-! ### The array after the stores -/

/-- A position that is not written keeps its value. -/
theorem applyStores_of_lt {n : Nat} (value : Vector UInt8 n) (bytes : List UInt8) {count i : Nat}
    (hi : i < n) (h : i < count) : (applyStores value (storesFrom count bytes))[i] = value[i] := by
  induction bytes generalizing value count with
  | nil => rfl
  | cons b bytes ih =>
    rw [storesFrom_cons]
    show (applyStores (value.setIfInBounds count b) _)[i] = _
    rw [ih _ (by omega), Vector.getElem_setIfInBounds_ne hi (by omega)]

/-- Behind the bytes that are stored, nothing changes. -/
theorem applyStores_of_le {n : Nat} (value : Vector UInt8 n) (bytes : List UInt8) {count i : Nat}
    (hi : i < n) (h : count + bytes.length ≤ i) :
    (applyStores value (storesFrom count bytes))[i] = value[i] := by
  induction bytes generalizing value count with
  | nil => rfl
  | cons b bytes ih =>
    rw [List.length_cons] at h
    rw [storesFrom_cons]
    show (applyStores (value.setIfInBounds count b) _)[i] = _
    rw [ih _ (by omega), Vector.getElem_setIfInBounds_ne hi (by omega)]

/-- Each byte is found at its own position. -/
theorem applyStores_getElem {n : Nat} (value : Vector UInt8 n) (bytes : List UInt8) {count i : Nat}
    (hi : count + i < n) (hbyte : i < bytes.length) :
    (applyStores value (storesFrom count bytes))[count + i] = bytes[i] := by
  induction bytes generalizing value count i with
  | nil => cases hbyte
  | cons b bytes ih =>
    rw [List.getElem_cons]
    simp only [storesFrom_cons]
    show (applyStores (value.setIfInBounds count b) (storesFrom (count + 1) bytes))[count + i] = _
    split
    · next hzero =>
      subst hzero
      rw [applyStores_of_lt _ _ _ (by omega)]
      exact Vector.getElem_setIfInBounds_self ..
    · next hpos =>
      rw [List.length_cons] at hbyte
      have hrest := ih (value.setIfInBounds count b) (show count + 1 + (i - 1) < n by omega)
        (by omega)
      have hindex : count + 1 + (i - 1) = count + i := by omega
      simpa only [hindex] using hrest

/-- A text that is laid out around byte numerals is parsed, if they fit. -/
theorem parseOsiSelector_spelled {selectorSize : Nat} {bytes : List UInt8}
    {pieces : List (List Char)} {text : String} (hfit : bytes.length ≤ selectorSize)
    (hpieces : List.Forall₂ SpellsByte bytes pieces)
    (htext : Surrounded isDelimiter pieces text.toList) :
    parseOsiSelector text selectorSize [] = .ok bytes.length (storesFrom 0 bytes) := by
  rcases tokens_spelled hpieces htext with ⟨htokens, hread⟩
  have hlength : pieces.length = bytes.length := hread.length_eq
  rcases parseOsiSelector_run text selectorSize with ⟨bytes', _, ⟨hrun, hread'⟩ | ⟨_, hcause⟩⟩
  · rw [htokens] at hrun hread'
    have heq : bytes' = bytes := readTokens_unique hread' hread
    rw [parseOsiSelector, htokens, hrun, heq, hlength, Nat.zero_add]
    rfl
  · -- nothing is a reason to reject the text
    rw [htokens] at hcause
    rcases hcause with hmany | ⟨token, hmem, hnone⟩
    · omega
    · rcases exists_of_forall₂ hread.flip hmem with ⟨b, _, hb⟩
      exact absurd hb (hnone _)

/-- **Selector texts decode to their bytes, within bounds**, whatever the capacity. -/
theorem decodesWithin (selectorSize : Nat) : DecodesWithin selectorSize where
  positions text := by
    rcases parseOsiSelector_run text selectorSize with
      ⟨bytes, hbytes, ⟨hrun, _⟩ | ⟨⟨msg, hrun⟩, _⟩⟩
    all_goals
      refine ⟨bytes.length, hbytes, ?_⟩
      rw [parseOsiSelector, hrun]
      show (storesFrom 0 bytes).map Prod.fst = _
      rw [storesFrom_positions, List.range_eq_range']
  size text count stores h := by
    rcases parseOsiSelector_run text selectorSize with
      ⟨bytes, hbytes, ⟨hrun, hread⟩ | ⟨⟨msg, hrun⟩, _⟩⟩
    · rw [parseOsiSelector, hrun] at h
      cases h
      have hlength : (tokens text.toList).length = bytes.length := hread.length_eq
      refine ⟨Nat.zero_add _, by omega, ?_⟩
      intro value i hi hcount
      exact applyStores_of_le value bytes hi (by omega)
    · rw [parseOsiSelector, hrun] at h
      cases h
  roundTrip bytes pieces text hfit hpieces htext := by
    refine ⟨parseOsiSelector_spelled hfit hpieces htext, ?_⟩
    intro value i hi hbyte
    have hbyteAt := applyStores_getElem value bytes (show 0 + i < selectorSize by omega) hbyte
    simpa only [Nat.zero_add] using hbyteAt
  tooMany bytes pieces text hmany hpieces htext := by
    rcases tokens_spelled hpieces htext with ⟨htokens, hread⟩
    have hlength : pieces.length = bytes.length := hread.length_eq
    rcases parseOsiSelector_run text selectorSize with
      ⟨bytes', hbytes', ⟨_, hread'⟩ | ⟨⟨msg, hrun⟩, _⟩⟩
    · -- each token has given a byte that fits
      rw [htokens] at hread'
      have hlength' : pieces.length = bytes'.length := hread'.length_eq
      omega
    · exact ⟨msg, _, hrun⟩

end Iec61850South
