import Iec61850South.Config.Dictionaries

/-! # Which texts are IP addresses

`inet_pton` takes nothing but four decimal numbers with dots in between, and none of
them may start with a zero that is not needed. So each address has one text, and
connections to one endpoint have one key. What an import stores, also one that stops
halfway, has an endpoint.
-/

namespace Iec61850South

open Lib Std

/-! ## Decimal numbers -/

/-- The text of an address. -/
def dottedDecimal (octets : List UInt8) : String :=
  ".".intercalate (octets.map fun octet => octet.toNat.repr)

/-- What follows the first octet. -/
def dottedRest (octets : List UInt8) : List Char :=
  octets.flatMap fun octet => '.' :: Nat.toDigits 10 octet.toNat

theorem dottedRest_cons (octet : UInt8) (octets : List UInt8) :
    dottedRest (octet :: octets) =
      '.' :: (Nat.toDigits 10 octet.toNat ++ dottedRest octets) := by
  rw [dottedRest, List.flatMap_cons]
  rfl

theorem dottedDecimal_toList (octet : UInt8) (octets : List UInt8) :
    (dottedDecimal (octet :: octets)).toList =
      Nat.toDigits 10 octet.toNat ++ dottedRest octets := by
  have hdot : ".".toList = ['.'] := rfl
  induction octets generalizing octet with
  | nil =>
    rw [dottedDecimal, List.map_cons, List.map_nil, String.intercalate_singleton, Nat.toList_repr,
      dottedRest, List.flatMap_nil, List.append_nil]
  | cons next octets ih =>
    have hrest := ih next
    rw [dottedDecimal, List.map_cons] at hrest
    rw [dottedDecimal, List.map_cons, List.map_cons, String.intercalate_cons_cons,
      String.toList_append, String.toList_append, hrest, Nat.toList_repr, hdot, dottedRest_cons,
      List.append_assoc, List.singleton_append]

theorem toNat_digitChar {d : Nat} (hd : d < 10) : d.digitChar.toNat - 48 = d := by
  rw [Nat.toNat_digitChar_of_lt_ten hd]
  omega

theorem exists_digitChar {c : Char} (h : '0' ≤ c ∧ c ≤ '9') : ∃ d, d < 10 ∧ c = d.digitChar := by
  have hlow : 48 ≤ c.toNat := h.1
  have hhigh : c.toNat ≤ 57 := h.2
  have hd : c.toNat - 48 < 10 := by omega
  refine ⟨c.toNat - 48, hd, Char.toNat_inj.mp ?_⟩
  rw [Nat.toNat_digitChar_of_lt_ten hd]
  omega

theorem digitChar_range {d : Nat} (hd : d < 10) : '0' ≤ d.digitChar ∧ d.digitChar ≤ '9' := by
  have hnat : d.digitChar.toNat = 48 + d := Nat.toNat_digitChar_of_lt_ten hd
  have hlow : 48 ≤ d.digitChar.toNat := by omega
  have hhigh : d.digitChar.toNat ≤ 57 := by omega
  exact ⟨hlow, hhigh⟩

/-- A further digit. -/
theorem toDigits_snoc {n d : Nat} (hn : 0 < n) (hd : d < 10) :
    Nat.toDigits 10 n ++ [d.digitChar] = Nat.toDigits 10 (n * 10 + d) := by
  rw [← Nat.toDigits_of_lt_base hd, Nat.toDigits_append_toDigits (by decide) hn hd, Nat.mul_comm]

theorem dot_notMem_toDigits (n : Nat) : '.' ∉ Nat.toDigits 10 n := by
  intro hmem
  have hdigit : '.'.isDigit = true := Nat.isDigit_of_mem_toDigits (by decide) (by decide) hmem
  revert hdigit
  decide

/-! ## The loop of `inet_pton` -/

section Loop

variable {cs : List Char} {octets octet d : Nat}

theorem inetPton4_firstDigit (hd : d < 10) (hroom : octets ≠ 4) :
    inetPton4 (d.digitChar :: cs) octets false 0 = inetPton4 cs (octets + 1) true d := by
  have hle : ¬ d > 255 := by omega
  rw [inetPton4, if_pos (digitChar_range hd)]
  simp [toNat_digitChar hd, hle, hroom]

/-- A further digit of a number, which may not have started with a zero. -/
theorem inetPton4_nextDigit (hd : d < 10) :
    inetPton4 (d.digitChar :: cs) octets true octet =
      if octet = 0 ∨ octet * 10 + d > 255 then false
      else inetPton4 cs octets true (octet * 10 + d) := by
  rw [inetPton4, if_pos (digitChar_range hd)]
  by_cases hzero : octet = 0
  · simp [hzero]
  · simp [toNat_digitChar hd, hzero]

theorem inetPton4_dot : inetPton4 ('.' :: cs) octets true octet =
    if octets = 4 then false else inetPton4 cs octets false 0 := by
  have hdot : ¬ ('0' ≤ '.' ∧ '.' ≤ '9') := by decide
  rw [inetPton4, if_neg hdot, if_pos ⟨rfl, rfl⟩]

/-- Before the first digit, nothing but a digit is accepted. -/
theorem inetPton4_start {c : Char} (h : inetPton4 (c :: cs) octets false octet = true) :
    ∃ d, d < 10 ∧ c = d.digitChar := by
  by_cases hdigit : '0' ≤ c ∧ c ≤ '9'
  · exact exists_digitChar hdigit
  · rw [inetPton4, if_neg hdigit, if_neg (by simp)] at h
    cases h

/-- A decimal number is read as a whole. -/
theorem inetPton4_number {n : Nat} (hn : n ≤ 255) (hroom : octets ≠ 4) :
    inetPton4 (Nat.toDigits 10 n ++ cs) octets false 0 = inetPton4 cs (octets + 1) true n := by
  induction n using Nat.strongRecOn generalizing cs with
  | _ n ih =>
    by_cases hsmall : n < 10
    · rw [Nat.toDigits_of_lt_base hsmall, List.singleton_append,
        inetPton4_firstDigit hsmall hroom]
    · have hlast : n % 10 < 10 := by omega
      have hfront : 0 < n / 10 := by omega
      have hwhole : n / 10 * 10 + n % 10 = n := by omega
      have hgo : ¬ (n / 10 = 0 ∨ n / 10 * 10 + n % 10 > 255) := by omega
      have hsnoc := toDigits_snoc hfront hlast
      rw [hwhole] at hsnoc
      rw [← hsnoc, List.append_assoc, List.singleton_append, ih (n / 10) (by omega) (by omega),
        inetPton4_nextDigit hlast, if_neg hgo, hwhole]

/-- The numbers that are left are read. -/
theorem inetPton4_rest {rest : List UInt8} (hcount : octets + rest.length = 4) (n : Nat) :
    inetPton4 (dottedRest rest) octets true n = true := by
  induction rest generalizing octets n with
  | nil =>
    rw [List.length_nil, Nat.add_zero] at hcount
    subst hcount
    rfl
  | cons b rest ih =>
    rw [List.length_cons] at hcount
    have hroom : octets ≠ 4 := by omega
    have hle : b.toNat ≤ 255 := by
      have hlt := b.toNat_lt
      omega
    rw [dottedRest_cons, inetPton4_dot, if_neg hroom, inetPton4_number hle hroom]
    exact ih (by omega) b.toNat

/-- What is accepted while a number is read, and before one is read. -/
theorem inetPton4_sound (cs : List Char) :
    (∀ {octets octet}, octet ≤ 255 → octets ≤ 4 → inetPton4 cs octets true octet = true →
      ∃ b rest, Nat.toDigits 10 octet ++ cs = Nat.toDigits 10 (UInt8.toNat b) ++ dottedRest rest ∧
        octets + rest.length = 4) ∧
    ∀ {octets}, octets < 4 → inetPton4 cs octets false 0 = true →
      ∃ b rest, cs = Nat.toDigits 10 (UInt8.toNat b) ++ dottedRest rest ∧
        octets + 1 + rest.length = 4 := by
  induction cs with
  | nil =>
    constructor
    · intro octets octet hle hcount h
      have hfour : octets = 4 := by simpa [inetPton4] using h
      refine ⟨UInt8.ofNat octet, [], ?_, by rw [hfour]; rfl⟩
      rw [UInt8.toNat_ofNat_of_lt' (by show octet < 256; omega)]
      rfl
    · intro octets hcount h
      have hfour : octets = 4 := by simpa [inetPton4] using h
      omega
  | cons c cs ih =>
    constructor
    · intro octets octet hle hcount h
      by_cases hdigit : '0' ≤ c ∧ c ≤ '9'
      · rcases exists_digitChar hdigit with ⟨d, hd, rfl⟩
        rw [inetPton4_nextDigit hd] at h
        -- a zero in front and an octet above 255 are refused
        by_cases hstop : octet = 0 ∨ octet * 10 + d > 255
        · rw [if_pos hstop] at h
          cases h
        · rw [if_neg hstop] at h
          have hpos : 0 < octet := by omega
          rcases ih.1 (by omega) hcount h with ⟨b, rest, htext, hlength⟩
          refine ⟨b, rest, ?_, hlength⟩
          rw [← htext, ← toDigits_snoc hpos hd, List.append_assoc, List.singleton_append]
      · by_cases hdot : c = '.'
        · subst hdot
          rw [inetPton4_dot] at h
          -- the octet ends here, and the next one begins
          by_cases hfull : octets = 4
          · rw [if_pos hfull] at h
            cases h
          · rw [if_neg hfull] at h
            rcases ih.2 (by omega) h with ⟨b, rest, htext, hlength⟩
            refine ⟨UInt8.ofNat octet, b :: rest, ?_, by rw [List.length_cons]; omega⟩
            rw [UInt8.toNat_ofNat_of_lt' (by show octet < 256; omega), dottedRest_cons, htext]
        · rw [inetPton4, if_neg hdigit, if_neg (by simp [hdot])] at h
          cases h
    · intro octets hcount h
      rcases inetPton4_start h with ⟨d, hd, rfl⟩
      rw [inetPton4_firstDigit hd (by omega)] at h
      rcases ih.1 (by omega) (by omega) h with ⟨b, rest, htext, hlength⟩
      refine ⟨b, rest, ?_, hlength⟩
      rw [← htext, Nat.toDigits_of_lt_base hd]
      rfl

end Loop

/-! ## Addresses -/

/-- **The accepted addresses** are the texts of four bytes, without any other spelling. -/
theorem isValidIPAddress_iff_dotted {addrStr : String} : isValidIPAddress addrStr = true ↔
    ∃ octets, octets.length = 4 ∧ addrStr = dottedDecimal octets := by
  constructor
  · intro h
    rcases (inetPton4_sound addrStr.toList).2 (by decide) h with ⟨b, rest, htext, hlength⟩
    refine ⟨b :: rest, by rw [List.length_cons]; omega, String.toList_injective ?_⟩
    rw [htext, dottedDecimal_toList]
  · rintro ⟨octets, hlength, rfl⟩
    cases octets with
    | nil => cases hlength
    | cons b rest =>
      have hle : b.toNat ≤ 255 := by
        have hlt := b.toNat_lt
        omega
      rw [List.length_cons] at hlength
      rw [isValidIPAddress, dottedDecimal_toList, inetPton4_number hle (by decide)]
      exact inetPton4_rest (by omega) b.toNat

/-- Two texts are of two addresses. -/
theorem dottedDecimal_injective {octets octets' : List UInt8} (hlength : octets.length = 4)
    (hlength' : octets'.length = 4) (h : dottedDecimal octets = dottedDecimal octets') :
    octets = octets' := by
  have hsplit : ∀ os : List UInt8, os.length = 4 →
      (dottedDecimal os).toList.splitOn '.' = os.map fun o => Nat.toDigits 10 o.toNat := by
    intro os hos
    have hne : (os.map fun o => Nat.toDigits 10 o.toNat) ≠ [] := by
      intro hnil
      rw [List.map_eq_nil_iff.mp hnil] at hos
      cases hos
    have hdots : ∀ l ∈ os.map fun o => Nat.toDigits 10 o.toNat, '.' ∉ l := by
      intro l hl
      rcases List.mem_map.mp hl with ⟨o, _, rfl⟩
      exact dot_notMem_toDigits o.toNat
    have htext : (dottedDecimal os).toList =
        ['.'].intercalate (os.map fun o => Nat.toDigits 10 o.toNat) := by
      rw [dottedDecimal, String.toList_intercalate, List.map_map]
      refine congrArg _ (List.map_congr_left fun o _ => ?_)
      exact Nat.toList_repr
    rw [htext, List.splitOn_intercalate '.' hdots hne]
  have hmap : (octets.map fun o => Nat.toDigits 10 o.toNat) =
      octets'.map fun o => Nat.toDigits 10 o.toNat := by
    rw [← hsplit octets hlength, ← hsplit octets' hlength', h]
  refine List.map_injective_iff.mpr (fun o o' heq => ?_) hmap
  have hnat : o.toNat = o'.toNat := by
    rw [← Nat.ofDigitChars_ten_toDigits (n := o.toNat), heq, Nat.ofDigitChars_ten_toDigits]
  exact UInt8.toNat_inj.mp hnat

/-! ## Connections -/

/-- An IPv4 address and a port. -/
abbrev Endpoint := List UInt8 × Int

/-- A client with these parameters connects to the endpoint. -/
def ServerConnectionParameters.Reaches (param : ServerConnectionParameters)
    (endpoint : Endpoint) : Prop :=
  endpoint.1.length = 4 ∧ param.ipAddress = dottedDecimal endpoint.1 ∧ param.mmsPort = endpoint.2

theorem exists_reaches {param : ServerConnectionParameters}
    (h : isValidIPAddress param.ipAddress = true) : ∃ endpoint, param.Reaches endpoint := by
  rcases isValidIPAddress_iff_dotted.mp h with ⟨octets, hlength, htext⟩
  exact ⟨(octets, param.mmsPort), hlength, htext, rfl⟩

/-- Connections to one endpoint are stored under one key, and only they are. -/
theorem buildKey_eq_iff_endpoint {param param' : ServerConnectionParameters}
    {endpoint endpoint' : Endpoint} (h : param.Reaches endpoint) (h' : param'.Reaches endpoint') :
    buildKey param = buildKey param' ↔ endpoint = endpoint' := by
  rcases h with ⟨hlength, haddress, hport⟩
  rcases h' with ⟨hlength', haddress', hport'⟩
  have hvalid : isValidIPAddress param.ipAddress = true :=
    isValidIPAddress_iff_dotted.mpr ⟨_, hlength, haddress⟩
  have hvalid' : isValidIPAddress param'.ipAddress = true :=
    isValidIPAddress_iff_dotted.mpr ⟨_, hlength', haddress'⟩
  constructor
  · intro hkey
    rcases buildKey_injective hvalid hvalid' hkey with ⟨htext, hports⟩
    rw [haddress, haddress'] at htext
    exact Prod.ext (dottedDecimal_injective hlength hlength' htext)
      (hport.symm.trans (hports.trans hport'))
  · rintro rfl
    rw [buildKey, buildKey, haddress, haddress', hport, hport']

/-- A connection that is stored has an endpoint. -/
def Assignment.HasEndpoint : Assignment → Prop
  | .server param => ∃ endpoint, param.Reaches endpoint
  | _ => True

variable (plat : Platform)

theorem connectionAssignments_endpoint (uninit : OsiParameters) (connConfig : Json) :
    (connectionAssignments uninit connConfig).EmitsIn Assignment.HasEndpoint := by
  refine .after fun param hparam => ?_
  intro a ha
  cases List.mem_singleton.mp ha
  exact exists_reaches (connectionOf_stored hparam).2

/-- Assignments of another kind. -/
theorem emitsIn_of_no_server {l : List Assignment} {stop : Option ImportStop}
    (h : ∀ a ∈ l, a.server? = none) : Emission.EmitsIn Assignment.HasEndpoint ⟨l, stop⟩ := by
  intro a ha
  have hnone : a.server? = none := h a ha
  cases a with
  | server param => cases hnone
  | _ => trivial

theorem protocolAssignments_endpoint (protocolConfig : String) :
    (protocolAssignments plat protocolConfig).EmitsIn Assignment.HasEndpoint := by
  refine .after fun protocolStack _ => .after fun transportLayer _ => .seq (.after ?_) (.after ?_)
  · intro header _
    refine .seq (emitsIn_of_no_server (by simp [Assignment.server?])) (.seqAll fun x hx => ?_)
    rcases List.mem_map.mp hx with ⟨conn, _, rfl⟩
    exact connectionAssignments_endpoint (plat.uninit conn.2) conn.1
  · intro applicationLayer _
    refine .after fun period _ => .seq (emitsIn_of_no_server ?_) (.after fun mode _ =>
      emitsIn_of_no_server ?_)
    · simp [Assignment.server?]
    · simp [Assignment.server?]

/-- An optional section stores no connection. -/
theorem optionalItemAssignments_endpoint (item : Option String) {α : Type}
    {header : String → Except ImportStop (List Json)} {decode : Json → Except ImportStop α}
    {put : α → Assignment} (hput : ∀ a, (put a).server? = none) :
    (optionalItemAssignments item fun text => .after (header text) fun elements =>
      .seqAll (elements.map fun x => .after (decode x) fun a => .emit (put a))).EmitsIn
        Assignment.HasEndpoint := by
  cases item with
  | none => exact .silent rfl
  | some text =>
    refine .after fun elements _ => .seqAll fun x hx => ?_
    rcases List.mem_map.mp hx with ⟨element, _, rfl⟩
    refine .after fun a _ => emitsIn_of_no_server ?_
    intro b hb
    cases List.mem_singleton.mp hb
    exact hput a

/-- Every connection that an import stores has an endpoint, whether it is accepted or not. -/
theorem configAssignments_endpoint (newConfig : ConfigCategory) :
    (configAssignments plat newConfig).EmitsIn Assignment.HasEndpoint := by
  refine .seq (emitsIn_of_no_server ?_) (.seq ?_ (.seq ?_ ?_))
  · simp [itemAssignments, Assignment.server?]
  · cases newConfig.getValue? "protocol_stack" with
    | none => exact .silent rfl
    | some text => exact protocolAssignments_endpoint plat text
  · exact optionalItemAssignments_endpoint _ fun _ => rfl
  · exact optionalItemAssignments_endpoint _ fun _ => rfl

end Iec61850South
