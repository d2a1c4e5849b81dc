import IncidentDigest.Json.Reader
import IncidentDigest.Json.Writer
import IncidentDigest.Proofs.Numeral.Padded

/-!
# Strings and integers in a text

A written string reads back as the string, whatever characters it holds: each character is
one piece, and the pieces stand for the characters.  A written integer of 64 bits reads back
as the integer, if what follows does not continue the numeral.
-/

namespace IncidentDigest.Json

open IncidentDigest.Numeral (digitChar digitValue digitValue_digitChar digits digits_isDigit
  digits_ne_nil signedBound unsignedBound value value_cons value_digits)

/-! ## 1. Characters of a string -/

/-- The piece that the text of a character is read as. -/
def pieceOf (c : Char) : Piece :=
  if c ∈ ['\x08', '\x0c', '\n', '\r', '\t'] then .char c
  else if c.toNat < 0x20 then .unit c.toNat
  else .char c

theorem hexValue?_hexDigit {d : Nat} (h : d < 16) : hexValue? (hexDigit d) = some d := by
  have all : ∀ d, d < 16 → hexValue? (hexDigit d) = some d := by decide
  exact all d h

theorem readPieces_unit {n : Nat} (h : n < 0x20) (rest : List Char) :
    readPieces (['\\', 'u', '0', '0', hexDigit (n / 16), hexDigit (n % 16)] ++ rest) =
      (readPieces rest).map fun p => (.unit n :: p.1, p.2) := by
  have hhigh := hexValue?_hexDigit (d := n / 16) (by omega)
  have hlow := hexValue?_hexDigit (d := n % 16) (by omega)
  have hzero : hexValue? '0' = some 0 := rfl
  have hn : n / 16 * 16 + n % 16 = n := Nat.div_add_mod' n 16
  simp only [List.cons_append, List.nil_append, readPieces, hzero, hhigh, hlow,
    Option.bind_eq_bind, Option.bind_some, Nat.zero_mul, Nat.zero_add, hn]
  cases readPieces rest with
  | none => rfl
  | some p => rfl

theorem readPieces_letter {letter c : Char} (h : unescape? letter = some c) (rest : List Char) :
    readPieces ('\\' :: letter :: rest) = (readPieces rest).map fun p => (.char c :: p.1, p.2) := by
  have hu : letter ≠ 'u' := by
    rintro rfl
    cases h
  rw [readPieces.eq_4 letter rest fun _ _ _ _ _ heq => absurd heq hu, h]
  cases readPieces rest with
  | none => rfl
  | some p => rfl

theorem readPieces_plain {c : Char} (hquote : c ≠ '"') (hslash : c ≠ '\\') (hc : ¬ c.toNat < 0x20)
    (rest : List Char) :
    readPieces (c :: rest) = (readPieces rest).map fun p => (.char c :: p.1, p.2) := by
  rw [readPieces.eq_5 c rest hquote (fun _ _ _ _ _ heq => absurd heq hslash)
    (fun _ _ heq => absurd heq hslash), if_neg (by simp [hslash, hc])]
  cases readPieces rest with
  | none => rfl
  | some p => rfl

/-- The text of a character is read as one piece, whatever follows. -/
theorem readPieces_escapeChar (c : Char) (rest : List Char) :
    readPieces (escapeChar c ++ rest) = (readPieces rest).map fun p => (pieceOf c :: p.1, p.2) := by
  unfold escapeChar
  split
  · exact readPieces_letter rfl rest
  · exact readPieces_letter rfl rest
  · exact readPieces_letter rfl rest
  · exact readPieces_letter rfl rest
  · exact readPieces_letter rfl rest
  · exact readPieces_letter rfl rest
  · exact readPieces_letter rfl rest
  · rename_i hquote hslash hback hfeed hline hreturn htab
    have hletters : c ∉ ['\x08', '\x0c', '\n', '\r', '\t'] := by simp_all
    rw [pieceOf, if_neg hletters]
    split
    · rename_i hcontrol
      exact readPieces_unit hcontrol rest
    · rename_i hcontrol
      exact readPieces_plain hquote hslash hcontrol rest

theorem readPieces_flatMap (cs rest : List Char) :
    readPieces (cs.flatMap escapeChar ++ '"' :: rest) = some (cs.map pieceOf, rest) := by
  induction cs with
  | nil => rfl
  | cons c cs ih =>
      rw [List.flatMap_cons, List.append_assoc, readPieces_escapeChar, ih]
      rfl

/-- A unit below the surrogates stands for itself, whatever follows. -/
theorem textOfPieces?_unit {n : Nat} (h : n < 0xD800) (pieces : List Piece) :
    textOfPieces? (.unit n :: pieces) = (textOfPieces? pieces).map (Char.ofNat n :: ·) := by
  have hsurrogate : ¬ 0xD800 ≤ n := by omega
  have hsecond : ¬ 0xDC00 ≤ n := by omega
  have hlast : ∀ rest : List Piece, (∀ m ps, rest = .unit m :: ps → False) →
      textOfPieces? (.unit n :: rest) = (textOfPieces? rest).map (Char.ofNat n :: ·) := by
    intro rest hrest
    rw [textOfPieces?.eq_4 n rest hrest, if_neg (by simp [hsurrogate])]
  cases pieces with
  | nil => exact hlast [] (by simp)
  | cons piece pieces =>
      cases piece with
      | char c => exact hlast _ (by simp)
      | unit m =>
          rw [textOfPieces?.eq_3, if_neg (by simp [hsurrogate]), if_neg (by simp [hsecond])]

theorem textOfPieces?_pieceOf (c : Char) (pieces : List Piece) :
    textOfPieces? (pieceOf c :: pieces) = (textOfPieces? pieces).map (c :: ·) := by
  unfold pieceOf
  split
  · rfl
  · split
    · rw [textOfPieces?_unit (by omega), Char.ofNat_toNat]
    · rfl

theorem textOfPieces?_map (cs : List Char) : textOfPieces? (cs.map pieceOf) = some cs := by
  induction cs with
  | nil => rfl
  | cons c cs ih => rw [List.map_cons, textOfPieces?_pieceOf, ih, Option.map_some]

theorem pieceText?_map (s : String) : pieceText? (s.toList.map pieceOf) = some s := by
  rw [pieceText?, textOfPieces?_map, Option.map_some, String.ofList_toList]

theorem quoted_append (s : String) (rest : List Char) :
    quoted s ++ rest = '"' :: (s.toList.flatMap escapeChar ++ '"' :: rest) := by
  rw [quoted, List.cons_append, List.append_assoc]
  rfl

/-! ## 2. Numerals -/

/-- What follows does not continue a numeral. -/
def EndsNumeral (rest : List Char) : Prop :=
  ∀ c ∈ rest.head?, c.isDigit = false ∧ c ≠ '.' ∧ c ≠ 'e' ∧ c ≠ 'E'

theorem endsNumeral_nil : EndsNumeral [] := by
  intro c hc
  cases hc

theorem readDigits?_append {ds rest : List Char} (hds : ∀ c ∈ ds, c.isDigit = true)
    (hne : ds ≠ []) (hrest : ∀ c ∈ rest.head?, c.isDigit = false) :
    readDigits? (ds ++ rest) = some (ds, rest) := by
  have htake : rest.takeWhile Char.isDigit = [] ∧ rest.dropWhile Char.isDigit = rest := by
    cases rest with
    | nil => exact ⟨rfl, rfl⟩
    | cons c rest =>
        have hc : ¬ c.isDigit = true := by simp [hrest c rfl]
        exact ⟨List.takeWhile_cons_of_neg hc, List.dropWhile_cons_of_neg hc⟩
  unfold readDigits?
  dsimp only
  rw [List.takeWhile_append_of_pos hds, List.dropWhile_append_of_pos hds, htake.1, htake.2,
    List.append_nil, if_neg (by simpa using hne)]

/-- The digits behind the point, with the point. -/
def fractionChars : List Char → List Char
  | [] => []
  | c :: cs => '.' :: c :: cs

/-- The exponent, always with a sign. -/
def scaleChars : Option (Bool × List Char) → List Char
  | none => []
  | some (positive, ds) => 'e' :: (if positive then '+' else '-') :: ds

theorem readFraction?_append {ds rest : List Char} (hds : ∀ c ∈ ds, c.isDigit = true)
    (hrest : ∀ c ∈ rest.head?, c.isDigit = false ∧ c ≠ '.') :
    readFraction? (fractionChars ds ++ rest) = some (ds, rest) := by
  cases ds with
  | nil =>
      unfold fractionChars readFraction?
      rw [List.nil_append]
      split
      · exact absurd rfl (hrest '.' rfl).2
      · rfl
  | cons c ds => exact readDigits?_append hds (by simp) fun d hd => (hrest d hd).1

theorem readScale?_append {scale : Option (Bool × List Char)} {rest : List Char}
    (hscale : ∀ p ∈ scale, p.2 ≠ [] ∧ ∀ c ∈ p.2, c.isDigit = true) (hrest : EndsNumeral rest) :
    readScale? (scaleChars scale ++ rest) = some (scale, rest) := by
  cases scale with
  | none =>
      cases rest with
      | nil => rfl
      | cons c rest =>
          obtain ⟨-, -, hlower, hupper⟩ := hrest c rfl
          exact if_neg (by simp [hlower, hupper])
  | some scale =>
      obtain ⟨positive, ds⟩ := scale
      obtain ⟨hne, hds⟩ := hscale (positive, ds) rfl
      have hread := readDigits?_append hds hne fun c hc => (hrest c hc).1
      cases positive with
      | true =>
          change (readDigits? (ds ++ rest)).map (fun p => (some (true, p.1), p.2)) = _
          rw [hread, Option.map_some]
      | false =>
          change (readDigits? (ds ++ rest)).map (fun p => (some (false, p.1), p.2)) = _
          rw [hread, Option.map_some]

theorem scaleChars_head (scale : Option (Bool × List Char)) {rest : List Char}
    (hrest : EndsNumeral rest) :
    ∀ c ∈ (scaleChars scale ++ rest).head?, c.isDigit = false ∧ c ≠ '.' := by
  intro c hc
  cases scale with
  | none => exact ⟨(hrest c hc).1, (hrest c hc).2.1⟩
  | some scale =>
      obtain rfl : 'e' = c := Option.some.inj hc
      decide

namespace Numeral

/-- A numeral that the grammar has a text for. -/
structure Grammatical (n : Numeral) : Prop where
  whole : n.whole ≠ [] ∧ ∀ c ∈ n.whole, c.isDigit = true
  /-- A zero in front stands alone. -/
  zeroAlone : n.whole.head? = some '0' → n.whole.length = 1
  fraction : ∀ c ∈ n.fraction, c.isDigit = true
  scale : ∀ p ∈ n.scale, p.2 ≠ [] ∧ ∀ c ∈ p.2, c.isDigit = true

def unsignedChars (n : Numeral) : List Char :=
  n.whole ++ (fractionChars n.fraction ++ scaleChars n.scale)

/-- The text of a numeral. -/
def chars (n : Numeral) : List Char := (if n.negative then ['-'] else []) ++ n.unsignedChars

theorem Grammatical.readNumeral? {n : Numeral} (h : n.Grammatical) {rest : List Char}
    (hrest : EndsNumeral rest) :
    readNumeral? n.negative (n.unsignedChars ++ rest) = some (n, rest) := by
  have hscaleHead := scaleChars_head n.scale hrest
  have hfraction := readFraction?_append h.fraction hscaleHead
  have hfractionHead : ∀ c ∈ (fractionChars n.fraction ++ (scaleChars n.scale ++ rest)).head?,
      c.isDigit = false := by
    intro c hc
    cases hdigits : n.fraction with
    | nil =>
        rw [hdigits] at hc
        exact (hscaleHead c hc).1
    | cons d ds =>
        rw [hdigits] at hc
        obtain rfl : '.' = c := Option.some.inj hc
        rfl
  have hwhole := readDigits?_append h.whole.2 h.whole.1 hfractionHead
  have hzero : (n.whole.head? == some '0' && n.whole.length != 1) = false := by
    by_cases hhead : n.whole.head? = some '0'
    · simp [h.zeroAlone hhead]
    · simp [hhead]
  unfold Json.readNumeral? unsignedChars
  simp only [List.append_assoc, hwhole, Option.bind_eq_bind, Option.bind_some, hzero, hfraction,
    readScale?_append h.scale hrest]
  rfl

end Numeral

/-- Only zero starts with a zero. -/
theorem head?_digits {n : Nat} (h : (digits n).head? = some '0') : n = 0 := by
  induction n using Nat.strong_induction_on with
  | _ n ih =>
      rw [digits] at h
      split at h
      · rename_i hn
        have hzero : digitChar n = '0' := Option.some.inj h
        have hvalue := digitValue_digitChar hn
        rw [hzero] at hvalue
        exact hvalue.symm
      · rename_i hn
        rw [List.head?_append_of_ne_nil _ (digits_ne_nil _)] at h
        have hdiv := ih (n / 10) (by omega) h
        omega

theorem grammatical_digits (negative : Bool) (n : Nat) :
    Numeral.Grammatical ⟨negative, digits n, [], none⟩ where
  whole := ⟨digits_ne_nil n, digits_isDigit n⟩
  zeroAlone := by
    intro h
    rw [head?_digits h, digits]
    rfl
  fraction := by
    intro c hc
    cases hc
  scale := by
    intro p hp
    cases hp

/-! ## 3. Integers -/

namespace Numeral

/-- Digits below `2 ^ 64` all go into the significand. -/
theorem extendSignificand_eq {significand : Nat} {ds : List Char}
    (h : significand * 10 ^ ds.length + value ds < unsignedBound) :
    extendSignificand significand ds = (significand * 10 ^ ds.length + value ds, []) := by
  induction ds generalizing significand with
  | nil => simp [extendSignificand, value]
  | cons c ds ih =>
      have hsplit : significand * 10 ^ (c :: ds).length + value (c :: ds) =
          (significand * 10 + digitValue c) * 10 ^ ds.length + value ds := by
        rw [value_cons, List.length_cons]
        ring
      have hpower : 0 < 10 ^ ds.length := Nat.pow_pos (by decide)
      rw [hsplit] at h ⊢
      have hnext : significand * 10 + digitValue c < unsignedBound :=
        lt_of_le_of_lt (Nat.le_add_right_of_le (Nat.le_mul_of_pos_right _ hpower)) h
      rw [extendSignificand, if_pos hnext, ih h]

/-- The integers that JSON keeps exactly: those of 64 bits, with a sign or without. -/
def Integral (n : Int) : Prop := -(signedBound : Int) ≤ n ∧ n < unsignedBound

theorem value?_digits {n : Int} (h : Integral n) :
    value? ⟨decide (n < 0), digits n.natAbs, [], none⟩ = some (.int n) := by
  obtain ⟨hlower, hupper⟩ := h
  have hsigned : signedBound < unsignedBound := by decide
  have habs : n.natAbs < unsignedBound := by omega
  have hall : extendSignificand 0 (digits n.natAbs) = (n.natAbs, []) := by
    rw [extendSignificand_eq]
    · rw [value_digits, Nat.zero_mul, Nat.zero_add]
    · rw [value_digits, Nat.zero_mul, Nat.zero_add]
      exact habs
  unfold value?
  simp only [hall]
  by_cases hneg : n < 0
  · have hexact : (n.natAbs == 0 || decide (signedBound < n.natAbs)) = false := by
      simp only [Bool.or_eq_false_iff, beq_eq_false_iff_ne, decide_eq_false_iff_not]
      omega
    have hn : -(n.natAbs : Int) = n := by omega
    simp only [hneg, hexact, hn, decide_true, Bool.and_false]
    rfl
  · have hn : (n.natAbs : Int) = n := by omega
    simp only [hneg, hn, decide_false, Bool.false_and]
    rfl

theorem value?_cases {n : Numeral} {v : Json} (h : n.value? = some v) :
    (∃ i, v = .int i) ∨ ∃ x, v = .float x := by
  unfold value? at h
  dsimp only at h
  split at h
  · exact Or.inl ⟨_, (Option.some.inj h).symm⟩
  · obtain ⟨x, -, hx⟩ := Option.map_eq_some_iff.mp h
    exact Or.inr ⟨_, hx.symm⟩

end Numeral

end IncidentDigest.Json
