/-!
Text in bytes.

A first byte announces how many bytes follow and in which ranges they lie; only the shortest form of a
character is accepted, and no surrogates.  Where the bytes that follow break off, the part that was
still possible counts as one fault.  So every byte string is a sequence of characters and faults
(`decode`), which is read strictly (no fault allowed) or leniently (a replacement character for each).
-/

namespace IncidentDigest.Text.Utf8

/-- The range of an ordinary byte after the first. -/
def tail : Nat × Nat := (0x80, 0xBF)

/-- What a first byte announces: its own bits and the ranges of the bytes that follow. -/
def announced? (b : Nat) : Option (Nat × List (Nat × Nat)) :=
  if b < 0x80 then some (b, [])
  else if b < 0xC2 then none
  else if b < 0xE0 then some (b - 0xC0, [tail])
  else if b = 0xE0 then some (0, [(0xA0, 0xBF), tail])
  else if b = 0xED then some (0xD, [(0x80, 0x9F), tail])
  else if b < 0xF0 then some (b - 0xE0, [tail, tail])
  else if b = 0xF0 then some (0, [(0x90, 0xBF), tail, tail])
  else if b < 0xF4 then some (b - 0xF0, [tail, tail, tail])
  else if b = 0xF4 then some (4, [(0x80, 0x8F), tail, tail])
  else none

/-- Takes the bytes that have to follow, six bits from each; `none` where one is out of its range.  The
bytes that are left over come second. -/
def follow (bits : Nat) : List (Nat × Nat) → List UInt8 → Option Nat × List UInt8
  | [], rest => (some bits, rest)
  | _ :: _, [] => (none, [])
  | (low, high) :: ranges, b :: rest =>
    if low ≤ b.toNat && b.toNat ≤ high then follow (bits * 64 + b.toNat % 64) ranges rest
    else (none, b :: rest)

theorem follow_length (bits : Nat) (ranges : List (Nat × Nat)) (bs : List UInt8) :
    (follow bits ranges bs).2.length ≤ bs.length := by
  fun_induction follow bits ranges bs with
  | case1 => simp
  | case2 => simp
  | case3 bits low high ranges b rest h ih => simp only [List.length_cons]; omega
  | case4 => simp

/-- The characters of a byte string, `none` standing for a fault. -/
def decode : List UInt8 → List (Option Char)
  | [] => []
  | b :: rest =>
    match announced? b.toNat with
    | none => none :: decode rest
    | some (bits, ranges) =>
      have := follow_length bits ranges rest
      (follow bits ranges rest).1.map Char.ofNat :: decode (follow bits ranges rest).2
termination_by bs => bs.length
decreasing_by all_goals simp only [List.length_cons]; omega

/-- The text of bytes without any fault. -/
def strict? (bs : List UInt8) : Option String := ((decode bs).mapM id).map String.ofList

def replacement : Char := '\uFFFD'

/-- The mark that may stand in front of a text. -/
def mark : Char := '\uFEFF'

def lenient (bs : List UInt8) : String :=
  match (decode bs).map fun c => c.getD replacement with
  | c :: cs => String.ofList (if c = mark then cs else c :: cs)
  | [] => ""

def encode (s : String) : List UInt8 := s.toUTF8.toList

end IncidentDigest.Text.Utf8
