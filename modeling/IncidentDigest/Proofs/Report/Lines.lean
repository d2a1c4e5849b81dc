import IncidentDigest.Report.Analysis
import Mathlib

/-!
# Lines of a digest

A line of a digest is free text with a count behind it, and perhaps a share in brackets.  The
free text may hold the same signs, so a line is taken apart from its right end: neither a count
nor a share has a blank or a bracket in it.  The lines themselves can be told from their joined
text if no text in them has a line feed.
-/

namespace IncidentDigest

/-! ## 1. Lines -/

/-- A text without line feeds. -/
def OneLine (s : String) : Prop := '\n' ∉ s.toList

instance (s : String) : Decidable (OneLine s) := inferInstanceAs (Decidable ('\n' ∉ s.toList))

theorem OneLine.append {s t : String} (hs : OneLine s) (ht : OneLine t) : OneLine (s ++ t) := by
  intro h
  rw [String.toList_append] at h
  rcases List.mem_append.mp h with h | h
  · exact hs h
  · exact ht h

/-- Lines can be told from their joined text. -/
theorem eq_of_joinWith_eq {xs ys : List String} (hxs : ∀ l ∈ xs, OneLine l) (hx : xs ≠ [])
    (hys : ∀ l ∈ ys, OneLine l) (hy : ys ≠ [])
    (h : Text.joinWith "\n" xs = Text.joinWith "\n" ys) : xs = ys := by
  have hsplit : ∀ {zs : List String}, (∀ l ∈ zs, OneLine l) → zs ≠ [] →
      (Text.joinWith "\n" zs).toList.splitOn '\n' = zs.map String.toList := by
    intro zs hzs hz
    rw [Text.joinWith, String.toList_intercalate]
    apply List.splitOn_intercalate '\n'
    · intro l hl
      obtain ⟨z, hmem, rfl⟩ := List.mem_map.mp hl
      exact hzs z hmem
    · simpa using hz
  have hlines : xs.map String.toList = ys.map String.toList := by
    rw [← hsplit hxs hx, ← hsplit hys hy, h]
  exact List.map_injective_iff.mpr (fun _ _ => String.toList_injective) hlines

/-- Two texts that are equal, up to a sign and behind it, are equal on both sides of its last
place. -/
theorem eq_of_append_cons_eq {α : Type} {sign : α} {front front' back back' : List α}
    (hback : sign ∉ back) (hback' : sign ∉ back')
    (h : front ++ sign :: back = front' ++ sign :: back') : front = front' ∧ back = back' := by
  rcases List.append_eq_append_iff.mp h with ⟨m, rfl, hm⟩ | ⟨m, rfl, hm⟩
  · cases m with
    | nil => exact ⟨(List.append_nil _).symm, (List.cons.inj hm).2⟩
    | cons c m =>
        obtain ⟨-, rfl⟩ := List.cons.inj hm
        simp at hback
  · cases m with
    | nil => exact ⟨List.append_nil _, (List.cons.inj hm).2.symm⟩
    | cons c m =>
        obtain ⟨-, rfl⟩ := List.cons.inj hm
        simp at hback'

/-! ## 2. Lines of entries -/

/-- A decimal without an exponent has digits and a point. -/
theorem Decimal.mem_positional {d : Decimal} {c : Char} (h : c ∈ d.positional false) :
    c.isDigit = true ∨ c = '.' := by
  have hzeros : ∀ {n : Nat}, c ∈ List.replicate n '0' → c.isDigit = true := by
    intro n hc
    rw [List.eq_of_mem_replicate hc]
    rfl
  have hdigits : c ∈ Numeral.digits d.digits → c.isDigit = true := Numeral.digits_isDigit _ c
  unfold positional at h
  dsimp only at h
  split at h
  · -- zeros behind the digits
    rcases List.mem_append.mp h with h | h
    · rcases List.mem_append.mp h with h | h
      · exact Or.inl (hdigits h)
      · exact Or.inl (hzeros h)
    · simp at h
  · split at h
    · -- a point among the digits
      rcases List.mem_append.mp h with h | h
      · exact Or.inl (hdigits (List.mem_of_mem_take h))
      · rcases List.mem_cons.mp h with rfl | h
        · exact Or.inr rfl
        · exact Or.inl (hdigits (List.mem_of_mem_drop h))
    · -- a point and zeros before the digits
      rcases List.mem_cons.mp h with rfl | h
      · exact Or.inl rfl
      · rcases List.mem_cons.mp h with rfl | h
        · exact Or.inr rfl
        · rcases List.mem_append.mp h with h | h
          · exact Or.inl (hzeros h)
          · exact Or.inl (hdigits h)

/-- Running text shows a number by its digits, a point and a minus sign. -/
theorem Binary64.mem_format_plain {x : Binary64} {c : Char} (h : c ∈ x.format .plain) :
    c.isDigit = true ∨ c = '.' ∨ c = '-' := by
  rcases List.mem_append.mp h with h | h
  · cases hsign : x.negative with
    | true => simp_all
    | false => simp [hsign] at h
  · exact (Decimal.mem_positional h).imp_right Or.inl

theorem Binary64.notMem_format_plain {x : Binary64} {c : Char} (hdigit : c.isDigit = false)
    (hpoint : c ≠ '.') (hminus : c ≠ '-') : c ∉ x.format .plain := by
  intro h
  rcases mem_format_plain h with h | h | h
  · rw [hdigit] at h
    cases h
  · exact hpoint h
  · exact hminus h

theorem notMem_toDigits {c : Char} (h : c.isDigit = false) (n : Nat) : c ∉ Nat.toDigits 10 n := by
  intro hmem
  rw [Nat.isDigit_of_mem_toDigits (by decide) (by decide) hmem] at h
  cases h

/-- A ranked entry without its share. -/
def RankedEntry.counted (e : RankedEntry) : NamedCount := ⟨e.value, e.count⟩

namespace AnalysisReport

theorem namedLine_eq (e : NamedCount) :
    namedLine e = "- " ++ e.name ++ ": " ++ Nat.repr e.count := rfl

theorem rankedLine_eq (e : RankedEntry) : rankedLine e =
    namedLine e.counted ++ " (" ++ String.ofList (e.percent.format .plain) ++ "%)" := rfl

theorem toList_namedLine (e : NamedCount) : (namedLine e).toList =
    ('-' :: ' ' :: (e.name.toList ++ [':'])) ++ ' ' :: Nat.toDigits 10 e.count := by
  simp [namedLine_eq]

theorem toList_rankedLine (e : RankedEntry) : (rankedLine e).toList =
    ((namedLine e.counted).toList ++ [' ']) ++ '(' :: (e.percent.format .plain ++ ['%', ')']) := by
  simp [rankedLine_eq]

/-- **A line gives its entry back.**  The count stands behind the last blank. -/
theorem namedLine_injective : Function.Injective namedLine := by
  intro e e' h
  have hchars := congrArg String.toList h
  rw [toList_namedLine, toList_namedLine] at hchars
  obtain ⟨hname, hcount⟩ := eq_of_append_cons_eq (notMem_toDigits rfl _) (notMem_toDigits rfl _)
    hchars
  have hnames : e.name.toList = e'.name.toList := by simpa using hname
  have hcounts : e.count = e'.count := by
    apply Nat.repr_injective
    rw [Nat.repr_eq_ofList_toDigits, Nat.repr_eq_ofList_toDigits, hcount]
  cases e
  cases e'
  obtain rfl := String.toList_injective hnames
  obtain rfl := hcounts
  rfl

/-- A line gives back the value and the count of a ranked entry.  The share stands behind the last
bracket. -/
theorem counted_eq_of_rankedLine {e e' : RankedEntry} (h : rankedLine e = rankedLine e') :
    e.counted = e'.counted := by
  have hshare : ∀ e : RankedEntry, '(' ∉ e.percent.format .plain ++ ['%', ')'] := by
    intro e hmem
    rcases List.mem_append.mp hmem with hmem | hmem
    · exact Binary64.notMem_format_plain rfl (by decide) (by decide) hmem
    · exact absurd hmem (by decide)
  have hchars := congrArg String.toList h
  rw [toList_rankedLine, toList_rankedLine] at hchars
  have hfront := (eq_of_append_cons_eq (hshare e) (hshare e') hchars).1
  exact namedLine_injective (String.toList_injective (List.append_cancel_right hfront))

theorem oneLine_namedLine {e : NamedCount} (h : OneLine e.name) : OneLine (namedLine e) := by
  have hcount : OneLine (Nat.repr e.count) := by
    intro hmem
    rw [Nat.toList_repr] at hmem
    exact notMem_toDigits rfl e.count hmem
  have hname : OneLine ("- " ++ e.name) := OneLine.append (by decide) h
  rw [namedLine_eq]
  exact (hname.append (by decide)).append hcount

theorem oneLine_rankedLine {e : RankedEntry} (h : OneLine e.value) : OneLine (rankedLine e) := by
  have hshare : OneLine (String.ofList (e.percent.format .plain)) := by
    intro hmem
    rw [String.toList_ofList] at hmem
    exact Binary64.notMem_format_plain rfl (by decide) (by decide) hmem
  have hcounted : OneLine (namedLine e.counted) := oneLine_namedLine h
  rw [rankedLine_eq]
  exact ((hcounted.append (by decide)).append hshare).append (by decide)

end AnalysisReport
end IncidentDigest
