import IncidentDigest.FileTree
import Mathlib

/-!
# Where paths lead

The *location* of a path is where its pieces lead from its origin, step by step, whether
or not there is anything.  It is a matter of the text alone: there are no links.  The
operations on a tree resolve a path against the nodes that are there.  They may fail, but
if they succeed then they have changed the location of the path, and nothing else.
-/

namespace IncidentDigest

/-! ## 1. Pieces of a path -/

namespace FilePath

theorem pieces_ne_nil (cs : List Char) : pieces cs ≠ [] := by
  cases cs with
  | nil => simp [pieces]
  | cons c cs =>
      rw [pieces]
      split
      · simp
      · split
        · simp
        · simp

theorem pieces_of_notMem {cs : List Char} (h : '/' ∉ cs) : pieces cs = [cs] := by
  induction cs with
  | nil => rfl
  | cons c cs ih =>
      obtain ⟨hc, hcs⟩ := not_or.mp (List.mem_cons.not.mp h)
      rw [pieces, if_neg (Ne.symm hc), ih hcs]

theorem pieces_append_slash (cs ds : List Char) :
    pieces (cs ++ '/' :: ds) = pieces cs ++ pieces ds := by
  induction cs with
  | nil => simp [pieces]
  | cons c cs ih =>
      rw [List.cons_append, pieces, pieces]
      split
      · rw [ih, List.cons_append]
      · rw [ih]
        rcases h : pieces cs with _ | ⟨p, ps⟩
        · exact absurd h (pieces_ne_nil cs)
        · rfl

end FilePath

namespace FileTree

/-! ## 2. Locations -/

/-- Where one piece leads from a location. -/
def moved (l : Location) (piece : String) : Location :=
  if piece == "" || piece == "." then l
  else if piece == ".." then l.dropLast
  else l ++ [piece]

/-- Where the pieces of a text lead from a location. -/
def walk (l : Location) (cs : List Char) : Location :=
  ((FilePath.pieces cs).map String.ofList).foldl moved l

def origin (t : FileTree) (path : String) : Location :=
  if path.toList.head? == some '/' then [] else t.workingDirectory

/-- Where a path leads. -/
def location (t : FileTree) (path : String) : Location :=
  walk (t.origin path) path.toList

theorem moved_empty (l : Location) : moved l "" = l := rfl

theorem moved_name {l : Location} {name : String} (h : name ≠ "") (h₁ : name ≠ ".")
    (h₂ : name ≠ "..") : moved l name = l ++ [name] := by
  simp [moved, h, h₁, h₂]

theorem walk_append_slash (l : Location) (cs ds : List Char) :
    walk l (cs ++ '/' :: ds) = walk (walk l cs) ds := by
  unfold walk
  rw [FilePath.pieces_append_slash, List.map_append, List.foldl_append]

theorem walk_nil (l : Location) : walk l [] = l := rfl

theorem location_congr {t u : FileTree} (h : t.workingDirectory = u.workingDirectory) :
    t.location = u.location := by
  funext path
  unfold location origin
  rw [h]

theorem origin_append_of_ne_nil (t : FileTree) {path : String} (h : path.toList ≠ [])
    (rest : String) : t.origin (path ++ rest) = t.origin path := by
  unfold origin
  rw [String.toList_append, List.head?_append_of_ne_nil _ h]

/-- A relative name in a directory leads on from where the directory leads. -/
theorem location_append (t : FileTree) (directory : String) {name : String}
    (h : name.toList.head? ≠ some '/') :
    t.location (FilePath.append directory name) = walk (t.location directory) name.toList := by
  have hrelative : t.origin name = t.workingDirectory := by simp [origin, h]
  unfold FilePath.append
  rw [if_neg (by simpa using h)]
  by_cases hempty : directory = ""
  · subst hempty
    change walk (t.origin ("" ++ name)) ("" ++ name).toList = walk t.workingDirectory name.toList
    rw [String.empty_append, hrelative]
  · have hne : directory.toList ≠ [] := by simpa using hempty
    by_cases hslash : directory.toList.getLast? = some '/'
    · -- the slash at the end of the directory separates the two
      obtain ⟨cs, hcs⟩ := List.getLast?_eq_some_iff.mp hslash
      rw [if_pos (by simp [hslash])]
      unfold location
      rw [origin_append_of_ne_nil t hne, String.toList_append, hcs, List.append_assoc,
        List.singleton_append, walk_append_slash, walk_append_slash, walk_nil]
    · rw [if_neg (by simp [hslash, hempty])]
      unfold location
      rw [String.append_assoc, origin_append_of_ne_nil t hne, String.toList_append,
        String.toList_append]
      exact walk_append_slash _ _ _

/-! ## 3. Resolving -/

def Target.location : Target → Location
  | .directory l => l
  | .entry parent name _ => parent ++ [name]

theorem moved_eq_of_step {t : FileTree} {l m : Location} {piece : String}
    (h : t.step l piece = .ok m) : moved l piece = m := by
  unfold step at h
  unfold moved
  split at h
  · rw [if_pos ‹_›]
    exact Except.ok.inj h
  · rw [if_neg ‹_›]
    split at h
    · rw [if_pos ‹_›]
      exact Except.ok.inj h
    · rw [if_neg ‹_›]
      split at h
      · cases h
      · split at h
        · exact Except.ok.inj h
        · cases h
        · cases h

theorem ok_of_bind {ε α β : Type} {x : Except ε α} {f : α → Except ε β} {v : β}
    (h : (x >>= f) = .ok v) : ∃ u, x = .ok u ∧ f u = .ok v := by
  cases x with
  | error e => cases h
  | ok u => exact ⟨u, rfl, h⟩

theorem foldl_moved_eq_of_foldlM_step {t : FileTree} {pieces : List String} {l m : Location}
    (h : pieces.foldlM t.step l = .ok m) : pieces.foldl moved l = m := by
  induction pieces generalizing l with
  | nil => exact Except.ok.inj h
  | cons piece rest ih =>
      rw [List.foldlM_cons] at h
      obtain ⟨l', hstep, hrest⟩ := ok_of_bind h
      rw [List.foldl_cons, moved_eq_of_step hstep]
      exact ih hrest

theorem foldl_moved_filter (pieces : List String) (l : Location) :
    (pieces.filter fun p => !p.isEmpty).foldl moved l = pieces.foldl moved l := by
  induction pieces generalizing l with
  | nil => rfl
  | cons piece rest ih =>
      by_cases h : piece = ""
      · subst h
        rw [List.filter_cons_of_neg (by decide), List.foldl_cons, moved_empty]
        exact ih l
      · rw [List.filter_cons_of_pos (by simpa using h), List.foldl_cons, List.foldl_cons]
        exact ih _

/-- **Resolving a path finds its location.** -/
theorem location_of_resolve {t : FileTree} {path : String} {target : Target}
    (h : t.resolve path = .ok target) : target.location = t.location path := by
  have hlocation : t.location path =
      (((FilePath.pieces path.toList).map String.ofList).filter fun p => !p.isEmpty).foldl moved
        (t.origin path) := (foldl_moved_filter _ _).symm
  have hnames : ∀ p ∈ ((FilePath.pieces path.toList).map String.ofList).filter
      fun p => !p.isEmpty, p ≠ "" := by
    intro p hp
    simpa using (List.mem_filter.mp hp).2
  unfold resolve at h
  split at h
  · cases h
  split at h
  · cases h
  split at h
  · cases h
  dsimp only at h
  generalize ((FilePath.pieces path.toList).map String.ofList).filter
    (fun p => !p.isEmpty) = steps at h hlocation hnames
  rw [hlocation]
  rcases List.eq_nil_or_concat' steps with rfl | ⟨before, name, rfl⟩
  · -- a path without steps leads to its origin
    obtain rfl : Target.directory (t.origin path) = target := Except.ok.inj h
    rfl
  · -- the way to the last name has to be there, the name need not
    rw [List.getLast?_concat, List.dropLast_concat] at h
    rw [List.foldl_concat]
    obtain ⟨parent, hparent, h⟩ := ok_of_bind h
    have hwalked : before.foldl moved (t.origin path) = parent :=
      foldl_moved_eq_of_foldlM_step hparent
    rw [hwalked]
    by_cases hpoints : name = "." ∨ name = ".."
    · rw [if_pos (by simpa using hpoints)] at h
      obtain ⟨l, hl, h⟩ := ok_of_bind h
      obtain rfl := Except.ok.inj h
      exact (moved_eq_of_step hl).symm
    · rw [if_neg (by simpa using hpoints)] at h
      obtain ⟨hpoint, htwo⟩ := not_or.mp hpoints
      split at h
      · cases h
      · obtain rfl := Except.ok.inj h
        exact (moved_name (hnames name (by simp)) hpoint htwo).symm

/-! ## 4. Changes -/

/-- A directory is made at the location of the path, where nothing was. -/
theorem makeDirectory_spec {t u : FileTree} {path : String} (h : t.makeDirectory path = .ok u) :
    u = t.set (t.location path) .directory ∧ t.node? (t.location path) = none := by
  unfold makeDirectory at h
  obtain ⟨target, hresolve, h⟩ := ok_of_bind h
  have htarget := location_of_resolve hresolve
  cases target with
  | directory l => cases h
  | entry parent name slash =>
      rw [← htarget]
      dsimp only [Target.location] at h ⊢
      split at h
      · cases h
      · exact ⟨(Except.ok.inj h).symm, ‹_›⟩

/-- A file is written at the location of the path, where no directory was. -/
theorem write_spec {t u : FileTree} {path content : String} (h : t.write path content = .ok u) :
    u = t.set (t.location path) (.file content) ∧
      t.node? (t.location path) ≠ some .directory := by
  unfold write at h
  obtain ⟨target, hresolve, h⟩ := ok_of_bind h
  have htarget := location_of_resolve hresolve
  cases target with
  | directory l => cases h
  | entry parent name slash =>
      rw [← htarget]
      dsimp only [Target.location] at h ⊢
      split at h
      · cases h
      · rename_i hnode
        split at h
        · cases h
        · exact ⟨(Except.ok.inj h).symm, fun hdirectory => hnode hdirectory⟩

/-- Some of the given locations, where nothing was, have become directories; all others
are as they were. -/
structure Grown (added : Set Location) (t u : FileTree) : Prop where
  workingDirectory : u.workingDirectory = t.workingDirectory
  node : ∀ l, u.node? l = t.node? l ∨
    l ∈ added ∧ t.node? l = none ∧ u.node? l = some .directory

theorem Grown.refl (added : Set Location) (t : FileTree) : Grown added t t where
  workingDirectory := rfl
  node _ := Or.inl rfl

theorem Grown.trans {added : Set Location} {t u v : FileTree} (h₁ : Grown added t u)
    (h₂ : Grown added u v) : Grown added t v where
  workingDirectory := h₂.workingDirectory.trans h₁.workingDirectory
  node l := by
    rcases h₂.node l with h | ⟨hl, hnone, hdirectory⟩
    · rw [h]
      exact h₁.node l
    · rcases h₁.node l with h | ⟨-, -, h⟩
      · exact Or.inr ⟨hl, h.symm.trans hnone, hdirectory⟩
      · rw [h] at hnone
        cases hnone

theorem Grown.mono {A B : Set Location} {t u : FileTree} (h : Grown A t u) (hsub : A ⊆ B) :
    Grown B t u where
  workingDirectory := h.workingDirectory
  node l := (h.node l).imp_right fun ⟨hl, hnodes⟩ => ⟨hsub hl, hnodes⟩

theorem Grown.node_of_notMem {added : Set Location} {t u : FileTree} (h : Grown added t u)
    {l : Location} (hl : l ∉ added) : u.node? l = t.node? l := by
  rcases h.node l with h | ⟨hmem, -⟩
  · exact h
  · exact absurd hmem hl

/-- No file has come or gone. -/
theorem Grown.file_iff {added : Set Location} {t u : FileTree} (h : Grown added t u) (l : Location)
    (text : String) :
    u.node? l = some (.file text) ↔ t.node? l = some (.file text) := by
  rcases h.node l with hsame | ⟨-, hnone, hdirectory⟩
  · rw [hsame]
  · simp [hnone, hdirectory]

theorem grown_of_makeDirectory {t u : FileTree} {path : String}
    (h : t.makeDirectory path = .ok u) : Grown {t.location path} t u := by
  obtain ⟨rfl, hnone⟩ := makeDirectory_spec h
  refine ⟨rfl, fun l => ?_⟩
  by_cases hl : l = t.location path
  · subst hl
    exact Or.inr ⟨rfl, hnone, node?_set_self t _ _⟩
  · exact Or.inl (node?_set_of_ne t _ hl)

def locations (t : FileTree) (paths : List String) : Set Location :=
  {l | ∃ path ∈ paths, l = t.location path}

/-- **Making directories adds directories at the locations of the given paths only**,
whether or not it succeeds. -/
theorem grown_makeAncestors (t : FileTree) (paths : List String) :
    Grown (t.locations paths) t (t.makeAncestors paths).1 := by
  induction paths generalizing t with
  | nil => exact Grown.refl _ t
  | cons path above ih =>
      have hself : ∀ {u v : FileTree}, u.workingDirectory = t.workingDirectory →
          u.makeDirectory path = .ok v → Grown (t.locations (path :: above)) u v := by
        intro u v hworking hmake
        refine (grown_of_makeDirectory hmake).mono ?_
        rintro l rfl
        exact ⟨path, List.mem_cons_self, congrFun (location_congr hworking) path⟩
      have habove : Grown (t.locations (path :: above)) t (t.makeAncestors above).1 := by
        refine (ih t).mono ?_
        rintro l ⟨up, hup, rfl⟩
        exact ⟨up, List.mem_cons_of_mem path hup, rfl⟩
      rw [makeAncestors]
      dsimp only
      by_cases hempty : path.isEmpty = true
      · rw [if_pos hempty]
        exact Grown.refl _ t
      · rw [if_neg hempty]
        cases hmake : t.makeDirectory path with
        | ok u => exact hself rfl hmake
        | error e =>
            cases e with
            | notFound =>
                -- the paths above come first, and what they have made stays
                dsimp only
                rcases hup : t.makeAncestors above with ⟨u, result⟩
                rw [hup] at habove
                cases result with
                | error e => exact habove
                | ok v =>
                    dsimp only
                    cases hagain : u.makeDirectory path with
                    | ok v => exact habove.trans (hself habove.workingDirectory hagain)
                    | error e => exact habove
            | _ => exact Grown.refl _ t

end FileTree
end IncidentDigest
